import TagSync.Proofs.Sequels
import TagSync.Proofs.Synced
import TagSync.Watch

/-!
# Which version the managed finalizer is taken off

A stream is released in the version that its cluster answers with right before
(`finalizer_taken_off_last_version`). That version carries the managed finalizer, but it need not
be the one that was seen to be deleted: a stream that was replaced in the meantime is released
although nobody deletes it (`recreated_stream_is_released`).
-/

set_option autoImplicit false

namespace TagSync

open Api
open Plan (Exchange EachAfter)

/-! ## Withdrawals -/

/-- A stream of a cluster was seen: it is the watched one, or it was read. -/
def Seen (watched : Option (String × ImageStream)) (exchanges : List Exchange) (cluster : String)
    (stream : ImageStream) : Prop :=
  watched = some (cluster, stream) ∨
    ∃ ns name, ⟨cluster, .getStream ns name, .ok stream⟩ ∈ exchanges

/-- The exchange writes to a version of a stream that was seen, that is being deleted and that
carries the managed finalizer. -/
def WritesToDoomed (watched : Option (String × ImageStream)) (earlier : List Exchange)
    (e : Exchange) : Prop :=
  ∃ stream finalizers, Seen watched earlier e.cluster stream ∧
    stream.metadata.isTerminating = true ∧ stream.metadata.isManaged = true ∧
    e.call = .setFinalizers stream.namespaceName stream.name finalizers
      stream.metadata.resourceVersion

/-- A stream of the cluster was seen that was being deleted and carried the managed finalizer; the
cluster was then asked for the stream of that name, and from the version that it answered with the
exchange takes the managed finalizer off. -/
def Withdraws (watched : Option (String × ImageStream)) (earlier : List Exchange) (e : Exchange)
    (current : ImageStream) : Prop :=
  ∃ before doomed, Seen watched before e.cluster doomed ∧
    doomed.metadata.isTerminating = true ∧ doomed.metadata.isManaged = true ∧
    earlier = before ++ [⟨e.cluster, .getStream doomed.namespaceName doomed.name, .ok current⟩] ∧
    current.metadata.isManaged = true ∧ TakesFinalizerOff e.cluster current e

theorem BelongsToCopy.not_leavesUnmanaged {source : Source} {tag cluster : String} {e : Exchange}
    (h : BelongsToCopy source tag cluster e) : ¬ LeavesUnmanaged e := by
  rintro ⟨ns, name, finalizers, version, hcall, -⟩
  rcases h with ⟨-, hprep⟩ | ⟨reference, -, -, himport⟩
  · rw [hcall] at hprep
    cases hprep
  · cases hcall.symm.trans himport

theorem TakesFinalizerOff.isManaged {owner : String} {current : ImageStream} {e : Exchange}
    (h : TakesFinalizerOff owner current e) : current.metadata.isManaged = true := by
  obtain ⟨finalizers, hwithout, -⟩ := h
  rw [withoutFinalizer?] at hwithout
  split at hwithout
  · next hm => exact hm
  · cases hwithout

namespace Withdraws

variable {watched : Option (String × ImageStream)} {earlier : List Exchange} {e : Exchange}
  {current : ImageStream}

theorem prepend (h : Withdraws watched earlier e current) (front : List Exchange) :
    Withdraws watched (front ++ earlier) e current := by
  obtain ⟨before, doomed, hseen, hterm, hm, rfl, htakes⟩ := h
  refine ⟨front ++ before, doomed, ?_, hterm, hm, (List.append_assoc _ _ _).symm, htakes⟩
  rcases hseen with hwatched | ⟨ns, name, hread⟩
  · exact Or.inl hwatched
  · exact Or.inr ⟨ns, name, List.mem_append_right _ hread⟩

theorem watching (h : Withdraws none earlier e current) : Withdraws watched earlier e current := by
  obtain ⟨before, doomed, hseen, h⟩ := h
  rcases hseen with hwatched | hread
  · cases hwatched
  · exact ⟨before, doomed, Or.inr hread, h⟩

theorem writesToDoomed (h : Withdraws watched earlier e current)
    (hterm : current.metadata.isTerminating = true) : WritesToDoomed watched earlier e := by
  obtain ⟨before, doomed, -, -, -, rfl, hm, finalizers, -, -, hcall⟩ := h
  refine ⟨current, finalizers, Or.inr ⟨doomed.namespaceName, doomed.name, ?_⟩, hterm, hm, hcall⟩
  exact List.mem_append_right _ (List.mem_singleton_self _)

end Withdraws

/-! ## Withdrawals of a retirement and of a pass -/

/-- A retirement of a stream that was seen withdraws the version that it reads. -/
theorem Retiring.withdraws {owner : String} {stream : ImageStream} {exchanges : List Exchange}
    (h : Retiring owner stream exchanges) {watched : Option (String × ImageStream)}
    {front : List Exchange} (hseen : Seen watched front owner stream)
    (hterm : stream.metadata.isTerminating = true) (hm : stream.metadata.isManaged = true) :
    EachAfter (fun earlier e => LeavesUnmanaged e →
      ∃ current, Withdraws watched (front ++ earlier) e current) exchanges := by
  obtain @⟨deletions, releasing, hdeletions, hreleasing⟩ := h
  have seen : Seen watched (front ++ deletions) owner stream := by
    rcases hseen with hwatched | ⟨ns, name, hread⟩
    · exact Or.inl hwatched
    · exact Or.inr ⟨ns, name, List.mem_append_left _ hread⟩
  refine .append (.of_forall fun e he _ hleaves => ?_) ?_
  · obtain ⟨_, _, _, _, hset, -⟩ := hleaves
    cases hset.symm.trans (hdeletions e he).2
  cases hreleasing with
  | reading hall =>
      refine .of_forall fun e he _ hleaves => ?_
      obtain ⟨_, _, _, _, hset, -⟩ := hleaves
      cases hset.symm.trans (hall e he).2
  | @writing current written htakes =>
      intro earlier e later hsplit hleaves
      -- The exchange is the second one of the release, so the reading is what came right before.
      match earlier with
      | [] =>
          obtain ⟨rfl, -⟩ := List.cons.inj hsplit
          obtain ⟨_, _, _, _, hset, -⟩ := hleaves
          cases hset
      | read :: earlier =>
          obtain ⟨rfl, hrest⟩ := List.cons.inj hsplit
          obtain ⟨rfl, rfl⟩ : earlier = [] ∧ written = e := by
            cases earlier with
            | nil => exact ⟨rfl, (List.cons.inj hrest).1⟩
            | cons x earlier => simp at hrest
          obtain rfl : written.cluster = owner := by
            obtain ⟨_, -, hcluster, -⟩ := htakes
            exact hcluster
          exact ⟨current, front ++ deletions, stream, seen, hterm, hm,
            (List.append_assoc _ _ _).symm, htakes.isManaged, htakes⟩

/-- A pass withdraws the version that it reads last of the stream that it acts on. -/
theorem PassRun.withdraws {fleet : Fleet} {ns name : String} {exchanges : List Exchange}
    {outcome : Except SyncError Unit} (h : PassRun fleet ns name exchanges outcome) :
    EachAfter (fun earlier e => LeavesUnmanaged e → ∃ current, Withdraws none earlier e current)
      exchanges := by
  -- Reads take no finalizer off.
  have reading : ∀ {es : List Exchange}, (∀ e ∈ es, e.method = .get) →
      EachAfter (fun earlier e => LeavesUnmanaged e →
        ∃ current, Withdraws none earlier e current) es := fun hes =>
    .of_forall fun e he _ hleaves => by cases (hes e he).symm.trans hleaves.method_eq
  rcases h.cases_source with ⟨hread, -⟩ | ⟨parts, source, reads, rest, found, hsequel, rfl⟩
  · exact reading hread
  rw [List.append_cons]
  refine .append (reading found.method_eq) ?_
  cases hsequel with
  | idle => exact .of_forall (by simp)
  | retiring hterm hm hretiring =>
      exact hretiring.withdraws (Or.inr ⟨ns, parts.stream, by simp [Source.streamRead]⟩) hterm hm
  | unheld hlive hhold =>
      exact .of_forall fun e he _ hleaves =>
        absurd hleaves (not_leavesUnmanaged_hold (hold_asks _ _ hhold e he).2)
  | copying hcopying =>
      refine .of_forall (List.forall_mem_append.mpr ⟨fun e he _ hleaves => ?_, ?_⟩)
      · exact absurd hleaves (not_leavesUnmanaged_hold (hold_asks _ _ hcopying.held e he).2)
      · intro e he _ hleaves
        obtain ⟨cluster, -, hbelongs⟩ := hcopying.belongs e he
        exact absurd hleaves hbelongs.not_leavesUnmanaged

/-! ## Reactions -/

theorem run_syncTags_eachAfter {fleet : Fleet} {filter : TagFilter} {ns stream : String}
    {P : List Exchange → Exchange → Prop}
    (prepend : ∀ {front earlier e}, P earlier e → P (front ++ earlier) e)
    (pass : ∀ {name exchanges outcome}, (syncTag fleet ns name).Run exchanges outcome →
      EachAfter P exchanges) {tags : List String} {exchanges : List Exchange}
    {errors : List SyncError}
    (run : Plan.Run (syncTags fleet filter ns stream tags) exchanges errors) :
    EachAfter P exchanges := by
  rw [syncTags_eq] at run
  obtain ⟨attempts, hattempted, rfl, -⟩ := run_attemptAll_iff.mp run
  exact eachAfter_exchangesOf prepend fun a ha => pass (hattempted.run a ha)

/-- **The managed finalizer is taken off the version that was read last**, in a pass and in the
reaction to a watched stream. A stream of that name and cluster was seen before to be deleted and
managed. The version read last is managed as well, and the write goes to that version; it is one
that is being deleted, as it should be, if the version read last still is. -/
theorem finalizer_taken_off_last_version (fleet : Fleet) :
    (∀ ns name exchanges outcome, (syncTag fleet ns name).Run exchanges outcome →
      EachAfter (fun earlier e => LeavesUnmanaged e →
        ∃ current, Withdraws none earlier e current ∧
          (current.metadata.isTerminating = true → WritesToDoomed none earlier e)) exchanges) ∧
    ∀ filter cluster stream exchanges outcome,
      (reactTo fleet filter cluster stream).Run exchanges outcome →
      EachAfter (fun earlier e => LeavesUnmanaged e →
        ∃ current, Withdraws (some (cluster, stream)) earlier e current ∧
          (current.metadata.isTerminating = true →
            WritesToDoomed (some (cluster, stream)) earlier e)) exchanges := by
  constructor
  · intro ns name exchanges outcome run
    refine (PassRun.of_run run).withdraws.mono fun h hleaves => ?_
    obtain ⟨current, hwithdraws⟩ := h hleaves
    exact ⟨current, hwithdraws, hwithdraws.writesToDoomed⟩
  · intro filter cluster stream exchanges outcome run
    -- The stream that is watched counts as seen, besides those that a pass reads.
    have key : EachAfter (fun earlier e => LeavesUnmanaged e →
        ∃ current, Withdraws (some (cluster, stream)) earlier e current) exchanges := by
      rw [reactTo] at run
      split at run
      · next hterm =>
        split at run
        · next hm =>
          have hseen : Seen (some (cluster, stream)) [] cluster stream := Or.inl rfl
          exact (Retiring.of_run run).withdraws hseen hterm hm
        · obtain ⟨rfl, -⟩ := Job.run_pure_iff.mp run
          exact .of_forall (by simp)
      · obtain ⟨errors, passes, last, hpasses, hlast, rfl⟩ := Job.run_lift_bind_iff.mp run
        obtain ⟨rfl, -⟩ := Plan.run_done_iff.mp hlast
        rw [List.append_nil]
        refine run_syncTags_eachAfter ?_ ?_ hpasses
        · intro front earlier e h hleaves
          obtain ⟨current, hwithdraws⟩ := h hleaves
          exact ⟨current, hwithdraws.prepend front⟩
        · intro name exchanges outcome hpass
          refine (PassRun.of_run hpass).withdraws.mono fun h hleaves => ?_
          obtain ⟨current, hwithdraws⟩ := h hleaves
          exact ⟨current, hwithdraws.watching⟩
    refine key.mono fun h hleaves => ?_
    obtain ⟨current, hwithdraws⟩ := h hleaves
    exact ⟨current, hwithdraws, hwithdraws.writesToDoomed⟩

/-! ### A stream that is replaced -/

def recreatedStream : ImageStream where
  metadata := {
    name := some "applyconfig"
    «namespace» := some "ci"
    resourceVersion := some "2"
    finalizers := some [managedFinalizer] }

/-- Servers of which one replaces a stream that is being deleted once it has been read. -/
def replacing : Bool → String → (call : Call) → call.Reply × Bool
  | replaced, "app.ci", .getTag _ _ => (.ok importedTag, replaced)
  | false, "app.ci", .getStream _ _ => (.ok doomedStream, true)
  | true, "app.ci", .getStream _ _ => (.ok recreatedStream, true)
  | replaced, "app.ci", .setFinalizers _ _ _ _ => (.ok recreatedStream, replaced)
  | replaced, "build01", .deleteStream _ _ => (.ok (), replaced)
  | replaced, _, _ => (.error notThere, replaced)

/-- The exchanges of a pass before it takes the finalizer off. -/
def replacedExchanges : List Exchange := [
  ⟨"api.ci", .getTag "ci" "applyconfig:latest", .error notThere⟩,
  ⟨"app.ci", .getTag "ci" "applyconfig:latest", .ok importedTag⟩,
  ⟨"build01", .getTag "ci" "applyconfig:latest", .error notThere⟩,
  ⟨"app.ci", .getStream "ci" "applyconfig", .ok doomedStream⟩,
  ⟨"api.ci", .deleteStream "ci" "applyconfig", .error notThere⟩,
  ⟨"build01", .deleteStream "ci" "applyconfig", .ok ()⟩,
  ⟨"app.ci", .getStream "ci" "applyconfig", .ok recreatedStream⟩]

def recreatedWithdrawal : Exchange :=
  ⟨"app.ci", .setFinalizers "ci" "applyconfig" [] (some "2"), .ok recreatedStream⟩

theorem run_replaced : (syncTag threeClusters "ci" "applyconfig:latest").Run
    (replacedExchanges ++ [recreatedWithdrawal]) (.ok ()) :=
  Plan.run_play replacing _ false

theorem leavesUnmanaged_recreatedWithdrawal : LeavesUnmanaged recreatedWithdrawal :=
  ⟨_, _, _, _, rfl, by simp⟩

/-- The exchange that releases a stream that one cluster has lost already. -/
def doomedWithdrawal : Exchange :=
  ⟨"app.ci", .setFinalizers "ci" "applyconfig" ["another"] none, .ok doomedStream⟩

theorem withdraws_recreated :
    (syncTag threeClusters "ci" "applyconfig:latest").Run
        (replacedExchanges ++ [recreatedWithdrawal]) (.ok ()) ∧
      (∃ current, Withdraws none replacedExchanges recreatedWithdrawal current) ∧
      (reactTo threeClusters default "app.ci" doomedStream).Run retirementExchanges (.ok ()) ∧
      ∃ current, Withdraws (some ("app.ci", doomedStream)) (retirementExchanges.take 3)
        doomedWithdrawal current := by
  obtain ⟨hpass, hreaction⟩ := finalizer_taken_off_last_version threeClusters
  have reaction : (reactTo threeClusters default "app.ci" doomedStream).Run
      retirementExchanges (.ok ()) := Plan.run_play halfDeleted _ ()
  obtain ⟨current, h, -⟩ :=
    hpass _ _ _ _ run_replaced rfl leavesUnmanaged_recreatedWithdrawal
  have hsplit : retirementExchanges = retirementExchanges.take 3 ++ doomedWithdrawal :: [] := rfl
  obtain ⟨current', h', -⟩ :=
    hreaction _ _ _ _ _ reaction hsplit ⟨_, _, _, _, rfl, by decide⟩
  exact ⟨run_replaced, ⟨current, h⟩, reaction, current', h'⟩

/-- The version that is written to is not being deleted, so the managed finalizer is taken off a
stream that should keep it. -/
theorem recreated_stream_is_released :
    (syncTag threeClusters "ci" "applyconfig:latest").Run
        (replacedExchanges ++ [recreatedWithdrawal]) (.ok ()) ∧
      ¬ EachAfter (fun earlier e => LeavesUnmanaged e → WritesToDoomed none earlier e)
        (replacedExchanges ++ [recreatedWithdrawal]) := by
  refine ⟨run_replaced, fun h => ?_⟩
  obtain ⟨stream, finalizers, hseen | ⟨ns, name, hread⟩, hterm, -, hcall⟩ :=
    h rfl leavesUnmanaged_recreatedWithdrawal
  · cases hseen
  · obtain ⟨-, -, -, hversion⟩ := Call.setFinalizers.inj hcall
    -- Two streams were read there, and only the new one has the version that is written to.
    have hnamed : (ns = "ci" ∧ name = "applyconfig") ∧ stream = doomedStream ∨
        (ns = "ci" ∧ name = "applyconfig") ∧ stream = recreatedStream := by
      simpa [replacedExchanges, recreatedWithdrawal] using hread
    rcases hnamed with ⟨-, rfl⟩ | ⟨-, rfl⟩
    · cases hversion
    · cases hterm

end TagSync
