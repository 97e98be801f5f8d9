import TagSync.Proofs.Sequels
import TagSync.Proofs.Synced

/-!
# Holding a source before copying it

A pass writes to another cluster than the source's only once the source's stream is held there: it
was read while it was not being deleted, and it was managed then or has been made so since. A
stream that cannot be held ends the pass, and whatever a pass creates is held from the beginning
(`source_held_before_copying`).
-/

set_option autoImplicit false

namespace TagSync

open Api
open Plan (Exchange EachAfter)

/-! ## Created streams -/

/-- A stream that the call creates is one that this program holds. -/
def CreatesManaged : Call → Prop
  | .createStream _ created => created.metadata.isManaged = true
  | _ => True

theorem ImageStream.isManaged_copy (stream : ImageStream) :
    stream.copy.metadata.isManaged = true := by
  simp [copy, ObjectMeta.isManaged, ObjectMeta.finalizerList]

theorem provideStream_creates (cluster : String) (source : ImageStream) :
    Job.Only (fun _ call => CreatesManaged call) (provideStream cluster source) := by
  refine (Job.Only.find? trivial).bind fun existing => ?_
  cases existing with
  | none =>
      exact (Job.Only.require source.isManaged_copy).bind fun _ => Job.Only.pure _ _
  | some existing =>
      show Job.Only _ (if (existing.missingAnnotations source).isEmpty then _ else _)
      split
      · exact Job.Only.pure _ _
      · exact (Job.Only.require trivial).bind fun _ => Job.Only.pure _ _

/-- A copy creates no other stream. -/
theorem copyTo_creates (credentials : List UInt8) (source : Source) (tag cluster : String) :
    Job.Only (fun _ call => CreatesManaged call) (copyTo credentials source tag cluster) := by
  -- A namespace is no stream, so it need not be managed.
  have hnamespace : Job.Only (fun _ call => CreatesManaged call)
      (provideNamespace cluster source.stream.namespaceName) := by
    refine (Job.Only.send trivial).bind fun reply => ?_
    cases reply with
    | ok found => exact Job.Only.pure _ _
    | error cause =>
        show Job.Only _ (if cause.isNotFound then _ else _)
        split
        · exact (Job.Only.require trivial).bind fun _ => Job.Only.pure _ _
        · exact Job.Only.throw _ _
  rw [copyTo]
  split
  · exact Job.Only.throw _ _
  · refine hnamespace.bind fun _ => (provideStream_creates _ _).bind fun _ => ?_
    refine ((Job.Only.require trivial).bind fun _ => Job.Only.pure _ _).bind fun _ => ?_
    intro exchanges outcome run e he
    rw [((run_importImage run).1 e he).2]
    trivial

theorem copyToAll_creates (credentials : List UInt8) (source : Source) (tag : String)
    (clusters : List String) : Plan.Only (fun _ call => CreatesManaged call)
      (copyToAll credentials source tag clusters) := by
  induction clusters with
  | nil => exact Plan.Only.pure _ _
  | cons cluster clusters ih =>
      refine Plan.Only.bind (copyTo_creates _ _ _ _) fun outcome => ih.bind fun others => ?_
      cases outcome with
      | ok done => exact Plan.Only.pure _ _
      | error e => exact Plan.Only.pure _ _

/-- Whatever a pass creates is managed. -/
theorem syncTag_creates (fleet : Fleet) (ns name : String) :
    Job.Only (fun _ call => CreatesManaged call) (syncTag fleet ns name) := by
  -- A retirement creates nothing at all.
  have hretire : ∀ owner stream,
      Job.Only (fun _ call => CreatesManaged call) (retire fleet owner stream) := by
    intro owner stream
    refine (retire_only fleet owner stream).mono fun {_ call} h => ?_
    cases call with
    | createStream => cases h
    | getTag | getStream | setFinalizers | setAnnotations | deleteStream | getNamespace
    | createNamespace | applyPullSecret | importImages | listGroups | listResources => trivial
  rw [syncTag]
  split
  · exact Job.Only.throw _ _
  refine ((observe_only _ _ _).mono fun h => h ▸ trivial).bind fun observations => ?_
  split
  · exact Job.Only.pure _ _
  refine (Job.Only.require trivial).bind fun stream => ?_
  split
  · split
    · exact hretire _ _
    · exact Job.Only.pure _ _
  · refine ((hold_asks _ _).mono fun h => h.2 ▸ trivial).bind fun _ => ?_
    refine .lift_bind (copyToAll_creates _ _ _ _) fun errors => ?_
    exact Plan.Only.pure _ _

/-! ## Runs of a hold -/

def ImageStream.holdFailure (stream : ImageStream) (owner : String) (cause : CallError) :
    SyncError :=
  .write (.finalizers stream.namespaceName stream.name) owner cause

/-- How holding a stream may go: it is held already, or the one call for it is confirmed, refused
or never sent. -/
inductive HoldRun (owner : String) (stream : ImageStream) :
    List Exchange → Except SyncError Unit → Prop
  | managed : stream.metadata.isManaged = true → HoldRun owner stream [] (.ok ())
  | confirmed {stored : ImageStream} : stream.metadata.isManaged = false →
      stream.holdCall.Sendable →
      HoldRun owner stream [⟨owner, stream.holdCall, .ok stored⟩] (.ok ())
  | refused {cause : CallError} : stream.metadata.isManaged = false →
      stream.holdCall.Sendable →
      HoldRun owner stream [⟨owner, stream.holdCall, .error cause⟩]
        (.error (stream.holdFailure owner cause))
  | unsent {fault : CallError} : stream.metadata.isManaged = false →
      stream.holdCall.request = .error fault →
      HoldRun owner stream [] (.error (stream.holdFailure owner fault))

/-- Every hold goes like that. -/
theorem HoldRun.of_run {owner : String} {stream : ImageStream} {holding : List Exchange}
    {outcome : Except SyncError Unit} (run : (hold owner stream).Run holding outcome) :
    HoldRun owner stream holding outcome := by
  rcases run_hold run with ⟨hm, rfl, rfl⟩ | ⟨hm, reply, hsend, rfl⟩
  · exact .managed hm
  have hsend : Plan.Run (Plan.send owner stream.holdCall) holding reply := hsend
  cases hrequest : stream.holdCall.request with
  | ok request =>
      have hsendable : stream.holdCall.Sendable := ⟨request, hrequest⟩
      obtain rfl := (Plan.run_send_iff hsendable).mp hsend
      cases reply with
      | ok stored => exact .confirmed hm hsendable
      | error cause => exact .refused hm hsendable
  | error fault =>
      simp only [Plan.send, hrequest] at hsend
      obtain ⟨rfl, rfl⟩ := Plan.run_done_iff.mp hsend
      exact .unsent hm hrequest

/-! ## Holding first -/

/-- The stream was read on its cluster while it was not being deleted, and it was managed then, or
the cluster has since confirmed the managed finalizer. -/
def IsHeld (owner : String) (stream : ImageStream) (earlier : List Exchange) : Prop :=
  stream.metadata.isTerminating = false ∧ ∃ ns name before after,
    earlier = before ++ ⟨owner, .getStream ns name, .ok stream⟩ :: after ∧
    (stream.metadata.isManaged = true ∨
      ∃ stored, ⟨owner, stream.holdCall, .ok stored⟩ ∈ after)

/-- What a run that acts on a stream keeps to when it writes to other clusters. -/
structure HoldsFirst (owner : String) (stream : ImageStream) (exchanges : List Exchange)
    (outcome : Except SyncError Unit) : Prop where
  /-- Elsewhere it writes only once the stream is held, unless it deletes. -/
  held : EachAfter (fun earlier e => e.cluster ≠ owner → e.method ≠ .get → e.method ≠ .delete →
    IsHeld owner stream earlier) exchanges
  /-- If the cluster refuses the finalizer, that is the end, and nothing else was written. -/
  refused : ∀ cause, ⟨owner, stream.holdCall, .error cause⟩ ∈ exchanges →
    outcome = .error (stream.holdFailure owner cause) ∧
    ∃ earlier, exchanges = earlier ++ [⟨owner, stream.holdCall, .error cause⟩] ∧
      ∀ e ∈ earlier, e.method = .get
  /-- If the cluster cannot even be asked, that is the end, and nothing was written. -/
  unsent : stream.metadata.isTerminating = false → stream.metadata.isManaged = false →
    ∀ fault, stream.holdCall.request = .error fault →
    outcome = .error (stream.holdFailure owner fault) ∧ ∀ e ∈ exchanges, e.method = .get

theorem Retiring.cluster_eq_or {owner : String} {stream : ImageStream}
    {exchanges : List Exchange} (h : Retiring owner stream exchanges) :
    ∀ e ∈ exchanges, e.cluster = owner ∨ e.method = .delete := by
  intro e he
  rcases h.asks e he with ⟨-, hcall⟩ | ⟨hcluster, -⟩ | ⟨_, _, -, hcluster, -⟩
  · rw [Exchange.method, hcall]
    exact Or.inr rfl
  · exact Or.inl hcluster
  · exact Or.inl hcluster

theorem Retiring.call_ne_hold {owner : String} {stream other : ImageStream}
    {exchanges : List Exchange} (h : Retiring owner stream exchanges) :
    ∀ e ∈ exchanges, e.call ≠ other.holdCall := by
  intro e he hcall
  rcases h.asks e he with ⟨-, hdelete⟩ | ⟨-, hread⟩ | ⟨_, htakes⟩
  · cases hcall.symm.trans hdelete
  · cases hcall.symm.trans hread
  · exact not_leavesUnmanaged_hold hcall htakes.leavesUnmanaged

namespace Copying

variable {fleet : Fleet} {ns name : String} {parts : TagName} {source : Source}
  {reads holding copies : List Exchange} {errors : List SyncError}

theorem isHeld (h : Copying fleet ns name parts source reads holding copies errors)
    (later : List Exchange) : IsHeld source.cluster source.stream
      (reads ++ [source.streamRead ns parts] ++ (holding ++ later)) := by
  refine ⟨h.live, ns, parts.stream, reads, holding ++ later, by simp [Source.streamRead], ?_⟩
  cases HoldRun.of_run h.held with
  | managed hm => exact Or.inl hm
  | confirmed => exact Or.inr ⟨_, List.mem_append_left _ (List.mem_singleton_self _)⟩

theorem cluster_ne (h : Copying fleet ns name parts source reads holding copies errors) :
    ∀ e ∈ copies, e.cluster ≠ source.cluster := by
  intro e he
  obtain ⟨target, htarget, hbelongs⟩ := h.belongs e he
  rw [hbelongs.cluster_eq]
  exact (h.mem_targets_iff.mp htarget).2.1

end Copying

namespace Sequel

variable {fleet : Fleet} {ns name : String} {parts : TagName} {source : Source}
  {reads rest : List Exchange} {outcome : Except SyncError Unit}

/-- Whatever is written elsewhere after the reading of a stream, other than deletions, is written
once that stream is held. -/
theorem writes_held (h : Sequel fleet ns name parts source reads rest outcome) :
    EachAfter (fun later e => e.cluster ≠ source.cluster → e.method ≠ .delete →
      IsHeld source.cluster source.stream (reads ++ [source.streamRead ns parts] ++ later))
      rest := by
  cases h with
  | idle => exact .of_forall (by simp)
  | retiring _ _ hretiring =>
      refine .of_forall fun e he _ hne hdelete => ?_
      rcases hretiring.cluster_eq_or e he with heq | heq
      · exact absurd heq hne
      · exact absurd heq hdelete
  | unheld _ hhold =>
      exact .of_forall fun e he _ hne => absurd (hold_asks _ _ hhold e he).1 hne
  | copying hcopying =>
      -- The hold goes to the source's own cluster, and the copies come after it.
      refine .append (.of_forall fun e he _ hne => ?_) (.of_forall fun _ _ later _ _ => ?_)
      · exact absurd (hold_asks _ _ hcopying.held e he).1 hne
      · exact hcopying.isHeld later

/-- A hold that is refused is the one thing that follows the reading. -/
theorem eq_of_refused (h : Sequel fleet ns name parts source reads rest outcome)
    {cause : CallError} (he : ⟨source.cluster, source.stream.holdCall, .error cause⟩ ∈ rest) :
    outcome = .error (source.stream.holdFailure source.cluster cause) ∧
      rest = [⟨source.cluster, source.stream.holdCall, .error cause⟩] := by
  cases h with
  | idle => cases he
  | retiring _ _ hretiring => exact absurd rfl (hretiring.call_ne_hold _ he)
  | unheld _ hhold =>
      cases HoldRun.of_run hhold with
      | refused =>
          obtain ⟨-, -, hreply⟩ := Exchange.mk.inj (List.mem_singleton.mp he)
          obtain rfl := Except.error.inj (eq_of_heq hreply)
          exact ⟨rfl, rfl⟩
      | unsent => cases he
  | copying hcopying =>
      rcases List.mem_append.mp he with he | he
      · cases HoldRun.of_run hcopying.held with
        | managed => cases he
        | confirmed => cases List.mem_singleton.mp he
      · exact absurd rfl (hcopying.cluster_ne _ he)

/-- If a hold cannot be sent, nothing follows the reading. -/
theorem eq_of_unsent (h : Sequel fleet ns name parts source reads rest outcome)
    (hlive : source.stream.metadata.isTerminating = false)
    (hm : source.stream.metadata.isManaged = false) {fault : CallError}
    (hfault : source.stream.holdCall.request = .error fault) :
    outcome = .error (source.stream.holdFailure source.cluster fault) ∧ rest = [] := by
  -- The hold cannot be sent, so nothing comes behind it.
  have unsendable : ¬ source.stream.holdCall.Sendable := by
    rintro ⟨request, hrequest⟩
    cases hfault.symm.trans hrequest
  cases h with
  | idle hterm => cases hlive.symm.trans hterm
  | retiring hterm => cases hlive.symm.trans hterm
  | unheld _ hhold =>
      cases HoldRun.of_run hhold with
      | refused _ hsendable => exact absurd hsendable unsendable
      | unsent _ hfault' =>
          obtain rfl := Except.error.inj (hfault.symm.trans hfault')
          exact ⟨rfl, rfl⟩
  | copying hcopying =>
      cases HoldRun.of_run hcopying.held with
      | managed hmanaged => cases hm.symm.trans hmanaged
      | confirmed _ hsendable => exact absurd hsendable unsendable

/-- Whatever follows the reading of a stream holds it first. -/
theorem holdsFirst (h : Sequel fleet ns name parts source reads rest outcome)
    (found : Found fleet ns name parts source reads) :
    HoldsFirst source.cluster source.stream (reads ++ [source.streamRead ns parts] ++ rest)
      outcome where
  held := by
    refine .append (.of_forall fun e he _ _ hget => absurd (found.method_eq e he) hget) ?_
    exact h.writes_held.mono fun hheld hne _ hdelete => hheld hne hdelete
  refused := by
    intro cause he
    rcases List.mem_append.mp he with he | he
    · cases found.method_eq _ he
    · obtain ⟨houtcome, rfl⟩ := h.eq_of_refused he
      exact ⟨houtcome, _, rfl, found.method_eq⟩
  unsent := by
    intro hlive hm fault hfault
    obtain ⟨houtcome, rfl⟩ := h.eq_of_unsent hlive hm hfault
    exact ⟨houtcome, by simpa using found.method_eq⟩

end Sequel

/-- **A source is held before anything is copied from it.** A pass that writes acts on a stream, a
pass that acts on a stream holds that one first, and the streams that a pass creates are held from
the beginning. -/
theorem source_held_before_copying {fleet : Fleet} {ns name : String} {exchanges : List Exchange}
    {outcome : Except SyncError Unit} (run : (syncTag fleet ns name).Run exchanges outcome) :
    (∀ e ∈ exchanges, e.method ≠ .get → ∃ owner stream, ActsOn exchanges owner stream) ∧
    (∀ owner stream, ActsOn exchanges owner stream →
      HoldsFirst owner stream exchanges outcome) ∧
    ∀ e ∈ exchanges, CreatesManaged e.call := by
  have hpass := PassRun.of_run run
  refine ⟨fun e he hwrite => hpass.exists_actsOn he hwrite, ?_, syncTag_creates _ _ _ run⟩
  intro owner stream acts
  obtain ⟨parts, tag, reads, rest, found, hsequel, rfl⟩ := hpass.sequel acts
  exact hsequel.holdsFirst found

/-! ### A pass from a stream that is not managed yet -/

def foreignStream : ImageStream where
  metadata := {
    name := some "app"
    «namespace» := some "ci"
    resourceVersion := some "1"
    finalizers := some ["another"] }

def soleHolder : Unit → String → (call : Call) → call.Reply × Unit
  | _, "app.ci", .getTag _ _ => (.ok importedTag, ())
  | _, "app.ci", .getStream _ _ => (.ok foreignStream, ())
  | _, "app.ci", .setFinalizers _ _ _ _ => (.ok heldStream, ())
  | _, "build01", .getNamespace name => (.ok (requestedNamespace name), ())
  | _, "build01", .createStream _ stream => (.ok stream, ())
  | _, "build01", .applyPullSecret ns credentials => (.ok (pullSecret ns credentials), ())
  | _, "build01", .importImages _ _ => (.ok imageReport, ())
  | _, _, _ => (.error notThere, ())

def firstPassExchanges : List Exchange := [
  ⟨"api.ci", .getTag "ci" "app:latest", .error notThere⟩,
  ⟨"app.ci", .getTag "ci" "app:latest", .ok importedTag⟩,
  ⟨"build01", .getTag "ci" "app:latest", .error notThere⟩,
  ⟨"app.ci", .getStream "ci" "app", .ok foreignStream⟩,
  ⟨"app.ci", .setFinalizers "ci" "app" ["another", managedFinalizer] (some "1"), .ok heldStream⟩,
  ⟨"build01", .getNamespace "ci", .ok (requestedNamespace "ci")⟩,
  ⟨"build01", .getStream "ci" "app", .error notThere⟩,
  ⟨"build01", .createStream "ci" foreignStream.copy, .ok foreignStream.copy⟩,
  ⟨"build01", .applyPullSecret "ci" [], .ok (pullSecret "ci" [])⟩,
  ⟨"build01", .importImages "ci" imageImport, .ok imageReport⟩]

theorem holds_foreign_stream :
    (syncTag threeClusters "ci" "app:latest").Run firstPassExchanges (.ok ()) ∧
      ActsOn firstPassExchanges "app.ci" foreignStream ∧
      HoldsFirst "app.ci" foreignStream firstPassExchanges (.ok ()) ∧
      IsHeld "app.ci" foreignStream (firstPassExchanges.take 7) := by
  have run : (syncTag threeClusters "ci" "app:latest").Run firstPassExchanges (.ok ()) :=
    Plan.run_play soleHolder _ ()
  have acts : ActsOn firstPassExchanges "app.ci" foreignStream := ⟨⟨importedTag, rfl⟩, rfl⟩
  have holds := (source_held_before_copying run).2.1 _ _ acts
  -- The eighth exchange creates the stream on another cluster.
  have hsplit : firstPassExchanges = firstPassExchanges.take 7 ++
      ⟨"build01", .createStream "ci" foreignStream.copy, .ok foreignStream.copy⟩ ::
        firstPassExchanges.drop 8 := rfl
  exact ⟨run, acts, holds, holds.held hsplit (by decide) (by decide) (by decide)⟩

end TagSync
