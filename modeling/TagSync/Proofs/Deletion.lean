import TagSync.Pass
import TagSync.Proofs.Requests

/-!
# Deleting before releasing

A stream that is being deleted is retired: it is deleted on every other cluster, one after the
other, and only then released on its own cluster. `run_deleteOn` and `run_release` say which
exchanges the two parts have; `retire_deletes_before_release` puts them together.
-/

set_option autoImplicit false

namespace TagSync

open Api
open Plan (Exchange)

/-! ## Deletions -/

/-- The exchange deletes a stream, or finds that it is not there. -/
def SettlesDeletion (ns name : String) (e : Exchange) : Prop :=
  ∃ (cluster : String) (reply : Except CallError Unit),
    e = ⟨cluster, .deleteStream ns name, reply⟩ ∧
      ∀ cause, reply = .error cause → cause.isNotFound = true

/-- The exchange is a deletion that fails for another reason than that the stream is not there. -/
def FailsDeletion (ns name cluster : String) (cause : CallError) (e : Exchange) : Prop :=
  e = ⟨cluster, .deleteStream ns name, .error cause⟩ ∧ cause.isNotFound = false

/-- How deletions on clusters in order may go: through all of them, or up to the first failure. -/
inductive Deletions (ns name : String) (clusters : List String) :
    List Exchange → Except SyncError Unit → Prop
  | complete {exchanges : List Exchange} :
      exchanges.map (·.cluster) = clusters → (∀ e ∈ exchanges, SettlesDeletion ns name e) →
      Deletions ns name clusters exchanges (.ok ())
  | broken {settled : List Exchange} {last : Exchange} {cluster : String} {cause : CallError}
      {left : List String} :
      clusters = settled.map (·.cluster) ++ cluster :: left →
      (∀ e ∈ settled, SettlesDeletion ns name e) →
      FailsDeletion ns name cluster cause last →
      Deletions ns name clusters (settled ++ [last])
        (.error (.write (.deletion ns name) cluster cause))

theorem Deletions.cons {ns name : String} {clusters : List String} {exchanges : List Exchange}
    {outcome : Except SyncError Unit} {e : Exchange} (here : SettlesDeletion ns name e)
    (h : Deletions ns name clusters exchanges outcome) :
    Deletions ns name (e.cluster :: clusters) (e :: exchanges) outcome := by
  cases h with
  | complete hmap hall => exact .complete (by simp [hmap]) (List.forall_mem_cons.mpr ⟨here, hall⟩)
  | @broken settled last cluster cause left hsplit hall hlast =>
      have hsplit' : e.cluster :: clusters = (e :: settled).map (·.cluster) ++ cluster :: left := by
        rw [hsplit]
        rfl
      exact .broken hsplit' (List.forall_mem_cons.mpr ⟨here, hall⟩) hlast

/-- Deletions go from cluster to cluster up to the first failure. -/
theorem run_deleteOn {ns name : String} (hns : IsObjectName ns) (hname : IsObjectName name)
    {clusters : List String} {exchanges : List Exchange} {outcome : Except SyncError Unit}
    (run : (deleteOn ns name clusters).Run exchanges outcome) :
    Deletions ns name clusters exchanges outcome := by
  induction clusters generalizing exchanges with
  | nil =>
      obtain ⟨rfl, rfl⟩ := Job.run_pure_iff.mp run
      exact .complete rfl (by simp)
  | cons cluster clusters ih =>
      obtain ⟨reply, first, second, hsend, hrest, rfl⟩ := Job.run_send_bind_iff.mp run
      obtain rfl := (Plan.run_send_iff (Call.Concerns.deleteStream.sendable hns hname)).mp hsend
      cases reply with
      | ok result => exact .cons ⟨cluster, _, rfl, by simp⟩ (ih hrest)
      | error cause =>
          -- A stream that is already gone counts as deleted; any other failure ends the deletions.
          cases hc : cause.isNotFound with
          | true =>
              simp only [hc, if_true] at hrest
              exact .cons ⟨cluster, _, rfl, by simp [hc]⟩ (ih hrest)
          | false =>
              simp only [hc] at hrest
              obtain ⟨rfl, rfl⟩ := Job.run_throw_iff.mp hrest
              have hsplit : cluster :: clusters =
                  ([] : List Exchange).map (·.cluster) ++ cluster :: clusters := rfl
              exact .broken hsplit (by simp) ⟨rfl, hc⟩

/-! ## Releases -/

/-- The exchange takes the managed finalizer off the version of a stream that was read. -/
def TakesFinalizerOff (owner : String) (current : ImageStream) (e : Exchange) : Prop :=
  ∃ finalizers,
    withoutFinalizer? current.metadata.finalizerList managedFinalizer = some finalizers ∧
    e.cluster = owner ∧
    e.call = .setFinalizers current.namespaceName current.name finalizers
      current.metadata.resourceVersion

theorem run_writeFinalizers {cluster : String} {stream : ImageStream} {finalizers : List String}
    {exchanges : List Exchange} {outcome : Except SyncError Unit}
    (run : (writeFinalizers cluster stream finalizers).Run exchanges outcome) :
    exchanges.length ≤ 1 ∧ ∀ e ∈ exchanges, e.cluster = cluster ∧
      e.call = .setFinalizers stream.namespaceName stream.name finalizers
        stream.metadata.resourceVersion := by
  obtain ⟨reply, hsend, -⟩ := Job.run_require_done_iff.mp run
  rcases Plan.run_send_cases hsend with rfl | ⟨rfl, -⟩
  · simp
  · simp

/-- A release reads the stream and writes at most once, to the version it has read. -/
theorem run_release {owner : String} {stream : ImageStream}
    (hns : IsObjectName stream.namespaceName) (hname : IsObjectName stream.name)
    {exchanges : List Exchange} {outcome : Except SyncError Unit}
    (run : (release owner stream).Run exchanges outcome) :
    ∃ (reply : Except CallError ImageStream) (writes : List Exchange),
      exchanges = ⟨owner, .getStream stream.namespaceName stream.name, reply⟩ :: writes ∧
      writes.length ≤ 1 ∧
      ∀ e ∈ writes, ∃ current, reply = .ok current ∧ TakesFinalizerOff owner current e := by
  have hsendable := Call.Concerns.getStream.sendable hns hname
  have single : ∀ {es : List Exchange} {reply : Except CallError ImageStream},
      Plan.Run (Plan.send owner (.getStream stream.namespaceName stream.name)) es reply →
      es = [⟨owner, .getStream stream.namespaceName stream.name, reply⟩] := fun h =>
    (Plan.run_send_iff hsendable).mp h
  rcases Job.run_bind_iff.mp run with ⟨result, first, second, hfirst, hsecond, rfl⟩ | ⟨e, h, rfl⟩
  · obtain ⟨reply, hsend, hreply⟩ := Job.run_find?_iff.mp hfirst
    obtain rfl := single hsend
    refine ⟨reply, second, rfl, ?_⟩
    cases result with
    | none =>
        obtain ⟨rfl, -⟩ := Job.run_pure_iff.mp hsecond
        simp
    | some current =>
        -- Only a stream that was found is written to.
        have hok : reply = .ok current := by
          cases reply with
          | ok s => simpa [Job.found] using hreply.symm
          | error cause => simp only [Job.found] at hreply; split at hreply <;> simp at hreply
        dsimp only at hsecond
        split at hsecond
        · obtain ⟨rfl, -⟩ := Job.run_pure_iff.mp hsecond
          simp
        · next finalizers hf =>
          obtain ⟨hlen, hall⟩ := run_writeFinalizers hsecond
          exact ⟨hlen, fun e he => ⟨current, hok, finalizers, hf, hall e he⟩⟩
  · obtain ⟨reply, hsend, -⟩ := Job.run_find?_iff.mp h
    obtain rfl := single hsend
    exact ⟨reply, [], rfl, by simp, by simp⟩

/-! ## Retirements -/

/-- How a stream is retired: it is deleted on the other clusters, each in turn. A deletion that
fails is the end (`stopped`); once all are settled, the owner is asked for the stream and written
to at most once (`released`). -/
inductive Retirement (fleet : Fleet) (owner : String) (stream : ImageStream) :
    List Exchange → Except SyncError Unit → Prop
  | stopped {settled : List Exchange} {last : Exchange} {cluster : String} {cause : CallError}
      {left : List String} :
      fleet.names.filter (· != owner) = settled.map (·.cluster) ++ cluster :: left →
      (∀ e ∈ settled, SettlesDeletion stream.namespaceName stream.name e) →
      FailsDeletion stream.namespaceName stream.name cluster cause last →
      Retirement fleet owner stream (settled ++ [last])
        (.error (.write (.deletion stream.namespaceName stream.name) cluster cause))
  | released {settled writes : List Exchange} {reply : Except CallError ImageStream}
      {outcome : Except SyncError Unit} :
      fleet.names.filter (· != owner) = settled.map (·.cluster) →
      (∀ e ∈ settled, SettlesDeletion stream.namespaceName stream.name e) →
      writes.length ≤ 1 →
      (∀ e ∈ writes, ∃ current, reply = .ok current ∧ TakesFinalizerOff owner current e) →
      Retirement fleet owner stream
        (settled ++ ⟨owner, .getStream stream.namespaceName stream.name, reply⟩ :: writes) outcome

def Api.Call.isRetirement : Call → Bool
  | .deleteStream _ _ | .getStream _ _ | .setFinalizers _ _ _ _ => true
  | _ => false

/-- Deletions ask for nothing else. -/
theorem deleteOn_only (ns name : String) (clusters : List String) :
    Job.Only (fun _ call => call.isRetirement = true) (deleteOn ns name clusters) := by
  induction clusters with
  | nil => exact Job.Only.pure _ _
  | cons cluster clusters ih =>
      refine (Job.Only.send rfl).bind fun reply => ?_
      cases reply with
      | ok result => exact ih
      | error cause =>
          show Job.Only _ (if cause.isNotFound then _ else _)
          split
          · exact ih
          · exact Job.Only.throw _ _

/-- Nor does a retirement. -/
theorem retire_only (fleet : Fleet) (owner : String) (stream : ImageStream) :
    Job.Only (fun _ call => call.isRetirement = true) (retire fleet owner stream) := by
  refine (deleteOn_only _ _ _).bind fun done => ?_
  split
  · refine (Job.Only.find? rfl).bind fun current => ?_
    cases current with
    | none => exact Job.Only.pure _ _
    | some current =>
        dsimp only
        split
        · exact Job.Only.pure _ _
        · exact (Job.Only.require rfl).bind fun _ => Job.Only.pure _ _
  · exact Job.Only.pure _ _

/-- Every run of a retirement goes like that. -/
theorem Retirement.of_run {fleet : Fleet} {owner : String} {stream : ImageStream}
    {exchanges : List Exchange} {outcome : Except SyncError Unit} (owned : owner ∈ fleet.names)
    (hns : IsObjectName stream.namespaceName) (hname : IsObjectName stream.name)
    (run : (retire fleet owner stream).Run exchanges outcome) :
    Retirement fleet owner stream exchanges outcome := by
  have hcontains : fleet.clusters.contains owner = true := NameSet.contains_iff_mem.mpr owned
  rcases Job.run_bind_iff.mp run with ⟨done, first, second, hfirst, hsecond, rfl⟩ | ⟨e, h, rfl⟩
  · rw [if_pos hcontains] at hsecond
    obtain ⟨reply, writes, rfl, hlen, hall⟩ := run_release hns hname hsecond
    cases run_deleteOn hns hname hfirst with
    | complete hmap hsettled => exact .released hmap.symm hsettled hlen hall
  · cases run_deleteOn hns hname h with
    | broken hsplit hsettled hlast => exact .stopped hsplit hsettled hlast

/-- **Deleted everywhere else before it is released.** A retirement deletes the stream on the
other clusters in name order, each at most once, and stops at the first failure that is no "not
found"; only when there is none is the owner asked anything, and it is never sent a deletion. -/
theorem retire_deletes_before_release {fleet : Fleet} {owner : String} {stream : ImageStream}
    {exchanges : List Exchange} {outcome : Except SyncError Unit} (owned : owner ∈ fleet.names)
    (hns : IsObjectName stream.namespaceName) (hname : IsObjectName stream.name)
    (run : (retire fleet owner stream).Run exchanges outcome) :
    Retirement fleet owner stream exchanges outcome ∧
      (fleet.names.filter (· != owner)).Pairwise (· < ·) ∧
      ∀ e ∈ exchanges, e.cluster = owner → ∀ ns name, e.call ≠ .deleteStream ns name := by
  have hretired := Retirement.of_run owned hns hname run
  refine ⟨hretired, fleet.clusters.pairwise_toList.filter _, ?_⟩
  -- An exchange that stands for one of the other clusters is not the owner's.
  have other : ∀ (settled : List Exchange) (left : List String),
      fleet.names.filter (· != owner) = settled.map (·.cluster) ++ left →
      ∀ e ∈ settled, e.cluster ≠ owner := by
    intro settled left hsplit e he
    have hmem : e.cluster ∈ fleet.names.filter (· != owner) := by
      rw [hsplit]
      exact List.mem_append_left _ (List.mem_map_of_mem he)
    simpa using (List.mem_filter.mp hmem).2
  intro e he howner ns name
  cases hretired with
  | @stopped settled last cluster cause left hsplit hsettled hlast =>
      have hsplit' : fleet.names.filter (· != owner) =
          (settled ++ [last]).map (·.cluster) ++ left := by
        rw [hsplit, hlast.1]
        simp
      exact absurd howner (other _ _ hsplit' e he)
  | released hsplit hsettled hlen hall =>
      rcases List.mem_append.mp he with he | he
      · exact absurd howner (other _ [] (by simpa using hsplit) e he)
      · rcases List.mem_cons.mp he with rfl | he
        · nofun
        · obtain ⟨current, -, finalizers, -, -, hcall⟩ := hall e he
          rw [hcall]
          nofun

/-! ### A retirement -/

def threeClusters : Fleet where
  clusters := .ofList ["api.ci", "app.ci", "build01"]
  credentials := []

def doomedStream : ImageStream where
  metadata := {
    name := some "applyconfig"
    «namespace» := some "ci"
    deletionTimestamp := some (.ofEpoch 0 0)
    finalizers := some [managedFinalizer, "another"] }

def halfDeleted : Unit → String → (call : Call) → call.Reply × Unit
  | _, "api.ci", .deleteStream _ _ => (.error notThere, ())
  | _, "build01", .deleteStream _ _ => (.ok (), ())
  | _, "app.ci", .getStream _ _ => (.ok doomedStream, ())
  | _, "app.ci", .setFinalizers _ _ _ _ => (.ok doomedStream, ())
  | _, _, _ => (.error (.connection ""), ())

def retirementExchanges : List Exchange := [
  ⟨"api.ci", .deleteStream "ci" "applyconfig", .error notThere⟩,
  ⟨"build01", .deleteStream "ci" "applyconfig", .ok ()⟩,
  ⟨"app.ci", .getStream "ci" "applyconfig", .ok doomedStream⟩,
  ⟨"app.ci", .setFinalizers "ci" "applyconfig" ["another"] none, .ok doomedStream⟩]

theorem retire_half_deleted :
    (retire threeClusters "app.ci" doomedStream).Run retirementExchanges (.ok ()) ∧
      Retirement threeClusters "app.ci" doomedStream retirementExchanges (.ok ()) := by
  have run : (retire threeClusters "app.ci" doomedStream).Run retirementExchanges (.ok ()) :=
    Plan.run_play halfDeleted _ ()
  exact ⟨run, (retire_deletes_before_release (by decide) (by decide) (by decide) run).1⟩

end TagSync
