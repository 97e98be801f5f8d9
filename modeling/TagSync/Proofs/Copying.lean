import TagSync.Proofs.Attempts

/-!
# Runs of a copy

A copy prepares a cluster and then asks it to import the image. `CopyRun` says how one copy may
go; `run_copyToAll_errors` says that no copy fails exactly if every cluster has reported one
image, and that one as imported.
-/

set_option autoImplicit false

namespace TagSync

open Api
open Plan (Exchange)

/-! ## Imports -/

/-- An answer reports its image as imported: there is one result, and it has an image. -/
theorem ImageStreamImport.check_eq_ok_iff {answer : ImageStreamImport} :
    answer.check = .ok () ↔
      ∃ status only, answer.status = some status ∧ status.images = [only] ∧
        only.image.isSome = true := by
  obtain ⟨metadata, spec, status⟩ := answer
  cases status with
  | none => simp [check]
  | some status =>
      obtain ⟨images⟩ := status
      match images with
      | [] => simp [check]
      | [only] => cases h : only.image <;> simp [check, h]
      | first :: second :: rest => simp [check]

/-- The exchange asks a cluster to import into that tag of that stream, and into no other. -/
def AsksImport (ns stream tag reference cluster : String) (e : Exchange) : Prop :=
  e.cluster = cluster ∧ e.call = .importImages ns (.importTo ns stream tag reference)

/-- The cluster answers an import into that tag of that stream with one image, and that one is
imported. -/
def ReportsImport (ns stream tag cluster : String) (e : Exchange) : Prop :=
  ∃ (reference : String) (answer : ImageStreamImport) (status : ImageStreamImportStatus)
      (only : ImageImportStatus),
    e = ⟨cluster, .importImages ns (.importTo ns stream tag reference), .ok answer⟩ ∧
    answer.status = some status ∧ status.images = [only] ∧ only.image.isSome = true

theorem ReportsImport.cluster_eq {ns stream tag cluster : String} {e : Exchange}
    (h : ReportsImport ns stream tag cluster e) : e.cluster = cluster := by
  obtain ⟨reference, answer, status, only, rfl, -⟩ := h
  rfl

theorem ReportsImport.call_eq {ns stream tag cluster : String} {e : Exchange}
    (h : ReportsImport ns stream tag cluster e) :
    ∃ reference, e.call = .importImages ns (.importTo ns stream tag reference) := by
  obtain ⟨reference, answer, status, only, rfl, -⟩ := h
  exact ⟨reference, rfl⟩

def importVerdict (failure : ImportFailure → SyncError) :
    Except CallError ImageStreamImport → Except SyncError Unit
  | .ok answer => answer.check.mapError fun fault => failure (.answer fault)
  | .error cause => .error (failure (.call cause))

/-- An import succeeds only with an answer that reports the image as imported. -/
theorem importVerdict_eq_ok_iff {failure : ImportFailure → SyncError}
    {reply : Except CallError ImageStreamImport} :
    importVerdict failure reply = .ok () ↔ ∃ answer, reply = .ok answer ∧ answer.check = .ok () := by
  cases reply with
  | error cause => simp [importVerdict]
  | ok answer =>
      rw [importVerdict]
      cases h : answer.check with
      | ok done => exact ⟨fun _ => ⟨answer, rfl, h⟩, fun _ => rfl⟩
      | error fault =>
          constructor
          · intro hok
            cases hok
          · rintro ⟨answer', heq, hok⟩
            obtain rfl := Except.ok.inj heq
            cases h.symm.trans hok

/-- An import sends one call and judges its answer. -/
theorem importImage_eq (cluster ns stream tag reference : String) :
    importImage cluster ns stream tag reference = (do
      let failure := SyncError.importFailed tag stream ns cluster
      let answer ← Job.require cluster
        (.importImages ns (.importTo ns stream tag reference)) fun cause => failure (.call cause)
      ExceptT.mk (pure (importVerdict failure (.ok answer)))) := by
  rw [importImage]
  congr 1
  funext answer
  rw [importVerdict]
  cases answer.check with
  | ok done => rfl
  | error fault => rfl

/-- So it goes by the reply to that call. -/
theorem run_importImage_iff {cluster ns stream tag reference : String}
    {exchanges : List Exchange} {outcome : Except SyncError Unit} :
    (importImage cluster ns stream tag reference).Run exchanges outcome ↔
      ∃ reply, Plan.Run (Plan.send cluster
          (.importImages ns (.importTo ns stream tag reference))) exchanges reply ∧
        outcome = importVerdict (.importFailed tag stream ns cluster) reply := by
  rw [importImage_eq, Job.run_bind_iff]
  constructor
  · rintro (⟨answer, first, second, hfirst, hsecond, rfl⟩ | ⟨e, h, rfl⟩)
    · obtain ⟨reply, hsend, hreply⟩ := Job.run_require_iff.mp hfirst
      obtain ⟨rfl, rfl⟩ := Plan.run_pure_iff.mp hsecond
      cases reply with
      | ok a => exact ⟨.ok a, by simpa using hsend, by rw [Except.ok.inj hreply]⟩
      | error cause => cases hreply
    · obtain ⟨reply, hsend, hreply⟩ := Job.run_require_iff.mp h
      cases reply with
      | ok a => cases hreply
      | error cause => exact ⟨.error cause, hsend, congrArg _ (Except.error.inj hreply)⟩
  · rintro ⟨reply, hsend, rfl⟩
    cases reply with
    | ok answer =>
        exact Or.inl ⟨answer, exchanges, [], Job.run_require_iff.mpr ⟨_, hsend, rfl⟩,
          Plan.run_pure_iff.mpr ⟨rfl, rfl⟩, by simp⟩
    | error cause => exact Or.inr ⟨_, Job.run_require_iff.mpr ⟨_, hsend, rfl⟩, rfl⟩

/-- An import asks for nothing else, and it succeeds exactly if it is reported. -/
theorem run_importImage {cluster ns stream tag reference : String} {exchanges : List Exchange}
    {outcome : Except SyncError Unit}
    (run : (importImage cluster ns stream tag reference).Run exchanges outcome) :
    (∀ e ∈ exchanges, AsksImport ns stream tag reference cluster e) ∧
      (outcome = .ok () ↔ ∃ e ∈ exchanges, ReportsImport ns stream tag cluster e) := by
  obtain ⟨reply, hsend, rfl⟩ := run_importImage_iff.mp run
  rw [importVerdict_eq_ok_iff]
  rcases Plan.run_send_cases hsend with rfl | ⟨rfl, fault, -, rfl⟩
  · refine ⟨by simp [AsksImport], ?_⟩
    simp only [List.mem_singleton, exists_eq_left]
    -- The only exchange reports the import exactly if its answer passes the check.
    constructor
    · rintro ⟨answer, rfl, hcheck⟩
      obtain ⟨status, only, h⟩ := ImageStreamImport.check_eq_ok_iff.mp hcheck
      exact ⟨reference, answer, status, only, rfl, h⟩
    · rintro ⟨reference', answer, status, only, heq, h⟩
      obtain ⟨-, hcall, hreply⟩ := Exchange.mk.inj heq
      obtain rfl : reference = reference' := by
        simpa [ImageStreamImport.importTo] using (Call.importImages.inj hcall).2
      exact ⟨answer, eq_of_heq hreply, ImageStreamImport.check_eq_ok_iff.mpr ⟨status, only, h⟩⟩
  · simp

/-! ## Preparations -/

namespace Api.Call

/-- Whether a call belongs to the preparation of a cluster: it is about the namespace, the stream
itself or the credentials. -/
def isPreparation : Call → Bool
  | .getNamespace _ | .createNamespace _ => true
  | .getStream _ _ | .createStream _ _ | .setAnnotations _ _ _ => true
  | .applyPullSecret _ _ => true
  | _ => false

end Api.Call

/-- The exchange is part of the preparation of a cluster. -/
def Prepares (target cluster : String) (call : Call) : Prop :=
  cluster = target ∧ call.isPreparation = true

theorem provideNamespace_asks (cluster name : String) :
    Job.Only (fun c call => c = cluster ∧ (call = .getNamespace name ∨ call = .createNamespace name))
      (provideNamespace cluster name) := by
  refine (Job.Only.send ⟨rfl, Or.inl rfl⟩).bind fun reply => ?_
  cases reply with
  | ok found => exact Job.Only.pure _ _
  | error cause =>
      show Job.Only _ (if cause.isNotFound then _ else _)
      split
      · exact (Job.Only.require ⟨rfl, Or.inr rfl⟩).bind fun _ => Job.Only.pure _ _
      · exact Job.Only.throw _ _

/-- Providing a stream looks for it and creates it or sets its annotations, and that is all. -/
theorem provideStream_asks (cluster : String) (source : ImageStream) :
    Job.Only (fun c call => c = cluster ∧ (call = .getStream source.namespaceName source.name ∨
        call = .createStream source.namespaceName source.copy ∨
        ∃ annotations, call = .setAnnotations source.namespaceName source.name annotations))
      (provideStream cluster source) := by
  refine (Job.Only.find? ⟨rfl, Or.inl rfl⟩).bind fun existing => ?_
  cases existing with
  | none => exact (Job.Only.require ⟨rfl, Or.inr (Or.inl rfl)⟩).bind fun _ => Job.Only.pure _ _
  | some existing =>
      show Job.Only _ (if (existing.missingAnnotations source).isEmpty then _ else _)
      split
      · exact Job.Only.pure _ _
      · refine (Job.Only.require ⟨rfl, ?_⟩).bind fun _ => Job.Only.pure _ _
        exact Or.inr (Or.inr ⟨_, rfl⟩)

theorem provideNamespace_only (cluster name : String) :
    Job.Only (Prepares cluster) (provideNamespace cluster name) :=
  (provideNamespace_asks cluster name).mono (by rintro _ _ ⟨rfl, rfl | rfl⟩ <;> exact ⟨rfl, rfl⟩)

theorem provideStream_only (cluster : String) (source : ImageStream) :
    Job.Only (Prepares cluster) (provideStream cluster source) :=
  (provideStream_asks cluster source).mono
    (by rintro _ _ ⟨rfl, rfl | rfl | ⟨_, rfl⟩⟩ <;> exact ⟨rfl, rfl⟩)

theorem providePullSecret_only (cluster ns : String) (credentials : List UInt8) :
    Job.Only (Prepares cluster) (providePullSecret cluster ns credentials) :=
  (Job.Only.require ⟨rfl, rfl⟩).bind fun _ => Job.Only.pure _ _

/-! ## One copy -/

/-- How a copy to one cluster may go: the source has no reference that others can use, the
preparation fails, or the cluster is prepared and asked to import. -/
inductive CopyRun (source : Source) (tag cluster : String) :
    List Exchange → Except SyncError Unit → Prop
  | unreferenced {e : SyncError} :
      source.reference tag = .error e → CopyRun source tag cluster [] (.error e)
  | unprepared {reference : String} {exchanges : List Exchange} {e : SyncError} :
      source.reference tag = .ok reference →
      (∀ x ∈ exchanges, Prepares cluster x.cluster x.call) →
      CopyRun source tag cluster exchanges (.error e)
  | asked {reference : String} {preparation asking : List Exchange}
      {outcome : Except SyncError Unit} :
      source.reference tag = .ok reference →
      (∀ x ∈ preparation, Prepares cluster x.cluster x.call) →
      (importImage cluster source.stream.namespaceName source.stream.name tag reference).Run
        asking outcome →
      CopyRun source tag cluster (preparation ++ asking) outcome

/-- A preparation comes before what is left of a copy. -/
theorem CopyRun.of_bind {source : Source} {tag cluster reference : String} {step rest : Job Unit}
    (href : source.reference tag = .ok reference) (honly : Job.Only (Prepares cluster) step)
    (hrest : ∀ {exchanges : List Exchange} {outcome : Except SyncError Unit},
      rest.Run exchanges outcome → CopyRun source tag cluster exchanges outcome)
    {exchanges : List Exchange} {outcome : Except SyncError Unit}
    (run : (do step; rest : Job Unit).Run exchanges outcome) :
    CopyRun source tag cluster exchanges outcome := by
  rcases Job.run_bind_iff.mp run with ⟨done, first, second, hfirst, hsecond, rfl⟩ | ⟨e, h, rfl⟩
  · have hprep := honly hfirst
    cases hrest hsecond with
    | unreferenced h => rw [href] at h; cases h
    | unprepared h hall =>
        exact .unprepared h (List.forall_mem_append.mpr ⟨hprep, hall⟩)
    | asked h hall hask =>
        rw [← List.append_assoc]
        exact .asked h (List.forall_mem_append.mpr ⟨hprep, hall⟩) hask
  · exact .unprepared href (honly h)

/-- Every run of a copy goes like that. -/
theorem CopyRun.of_run {credentials : List UInt8} {source : Source} {tag cluster : String}
    {exchanges : List Exchange} {outcome : Except SyncError Unit}
    (run : (copyTo credentials source tag cluster).Run exchanges outcome) :
    CopyRun source tag cluster exchanges outcome := by
  simp only [copyTo] at run
  cases href : source.reference tag with
  | error e =>
      simp only [href] at run
      obtain ⟨rfl, rfl⟩ := Job.run_throw_iff.mp run
      exact .unreferenced href
  | ok reference =>
      simp only [href] at run
      refine .of_bind href (provideNamespace_only _ _) (fun run => ?_) run
      refine .of_bind href (provideStream_only _ _) (fun run => ?_) run
      refine .of_bind href (providePullSecret_only _ _ _) (fun run => ?_) run
      exact CopyRun.asked href (List.forall_mem_nil _) run

/-- The exchange is about a copy to that cluster: it prepares the cluster, or it asks the cluster to
bring in the source's image. -/
def BelongsToCopy (source : Source) (tag cluster : String) (e : Exchange) : Prop :=
  Prepares cluster e.cluster e.call ∨
    ∃ reference, source.reference tag = .ok reference ∧
      AsksImport source.stream.namespaceName source.stream.name tag reference cluster e

theorem BelongsToCopy.cluster_eq {source : Source} {tag cluster : String} {e : Exchange}
    (h : BelongsToCopy source tag cluster e) : e.cluster = cluster := by
  rcases h with h | ⟨reference, -, h⟩
  · exact h.1
  · exact h.1

theorem BelongsToCopy.not_getTag {source : Source} {tag cluster : String} {e : Exchange}
    (h : BelongsToCopy source tag cluster e) (ns name : String) : e.call ≠ .getTag ns name := by
  intro hcall
  rcases h with ⟨-, hprep⟩ | ⟨reference, -, -, himport⟩
  · rw [hcall] at hprep
    cases hprep
  · cases himport.symm.trans hcall

theorem CopyRun.belongs {source : Source} {tag cluster : String} {exchanges : List Exchange}
    {outcome : Except SyncError Unit} (h : CopyRun source tag cluster exchanges outcome) :
    ∀ e ∈ exchanges, BelongsToCopy source tag cluster e := by
  cases h with
  | unreferenced href => simp
  | unprepared href hall => exact fun e he => Or.inl (hall e he)
  | @asked reference preparation asking outcome href hall hask =>
      intro e he
      rcases List.mem_append.mp he with he | he
      · exact Or.inl (hall e he)
      · exact Or.inr ⟨reference, href, (run_importImage hask).1 e he⟩

theorem Prepares.not_reportsImport {target ns stream tag cluster : String} {e : Exchange}
    (h : Prepares target e.cluster e.call) : ¬ ReportsImport ns stream tag cluster e := by
  intro hreport
  obtain ⟨reference, hcall⟩ := hreport.call_eq
  have hprep := h.2
  rw [hcall] at hprep
  cases hprep

/-- A copy succeeds exactly if its cluster reports the image as imported. -/
theorem CopyRun.eq_ok_iff {source : Source} {tag cluster : String} {exchanges : List Exchange}
    {outcome : Except SyncError Unit} (h : CopyRun source tag cluster exchanges outcome) :
    outcome = .ok () ↔ ∃ e ∈ exchanges,
      ReportsImport source.stream.namespaceName source.stream.name tag cluster e := by
  cases h with
  | unreferenced href => simp
  | unprepared href hall =>
      constructor
      · nofun
      · rintro ⟨e, he, hreport⟩
        exact absurd hreport (hall e he).not_reportsImport
  | @asked reference preparation asking outcome href hall hask =>
      -- The preparation reports nothing, so the report is in the exchange of the import.
      rw [(run_importImage hask).2]
      constructor
      · rintro ⟨e, he, hreport⟩
        exact ⟨e, List.mem_append_right _ he, hreport⟩
      · rintro ⟨e, he, hreport⟩
        rcases List.mem_append.mp he with he | he
        · exact absurd hreport (hall e he).not_reportsImport
        · exact ⟨e, he, hreport⟩

/-! ## All copies -/

theorem copyTo_own (credentials : List UInt8) (source : Source) (tag cluster : String) :
    Job.Only (fun c _ => c = cluster) (copyTo credentials source tag cluster) :=
  fun _ _ run e he => ((CopyRun.of_run run).belongs e he).cluster_eq

namespace Attempted

variable {credentials : List UInt8} {source : Source} {tag : String} {clusters : List String}
  {made : List Attempt}

theorem own (h : Attempted (copyTo credentials source tag) clusters made) :
    ∀ a ∈ made, ∀ e ∈ a.exchanges, e.cluster = a.item :=
  fun a ha => copyTo_own _ _ _ _ (h.run a ha)

theorem belongs (h : Attempted (copyTo credentials source tag) clusters made) :
    ∀ e ∈ exchangesOf made, ∃ cluster ∈ clusters, BelongsToCopy source tag cluster e := by
  intro e he
  obtain ⟨a, ha, hea⟩ := List.mem_flatMap.mp he
  exact ⟨a.item, h.each ▸ List.mem_map_of_mem ha, (CopyRun.of_run (h.run a ha)).belongs e hea⟩

theorem not_getTag (h : Attempted (copyTo credentials source tag) clusters made) :
    ∀ e ∈ exchangesOf made, ∀ ns name, e.call ≠ .getTag ns name := by
  intro e he
  obtain ⟨cluster, -, hbelongs⟩ := h.belongs e he
  exact hbelongs.not_getTag

/-- Without a reference no copy asks anything, and each fails alike. -/
theorem unreferenced (h : Attempted (copyTo credentials source tag) clusters made) {e : SyncError}
    (href : source.reference tag = .error e) :
    exchangesOf made = [] ∧ failuresOf made = List.replicate clusters.length e := by
  -- For want of a reference an attempt fails before it asks anything.
  have each : ∀ a ∈ made, a.exchanges = [] ∧ a.outcome = .error e := by
    intro a ha
    have hrun := h.run a ha
    simp only [copyTo, href] at hrun
    exact Job.run_throw_iff.mp hrun
  constructor
  · exact List.flatMap_eq_nil_iff.mpr fun a ha => (each a ha).1
  · rw [← h.each, List.length_map]
    clear h
    induction made with
    | nil => rfl
    | cons a made ih =>
        obtain ⟨ha, hmade⟩ := List.forall_mem_cons.mp each
        rw [failuresOf_cons, ih hmade, ha.2, List.length_cons, List.replicate_succ]
        rfl

end Attempted

/-- No copy fails exactly if every cluster reports the image as imported. -/
theorem run_copyToAll_errors {credentials : List UInt8} {source : Source} {tag : String}
    {clusters : List String} {exchanges : List Exchange} {errors : List SyncError}
    (nodup : clusters.Nodup)
    (run : Plan.Run (copyToAll credentials source tag clusters) exchanges errors) :
    errors = [] ↔ ∀ cluster ∈ clusters, ∃ e ∈ exchanges,
      ReportsImport source.stream.namespaceName source.stream.name tag cluster e := by
  obtain ⟨made, hmade, rfl, rfl⟩ := run_copyToAll_iff.mp run
  rw [failuresOf_eq_nil_iff, ← hmade.each, List.forall_mem_map]
  refine forall₂_congr fun a ha => ?_
  rw [(CopyRun.of_run (hmade.run a ha)).eq_ok_iff]
  constructor
  · rintro ⟨e, he, hreport⟩
    exact ⟨e, List.mem_flatMap.mpr ⟨a, ha, he⟩, hreport⟩
  · rintro ⟨e, he, hreport⟩
    -- The clusters differ, so only its own copy can report a cluster.
    have hmem : e ∈ (exchangesOf made).filter (·.cluster = a.item) :=
      List.mem_filter.mpr ⟨he, by simpa using hreport.cluster_eq⟩
    rw [filter_exchangesOf (hmade.each ▸ nodup) hmade.own ha] at hmem
    exact ⟨e, hmem, hreport⟩

end TagSync
