import TagSync.Proofs.Passes
import TagSync.Proofs.References

/-!
# What the success of a pass means

A pass that copies succeeds exactly if every other cluster needs no copy or has reported its copy
(`pass_succeeds_iff_synced`). A cluster needs no copy if the image came from its own registry
(`CameFrom`) or if it was seen to have the image (`WasSeen`).
-/

set_option autoImplicit false

namespace TagSync

open Api
open Plan (Exchange)

/-! ## Clusters that need no copy -/

/-- The source's tag was imported from the cluster's public registry. -/
def CameFrom (source : Source) (cluster : String) : Prop :=
  ∃ hosts reference, RegistryHosts.of? cluster = some hosts ∧
    source.tag.importedFrom = some reference ∧ IsAt hosts.outer reference

/-- The cluster was seen to have the source's image, by a digest that both have. -/
def WasSeen (ns name : String) (source : Source) (exchanges : List Exchange)
    (cluster : String) : Prop :=
  ∃ own digest, ⟨cluster, .getTag ns name, .ok own⟩ ∈ exchanges ∧
    own.image.digest = some digest ∧ source.tag.image.digest = some digest

/-- A cluster needs a copy exactly if the image neither came from it nor was seen there. -/
theorem Found.isNeededOn_iff {fleet : Fleet} {ns name : String} {parts : TagName}
    {source : Source} {reads : List Exchange} (h : Found fleet ns name parts source reads)
    {cluster : String} : source.isNeededOn (observed reads) cluster = true ↔
      ¬ CameFrom source cluster ∧ ¬ WasSeen ns name source reads cluster := by
  have hcame : source.tag.comesFrom cluster = true ↔ CameFrom source cluster :=
    ImageStreamTag.comesFrom_iff
  have hseen : ((observed reads).lookup cluster).any (fun tag => tag.sameImage source.tag) = true ↔
      WasSeen ns name source reads cluster := by
    rw [Option.any_eq_true]
    simp only [h.lookup_eq_some_iff, ImageStreamTag.sameImage_iff]
    constructor
    · rintro ⟨own, hread, digest, hown, hsource⟩
      exact ⟨own, digest, hread, hown, hsource⟩
    · rintro ⟨own, digest, hread, hown, hsource⟩
      exact ⟨own, hread, digest, hown, hsource⟩
  rw [Source.isNeededOn, Bool.and_eq_true, Bool.not_eq_true', Bool.not_eq_true', ← hcame, ← hseen,
    Bool.not_eq_true, Bool.not_eq_true]

/-! ## What the rest of a pass shows -/

namespace Copying

variable {fleet : Fleet} {ns name : String} {parts : TagName} {source : Source}
  {reads holding copies : List Exchange} {errors : List SyncError}

theorem wasSeen_iff (h : Copying fleet ns name parts source reads holding copies errors)
    {cluster : String} :
    WasSeen ns name source (reads ++ source.streamRead ns parts :: (holding ++ copies)) cluster ↔
      WasSeen ns name source reads cluster := by
  constructor
  · rintro ⟨own, digest, hread, hdigests⟩
    rcases List.mem_append.mp hread with hread | hread
    · exact ⟨own, digest, hread, hdigests⟩
    · exact absurd rfl (h.later_call _ hread ns name)
  · rintro ⟨own, digest, hread, hdigests⟩
    exact ⟨own, digest, List.mem_append_left _ hread, hdigests⟩

/-- What is reported is reported by the copies. -/
theorem exists_reports_iff (h : Copying fleet ns name parts source reads holding copies errors)
    {ns' stream tag cluster : String} :
    (∃ e ∈ reads ++ source.streamRead ns parts :: (holding ++ copies),
        ReportsImport ns' stream tag cluster e) ↔
      ∃ e ∈ copies, ReportsImport ns' stream tag cluster e := by
  constructor
  · rintro ⟨e, he, hreport⟩
    -- Only the copies ask for imports.
    obtain ⟨reference, hcall⟩ := hreport.call_eq
    rcases List.mem_append.mp he with he | he
    · cases hcall.symm.trans (h.found.looks e he).call_eq
    rcases List.mem_cons.mp he with rfl | he
    · cases hcall
    rcases List.mem_append.mp he with he | he
    · obtain ⟨-, _, _, _, _, h⟩ := h.holding_call e he
      cases hcall.symm.trans h
    · exact ⟨e, he, hreport⟩
  · rintro ⟨e, he, hreport⟩
    have hmem : e ∈ source.streamRead ns parts :: (holding ++ copies) :=
      List.mem_cons_of_mem _ (List.mem_append_right _ he)
    exact ⟨e, List.mem_append_right _ hmem, hreport⟩

theorem mem_targets_iff (h : Copying fleet ns name parts source reads holding copies errors)
    {cluster : String} : cluster ∈ fleet.targets source (observed reads) ↔
      cluster ∈ fleet.names ∧ cluster ≠ source.cluster ∧
        ¬ CameFrom source cluster ∧ ¬ WasSeen ns name source reads cluster := by
  rw [Fleet.targets, List.mem_filter, Bool.and_eq_true, bne_iff_ne, h.found.isNeededOn_iff]

theorem errors_eq_nil_iff (h : Copying fleet ns name parts source reads holding copies errors) :
    errors = [] ↔ ∀ cluster ∈ fleet.targets source (observed reads), ∃ e ∈ copies,
      ReportsImport source.stream.namespaceName source.stream.name parts.tag cluster e :=
  run_copyToAll_errors (fleet.clusters.nodup_toList.filter _) h.copied

/-- A cluster that needs no copy is asked for the tag and nothing else. -/
theorem filter_eq_of_not_mem_targets
    (h : Copying fleet ns name parts source reads holding copies errors) {cluster : String}
    (hc : cluster ∈ fleet.names) (hne : cluster ≠ source.cluster)
    (hspared : cluster ∉ fleet.targets source (observed reads)) :
    ∃ reply, (reads ++ source.streamRead ns parts :: (holding ++ copies)).filter
      (·.cluster = cluster) = [⟨cluster, .getTag ns name, reply⟩] := by
  -- After the reads a spared cluster is not asked any more.
  have hlater : ∀ e ∈ source.streamRead ns parts :: (holding ++ copies), e.cluster ≠ cluster := by
    intro e he
    rcases List.mem_cons.mp he with rfl | he
    · exact hne.symm
    rcases List.mem_append.mp he with he | he
    · rw [(h.holding_call e he).1]
      exact hne.symm
    · obtain ⟨target, htarget, hbelongs⟩ := h.belongs e he
      rintro rfl
      exact hspared (hbelongs.cluster_eq ▸ htarget)
  obtain ⟨reply, hreads⟩ := h.found.filter_eq hc
  refine ⟨reply, ?_⟩
  rw [List.filter_append, hreads, List.filter_eq_nil_iff.mpr (by simpa using hlater)]
  rfl

end Copying

/-! ## Success -/

/-- **Success means synced.** A pass under way succeeds exactly if on every other cluster the
image came from there, was seen there, or was reported as imported into the tag; and a cluster
of the first two kinds is asked for the tag once and for nothing else. -/
theorem pass_succeeds_iff_synced {fleet : Fleet} {ns name : String} {source : Source}
    {exchanges : List Exchange} {outcome : Except SyncError Unit}
    (run : (syncTag fleet ns name).Run exchanges outcome) (under : UnderWay source exchanges) :
    ∃ parts, TagName.parse? name = some parts ∧
      (outcome = .ok () ↔ ∀ cluster ∈ fleet.names, cluster ≠ source.cluster →
        CameFrom source cluster ∨ WasSeen ns name source exchanges cluster ∨
          ∃ e ∈ exchanges, ReportsImport source.stream.namespaceName source.stream.name
            parts.tag cluster e) ∧
      ∀ cluster ∈ fleet.names, cluster ≠ source.cluster →
        CameFrom source cluster ∨ WasSeen ns name source exchanges cluster →
        ∃ reply, exchanges.filter (·.cluster = cluster) = [⟨cluster, .getTag ns name, reply⟩] := by
  obtain ⟨parts, reads, holding, copies, errors, h, rfl, rfl⟩ :=
    (PassRun.of_run run).copying_of_underWay under
  refine ⟨parts, h.found.named, ?_, ?_⟩
  · rw [SyncError.collect_eq_ok_iff, h.errors_eq_nil_iff]
    simp only [h.wasSeen_iff, h.exists_reports_iff, h.mem_targets_iff]
    constructor
    · intro hall cluster hc hne
      by_cases hcame : CameFrom source cluster
      · exact Or.inl hcame
      by_cases hseen : WasSeen ns name source reads cluster
      · exact Or.inr (Or.inl hseen)
      exact Or.inr (Or.inr (hall cluster ⟨hc, hne, hcame, hseen⟩))
    · rintro hall cluster ⟨hc, hne, hcame, hseen⟩
      rcases hall cluster hc hne with h | h | h
      · exact absurd h hcame
      · exact absurd h hseen
      · exact h
  · intro cluster hc hne hspared
    rw [h.wasSeen_iff] at hspared
    refine h.filter_eq_of_not_mem_targets hc hne fun htarget => ?_
    obtain ⟨-, -, hcame, hseen⟩ := h.mem_targets_iff.mp htarget
    rcases hspared with h | h
    · exact hcame h
    · exact hseen h

/-! ### A pass -/

def fourClusters : Fleet where
  clusters := .ofList ["api.ci", "app.ci", "build01", "build02"]
  credentials := []

/-- A tag that was imported from the registry of `api.ci`. -/
def importedTag : ImageStreamTag where
  tag := some {
    name := "latest"
    «from» := some {
      kind := some dockerImageKind
      name := some "registry.svc.ci.openshift.org/ci/app:latest" } }
  image := {
    metadata := { name := some "sha256:1", creationTimestamp := some (.ofEpoch 60 0) }
    dockerImageReference := some "image-registry.openshift-image-registry.svc:5000/ci/app" }

def heldStream : ImageStream where
  metadata := {
    name := some "app"
    «namespace» := some "ci"
    finalizers := some [managedFinalizer] }

/-- The image of `importedTag` without a time. -/
def timelessTag : ImageStreamTag where
  image := { metadata := { name := some "sha256:1" } }

def olderTag : ImageStreamTag where
  image := { metadata := { name := some "sha256:0", creationTimestamp := some (.ofEpoch 0 0) } }

/-- The import of the image of `importedTag`. -/
def imageImport : ImageStreamImport :=
  .importTo "ci" "app" "latest" "registry.ci.openshift.org/ci/app"

def imageReport : ImageStreamImport :=
  { imageImport with status := some { images := [{ image := some {} }] } }

/-- Servers of which two have the image and one has an older one. -/
def twoHolders : Unit → String → (call : Call) → call.Reply × Unit
  | _, "app.ci", .getTag _ _ => (.ok importedTag, ())
  | _, "build01", .getTag _ _ => (.ok timelessTag, ())
  | _, "build02", .getTag _ _ => (.ok olderTag, ())
  | _, "app.ci", .getStream _ _ => (.ok heldStream, ())
  | _, "build02", .getNamespace name => (.ok (requestedNamespace name), ())
  | _, "build02", .createStream _ stream => (.ok stream, ())
  | _, "build02", .applyPullSecret ns credentials => (.ok (pullSecret ns credentials), ())
  | _, "build02", .importImages _ _ => (.ok imageReport, ())
  | _, _, _ => (.error notThere, ())

/-- The exchanges of a pass that needs a copy on one cluster only. -/
def onePassExchanges : List Exchange := [
  ⟨"api.ci", .getTag "ci" "app:latest", .error notThere⟩,
  ⟨"app.ci", .getTag "ci" "app:latest", .ok importedTag⟩,
  ⟨"build01", .getTag "ci" "app:latest", .ok timelessTag⟩,
  ⟨"build02", .getTag "ci" "app:latest", .ok olderTag⟩,
  ⟨"app.ci", .getStream "ci" "app", .ok heldStream⟩,
  ⟨"build02", .getNamespace "ci", .ok (requestedNamespace "ci")⟩,
  ⟨"build02", .getStream "ci" "app", .error notThere⟩,
  ⟨"build02", .createStream "ci" heldStream.copy, .ok heldStream.copy⟩,
  ⟨"build02", .applyPullSecret "ci" [], .ok (pullSecret "ci" [])⟩,
  ⟨"build02", .importImages "ci" imageImport, .ok imageReport⟩]

theorem run_onePass : (syncTag fourClusters "ci" "app:latest").Run onePassExchanges (.ok ()) :=
  Plan.run_play twoHolders _ ()

theorem pass_succeeds_one_copy :
    (syncTag fourClusters "ci" "app:latest").Run onePassExchanges (.ok ()) ∧
      UnderWay ⟨"app.ci", importedTag, heldStream⟩ onePassExchanges ∧
      ∀ cluster ∈ fourClusters.names, cluster ≠ "app.ci" →
        CameFrom ⟨"app.ci", importedTag, heldStream⟩ cluster ∨
        WasSeen "ci" "app:latest" ⟨"app.ci", importedTag, heldStream⟩ onePassExchanges cluster ∨
        ∃ e ∈ onePassExchanges, ReportsImport "ci" "app" "latest" cluster e := by
  have under : UnderWay ⟨"app.ci", importedTag, heldStream⟩ onePassExchanges :=
    ⟨rfl, rfl, rfl, Or.inl rfl⟩
  obtain ⟨parts, hparts, hsynced, -⟩ := pass_succeeds_iff_synced run_onePass under
  obtain rfl : parts = ⟨"app", "latest"⟩ := Option.some.inj (hparts.symm.trans rfl)
  exact ⟨run_onePass, under, hsynced.mp rfl⟩

end TagSync
