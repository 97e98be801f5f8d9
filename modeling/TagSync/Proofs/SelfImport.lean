import TagSync.Proofs.Justified

/-!
# Importing from a cluster's own registry

A pass spares the clusters that the source's tag came from, going by where the tag was imported
from. The reference that it hands on comes from the image instead, so a cluster is told to import
from its own public registry exactly if the image's own reference is already there
(`asksForOwnImage_iff`), and that can happen (`own_image_is_asked_for`).
-/

set_option autoImplicit false

namespace TagSync

open Api
open Plan (Exchange)

/-! ## Hosts of references -/

/-- The host of a reference: what stands before the first slash. -/
def registryHost (reference : String) : String :=
  String.ofList (reference.toList.takeWhile (· != '/'))

theorem IsAt.registryHost_eq {host reference : String} (h : IsAt host reference)
    (hhost : '/' ∉ host.toList) : registryHost reference = host := by
  obtain ⟨path, hpath⟩ := isAt_iff.mp h
  rw [registryHost, hpath, (TagName.takeWhile_dropWhile_glued hhost path).1, String.ofList_toList]

namespace RegistryHosts

/-- Neither host of a known cluster is the outer host of another one. -/
theorem ne_outer_of_ne {cluster other : String} {hosts hosts' : RegistryHosts}
    (h : of? cluster = some hosts) (h' : of? other = some hosts') (hne : cluster ≠ other) :
    hosts.inner ≠ hosts'.outer ∧ hosts.outer ≠ hosts'.outer := by
  -- The known clusters are few enough to go through all pairs of them.
  have hall : ∀ e ∈ known, ∀ e' ∈ known, e.1 ≠ e'.1 →
      e.2.inner ≠ e'.2.outer ∧ e.2.outer ≠ e'.2.outer := by decide
  have mem : ∀ {name : String} {hosts : RegistryHosts}, of? name = some hosts →
      (name, hosts) ∈ known := by
    intro name hosts hname
    obtain ⟨front, back, hsplit, -⟩ := List.lookup_eq_some_iff.mp hname
    rw [hsplit]
    simp
  exact hall _ (mem h) _ (mem h') hne

/-- The public form of a reference is at the outer host of another cluster exactly if the
reference is. -/
theorem registryHost_publicReference_iff {cluster other : String} {hosts hosts' : RegistryHosts}
    (h : of? cluster = some hosts) (h' : of? other = some hosts') (hne : cluster ≠ other)
    (reference : String) : registryHost (hosts.publicReference reference) = hosts'.outer ↔
      registryHost reference = hosts'.outer := by
  obtain ⟨hinner, houter, -⟩ := names_of_known h
  obtain ⟨hinnerNe, houterNe⟩ := ne_outer_of_ne h h' hne
  cases hpath : path? hosts.inner reference with
  | none => simp [publicReference, hpath]
  | some path =>
      have hfrom : IsAt hosts.inner reference :=
        isAt_iff.mpr ⟨path, path?_eq_some_iff.mp hpath⟩
      have hto : IsAt hosts.outer (hosts.publicReference reference) :=
        isAt_iff.mpr ⟨path, by simp [publicReference, hpath]⟩
      rw [hfrom.registryHost_eq hinner, hto.registryHost_eq houter]
      exact ⟨fun heq => absurd heq houterNe, fun heq => absurd heq hinnerNe⟩

end RegistryHosts

/-! ## Imports -/

/-- An import asks for an image at the outer host of a registry. -/
def AsksForOwnImage (hosts : RegistryHosts) (request : ImageStreamImport) : Prop :=
  ∃ image ∈ request.spec.images, ∃ reference,
    image.from.name = some reference ∧ registryHost reference = hosts.outer

theorem asksForOwnImage_importTo {hosts : RegistryHosts} {ns stream tag reference : String} :
    AsksForOwnImage hosts (.importTo ns stream tag reference) ↔
      registryHost reference = hosts.outer := by
  simp [AsksForOwnImage, ImageStreamImport.importTo]

/-- **When a cluster is told to import its own image.** An import to a known cluster asks for an
image of that cluster's own registry exactly if the newest image itself is referred to there; and
there is no such import at all if the tag of that image was imported from there. -/
theorem asksForOwnImage_iff {fleet : Fleet} {ns name : String} {exchanges : List Exchange}
    {outcome : Except SyncError Unit} (run : (syncTag fleet ns name).Run exchanges outcome)
    {target ns' : String} {request : ImageStreamImport}
    {reply : Except CallError ImageStreamImport}
    (asked : ⟨target, .importImages ns' request, reply⟩ ∈ exchanges) {hosts : RegistryHosts}
    (known : RegistryHosts.of? target = some hosts) :
    ∃ source tag own, newest? (observed exchanges) = some (source, tag) ∧
      tag.image.dockerImageReference = some own ∧
      (AsksForOwnImage hosts request ↔ registryHost own = hosts.outer) ∧
      ∀ origin, tag.importedFrom = some origin → ¬ IsAt hosts.outer origin := by
  obtain ⟨parts, source, reads, holding, copies, errors, reference, h, rfl, htarget, href, rfl⟩ :=
    (PassRun.of_run run).copying_of_import asked rfl
  obtain ⟨hosts', own, hhosts', hown, rfl⟩ := Source.reference_eq_ok_iff.mp href
  obtain ⟨-, hne, hcame, -⟩ := h.mem_targets_iff.mp htarget
  refine ⟨source.cluster, source.tag, own, h.underWay.newest, hown, ?_, ?_⟩
  · rw [asksForOwnImage_importTo]
    exact RegistryHosts.registryHost_publicReference_iff hhosts' known hne.symm own
  · exact fun origin horigin hat => hcame ⟨hosts, origin, known, horigin, hat⟩

/-! ### Two passes -/

def twoClusters : Fleet where
  clusters := .ofList ["api.ci", "app.ci"]
  credentials := []

/-- A tag that is not imported, for an image that its own cluster's registry keeps. -/
def localTag : ImageStreamTag where
  image := {
    metadata := { name := some "sha256:1" }
    dockerImageReference := some "image-registry.openshift-image-registry.svc:5000/ci/app" }

/-- A tag for an image of another stream, which the registry of `api.ci` keeps. -/
def derivedTag : ImageStreamTag where
  tag := some {
    name := "latest"
    «from» := some {
      kind := some "ImageStreamImage"
      name := some "4.7@sha256:1" } }
  image := {
    metadata := { name := some "sha256:1" }
    dockerImageReference := some "registry.svc.ci.openshift.org/ocp/4.7@sha256:1" }

def onAppCi (tag : ImageStreamTag) : Unit → String → (call : Call) → call.Reply × Unit
  | _, "app.ci", .getTag _ _ => (.ok tag, ())
  | _, "app.ci", .getStream _ _ => (.ok heldStream, ())
  | _, "api.ci", .getNamespace name => (.ok (requestedNamespace name), ())
  | _, "api.ci", .createStream _ stream => (.ok stream, ())
  | _, "api.ci", .applyPullSecret ns credentials => (.ok (pullSecret ns credentials), ())
  | _, "api.ci", .importImages _ _ => (.ok imageReport, ())
  | _, _, _ => (.error notThere, ())

def importBy (reference : String) : ImageStreamImport :=
  .importTo "ci" "app" "latest" reference

/-- The exchanges of a pass for a tag that imports its image by a reference. -/
def handOnExchanges (tag : ImageStreamTag) (reference : String) : List Exchange := [
  ⟨"api.ci", .getTag "ci" "app:latest", .error notThere⟩,
  ⟨"app.ci", .getTag "ci" "app:latest", .ok tag⟩,
  ⟨"app.ci", .getStream "ci" "app", .ok heldStream⟩,
  ⟨"api.ci", .getNamespace "ci", .ok (requestedNamespace "ci")⟩,
  ⟨"api.ci", .getStream "ci" "app", .error notThere⟩,
  ⟨"api.ci", .createStream "ci" heldStream.copy, .ok heldStream.copy⟩,
  ⟨"api.ci", .applyPullSecret "ci" [], .ok (pullSecret "ci" [])⟩,
  ⟨"api.ci", .importImages "ci" (importBy reference), .ok imageReport⟩]

theorem import_mem_handOn (tag : ImageStreamTag) (reference : String) :
    ⟨"api.ci", .importImages "ci" (importBy reference), .ok imageReport⟩ ∈
      handOnExchanges tag reference := by
  simp [handOnExchanges]

theorem built_image_is_not_own :
    (syncTag twoClusters "ci" "app:latest").Run
        (handOnExchanges localTag "registry.ci.openshift.org/ci/app") (.ok ()) ∧
      ∃ hosts, RegistryHosts.of? "api.ci" = some hosts ∧
        ¬ AsksForOwnImage hosts (importBy "registry.ci.openshift.org/ci/app") := by
  have run : (syncTag twoClusters "ci" "app:latest").Run
      (handOnExchanges localTag "registry.ci.openshift.org/ci/app") (.ok ()) :=
    Plan.run_play (onAppCi localTag) _ ()
  refine ⟨run, _, rfl, ?_⟩
  obtain ⟨source, tag, own, hnewest, hown, hiff, -⟩ :=
    asksForOwnImage_iff run (import_mem_handOn _ _) rfl
  obtain ⟨-, rfl⟩ : "app.ci" = source ∧ localTag = tag :=
    Prod.mk.inj (Option.some.inj hnewest)
  obtain rfl := Option.some.inj hown
  rw [hiff]
  decide

/-- A tag that is not imported may have an image at the registry of a cluster that it is copied
to, and that cluster is told to import its own image. -/
theorem own_image_is_asked_for :
    (syncTag twoClusters "ci" "app:latest").Run
        (handOnExchanges derivedTag "registry.svc.ci.openshift.org/ocp/4.7@sha256:1") (.ok ()) ∧
      ∃ hosts request reply, RegistryHosts.of? "api.ci" = some hosts ∧
        ⟨"api.ci", .importImages "ci" request, reply⟩ ∈
          handOnExchanges derivedTag "registry.svc.ci.openshift.org/ocp/4.7@sha256:1" ∧
        AsksForOwnImage hosts request := by
  refine ⟨Plan.run_play (onAppCi derivedTag) _ (), _, _, _, rfl, import_mem_handOn _ _, ?_⟩
  rw [importBy, asksForOwnImage_importTo]
  decide

end TagSync
