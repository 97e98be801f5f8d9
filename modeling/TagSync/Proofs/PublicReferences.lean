import TagSync.Proofs.SelfImport

/-!
# Public references and where tags come from

A reference is made public for others by one function, and another one recognises the public
references of a cluster. Both look at the host of the reference, that is, at what stands before its
first slash, and at nothing else: `publicReference` changes a reference exactly if this is the inner
host of the cluster, and a tag that was imported by a public reference comes from that cluster and
from no other (`public_references_are_recognised`).
-/

set_option autoImplicit false

namespace TagSync

/-! ## Hosts -/

/-- A reference is at a host if it has a slash and the host in front of the first one. -/
theorem isAt_iff_registryHost_eq {host reference : String} (hhost : '/' ∉ host.toList) :
    IsAt host reference ↔ '/' ∈ reference.toList ∧ registryHost reference = host := by
  constructor
  · intro h
    obtain ⟨path, hpath⟩ := isAt_iff.mp h
    refine ⟨?_, h.registryHost_eq hhost⟩
    rw [hpath]
    simp
  · rintro ⟨hslash, heq⟩
    have hfront : reference.toList.takeWhile (· != '/') = host.toList := by
      rw [← heq, registryHost, String.toList_ofList]
    have hsplit := List.takeWhile_append_dropWhile (p := (· != '/')) (l := reference.toList)
    rw [hfront] at hsplit
    cases hback : reference.toList.dropWhile (· != '/') with
    | nil =>
        -- All of the reference would be the host, which has no slash.
        rw [hback, List.append_nil] at hsplit
        exact absurd (hsplit ▸ hslash) hhost
    | cons c path =>
        have hc : c = '/' := by
          have hhead := List.head?_dropWhile_not (p := (· != '/')) (l := reference.toList)
          rw [hback] at hhead
          simpa using hhead
        subst hc
        rw [hback] at hsplit
        exact isAt_iff.mpr ⟨path, hsplit.symm⟩

namespace RegistryHosts

variable {cluster : String} {hosts : RegistryHosts}

/-! ## Public references -/

theorem publicReference_inner (hosts : RegistryHosts) (path : String) :
    hosts.publicReference (hosts.inner ++ "/" ++ path) = hosts.outer ++ "/" ++ path := by
  have hpath : path? hosts.inner (hosts.inner ++ "/" ++ path) = some path.toList :=
    path?_eq_some_iff.mpr (by simp)
  rw [publicReference, hpath]
  show hosts.outer ++ "/" ++ String.ofList path.toList = hosts.outer ++ "/" ++ path
  rw [String.ofList_toList]

theorem publicReference_of_not_isAt {reference : String} (h : ¬ IsAt hosts.inner reference) :
    hosts.publicReference reference = reference := by
  have hpath : path? hosts.inner reference = none := by
    rw [Option.eq_none_iff_forall_ne_some]
    intro path hpath
    exact h (isAt_iff.mpr ⟨path, path?_eq_some_iff.mp hpath⟩)
  rw [publicReference, hpath]

theorem publicReference_publicReference (known : of? cluster = some hosts) (reference : String) :
    hosts.publicReference (hosts.publicReference reference) = hosts.publicReference reference :=
  publicReference_of_not_isAt (not_isAt_publicReference known reference)

theorem publicReference_ne_iff (known : of? cluster = some hosts) {reference : String} :
    hosts.publicReference reference ≠ reference ↔ IsAt hosts.inner reference := by
  constructor
  · intro hne
    by_contra hnot
    exact hne (publicReference_of_not_isAt hnot)
  · intro hat heq
    have hnot : ¬ IsAt hosts.inner (hosts.publicReference reference) :=
      not_isAt_publicReference known reference
    exact hnot (heq.symm ▸ hat)

theorem isAt_publicReference (known : of? cluster = some hosts) {host path : String}
    (hhost : host = hosts.inner ∨ host = hosts.outer) :
    IsAt hosts.outer (hosts.publicReference (host ++ "/" ++ path)) := by
  obtain ⟨hinner, houter, hne⟩ := names_of_known known
  rcases hhost with rfl | rfl
  · rw [publicReference_inner]
    exact isAt_iff.mpr ⟨path.toList, by simp⟩
  · have hat : IsAt hosts.outer (hosts.outer ++ "/" ++ path) :=
      isAt_iff.mpr ⟨path.toList, by simp⟩
    have hnot : ¬ IsAt hosts.inner (hosts.outer ++ "/" ++ path) := fun h =>
      hne (h.host_eq hat hinner houter)
    rwa [publicReference_of_not_isAt hnot]

end RegistryHosts

/-! ## Origins of tags -/

namespace ImageStreamTag

/-- The tag comes from a registry image of that name. -/
def IsImportOf (tag : ImageStreamTag) (reference : String) : Prop :=
  ∃ own source, tag.tag = some own ∧ own.from = some source ∧
    source.kind = some "DockerImage" ∧ source.name = some reference

theorem importedFrom_eq_some_iff {tag : ImageStreamTag} {reference : String} :
    tag.importedFrom = some reference ↔ tag.IsImportOf reference := by
  cases hown : tag.tag with
  | none => simp [importedFrom, IsImportOf, hown]
  | some own =>
      cases hsource : own.from with
      | none => simp [importedFrom, IsImportOf, hown, hsource]
      | some source =>
          by_cases hkind : source.kind = some "DockerImage"
          · simp [importedFrom, IsImportOf, hown, hsource, dockerImageKind, hkind]
          · simp [importedFrom, IsImportOf, hown, hsource, dockerImageKind, hkind]

theorem comesFrom_iff_isAt {tag : ImageStreamTag} {reference cluster : String}
    (h : tag.IsImportOf reference) : tag.comesFrom cluster = true ↔
      ∃ hosts, RegistryHosts.of? cluster = some hosts ∧ IsAt hosts.outer reference := by
  have hfrom : tag.importedFrom = some reference := importedFrom_eq_some_iff.mpr h
  rw [comesFrom_iff]
  constructor
  · rintro ⟨hosts, reference', hhosts, hfrom', hat⟩
    obtain rfl := Option.some.inj (hfrom.symm.trans hfrom')
    exact ⟨hosts, hhosts, hat⟩
  · rintro ⟨hosts, hhosts, hat⟩
    exact ⟨hosts, reference, hhosts, hfrom, hat⟩

theorem comesFrom_unique {tag : ImageStreamTag} {one other : String}
    (h : tag.comesFrom one = true) (h' : tag.comesFrom other = true) : one = other := by
  obtain ⟨hosts, reference, hhosts, hfrom, hat⟩ := comesFrom_iff.mp h
  obtain ⟨hosts', reference', hhosts', hfrom', hat'⟩ := comesFrom_iff.mp h'
  obtain rfl := Option.some.inj (hfrom.symm.trans hfrom')
  have houter : '/' ∉ hosts.outer.toList := (RegistryHosts.names_of_known hhosts).2.1
  have houter' : '/' ∉ hosts'.outer.toList := (RegistryHosts.names_of_known hhosts').2.1
  have heq : hosts.outer = hosts'.outer := hat.host_eq hat' houter houter'
  by_contra hne
  exact (RegistryHosts.ne_outer_of_ne hhosts hhosts' hne).2 heq

end ImageStreamTag

/-- **Public references are recognised.** For a known cluster exactly the references with its inner
host before their first slash are changed, and of them just the host; the result is changed no more
and never at the inner host. A tag that was imported by the public form of a reference at either
host comes from that cluster and from no other. Any tag comes from one cluster at most, and only if
it was imported from a registry image at the outer host of that cluster. -/
theorem public_references_are_recognised {cluster : String} {hosts : RegistryHosts}
    (known : RegistryHosts.of? cluster = some hosts) :
    (∀ reference, (hosts.publicReference reference ≠ reference ↔
        '/' ∈ reference.toList ∧ registryHost reference = hosts.inner) ∧
      hosts.publicReference (hosts.publicReference reference) = hosts.publicReference reference ∧
      ¬ IsAt hosts.inner (hosts.publicReference reference)) ∧
    (∀ path, hosts.publicReference (hosts.inner ++ "/" ++ path) = hosts.outer ++ "/" ++ path) ∧
    (∀ (host path : String) (tag : ImageStreamTag), host = hosts.inner ∨ host = hosts.outer →
      tag.IsImportOf (hosts.publicReference (host ++ "/" ++ path)) →
      tag.comesFrom cluster = true ∧ ∀ other, other ≠ cluster → tag.comesFrom other = false) ∧
    (∀ (tag : ImageStreamTag) (one other : String), tag.comesFrom one = true →
      tag.comesFrom other = true → one = other) ∧
    ∀ (tag : ImageStreamTag) (one : String), tag.comesFrom one = true →
      ∃ hosts' reference, RegistryHosts.of? one = some hosts' ∧ tag.IsImportOf reference ∧
        '/' ∈ reference.toList ∧ registryHost reference = hosts'.outer := by
  -- No host has a slash in it, so the first slash ends the host.
  have hinner : '/' ∉ hosts.inner.toList := (RegistryHosts.names_of_known known).1
  refine ⟨fun reference => ⟨?_, ?_, ?_⟩, hosts.publicReference_inner, ?_, ?_, ?_⟩
  · rw [RegistryHosts.publicReference_ne_iff known, isAt_iff_registryHost_eq hinner]
  · exact RegistryHosts.publicReference_publicReference known reference
  · exact RegistryHosts.not_isAt_publicReference known reference
  · intro host path tag hhost himport
    have hcomes : tag.comesFrom cluster = true :=
      (ImageStreamTag.comesFrom_iff_isAt himport).mpr
        ⟨hosts, known, RegistryHosts.isAt_publicReference known hhost⟩
    refine ⟨hcomes, fun other hother => ?_⟩
    rw [← Bool.not_eq_true]
    intro hcomes'
    exact hother (ImageStreamTag.comesFrom_unique hcomes' hcomes)
  · intro tag one other hone hother
    exact ImageStreamTag.comesFrom_unique hone hother
  · intro tag one hone
    obtain ⟨hosts', reference, hhosts', hfrom, hat⟩ := ImageStreamTag.comesFrom_iff.mp hone
    have houter : '/' ∉ hosts'.outer.toList := (RegistryHosts.names_of_known hhosts').2.1
    obtain ⟨hslash, hhost⟩ := (isAt_iff_registryHost_eq houter).mp hat
    exact ⟨hosts', reference, hhosts', ImageStreamTag.importedFrom_eq_some_iff.mp hfrom, hslash,
      hhost⟩

/-! ### A cluster and its neighbour -/

def importedBy (reference : String) : ImageStreamTag where
  tag := some {
    name := "latest"
    «from» := some { kind := some "DockerImage", name := some reference } }

theorem translated_tag_comes_from_app_ci :
    ∃ hosts, RegistryHosts.of? "app.ci" = some hosts ∧
      hosts.publicReference "image-registry.openshift-image-registry.svc:5000/ci/app" =
        "registry.ci.openshift.org/ci/app" ∧
      hosts.publicReference "image-registry.openshift-image-registry.svc:50001/ci/app" =
        "image-registry.openshift-image-registry.svc:50001/ci/app" ∧
      (importedBy "registry.ci.openshift.org/ci/app").comesFrom "app.ci" = true ∧
      (importedBy "registry.ci.openshift.org/ci/app").comesFrom "api.ci" = false := by
  refine ⟨_, rfl, ?_⟩
  obtain ⟨hreferences, hinner, htags, -, -⟩ :=
    @public_references_are_recognised "app.ci" _ rfl
  have htranslated := hinner "ci/app"
  obtain ⟨happ, hothers⟩ := htags _ "ci/app" (importedBy "registry.ci.openshift.org/ci/app")
    (Or.inl rfl) ⟨_, _, rfl, rfl, rfl, congrArg some htranslated.symm⟩
  refine ⟨htranslated, ?_, happ, hothers "api.ci" (by decide)⟩
  -- A longer port makes it another host.
  by_contra hne
  obtain ⟨-, hhost⟩ := (hreferences _).1.mp hne
  revert hhost
  decide

end TagSync
