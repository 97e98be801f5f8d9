import Mathlib.Data.List.Basic
import TagSync.Pass
import TagSync.RegistryHost
import TagSync.TagName

/-!
# References and registries

An image reference belongs to a registry if it begins with the registry's host name and a slash
(`IsAt`). The reference that a source gives to others is public: it is never at the inner host of
the source's own registry (`not_isAt_publicReference`).
-/

set_option autoImplicit false

namespace TagSync

/-- The reference begins with the host name and a slash. -/
def IsAt (host reference : String) : Prop := (host ++ "/").toList <+: reference.toList

theorem isAt_iff {host reference : String} :
    IsAt host reference ↔ ∃ path, reference.toList = host.toList ++ '/' :: path := by
  constructor
  · rintro ⟨path, h⟩
    exact ⟨path, by simpa using h.symm⟩
  · rintro ⟨path, h⟩
    exact ⟨path, by simpa using h.symm⟩

theorem IsAt.host_eq {host other reference : String} (h : IsAt host reference)
    (h' : IsAt other reference) (hhost : '/' ∉ host.toList) (hother : '/' ∉ other.toList) :
    host = other := by
  obtain ⟨path, h⟩ := isAt_iff.mp h
  obtain ⟨path', h'⟩ := isAt_iff.mp h'
  have hfront := (TagName.takeWhile_dropWhile_glued hhost path).1
  rw [← h, h', (TagName.takeWhile_dropWhile_glued hother path').1] at hfront
  exact String.toList_inj.mp hfront.symm

namespace RegistryHosts

theorem path?_eq_some_iff {host reference : String} {path : List Char} :
    path? host reference = some path ↔ reference.toList = host.toList ++ '/' :: path := by
  rw [path?, List.isPrefixOf?_eq_some_iff_append_eq, List.append_assoc]
  exact eq_comm

theorem servesPublicly_iff {hosts : RegistryHosts} {reference : String} :
    hosts.servesPublicly reference = true ↔ IsAt hosts.outer reference := by
  rw [servesPublicly, Option.isSome_iff_exists, isAt_iff]
  simp only [path?_eq_some_iff]

theorem names_of_known {cluster : String} {hosts : RegistryHosts} (h : of? cluster = some hosts) :
    '/' ∉ hosts.inner.toList ∧ '/' ∉ hosts.outer.toList ∧ hosts.inner ≠ hosts.outer := by
  have hall : ∀ e ∈ known, '/' ∉ e.2.inner.toList ∧ '/' ∉ e.2.outer.toList ∧
      e.2.inner ≠ e.2.outer := by decide
  obtain ⟨front, back, hsplit, -⟩ := List.lookup_eq_some_iff.mp h
  exact hall (cluster, hosts) (by rw [hsplit]; simp)

/-- The public form of a reference is at the outer host or is the reference itself, which is then
not at the inner host. -/
theorem publicReference_cases (hosts : RegistryHosts) (reference : String) :
    IsAt hosts.outer (hosts.publicReference reference) ∨
      hosts.publicReference reference = reference ∧ ¬ IsAt hosts.inner reference := by
  cases h : path? hosts.inner reference with
  | some path =>
      refine Or.inl (isAt_iff.mpr ⟨path, ?_⟩)
      simp [publicReference, h]
  | none =>
      refine Or.inr ⟨by simp [publicReference, h], fun hat => ?_⟩
      obtain ⟨path, hpath⟩ := isAt_iff.mp hat
      rw [path?_eq_some_iff.mpr hpath] at h
      cases h

/-- The public form of a reference is never at the inner host. -/
theorem not_isAt_publicReference {cluster : String} {hosts : RegistryHosts}
    (h : of? cluster = some hosts) (reference : String) :
    ¬ IsAt hosts.inner (hosts.publicReference reference) := by
  obtain ⟨hinner, houter, hne⟩ := names_of_known h
  intro hat
  rcases hosts.publicReference_cases reference with hout | ⟨heq, hnot⟩
  · exact hne (hat.host_eq hout hinner houter)
  · exact hnot (heq ▸ hat)

end RegistryHosts

/-- A tag comes from a cluster if it was imported from its registry's outer host. -/
theorem ImageStreamTag.comesFrom_iff {tag : ImageStreamTag} {cluster : String} :
    tag.comesFrom cluster = true ↔ ∃ hosts reference, RegistryHosts.of? cluster = some hosts ∧
      tag.importedFrom = some reference ∧ IsAt hosts.outer reference := by
  unfold comesFrom
  split
  · next hosts reference hhosts hfrom =>
    rw [RegistryHosts.servesPublicly_iff]
    constructor
    · exact fun h => ⟨hosts, reference, hhosts, hfrom, h⟩
    · rintro ⟨hosts', reference', hhosts', hfrom', h⟩
      -- A cluster has one pair of hosts, and a tag has one origin.
      obtain rfl := Option.some.inj (hhosts.symm.trans hhosts')
      obtain rfl := Option.some.inj (hfrom.symm.trans hfrom')
      exact h
  · next hnone =>
    constructor
    · nofun
    · rintro ⟨hosts, reference, hhosts, hfrom, -⟩
      exact absurd hfrom (hnone hosts reference hhosts)

theorem Source.reference_eq_ok_iff {source : Source} {tag reference : String} :
    source.reference tag = .ok reference ↔ ∃ hosts own,
      RegistryHosts.of? source.cluster = some hosts ∧
      source.tag.image.dockerImageReference = some own ∧
      reference = hosts.publicReference own := by
  cases hown : source.tag.image.dockerImageReference with
  | none => simp [Source.reference, hown]
  | some own =>
      cases hhosts : RegistryHosts.of? source.cluster with
      | none => simp [Source.reference, hown, hhosts]
      | some hosts => simp [Source.reference, hown, hhosts, eq_comm]

end TagSync
