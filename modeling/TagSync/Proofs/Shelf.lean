import Mathlib.Data.List.Induction
import TagSync.Proofs.Selection

/-!
# One tag on all clusters

A `Shelf` is what all clusters have under one tag, with the times at which images will be
created. Copies are put on it one after the other; the newest tag is then the copy that was put
last (`Shelf.newest?_putAll`).
-/

set_option autoImplicit false

namespace TagSync

/-- A tag of each cluster, and the creation times to come. -/
@[ext] structure Shelf where
  /-- The tag of a cluster. -/
  tag? : String → Option ImageStreamTag
  times : Nat → Instant

namespace Shelf

def observations (s : Shelf) (clusters : List String) : List (String × ImageStreamTag) :=
  clusters.filterMap fun c => (s.tag? c).map (c, ·)

theorem mem_observations {s : Shelf} {clusters : List String} {cluster : String}
    {tag : ImageStreamTag} : (cluster, tag) ∈ s.observations clusters ↔
      cluster ∈ clusters ∧ s.tag? cluster = some tag := by
  rw [observations, List.mem_filterMap]
  constructor
  · rintro ⟨c, hc, h⟩
    obtain ⟨t, ht, heq⟩ := Option.map_eq_some_iff.mp h
    obtain ⟨rfl, rfl⟩ := Prod.mk.inj heq
    exact ⟨hc, ht⟩
  · rintro ⟨hc, ht⟩
    exact ⟨cluster, hc, Option.map_eq_some_iff.mpr ⟨tag, ht, rfl⟩⟩

/-- A look-up among the observations finds what the cluster has. -/
theorem lookup_observations (s : Shelf) {clusters : List String} {cluster : String}
    (hc : cluster ∈ clusters) : (s.observations clusters).lookup cluster = s.tag? cluster := by
  induction clusters with
  | nil => cases hc
  | cons c clusters ih =>
      by_cases h : cluster = c
      · subst h
        -- Without the tag there is no observation of this cluster, here or later.
        cases ht : s.tag? cluster with
        | some tag => simp [observations, ht]
        | none =>
            refine List.lookup_eq_none_iff.mpr ?_
            rintro ⟨other, tag⟩ hmem
            have hne : other ≠ cluster := by
              rintro rfl
              obtain ⟨-, htag⟩ := mem_observations.mp hmem
              rw [ht] at htag
              cases htag
            simpa using hne.symm
      · have hrest := ih (List.mem_of_ne_of_mem h hc)
        have hb : (cluster == c) = false := by simpa using h
        cases ht : s.tag? c with
        | none => simpa [observations, ht] using hrest
        | some tag => simpa [observations, ht, List.lookup_cons, hb] using hrest

/-! ## Copies -/

def put (make : Instant → ImageStreamTag) (s : Shelf) (cluster : String) : Shelf where
  tag? := fun c => if c = cluster then some (make (s.times 0)) else s.tag? c
  times := fun n => s.times (n + 1)

def putAll (make : Instant → ImageStreamTag) (s : Shelf) (clusters : List String) : Shelf :=
  clusters.foldl (put make) s

variable {make : Instant → ImageStreamTag} {s : Shelf} {clusters : List String}

theorem putAll_cons {cluster : String} :
    s.putAll make (cluster :: clusters) = (s.put make cluster).putAll make clusters := rfl

theorem putAll_concat {cluster : String} :
    s.putAll make (clusters ++ [cluster]) = (s.putAll make clusters).put make cluster := by
  simp [putAll, List.foldl_append]

theorem exists_tag?_putAll {cluster : String} (h : cluster ∈ clusters) :
    ∃ time, (s.putAll make clusters).tag? cluster = some (make time) := by
  induction clusters using List.reverseRecOn with
  | nil => cases h
  | append_singleton clusters last ih =>
      rw [putAll_concat]
      by_cases hlast : cluster = last
      · exact ⟨_, if_pos hlast⟩
      · obtain ⟨time, ht⟩ := ih (by simpa [hlast] using h)
        exact ⟨time, (if_neg hlast).trans ht⟩

theorem tag?_putAll_of_not_mem {cluster : String} (h : cluster ∉ clusters) :
    (s.putAll make clusters).tag? cluster = s.tag? cluster := by
  induction clusters using List.reverseRecOn with
  | nil => rfl
  | append_singleton clusters last ih =>
      simp only [List.mem_append, List.mem_singleton, not_or] at h
      rw [putAll_concat]
      exact (if_neg h.2).trans (ih h.1)

/-! ## Times -/

/-- Every time to come is later than the one before and than all that is on the shelf. -/
structure Timely (s : Shelf) : Prop where
  ascending : ∀ n, moment (some (s.times n)) < moment (some (s.times (n + 1)))
  later : ∀ ⦃cluster : String⦄ ⦃tag : ImageStreamTag⦄, s.tag? cluster = some tag →
    moment tag.image.created < moment (some (s.times 0))

theorem Timely.put (h : s.Timely) (hmake : ∀ time, (make time).image.created = some time)
    (cluster : String) : (s.put make cluster).Timely where
  ascending := fun n => h.ascending (n + 1)
  later := by
    intro c tag htag
    by_cases hc : c = cluster
    · obtain rfl := Option.some.inj ((if_pos hc).symm.trans htag)
      rw [hmake]
      exact h.ascending 0
    · exact lt_trans (h.later ((if_neg hc).symm.trans htag)) (h.ascending 0)

theorem Timely.putAll (h : s.Timely) (hmake : ∀ time, (make time).image.created = some time)
    (clusters : List String) : (s.putAll make clusters).Timely := by
  induction clusters generalizing s with
  | nil => exact h
  | cons cluster clusters ih => exact ih (h.put hmake cluster)

/-- The newest tag is the copy that was put last. -/
theorem newest?_putAll (h : s.Timely) (hmake : ∀ time, (make time).image.created = some time)
    {copied : List String} {last : String} (hlast : copied.getLast? = some last)
    (hmem : last ∈ clusters) : ∃ time, (s.putAll make copied).tag? last = some (make time) ∧
      newest? ((s.putAll make copied).observations clusters) = some (last, make time) := by
  obtain ⟨front, rfl⟩ := List.getLast?_eq_some_iff.mp hlast
  have htimely := h.putAll hmake front
  have hput : ((s.putAll make front).put make last).tag? last =
      some (make ((s.putAll make front).times 0)) := if_pos rfl
  rw [putAll_concat]
  refine ⟨_, hput, newest?_eq_of_forall_lt (mem_observations.mpr ⟨hmem, hput⟩) ?_⟩
  rintro ⟨cluster, tag⟩ hobserved hne
  obtain ⟨-, htag⟩ := mem_observations.mp hobserved
  have hother : cluster ≠ last := by
    rintro rfl
    rw [hput] at htag
    exact hne (Prod.ext rfl (Option.some.inj htag).symm)
  -- What is not the last copy was on the shelf before it, where all is older than its time.
  have hbefore : (s.putAll make front).tag? cluster = some tag := (if_neg hother).symm.trans htag
  show moment tag.image.created < moment (make _).image.created
  rw [hmake]
  exact htimely.later hbefore

end Shelf

end TagSync
