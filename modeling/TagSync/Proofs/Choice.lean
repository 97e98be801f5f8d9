import TagSync.Proofs.Deletion
import TagSync.Proofs.Observing

/-!
# The choice of the source

Of the clusters that have a tag the source is the first of those with the latest creation time
(`FirstOfLatest`). `newest_is_first_of_latest` says that `newest?` finds exactly that one among any
observations, and that what a pass has observed is a map from clusters of the fleet, so that the
source is always one of them.
-/

set_option autoImplicit false

namespace TagSync

open Api
open Plan (Exchange)

/-- The observation of this cluster is not earlier than any other one, and it is later than that of
every cluster before it. -/
structure FirstOfLatest (m : NameMap ImageStreamTag) (cluster : String) (tag : ImageStreamTag) :
    Prop where
  observed : m.get? cluster = some tag
  latest : ∀ other tag', m.get? other = some tag' →
    moment tag'.image.created ≤ moment tag.image.created
  first : ∀ other tag', other < cluster → m.get? other = some tag' →
    moment tag'.image.created < moment tag.image.created

/-! ## The order of names -/

namespace NameMap

variable {α : Type}

/-- The entries before an entry are those of smaller names. -/
theorem mem_front_iff {m : NameMap α} {front back : List (String × α)} {o : String × α}
    (hsplit : m.entries = front ++ o :: back) {x : String × α} (hx : x ∈ m.entries) :
    x ∈ front ↔ x.1 < o.1 := by
  have hpairs := m.ascending
  rw [hsplit, List.pairwise_append] at hpairs
  obtain ⟨-, hrest, hfront⟩ := hpairs
  constructor
  · exact fun h => hfront x h o List.mem_cons_self
  · intro hlt
    rw [hsplit] at hx
    rcases List.mem_append.mp hx with h | h
    · exact h
    rcases List.mem_cons.mp h with rfl | h
    · exact absurd hlt (String.lt_irrefl _)
    · have hgt := (List.pairwise_cons.mp hrest).1 x h
      exact absurd (String.lt_trans hlt hgt) (String.lt_irrefl _)

end NameMap

/-! ## The newest of a map -/

/-- The newest observation is the first of the latest. -/
theorem FirstOfLatest.of_newest {m : NameMap ImageStreamTag} {cluster : String}
    {tag : ImageStreamTag} (h : newest? m.entries = some (cluster, tag)) :
    FirstOfLatest m cluster tag := by
  obtain ⟨front, back, hsplit, hfront, hback⟩ := newest?_split h
  refine ⟨NameMap.get?_eq_some_iff_mem.mpr (mem_of_newest? h), ?_, ?_⟩
  · intro other tag' hother
    have hmem := NameMap.get?_eq_some_iff_mem.mp hother
    rw [hsplit] at hmem
    rcases List.mem_append.mp hmem with hx | hx
    · exact le_of_lt (hfront _ hx)
    rcases List.mem_cons.mp hx with heq | hx
    · obtain ⟨rfl, rfl⟩ := Prod.mk.inj heq
      exact le_refl _
    · exact hback _ hx
  · intro other tag' hlt hother
    have hmem := NameMap.get?_eq_some_iff_mem.mp hother
    exact hfront _ ((NameMap.mem_front_iff hsplit hmem).mpr hlt)

theorem FirstOfLatest.unique {m : NameMap ImageStreamTag} {cluster other : String}
    {tag tag' : ImageStreamTag} (h : FirstOfLatest m cluster tag)
    (h' : FirstOfLatest m other tag') : (cluster, tag) = (other, tag') := by
  have hcluster : cluster = other := by
    by_contra hne
    rcases lt_or_gt_of_ne hne with hlt | hlt
    · exact absurd (h'.first _ _ hlt h.observed) (not_lt.mpr (h.latest _ _ h'.observed))
    · exact absurd (h.first _ _ hlt h'.observed) (not_lt.mpr (h'.latest _ _ h.observed))
  subst hcluster
  rw [Option.some.inj (h.observed.symm.trans h'.observed)]

theorem newest?_eq_some_iff {m : NameMap ImageStreamTag} {cluster : String}
    {tag : ImageStreamTag} :
    newest? m.entries = some (cluster, tag) ↔ FirstOfLatest m cluster tag := by
  refine ⟨.of_newest, fun h => ?_⟩
  cases hn : newest? m.entries with
  | none =>
      have hmem := NameMap.get?_eq_some_iff_mem.mp h.observed
      rw [newest?_eq_none_iff.mp hn] at hmem
      cases hmem
  | some o =>
      obtain ⟨first, firstTag⟩ := o
      rw [(FirstOfLatest.of_newest hn).unique h]

/-! ## What a pass observes -/

theorem exists_map_of_observe {fleet : Fleet} {ns name : String} {reads : List Exchange}
    {observations : List (String × ImageStreamTag)}
    (run : (observe ns name fleet.names).Run reads (.ok observations)) :
    ∃ m : NameMap ImageStreamTag, m.entries = observations ∧ ∀ cluster,
      m.contains cluster = true → fleet.clusters.contains cluster = true := by
  obtain ⟨hclusters, rfl, -⟩ := run_observe run
  have hsub : ((observed reads).map (·.1)).Sublist fleet.names :=
    hclusters ▸ map_fst_observed_sublist reads
  have hpairs : (observed reads).Pairwise (·.1 < ·.1) :=
    List.pairwise_map.mp (fleet.clusters.pairwise_toList.sublist hsub)
  refine ⟨⟨observed reads, hpairs⟩, rfl, fun cluster h => ?_⟩
  exact NameSet.contains_iff_mem.mpr (hsub.subset (NameMap.contains_iff_mem.mp h))

/-- **The source is the first of the latest.** Among any observations `newest?` finds nothing
exactly if there are none. Otherwise there is exactly one first of the latest, by creation times as
instants with a missing time before all others, and `newest?` finds that one and no other. What a
pass has observed is a map from clusters of the fleet, so the newest of its observations can be
looked up both there and in the fleet. -/
theorem newest_is_first_of_latest :
    (∀ m : NameMap ImageStreamTag,
      (newest? m.entries = none ↔ m.entries = []) ∧
      (m.entries ≠ [] → ∃! cluster, ∃ tag, FirstOfLatest m cluster tag) ∧
      ∀ cluster tag, newest? m.entries = some (cluster, tag) ↔ FirstOfLatest m cluster tag) ∧
    ∀ (fleet : Fleet) (ns name : String) (reads : List Exchange)
      (observations : List (String × ImageStreamTag)),
      (observe ns name fleet.names).Run reads (.ok observations) →
      ∃ m : NameMap ImageStreamTag, m.entries = observations ∧ ∀ cluster tag,
        newest? observations = some (cluster, tag) →
        m.get? cluster = some tag ∧ fleet.clusters.contains cluster = true := by
  refine ⟨fun m => ⟨newest?_eq_none_iff, fun hne => ?_, fun _ _ => newest?_eq_some_iff⟩, ?_⟩
  · cases hn : newest? m.entries with
    | none => exact absurd (newest?_eq_none_iff.mp hn) hne
    | some o =>
        have hfirst : FirstOfLatest m o.1 o.2 := .of_newest hn
        refine ⟨o.1, ⟨o.2, hfirst⟩, ?_⟩
        rintro cluster ⟨tag, h⟩
        exact (Prod.mk.inj (h.unique hfirst)).1
  · intro fleet ns name reads observations run
    obtain ⟨m, rfl, hfleet⟩ := exists_map_of_observe run
    refine ⟨m, rfl, fun cluster tag h => ?_⟩
    have hget := (FirstOfLatest.of_newest h).observed
    exact ⟨hget, hfleet cluster (by rw [NameMap.contains, hget]; rfl)⟩

/-! ### A tie -/

/-- A tag whose image was created at some time, if it is known. -/
def tagOf (created : Option Instant) : ImageStreamTag where
  image := { metadata := { creationTimestamp := created } }

/-- Servers that all have the tag: the first one does not know since when, and the other two have
it since the same time. -/
def tiedServers : Unit → String → (call : Call) → call.Reply × Unit
  | _, "api.ci", .getTag _ _ => (.ok (tagOf none), ())
  | _, _, .getTag _ _ => (.ok (tagOf (some (.ofEpoch 0 0))), ())
  | _, _, _ => (.error notThere, ())

def tiedObservations : List (String × ImageStreamTag) := [
  ("api.ci", tagOf none),
  ("app.ci", tagOf (some (.ofEpoch 0 0))),
  ("build01", tagOf (some (.ofEpoch 0 0)))]

theorem tie_goes_to_the_first :
    (observe "ci" "app:latest" threeClusters.names).Run
        (tiedObservations.map fun o => ⟨o.1, .getTag "ci" "app:latest", .ok o.2⟩)
        (.ok tiedObservations) ∧
      newest? tiedObservations = some ("app.ci", tagOf (some (.ofEpoch 0 0))) ∧
      ∃ m : NameMap ImageStreamTag, m.entries = tiedObservations ∧
        m.get? "app.ci" = some (tagOf (some (.ofEpoch 0 0))) ∧
        threeClusters.clusters.contains "app.ci" = true := by
  have run : (observe "ci" "app:latest" threeClusters.names).Run
      (tiedObservations.map fun o => ⟨o.1, .getTag "ci" "app:latest", .ok o.2⟩)
      (.ok tiedObservations) := Plan.run_play tiedServers _ ()
  have newest : newest? tiedObservations = some ("app.ci", tagOf (some (.ofEpoch 0 0))) := rfl
  obtain ⟨m, hm, hall⟩ := newest_is_first_of_latest.2 _ _ _ _ _ run
  exact ⟨run, newest, m, hm, hall _ _ newest⟩

end TagSync
