import Mathlib.Data.List.Forall2
import TagSync.Proofs.Runs
import TagSync.Proofs.WrittenFields
import TagSync.Readiness

/-!
# Discovering the image group

Discovery lists the groups of a server and then the types of each version of the image group
(`discover`). A check of the image API is one discovery and a look at the types of the version that
the group recommends (`imageApiServed_eq`): the preferred version, or else the first of those
that no other one outranks (`FoundGroup.showsImageStreams_iff`).
-/

set_option autoImplicit false

namespace TagSync

open Api
open Plan (Exchange)

/-! ## The order of versions -/

namespace Api

/-- Versions are ranked by stability, by their numbers and at last by their names. -/
theorem VersionRank.outranks_iff {a b : VersionRank} : a.outranks b = true ↔
    b.stability.rank < a.stability.rank ∨ a.stability.rank = b.stability.rank ∧
      (b.major < a.major ∨ a.major = b.major ∧
        (b.minor < a.minor ∨ a.minor = b.minor ∧ a.name < b.name)) := by
  have hrank : a.stability = b.stability ↔ a.stability.rank = b.stability.rank := by
    cases a.stability <;> cases b.stability <;> decide
  unfold outranks
  by_cases hstability : a.stability = b.stability
  · have heq : a.stability.rank = b.stability.rank := hrank.mp hstability
    by_cases hmajor : a.major = b.major
    · by_cases hminor : a.minor = b.minor
      · simp [hstability, hmajor, hminor]
      · simp [hstability, hmajor, hminor]
    · simp [hstability, hmajor]
  · have hne : a.stability.rank ≠ b.stability.rank := fun heq => hstability (hrank.mpr heq)
    simp [hstability, hne]

/-- What is not outranked by a second version, which is not outranked by a third one, is not
outranked by that one. -/
theorem VersionRank.not_outranks_trans {a b c : VersionRank} (hab : b.outranks a = false)
    (hbc : c.outranks b = false) : c.outranks a = false := by
  have hname : ¬ b.name < a.name → ¬ c.name < b.name → ¬ c.name < a.name := fun h h' =>
    String.not_lt.mpr (String.le_trans (String.not_lt.mp h) (String.not_lt.mp h'))
  rw [← Bool.not_eq_true, outranks_iff] at hab hbc ⊢
  grind

theorem VersionRank.outranks_asymm {a b : VersionRank} (h : a.outranks b = true) :
    b.outranks a = false := by
  have hname : a.name < b.name → ¬ b.name < a.name := fun hlt hgt =>
    String.lt_irrefl _ (String.lt_trans hlt hgt)
  rw [← Bool.not_eq_true, outranks_iff]
  rw [outranks_iff] at h
  grind

/-- Whether an item may stand before another one: the other one does not outrank it. -/
def mayPrecede {α : Type} (name : α → String) (a b : α) : Bool :=
  !(VersionRank.ofName (name b)).outranks (.ofName (name a))

section Sorting

variable {α : Type} {name : α → String}

theorem mayPrecede_of_name_eq {a b : α} (h : name a = name b) : mayPrecede name a b = true := by
  rw [mayPrecede, h, Bool.not_eq_true']
  by_contra hself
  rw [Bool.not_eq_false] at hself
  exact absurd (hself.symm.trans (VersionRank.outranks_asymm hself)) nofun

theorem mayPrecede_trans (a b c : α) (hab : mayPrecede name a b = true)
    (hbc : mayPrecede name b c = true) : mayPrecede name a c = true := by
  rw [mayPrecede, Bool.not_eq_true'] at hab hbc ⊢
  exact VersionRank.not_outranks_trans hab hbc

theorem mayPrecede_total (a b : α) : (mayPrecede name a b || mayPrecede name b a) = true := by
  rw [mayPrecede, mayPrecede, Bool.or_eq_true, Bool.not_eq_true', Bool.not_eq_true']
  by_cases hba : (VersionRank.ofName (name b)).outranks (.ofName (name a)) = true
  · exact Or.inr (VersionRank.outranks_asymm hba)
  · exact Or.inl (Bool.not_eq_true _ ▸ hba)

theorem sortByRank_eq (items : List α) :
    sortByRank name items = items.mergeSort (mayPrecede name) := rfl

/-- Items of one name keep their order. -/
theorem filter_sortByRank (items : List α) (wanted : String) :
    (sortByRank name items).filter (name · == wanted) = items.filter (name · == wanted) := by
  have hordered : (items.filter (name · == wanted)).Pairwise
      fun a b => mayPrecede name a b = true := by
    refine List.pairwise_of_forall_mem_list fun a ha b hb => mayPrecede_of_name_eq ?_
    exact (eq_of_beq (List.mem_filter.mp ha).2).trans (eq_of_beq (List.mem_filter.mp hb).2).symm
  have hsub : (items.filter (name · == wanted)).Sublist (sortByRank name items) :=
    List.sublist_mergeSort mayPrecede_trans mayPrecede_total hordered List.filter_sublist
  have hfiltered := hsub.filter (name · == wanted)
  rw [List.filter_filter] at hfiltered
  simp only [Bool.and_self] at hfiltered
  have hperm := (List.mergeSort_perm items (mayPrecede name)).filter (name · == wanted)
  exact (hfiltered.eq_of_length hperm.length_eq.symm).symm

/-- A new item is the first one if none of the others outranks it; otherwise the first one so far
stays the first. -/
theorem head?_sortByRank_cons_iff {item first : α} {items : List α} :
    (sortByRank name (item :: items)).head? = some first ↔
      item = first ∧ (∀ after ∈ items, mayPrecede name item after = true) ∨
        (sortByRank name items).head? = some first ∧ mayPrecede name item first = false := by
  have htotal : ∀ a b, (mayPrecede name a b || mayPrecede name b a) = true := mayPrecede_total
  obtain ⟨front, back, hwhole, hrest, houtranked⟩ :=
    List.mergeSort_cons mayPrecede_trans htotal item items
  have hsorted := List.pairwise_mergeSort mayPrecede_trans htotal (item :: items)
  have hmem (other : α) : other ∈ items ↔ other ∈ front ++ back := by
    rw [← hrest, List.mem_mergeSort]
  rw [sortByRank_eq, sortByRank_eq, hrest, hwhole]
  rw [hwhole] at hsorted
  -- Either the new item comes first, or the one that came first before still does.
  cases front with
  | nil =>
      have hlast : ∀ after ∈ items, mayPrecede name item after = true := fun after hafter =>
        (List.pairwise_cons.mp hsorted).1 after ((hmem after).mp hafter)
      constructor
      · intro heq
        exact Or.inl ⟨Option.some.inj heq, hlast⟩
      · rintro (⟨rfl, -⟩ | ⟨hfirst, houtranks⟩)
        · rfl
        · have hthere := hlast first ((hmem first).mpr (List.mem_of_head? hfirst))
          cases hthere.symm.trans houtranks
  | cons winner front =>
      have hwinner := houtranked winner List.mem_cons_self
      rw [Bool.not_eq_true'] at hwinner
      constructor
      · intro heq
        obtain rfl := Option.some.inj heq
        exact Or.inr ⟨rfl, hwinner⟩
      · rintro (⟨-, hlast⟩ | ⟨hfirst, -⟩)
        · have hthere := hlast winner ((hmem winner).mpr List.mem_cons_self)
          cases hthere.symm.trans hwinner
        · exact hfirst

/-- The first of the sorted items outranks those that were before it and is outranked by none of
those that were behind it. -/
theorem head?_sortByRank_iff {items : List α} {first : α} :
    (sortByRank name items).head? = some first ↔ ∃ front back, items = front ++ first :: back ∧
      (∀ before ∈ front, mayPrecede name before first = false) ∧
      ∀ after ∈ back, mayPrecede name first after = true := by
  induction items with
  | nil => simp [sortByRank]
  | cons item items ih =>
      rw [head?_sortByRank_cons_iff, ih]
      constructor
      · rintro (⟨rfl, hlast⟩ | ⟨⟨front, back, rfl, hbefore, hafter⟩, hitem⟩)
        · exact ⟨[], items, rfl, nofun, hlast⟩
        · exact ⟨item :: front, back, rfl, List.forall_mem_cons.mpr ⟨hitem, hbefore⟩, hafter⟩
      · rintro ⟨front, back, heq, hbefore, hafter⟩
        cases front with
        | nil =>
            obtain ⟨rfl, rfl⟩ := List.cons.inj heq
            exact Or.inl ⟨rfl, hafter⟩
        | cons other front =>
            obtain ⟨rfl, rfl⟩ := List.cons.inj heq
            -- What comes before the first one has to be outranked by it.
            obtain ⟨hitem, hbefore⟩ := List.forall_mem_cons.mp hbefore
            exact Or.inr ⟨⟨front, back, rfl, hbefore, hafter⟩, hitem⟩

end Sorting

end Api

/-! ## Groups and their versions -/

/-- The image group as a server shows it: what is listed, and the types of its versions. -/
structure FoundGroup where
  group : Group
  /-- The versions, each with its types. -/
  versions : List (String × ResourceList)

namespace FoundGroup

/-- What is listed first under the name of a version has a type of this version. -/
def Serves (found : FoundGroup) (version kind : String) : Prop :=
  ∃ types, found.versions.lookup version = some types ∧ (kind, version) ∈ types.served

/-- The group prefers the version; or it prefers none, and the version outranks those that are
listed before it and is outranked by none of those that are listed behind it. -/
def Recommends (found : FoundGroup) (version : String) (types : ResourceList) : Prop :=
  match found.group.preferredVersion with
  | some preferred => preferred.version = version ∧ found.versions.lookup version = some types
  | none => ∃ front back, found.versions = front ++ (version, types) :: back ∧
      (∀ before ∈ front, (VersionRank.ofName version).outranks (.ofName before.1) = true) ∧
      ∀ after ∈ back, (VersionRank.ofName after.1).outranks (.ofName version) = false

/-- The image streams are among the types of the recommended version. -/
def showsImageStreams (found : FoundGroup) : Bool :=
  serveImageStreams (recommended found.group found.versions)

end FoundGroup

theorem lookup_sortByRank (versions : List (String × ResourceList)) (version : String) :
    (sortByRank (·.1) versions).lookup version = versions.lookup version := by
  rw [Json.lookup_eq_head?_filter, filter_sortByRank, ← Json.lookup_eq_head?_filter]

namespace FoundGroup

/-- The version that the group recommends, with its types. -/
def recommendation (found : FoundGroup) : Option (String × ResourceList) :=
  match found.group.preferredVersion with
  | some preferred => (found.versions.lookup preferred.version).map (preferred.version, ·)
  | none => (sortByRank (·.1) found.versions).head?

theorem recommends_iff {found : FoundGroup} {version : String} {types : ResourceList} :
    found.Recommends version types ↔ found.recommendation = some (version, types) := by
  unfold Recommends recommendation
  cases found.group.preferredVersion with
  | some preferred =>
      constructor
      · rintro ⟨rfl, hlookup⟩
        simp only [hlookup, Option.map_some]
      · intro h
        obtain ⟨others, hlookup, heq⟩ := Option.map_eq_some_iff.mp h
        obtain ⟨rfl, rfl⟩ := Prod.mk.inj heq
        exact ⟨rfl, hlookup⟩
  | none =>
      simp only [head?_sortByRank_iff, mayPrecede, Bool.not_eq_false', Bool.not_eq_true']

theorem Recommends.unique {found : FoundGroup} {version other : String}
    {types others : ResourceList} (h : found.Recommends version types)
    (h' : found.Recommends other others) : version = other ∧ types = others :=
  Prod.mk.inj (Option.some.inj ((recommends_iff.mp h).symm.trans (recommends_iff.mp h')))

/-- The recommended version is what is listed first under its name. -/
theorem Recommends.lookup_eq {found : FoundGroup} {version : String} {types : ResourceList}
    (h : found.Recommends version types) : found.versions.lookup version = some types := by
  unfold Recommends at h
  cases hgroup : found.group.preferredVersion with
  | some preferred =>
      rw [hgroup] at h
      exact h.2
  | none =>
      rw [hgroup] at h
      obtain ⟨front, back, hversions, hbefore, -⟩ := h
      refine List.lookup_eq_some_iff.mpr ⟨front, back, hversions, fun before hmem => ?_⟩
      have houtranks := hbefore before hmem
      rw [bne_iff_ne]
      -- No version outranks one of its own name.
      rintro rfl
      exact absurd (houtranks.symm.trans (VersionRank.outranks_asymm houtranks)) nofun

/-- A group shows its image streams exactly if they are among the types of the version that it
recommends. -/
theorem showsImageStreams_iff {found : FoundGroup} : found.showsImageStreams = true ↔
    ∃ version types, found.Recommends version types ∧ ("ImageStream", "v1") ∈ types.served := by
  -- The types that are looked at are those of the recommended version.
  have hrecommended : recommended found.group found.versions =
      (found.recommendation.map (·.2.served)).getD [] := by
    unfold recommended recommendation
    cases found.group.preferredVersion with
    | some preferred => simp only [lookup_sortByRank, Option.map_map]; rfl
    | none => simp only [Option.map_map]; rfl
  simp only [recommends_iff]
  rw [showsImageStreams, serveImageStreams, hrecommended, List.contains_iff_mem]
  cases found.recommendation with
  | none => simp
  | some entry =>
      constructor
      · exact fun hserved => ⟨entry.1, entry.2, rfl, hserved⟩
      · rintro ⟨version, types, heq, hserved⟩
        obtain rfl : entry = (version, types) := Option.some.inj heq
        exact hserved

/-- Where the first version is the recommended one, a group shows its image streams exactly if it
serves them in that version. -/
theorem showsImageStreams_iff_serves {found : FoundGroup} {types : ResourceList}
    (h : found.Recommends "v1" types) :
    found.showsImageStreams = true ↔ found.Serves "v1" "ImageStream" := by
  rw [showsImageStreams_iff]
  constructor
  · rintro ⟨version, others, hrecommended, hserved⟩
    obtain ⟨rfl, rfl⟩ := hrecommended.unique h
    exact ⟨others, h.lookup_eq, hserved⟩
  · rintro ⟨others, hlookup, hserved⟩
    obtain rfl : types = others := Option.some.inj (h.lookup_eq.symm.trans hlookup)
    exact ⟨"v1", types, h, hserved⟩

end FoundGroup

/-! ## Discoveries -/

/-- Asks for the versions of the image group among listed groups; the last group of this name
counts. -/
def findGroup (cluster : String) (found : Option FoundGroup) :
    List Group → Plan (Except CallError (Option FoundGroup))
  | [] => pure (.ok found)
  | group :: groups =>
    if group.name ≠ imageGroup then findGroup cluster found groups
    else if group.versions.isEmpty then pure (.error (.emptyGroup group.name))
    else do
      match ← listVersions cluster group.versions with
      | .error cause => pure (.error cause)
      | .ok versions => findGroup cluster (some ⟨group, versions⟩) groups

/-- Lists the groups of a server, and the types of each listed version of the image group. -/
def discover (cluster : String) : Plan (Except CallError (Option FoundGroup)) := do
  match ← Plan.send cluster .listGroups with
  | .error cause => pure (.error cause)
  | .ok list => findGroup cluster none list.groups

/-- The exchanges say what the types of the versions are. -/
def Listed (cluster : String) (exchanges : List Exchange) (versions : List GroupVersion)
    (entries : List (String × ResourceList)) : Prop :=
  List.Forall₂ (fun version entry => entry.1 = version.version ∧
    ⟨cluster, .listResources version.groupVersion, .ok entry.2⟩ ∈ exchanges) versions entries

theorem Listed.mono {cluster : String} {exchanges more : List Exchange}
    {versions : List GroupVersion} {entries : List (String × ResourceList)}
    (h : Listed cluster exchanges versions entries) (hsub : exchanges ⊆ more) :
    Listed cluster more versions entries :=
  List.Forall₂.imp (fun _ _ hentry => ⟨hentry.1, hsub hentry.2⟩) h

/-- The group is the last image group of the list, and the exchanges say what its types are. -/
def IsLast (cluster : String) (exchanges : List Exchange) (groups : List Group)
    (found : FoundGroup) : Prop :=
  ∃ front back, groups = front ++ found.group :: back ∧ found.group.name = imageGroup ∧
    (∀ group ∈ back, group.name ≠ imageGroup) ∧
    Listed cluster exchanges found.group.versions found.versions

theorem IsLast.cons {cluster : String} {exchanges more : List Exchange} {groups : List Group}
    {found : FoundGroup} (h : IsLast cluster exchanges groups found) (hsub : exchanges ⊆ more)
    (group : Group) : IsLast cluster more (group :: groups) found := by
  obtain ⟨front, back, rfl, hname, hback, hlisted⟩ := h
  exact ⟨group :: front, back, rfl, hname, hback, hlisted.mono hsub⟩

/-- The exchanges list the groups of a server, and what is found is the last image group among
them, if there is one. -/
def Discovered (cluster : String) (exchanges : List Exchange) (found : Option FoundGroup) : Prop :=
  ∃ list : GroupList, ⟨cluster, .listGroups, .ok list⟩ ∈ exchanges ∧
    match found with
    | none => ∀ group ∈ list.groups, group.name ≠ imageGroup
    | some found => IsLast cluster exchanges list.groups found

theorem run_listVersions {cluster : String} {versions : List GroupVersion}
    {exchanges : List Exchange} {entries : List (String × ResourceList)}
    (h : Plan.Run (listVersions cluster versions) exchanges (.ok entries)) :
    Listed cluster exchanges versions entries := by
  induction versions generalizing exchanges entries with
  | nil =>
      obtain ⟨-, heq⟩ := Plan.run_pure_iff.mp h
      obtain rfl := Except.ok.inj heq
      exact .nil
  | cons version versions ih =>
      obtain ⟨reply, first, second, hsend, hrest, rfl⟩ := Plan.run_bind_iff.mp h
      -- One version that cannot be listed fails all of them.
      cases reply with
      | error cause => cases (Plan.run_pure_iff.mp hrest).2
      | ok types =>
          obtain rfl := Plan.run_send_ok hsend
          obtain ⟨others, third, last, hothers, hlast, rfl⟩ := Plan.run_bind_iff.mp hrest
          cases others with
          | error cause => cases (Plan.run_pure_iff.mp hlast).2
          | ok others =>
              obtain ⟨rfl, heq⟩ := Plan.run_pure_iff.mp hlast
              obtain rfl := Except.ok.inj heq
              rw [List.append_nil]
              exact .cons ⟨rfl, List.mem_cons_self⟩
                ((ih hothers).mono (List.subset_append_right _ _))

/-- The group that is found is the one that was found before, or the last one in the list. -/
theorem run_findGroup {cluster : String} {before result : Option FoundGroup} {groups : List Group}
    {exchanges : List Exchange}
    (h : Plan.Run (findGroup cluster before groups) exchanges (.ok result)) :
    result = before ∧ (∀ group ∈ groups, group.name ≠ imageGroup) ∨
      ∃ found, result = some found ∧ IsLast cluster exchanges groups found := by
  induction groups generalizing before exchanges with
  | nil =>
      obtain ⟨-, heq⟩ := Plan.run_pure_iff.mp h
      exact Or.inl ⟨Except.ok.inj heq, nofun⟩
  | cons group groups ih =>
      unfold findGroup at h
      by_cases hname : group.name = imageGroup
      · rw [if_neg (not_not.mpr hname)] at h
        by_cases hempty : group.versions.isEmpty = true
        · rw [if_pos hempty] at h
          cases (Plan.run_pure_iff.mp h).2
        · rw [if_neg hempty] at h
          obtain ⟨listed, first, second, hlist, hrest, rfl⟩ := Plan.run_bind_iff.mp h
          cases listed with
          | error cause => cases (Plan.run_pure_iff.mp hrest).2
          | ok versions =>
              -- A later group of the name replaces this one.
              rcases ih hrest with ⟨rfl, hnone⟩ | ⟨found, rfl, hlast⟩
              · have hlisted := (run_listVersions hlist).mono (List.subset_append_left _ second)
                exact Or.inr ⟨⟨group, versions⟩, rfl, [], groups, rfl, hname, hnone, hlisted⟩
              · exact Or.inr ⟨found, rfl, hlast.cons (List.subset_append_right _ _) group⟩
      · rw [if_pos hname] at h
        rcases ih h with ⟨rfl, hnone⟩ | ⟨found, rfl, hlast⟩
        · exact Or.inl ⟨rfl, List.forall_mem_cons.mpr ⟨hname, hnone⟩⟩
        · exact Or.inr ⟨found, rfl, hlast.cons (List.Subset.refl _) group⟩

/-- A discovery that succeeds finds what its exchanges say. -/
theorem discovered_of_run {cluster : String} {exchanges : List Exchange}
    {found : Option FoundGroup} (h : Plan.Run (discover cluster) exchanges (.ok found)) :
    Discovered cluster exchanges found := by
  obtain ⟨reply, first, second, hsend, hrest, rfl⟩ := Plan.run_bind_iff.mp h
  cases reply with
  | error cause => cases (Plan.run_pure_iff.mp hrest).2
  | ok list =>
      obtain rfl := Plan.run_send_ok hsend
      refine ⟨list, List.mem_cons_self, ?_⟩
      rcases run_findGroup hrest with ⟨rfl, hnone⟩ | ⟨found, rfl, front, back, hlast⟩
      · exact hnone
      · obtain ⟨hgroups, hname, hback, hlisted⟩ := hlast
        exact ⟨front, back, hgroups, hname, hback, hlisted.mono (List.subset_append_right _ _)⟩

def verdict (outcome : Except CallError (Option FoundGroup)) : Except CallError Bool :=
  outcome.map fun found => found.any FoundGroup.showsImageStreams

/-- Checking listed groups is discovering the image group and looking at it. -/
theorem checkGroups_eq (cluster : String) (found : Option FoundGroup) (groups : List Group) :
    checkGroups cluster (found.any FoundGroup.showsImageStreams) groups =
      findGroup cluster found groups >>= fun outcome => pure (verdict outcome) := by
  induction groups generalizing found with
  | nil => rfl
  | cons group groups ih =>
      by_cases hname : group.name = imageGroup
      · by_cases hempty : group.versions.isEmpty = true
        · simp only [checkGroups, findGroup, hname, hempty, ne_eq, not_true, if_false, if_true,
            pure_bind]
          rfl
        · rw [Bool.not_eq_true] at hempty
          simp only [checkGroups, findGroup, hname, hempty, ne_eq, not_true, if_false, bind_assoc,
            Bool.false_eq_true]
          congr 1
          funext listed
          -- Either both stop at the failure, or both go on with the group that was just found.
          cases listed with
          | error cause => rfl
          | ok versions => exact ih (some ⟨group, versions⟩)
      · simp only [checkGroups, findGroup, hname, ne_eq, not_false_eq_true, if_true]
        exact ih found

/-- A check is one discovery and a look at the group that it found. -/
theorem imageApiServed_eq (cluster : String) :
    imageApiServed cluster = discover cluster >>= fun outcome => pure (verdict outcome) := by
  rw [imageApiServed, discover, bind_assoc]
  congr 1
  funext reply
  cases reply with
  | error cause => rfl
  | ok list => exact checkGroups_eq cluster none list.groups

end TagSync
