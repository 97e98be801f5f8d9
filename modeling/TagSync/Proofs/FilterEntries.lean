import Mathlib.Data.List.Basic
import TagSync.TagFilter

/-!
# Where the entries of a filter act

Entries of a filter stand for single tags, for streams, for streams whose names begin in a certain
way, and for namespaces. All of them but the last kind have a namespace in front of their first
slash (`TagFilter.IsWellFormed`), and it is only there that they act: filters that agree on the
entries for a namespace admit the same of its tags, more entries admit more, and a denial reaches
the tags of its stream that nothing but their namespace lets in (`entries_act_where_they_say`).
-/

set_option autoImplicit false

namespace TagSync

/-! ## Names inside of namespaces -/

theorem toList_qualified (ns name : String) :
    (qualified ns name).toList = ns.toList ++ '/' :: name.toList := by
  simp [qualified]

theorem eq_of_qualified_prefix {ns ns' name name' : String} (hns : '/' ∉ ns.toList)
    (hns' : '/' ∉ ns'.toList)
    (h : (qualified ns name).toList <+: (qualified ns' name').toList) : ns = ns' := by
  obtain ⟨rest, hrest⟩ := h
  rw [toList_qualified, toList_qualified, List.append_assoc, List.cons_append] at hrest
  -- Both namespaces are what stands before the first slash.
  have hfront : (ns.toList ++ '/' :: (name.toList ++ rest)).takeWhile (· != '/') = ns.toList :=
    (TagName.takeWhile_dropWhile_glued hns _).1
  have hfront' : (ns'.toList ++ '/' :: name'.toList).takeWhile (· != '/') = ns'.toList :=
    (TagName.takeWhile_dropWhile_glued hns' _).1
  rw [hrest, hfront'] at hfront
  exact String.toList_inj.mp hfront.symm

theorem qualified_right_inj {ns name name' : String}
    (h : qualified ns name = qualified ns name') : name = name' := by
  have hchars : ns.toList ++ '/' :: name.toList = ns.toList ++ '/' :: name'.toList := by
    rw [← toList_qualified, ← toList_qualified, h]
  have hrest := List.append_cancel_left hchars
  exact String.toList_inj.mp (List.cons.inj hrest).2

theorem qualified_eq_iff {ns ns' name name' : String} (hns : '/' ∉ ns.toList)
    (hns' : '/' ∉ ns'.toList) :
    qualified ns name = qualified ns' name' ↔ ns = ns' ∧ name = name' := by
  constructor
  · intro h
    have hprefix : (qualified ns name).toList <+: (qualified ns' name').toList :=
      h ▸ List.prefix_refl _
    obtain rfl := eq_of_qualified_prefix hns hns' hprefix
    exact ⟨rfl, qualified_right_inj h⟩
  · rintro ⟨rfl, rfl⟩
    rfl

namespace TagFilter

/-! ## What a filter admits -/

/-- An entry for the tag, for its stream or for a beginning of its stream lets a tag of a namespace
in. -/
inductive Picks (f : TagFilter) (ns : String) (n : TagName) : Prop
  | tag : f.tags.contains (qualified ns n.toName) = true → Picks f ns n
  | stream : f.streams.contains (qualified ns n.stream) = true → Picks f ns n
  | beginning {b : String} : f.beginnings.contains b = true →
      b.toList <+: (qualified ns n.stream).toList → Picks f ns n

/-- A tag is admitted if an entry picks it, or if its namespace is listed and its stream is not
denied. Names that are not those of tags are not admitted. -/
theorem admits_iff {f : TagFilter} {ns name : String} :
    f.admits ns name = true ↔ ∃ n : TagName, n.Names name ∧
      (f.Picks ns n ∨
        f.namespaces.contains ns = true ∧ f.denied.contains (qualified ns n.stream) = false) := by
  cases hparse : TagName.parse? name with
  | none =>
      constructor
      · intro h
        simp [admits, hparse] at h
      · rintro ⟨n, hn, -⟩
        cases hparse.symm.trans hn.parse?
  | some n =>
      have hn : n.Names name := TagName.parse?_eq_some_iff.mp hparse
      have hname : name = n.toName := hn.1
      have hbeginnings : (f.beginnings.toList.any fun b =>
            b.toList.isPrefixOf (qualified ns n.stream).toList) = true ↔
          ∃ b, f.beginnings.contains b = true ∧
            b.toList <+: (qualified ns n.stream).toList := by
        simp only [List.any_eq_true, NameSet.contains_iff_mem, List.isPrefixOf_iff_prefix]
      have hadmits : f.admits ns name = true ↔
          ((f.tags.contains (qualified ns n.toName) = true ∨
            f.streams.contains (qualified ns n.stream) = true) ∨
            ∃ b, f.beginnings.contains b = true ∧
              b.toList <+: (qualified ns n.stream).toList) ∨
          f.namespaces.contains ns = true ∧
            f.denied.contains (qualified ns n.stream) = false := by
        rw [← hbeginnings]
        simp only [admits, hparse, ← hname, Bool.or_eq_true, Bool.and_eq_true,
          Bool.not_eq_true']
      rw [hadmits]
      constructor
      · rintro (((h | h) | ⟨b, hb, hprefix⟩) | h)
        · exact ⟨n, hn, Or.inl (.tag h)⟩
        · exact ⟨n, hn, Or.inl (.stream h)⟩
        · exact ⟨n, hn, Or.inl (.beginning hb hprefix)⟩
        · exact ⟨n, hn, Or.inr h⟩
      · rintro ⟨n', hn', h⟩
        -- The name has only these parts.
        obtain rfl : n = n' := Option.some.inj (hparse.symm.trans hn'.parse?)
        rcases h with h | h
        · cases h with
          | tag h => exact Or.inl (Or.inl (Or.inl h))
          | stream h => exact Or.inl (Or.inl (Or.inr h))
          | beginning hb hprefix => exact Or.inl (Or.inr ⟨_, hb, hprefix⟩)
        · exact Or.inr h

/-! ## Entries for a namespace -/

/-- The entry has a namespace in front of a slash. -/
def IsQualified (entry : String) : Prop :=
  ∃ ns rest, '/' ∉ ns.toList ∧ entry = qualified ns rest

/-- Every entry has its form: namespaces are without a slash, and all others are inside of a
namespace. -/
structure IsWellFormed (f : TagFilter) : Prop where
  tags : ∀ entry, f.tags.contains entry = true → IsQualified entry
  streams : ∀ entry, f.streams.contains entry = true → IsQualified entry
  beginnings : ∀ entry, f.beginnings.contains entry = true → IsQualified entry
  namespaces : ∀ entry, f.namespaces.contains entry = true → '/' ∉ entry.toList
  denied : ∀ entry, f.denied.contains entry = true → IsQualified entry

/-- Two filters have the same entries for a namespace. -/
structure AgreeFor (ns : String) (f g : TagFilter) : Prop where
  tags : ∀ rest, f.tags.contains (qualified ns rest) = g.tags.contains (qualified ns rest)
  streams : ∀ rest,
    f.streams.contains (qualified ns rest) = g.streams.contains (qualified ns rest)
  beginnings : ∀ rest,
    f.beginnings.contains (qualified ns rest) = g.beginnings.contains (qualified ns rest)
  namespaces : f.namespaces.contains ns = g.namespaces.contains ns
  denied : ∀ rest, f.denied.contains (qualified ns rest) = g.denied.contains (qualified ns rest)

theorem AgreeFor.symm {ns : String} {f g : TagFilter} (h : AgreeFor ns f g) :
    AgreeFor ns g f where
  tags rest := (h.tags rest).symm
  streams rest := (h.streams rest).symm
  beginnings rest := (h.beginnings rest).symm
  namespaces := h.namespaces.symm
  denied rest := (h.denied rest).symm

section

variable {f g : TagFilter} {ns ns' name entry stream : String} {n : TagName}

theorem Picks.of_agreeFor (hns : '/' ∉ ns.toList) (hf : f.IsWellFormed) (h : AgreeFor ns f g)
    (hpick : f.Picks ns n) : g.Picks ns n := by
  cases hpick with
  | tag hmem => exact .tag (h.tags n.toName ▸ hmem)
  | stream hmem => exact .stream (h.streams n.stream ▸ hmem)
  | @beginning b hmem hprefix =>
      -- A beginning for another namespace would end in front of the slash or go beyond it.
      obtain ⟨home, rest, hhome, rfl⟩ := hf.beginnings b hmem
      obtain rfl : home = ns := eq_of_qualified_prefix hhome hns hprefix
      exact .beginning (h.beginnings rest ▸ hmem) hprefix

theorem admits_of_agreeFor (hns : '/' ∉ ns.toList) (hf : f.IsWellFormed) (h : AgreeFor ns f g)
    (hadmits : f.admits ns name = true) : g.admits ns name = true := by
  obtain ⟨n, hn, hlet⟩ := admits_iff.mp hadmits
  refine admits_iff.mpr ⟨n, hn, ?_⟩
  rcases hlet with hpick | ⟨hlisted, hdenied⟩
  · exact Or.inl (hpick.of_agreeFor hns hf h)
  · exact Or.inr ⟨h.namespaces ▸ hlisted, h.denied n.stream ▸ hdenied⟩

/-! ## More entries -/

/-- The second filter has all entries of the first one and denies the same. -/
structure GrowsTo (f g : TagFilter) : Prop where
  tags : ∀ entry, f.tags.contains entry = true → g.tags.contains entry = true
  streams : ∀ entry, f.streams.contains entry = true → g.streams.contains entry = true
  beginnings : ∀ entry, f.beginnings.contains entry = true → g.beginnings.contains entry = true
  namespaces : ∀ entry, f.namespaces.contains entry = true → g.namespaces.contains entry = true
  denied : g.denied = f.denied

theorem Picks.of_growsTo (h : GrowsTo f g) (hpick : f.Picks ns n) : g.Picks ns n := by
  cases hpick with
  | tag hmem => exact .tag (h.tags _ hmem)
  | stream hmem => exact .stream (h.streams _ hmem)
  | beginning hmem hprefix => exact .beginning (h.beginnings _ hmem) hprefix

theorem admits_of_growsTo (h : GrowsTo f g) (hadmits : f.admits ns name = true) :
    g.admits ns name = true := by
  obtain ⟨n, hn, hlet⟩ := admits_iff.mp hadmits
  refine admits_iff.mpr ⟨n, hn, ?_⟩
  rcases hlet with hpick | ⟨hlisted, hdenied⟩
  · exact Or.inl (hpick.of_growsTo h)
  · exact Or.inr ⟨h.namespaces ns hlisted, h.denied ▸ hdenied⟩

/-! ## Denials -/

/-- The second filter is the first one with one denial more. -/
structure AlsoDenies (entry : String) (f g : TagFilter) : Prop where
  tags : g.tags = f.tags
  streams : g.streams = f.streams
  beginnings : g.beginnings = f.beginnings
  namespaces : g.namespaces = f.namespaces
  fresh : f.denied.contains entry = false
  denied : ∀ other,
    g.denied.contains other = true ↔ f.denied.contains other = true ∨ other = entry

theorem AlsoDenies.picks_iff (h : AlsoDenies entry f g) : g.Picks ns n ↔ f.Picks ns n := by
  constructor
  · rintro (hmem | hmem | ⟨hmem, hprefix⟩)
    · exact .tag (h.tags ▸ hmem)
    · exact .stream (h.streams ▸ hmem)
    · exact .beginning (h.beginnings ▸ hmem) hprefix
  · rintro (hmem | hmem | ⟨hmem, hprefix⟩)
    · exact .tag (h.tags.symm ▸ hmem)
    · exact .stream (h.streams.symm ▸ hmem)
    · exact .beginning (h.beginnings.symm ▸ hmem) hprefix

/-- With the denial a tag is admitted if it was before and does not depend on the denied entry. -/
theorem AlsoDenies.admits_iff (h : AlsoDenies entry f g) (hn : n.Names name) :
    g.admits ns name = true ↔
      f.admits ns name = true ∧ (f.Picks ns n ∨ qualified ns n.stream ≠ entry) := by
  -- A name stands for one stream and one tag, so all conditions are about these.
  have only : ∀ n' : TagName, n'.Names name → n' = n := fun n' hn' =>
    Option.some.inj (hn'.parse?.symm.trans hn.parse?)
  have hdenied : g.denied.contains (qualified ns n.stream) = false ↔
      f.denied.contains (qualified ns n.stream) = false ∧ qualified ns n.stream ≠ entry := by
    rw [← Bool.not_eq_true, h.denied, not_or, Bool.not_eq_true]
  constructor
  · intro hadmits
    obtain ⟨n', hn', hlet⟩ := TagFilter.admits_iff.mp hadmits
    obtain rfl := only n' hn'
    rcases hlet with hpick | ⟨hlisted, hfree⟩
    · have hpick : f.Picks ns n' := h.picks_iff.mp hpick
      exact ⟨TagFilter.admits_iff.mpr ⟨n', hn', Or.inl hpick⟩, Or.inl hpick⟩
    · obtain ⟨hfree, hne⟩ := hdenied.mp hfree
      have hlisted : f.namespaces.contains ns = true := h.namespaces ▸ hlisted
      exact ⟨TagFilter.admits_iff.mpr ⟨n', hn', Or.inr ⟨hlisted, hfree⟩⟩, Or.inr hne⟩
  · rintro ⟨hadmits, hpick | hne⟩
    · exact TagFilter.admits_iff.mpr ⟨n, hn, Or.inl (h.picks_iff.mpr hpick)⟩
    · obtain ⟨n', hn', hlet⟩ := TagFilter.admits_iff.mp hadmits
      obtain rfl := only n' hn'
      refine TagFilter.admits_iff.mpr ⟨n', hn', ?_⟩
      rcases hlet with hpick | ⟨hlisted, hfree⟩
      · exact Or.inl (h.picks_iff.mpr hpick)
      · exact Or.inr ⟨h.namespaces.symm ▸ hlisted, hdenied.mpr ⟨hfree, hne⟩⟩

/-- A denial turns away the tags of its stream that nothing but their namespace lets in. -/
theorem AlsoDenies.admits_ne_iff (hns : '/' ∉ ns.toList) (hns' : '/' ∉ ns'.toList)
    (h : AlsoDenies (qualified ns stream) f g) :
    f.admits ns' name ≠ g.admits ns' name ↔ ns' = ns ∧ ∃ tag,
      TagName.Names ⟨stream, tag⟩ name ∧ f.namespaces.contains ns = true ∧
        ¬ f.Picks ns ⟨stream, tag⟩ := by
  constructor
  · intro hne
    -- The denial takes away and gives nothing, so it was admitted before and is not any more.
    by_cases hf : f.admits ns' name = true
    · have hg : ¬ g.admits ns' name = true := fun hg => hne (hf.trans hg.symm)
      obtain ⟨n, hn, hlet⟩ := TagFilter.admits_iff.mp hf
      rw [h.admits_iff hn, not_and, not_or, Classical.not_not] at hg
      obtain ⟨hpick, hentry⟩ := hg hf
      obtain ⟨rfl, hstream⟩ := (qualified_eq_iff hns' hns).mp hentry
      have hlisted := (hlet.resolve_left hpick).1
      subst hstream
      exact ⟨rfl, n.tag, hn, hlisted, hpick⟩
    · have hg : ¬ g.admits ns' name = true := by
        intro hg
        obtain ⟨n, hn, -⟩ := TagFilter.admits_iff.mp hg
        exact hf ((h.admits_iff hn).mp hg).1
      rw [Bool.not_eq_true] at hf hg
      exact absurd (hf.trans hg.symm) hne
  · rintro ⟨rfl, tag, hn, hlisted, hpick⟩ heq
    have hf : f.admits ns' name = true :=
      TagFilter.admits_iff.mpr ⟨_, hn, Or.inr ⟨hlisted, h.fresh⟩⟩
    have hg := ((h.admits_iff hn).mp (heq ▸ hf)).2
    rcases hg with hpick' | hne
    · exact hpick hpick'
    · exact hne rfl

end

end TagFilter

/-- **Entries act where they say.** Filters whose entries have their forms decide alike on the tags
of a namespace if they have the same entries for it. More entries, as long as no denial is among
them, never turn a tag away. A denial of a stream makes a difference exactly to those tags of the
stream that their listed namespace lets in and that no entry picks. Whatever is not the name of a
tag is turned away by every filter. -/
theorem entries_act_where_they_say :
    (∀ (f g : TagFilter) (ns : String), '/' ∉ ns.toList → f.IsWellFormed → g.IsWellFormed →
      f.AgreeFor ns g → ∀ name, f.admits ns name = g.admits ns name) ∧
    (∀ f g : TagFilter, f.GrowsTo g → ∀ ns name,
      f.admits ns name = true → g.admits ns name = true) ∧
    (∀ (f g : TagFilter) (ns stream : String), '/' ∉ ns.toList →
      f.AlsoDenies (qualified ns stream) g → ∀ ns' name, '/' ∉ ns'.toList →
        (f.admits ns' name ≠ g.admits ns' name ↔ ns' = ns ∧ ∃ tag,
          TagName.Names ⟨stream, tag⟩ name ∧ f.namespaces.contains ns = true ∧
            ¬ f.Picks ns ⟨stream, tag⟩)) ∧
    ∀ (f : TagFilter) (ns name : String), (∀ n : TagName, ¬ n.Names name) →
      f.admits ns name = false := by
  refine ⟨?_, ?_, ?_, ?_⟩
  · intro f g ns hns hf hg hagree name
    rw [Bool.eq_iff_iff]
    exact ⟨TagFilter.admits_of_agreeFor hns hf hagree,
      TagFilter.admits_of_agreeFor hns hg hagree.symm⟩
  · intro f g hgrows ns name hadmits
    exact TagFilter.admits_of_growsTo hgrows hadmits
  · intro f g ns stream hns hdenies ns' name hns'
    exact hdenies.admits_ne_iff hns hns'
  · intro f ns name hnone
    rw [← Bool.not_eq_true]
    intro hadmits
    obtain ⟨n, hn, -⟩ := TagFilter.admits_iff.mp hadmits
    exact hnone n hn

/-! ### A denial next to other entries -/

/-- A whole namespace but for what is denied there, and some streams of another one. -/
def ocpFilter (denied : List String) : TagFilter where
  beginnings := .ofList ["openshift/knative-"]
  namespaces := .ofList ["ocp"]
  denied := .ofList denied

/-- The same, and a further namespace whose name begins in the same way. -/
def widerFilter : TagFilter where
  beginnings := .ofList ["openshift/knative-"]
  namespaces := .ofList ["ocp", "ocp-private"]
  denied := .ofList ["ocp-private/ruby", "ocp/release"]

def pickedFilter : TagFilter :=
  { ocpFilter ["ocp/release"] with streams := .ofList ["ocp/release"] }

theorem isWellFormed_ocpFilter : (ocpFilter ["ocp/release"]).IsWellFormed where
  tags := nofun
  streams := nofun
  beginnings := by
    intro entry h
    obtain rfl := List.mem_singleton.mp (NameSet.contains_iff_mem.mp h)
    exact ⟨"openshift", "knative-", by decide, rfl⟩
  namespaces := by
    intro entry h
    obtain rfl := List.mem_singleton.mp (NameSet.contains_iff_mem.mp h)
    decide
  denied := by
    intro entry h
    obtain rfl := List.mem_singleton.mp (NameSet.contains_iff_mem.mp h)
    exact ⟨"ocp", "release", by decide, rfl⟩

theorem isWellFormed_widerFilter : widerFilter.IsWellFormed where
  tags := nofun
  streams := nofun
  beginnings := isWellFormed_ocpFilter.beginnings
  namespaces := by
    intro entry h
    rcases List.mem_pair.mp (NameSet.contains_iff_mem.mp h) with rfl | rfl
    · decide
    · decide
  denied := by
    intro entry h
    rcases List.mem_pair.mp (NameSet.contains_iff_mem.mp h) with rfl | rfl
    · exact ⟨"ocp-private", "ruby", by decide, rfl⟩
    · exact ⟨"ocp", "release", by decide, rfl⟩

/-- The further namespace has entries of its own only. -/
theorem agreeFor_widerFilter :
    TagFilter.AgreeFor "ocp" (ocpFilter ["ocp/release"]) widerFilter where
  tags _ := rfl
  streams _ := rfl
  beginnings _ := rfl
  namespaces := rfl
  denied := by
    intro rest
    have hother : qualified "ocp" rest ≠ "ocp-private/ruby" := by
      intro h
      have hboth : qualified "ocp" rest = qualified "ocp-private" "ruby" := h
      exact absurd ((qualified_eq_iff (by decide) (by decide)).mp hboth).1 (by decide)
    rw [Bool.eq_iff_iff, NameSet.contains_iff_mem, NameSet.contains_iff_mem]
    show qualified "ocp" rest ∈ ["ocp/release"] ↔
      qualified "ocp" rest ∈ ["ocp-private/ruby", "ocp/release"]
    rw [List.mem_singleton, List.mem_pair, or_iff_right hother]

theorem denial_reaches_its_stream :
    (∀ name, (ocpFilter ["ocp/release"]).admits "ocp" name = widerFilter.admits "ocp" name) ∧
      pickedFilter.admits "ocp" "ruby:2.3" = true ∧
      (ocpFilter []).admits "ocp" "release:4.7" ≠
        (ocpFilter ["ocp/release"]).admits "ocp" "release:4.7" ∧
      (ocpFilter []).admits "ocp" "release" = false := by
  obtain ⟨hagree, hgrows, hdenies, hnone⟩ := entries_act_where_they_say
  refine ⟨?_, ?_, ?_, ?_⟩
  · exact hagree _ _ "ocp" (by decide) isWellFormed_ocpFilter isWellFormed_widerFilter
      agreeFor_widerFilter
  · refine hgrows (ocpFilter ["ocp/release"]) pickedFilter ?_ "ocp" "ruby:2.3" (by decide)
    exact ⟨fun _ => id, nofun, fun _ => id, fun _ => id, rfl⟩
  · have denies : (ocpFilter []).AlsoDenies (qualified "ocp" "release")
        (ocpFilter ["ocp/release"]) := by
      refine ⟨rfl, rfl, rfl, rfl, rfl, fun other => ?_⟩
      rw [NameSet.contains_iff_mem]
      show other ∈ ["ocp/release"] ↔ false = true ∨ other = "ocp/release"
      simp
    refine (hdenies _ _ _ _ (by decide) denies "ocp" "release:4.7" (by decide)).mpr
      ⟨rfl, "4.7", TagName.parse?_eq_some_iff.mp (by decide), rfl, ?_⟩
    -- The stream is picked by no entry of the filter.
    rintro (hmem | hmem | ⟨hmem, hprefix⟩)
    · cases hmem
    · cases hmem
    · obtain rfl := List.mem_singleton.mp (NameSet.contains_iff_mem.mp hmem)
      revert hprefix
      decide
  · refine hnone _ _ _ fun n hn => ?_
    have hcolon : ':' ∈ "release".toList := by
      rw [hn.1]
      simp
    revert hcolon
    decide

end TagSync
