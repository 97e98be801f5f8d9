import TagSync.Settings

/-!
# Sets that variables list

A variable of the environment lists a set: its pieces between commas are names with blanks around
them, or nothing but blanks (`NameSet.SpelledBy`). The set that is read is the set that is listed,
whatever the order, the repetitions and the blanks (`NameSet.parse_eq_iff`), so environments that
list the same sets lead to the same settings (`Settings.ofEnvironment_eq`).
-/

set_option autoImplicit false

namespace TagSync

open TagSync.Text

/-! ## Pieces between commas -/

/-- The text is these pieces with commas between them; no piece has a comma of its own. -/
structure IsSplit (text : String) (ps : List String) : Prop where
  ne_nil : ps ≠ []
  joined : text = ",".intercalate ps
  noComma : ∀ p ∈ ps, ',' ∉ p.toList

theorem toList_intercalate_comma (ps : List String) :
    (",".intercalate ps).toList = [','].intercalate (ps.map String.toList) :=
  String.toList_intercalate

theorem IsSplit.pieces_eq {text : String} {ps : List String} (h : IsSplit text ps) :
    pieces ',' text.toList = ps.map String.toList := by
  rw [h.joined, toList_intercalate_comma, pieces_eq_splitOn]
  refine List.splitOn_intercalate ',' ?_ (by simpa using h.ne_nil)
  simpa using h.noComma

theorem exists_isSplit (text : String) : ∃ ps, IsSplit text ps := by
  refine ⟨(pieces ',' text.toList).map String.ofList, ?_, ?_, ?_⟩
  · simpa using pieces_ne_nil ',' text.toList
  · apply String.toList_inj.mp
    have hid : String.toList ∘ String.ofList = id := funext fun cs => String.toList_ofList
    rw [toList_intercalate_comma, List.map_map, hid, List.map_id, pieces_eq_splitOn,
      List.intercalate_splitOn]
  · intro p hp
    obtain ⟨cs, hcs, rfl⟩ := List.mem_map.mp hp
    rw [String.toList_ofList]
    exact not_mem_of_mem_pieces hcs

/-! ## Names in pieces -/

/-- The piece is the name with blanks around it. -/
def Shows (piece name : String) : Prop := IsPadded name.toList piece.toList

/-- A name that can be listed: it is not empty, has no comma, and has no blank at either end. -/
structure IsItem (name : String) : Prop where
  nonempty : name ≠ ""
  noComma : ',' ∉ name.toList
  trimmed : IsTrimmed name.toList

section

variable {piece name other : String}

theorem Shows.noComma (h : Shows piece name) : ',' ∉ piece.toList ↔ ',' ∉ name.toList := by
  obtain ⟨front, back, hpiece, hfront, hback⟩ := h
  have hblank : isBlank ',' = false := by decide
  have hfront' : ',' ∉ front := fun hmem => by simp [hfront _ hmem] at hblank
  have hback' : ',' ∉ back := fun hmem => by simp [hback _ hmem] at hblank
  simp [hpiece, hfront', hback']

theorem Shows.eq (h : Shows piece name) (h' : Shows piece other) (htrim : IsTrimmed name.toList)
    (htrim' : IsTrimmed other.toList) : name = other := by
  have hname : trim piece.toList = name.toList := trim_eq_iff.mpr ⟨htrim, h⟩
  have hother : trim piece.toList = other.toList := trim_eq_iff.mpr ⟨htrim', h'⟩
  exact String.toList_inj.mp (hname.symm.trans hother)

theorem isTrimmed_empty : IsTrimmed "".toList := ⟨nofun, nofun⟩

end

/-! ## Sets that are read -/

namespace NameSet

variable {text name : String} {ps : List String} {s : NameSet}

/-- A set that is read has the names that pieces show, without blanks at their ends. -/
theorem contains_parse_iff (h : IsSplit text ps) : (parse text).contains name = true ↔
    name ≠ "" ∧ ∃ p ∈ ps, IsTrimmed name.toList ∧ Shows p name := by
  -- A name is a text with characters, and a piece is a list of them.
  have hempty : name.toList = [] ↔ name = "" := by
    rw [← String.toList_inj]
    rfl
  rw [parse, contains_ofList, h.pieces_eq]
  constructor
  · intro hmem
    obtain ⟨cs, hcs, rfl⟩ := List.mem_map.mp hmem
    obtain ⟨hcs, hne⟩ := List.mem_filter.mp hcs
    obtain ⟨_, hpiece, htrim⟩ := List.mem_map.mp hcs
    obtain ⟨p, hp, rfl⟩ := List.mem_map.mp hpiece
    simp only [Ne, ← hempty, Shows, String.toList_ofList]
    exact ⟨by simpa using hne, p, hp, trim_eq_iff.mp htrim⟩
  · rintro ⟨hne, p, hp, htrim⟩
    refine List.mem_map.mpr ⟨name.toList, List.mem_filter.mpr ⟨?_, ?_⟩, String.ofList_toList⟩
    · refine List.mem_map.mpr ⟨p.toList, List.mem_map_of_mem hp, ?_⟩
      exact trim_eq_iff.mpr htrim
    · simpa [hempty] using hne

theorem isItem_of_contains_parse (h : (parse text).contains name = true) : IsItem name := by
  obtain ⟨ps, hsplit⟩ := exists_isSplit text
  obtain ⟨hne, p, hp, htrim, hshows⟩ := (contains_parse_iff hsplit).mp h
  exact ⟨hne, hshows.noComma.mp (hsplit.noComma p hp), htrim⟩

/-! ## Sets that are listed -/

/-- The pieces list a set: each shows a name of the set or nothing, and each name is shown. -/
structure Listed (s : NameSet) (ps : List String) : Prop where
  shown : ∀ p ∈ ps, Shows p "" ∨ ∃ name, s.contains name = true ∧ Shows p name
  every : ∀ name, s.contains name = true → ∃ p ∈ ps, Shows p name

/-- The text lists a set of names that can be listed, in any order, with any repetitions and blanks,
and with any empty pieces. -/
def SpelledBy (s : NameSet) (text : String) : Prop :=
  (∀ name, s.contains name = true → IsItem name) ∧
    ∃ ps, text = ",".intercalate ps ∧ s.Listed ps

theorem Listed.noComma (h : s.Listed ps) (items : ∀ name, s.contains name = true → IsItem name) :
    ∀ p ∈ ps, ',' ∉ p.toList := by
  intro p hp
  rcases h.shown p hp with hshows | ⟨name, hname, hshows⟩
  · exact hshows.noComma.mpr nofun
  · exact hshows.noComma.mpr (items name hname).noComma

theorem parse_eq_of_listed (items : ∀ name, s.contains name = true → IsItem name)
    (h : s.Listed ps) (hne : ps ≠ []) : parse (",".intercalate ps) = s := by
  have hsplit : IsSplit (",".intercalate ps) ps := ⟨hne, rfl, h.noComma items⟩
  refine ext fun name => (contains_parse_iff hsplit).trans ⟨?_, fun hname => ?_⟩
  · rintro ⟨hname, p, hp, htrim, hshows⟩
    rcases h.shown p hp with hblank | ⟨other, hother, hshows'⟩
    · exact absurd (hshows.eq hblank htrim isTrimmed_empty) hname
    · rwa [hshows.eq hshows' htrim (items other hother).trimmed]
  · obtain ⟨p, hp, hshows⟩ := h.every name hname
    exact ⟨(items name hname).nonempty, p, hp, (items name hname).trimmed, hshows⟩

theorem Listed.empty_piece (h : s.Listed []) : s.Listed [""] where
  shown p hp := by
    obtain rfl := List.mem_singleton.mp hp
    exact Or.inl ⟨[], [], rfl, nofun, nofun⟩
  every name hname := by
    obtain ⟨p, hp, -⟩ := h.every name hname
    cases hp

theorem spelledBy_parse (text : String) : (parse text).SpelledBy text := by
  obtain ⟨ps, hsplit⟩ := exists_isSplit text
  refine ⟨fun name => isItem_of_contains_parse, ps, hsplit.joined, fun p hp => ?_,
    fun name hname => ?_⟩
  · obtain ⟨htrim, hshows⟩ := trim_eq_iff.mp (rfl : trim p.toList = trim p.toList)
    rw [← String.toList_ofList (l := trim p.toList)] at htrim hshows
    by_cases hempty : String.ofList (trim p.toList) = ""
    · exact Or.inl (hempty ▸ hshows)
    · exact Or.inr ⟨_, (contains_parse_iff hsplit).mpr ⟨hempty, p, hp, htrim, hshows⟩, hshows⟩
  · obtain ⟨-, p, hp, -, hshows⟩ := (contains_parse_iff hsplit).mp hname
    exact ⟨p, hp, hshows⟩

/-- A text lists one set, and that is read from it. -/
theorem parse_eq_iff : parse text = s ↔ s.SpelledBy text := by
  constructor
  · rintro rfl
    exact spelledBy_parse text
  · rintro ⟨items, ps, rfl, h⟩
    cases ps with
    | nil =>
        have hjoined : ",".intercalate [] = ",".intercalate [""] := rfl
        rw [hjoined]
        exact parse_eq_of_listed items h.empty_piece (List.cons_ne_nil _ _)
    | cons p ps => exact parse_eq_of_listed items h (List.cons_ne_nil p ps)

end NameSet

/-! ## Environments -/

def listVariables : List String := [
  "CLUSTERS", "IMAGE_STREAM_TAGS", "IMAGE_STREAMS", "IMAGE_STREAM_PREFIXES",
  "IMAGE_STREAM_NAMESPACES", "DENIED_IMAGE_STREAMS"]

def otherVariables : List String := ["KUBECONFIG", "PULL_SECRET_PATH", "REQUEUE_SECS"]

/-- Two environments list the same sets; a variable that is not set lists none. -/
def SameItems (first second : String → Option String) : Prop :=
  ∀ v ∈ listVariables, ∃ s : NameSet,
    s.SpelledBy ((first v).getD "") ∧ s.SpelledBy ((second v).getD "")

namespace Settings

variable {first second environment : String → Option String} {s : Settings}

theorem names_eq_of_sameItems (h : SameItems first second) {v : String}
    (hv : v ∈ listVariables) : names first v = names second v := by
  obtain ⟨s, hfirst, hsecond⟩ := h v hv
  exact (NameSet.parse_eq_iff.mpr hfirst).trans (NameSet.parse_eq_iff.mpr hsecond).symm

def filterIn (environment : String → Option String) : TagFilter where
  tags := names environment "IMAGE_STREAM_TAGS"
  streams := names environment "IMAGE_STREAMS"
  beginnings := names environment "IMAGE_STREAM_PREFIXES"
  namespaces := names environment "IMAGE_STREAM_NAMESPACES"
  denied := names environment "DENIED_IMAGE_STREAMS"

theorem filterIn_eq_of_sameItems (h : SameItems first second) :
    filterIn first = filterIn second := by
  have hnames : ∀ v ∈ listVariables, names first v = names second v :=
    fun v => names_eq_of_sameItems h
  simp only [listVariables, List.forall_mem_cons] at hnames
  obtain ⟨-, htags, hstreams, hbeginnings, hnamespaces, hdenied, -⟩ := hnames
  rw [filterIn, filterIn, htags, hstreams, hbeginnings, hnamespaces, hdenied]

theorem of_ofEnvironment (h : ofEnvironment environment = .ok s) :
    s.clusters = names environment "CLUSTERS" ∧ s.filter = filterIn environment := by
  simp only [ofEnvironment, bind, Except.bind] at h
  split at h
  · cases h
  split at h
  · cases h
  split at h
  · cases h
  · obtain rfl := Except.ok.inj h
    exact ⟨rfl, rfl⟩

/-- Settings depend on the sets that are listed and on the other variables only. -/
theorem ofEnvironment_eq (h : SameItems first second)
    (others : ∀ v ∈ otherVariables, first v = second v) :
    ofEnvironment first = ofEnvironment second := by
  simp only [otherVariables, List.forall_mem_cons] at others
  obtain ⟨hkubeconfig, hsecret, hrequeue, -⟩ := others
  have hclusters : names first "CLUSTERS" = names second "CLUSTERS" :=
    names_eq_of_sameItems h (by simp [listVariables])
  have hfilter := filterIn_eq_of_sameItems h
  simp only [filterIn] at hfilter
  simp only [ofEnvironment, required, requeue, hkubeconfig, hsecret, hrequeue, hclusters, hfilter]

end Settings

/-- **A variable means the set of its trimmed items.** Of the pieces of a text the names are read
that they show, without blanks at their ends and without empty ones; what is read can be listed; and
a set is read from exactly the texts that list it, in any order, with any repetitions, blanks and
empty pieces. So environments that list the same sets select the same clusters and the same tags,
and if they agree on the other variables, they lead to the same settings or the same error. -/
theorem variables_mean_their_items :
    (∀ text, ∃ ps, IsSplit text ps) ∧
    (∀ text ps, IsSplit text ps → ∀ name, (NameSet.parse text).contains name = true ↔
      name ≠ "" ∧ ∃ p ∈ ps, IsTrimmed name.toList ∧ Shows p name) ∧
    (∀ text name, (NameSet.parse text).contains name = true → IsItem name) ∧
    (∀ text s, NameSet.parse text = s ↔ s.SpelledBy text) ∧
    ∀ first second, SameItems first second →
      (∀ s t, Settings.ofEnvironment first = .ok s → Settings.ofEnvironment second = .ok t →
        (∀ cluster, s.wants cluster = t.wants cluster) ∧
        ∀ ns name, s.filter.admits ns name = t.filter.admits ns name) ∧
      ((∀ v ∈ otherVariables, first v = second v) →
        Settings.ofEnvironment first = Settings.ofEnvironment second) := by
  refine ⟨exists_isSplit, fun text ps h name => NameSet.contains_parse_iff h,
    fun text name => NameSet.isItem_of_contains_parse, fun text s => NameSet.parse_eq_iff,
    fun first second same => ⟨fun s t hs ht => ?_, Settings.ofEnvironment_eq same⟩⟩
  obtain ⟨hclusters, hfilter⟩ := Settings.of_ofEnvironment hs
  obtain ⟨hclusters', hfilter'⟩ := Settings.of_ofEnvironment ht
  -- Both settings depend on the items of the variables only.
  have hselected : s.clusters = t.clusters := by
    rw [hclusters, hclusters']
    exact Settings.names_eq_of_sameItems same (by simp [listVariables])
  have hchosen : s.filter = t.filter := by
    rw [hfilter, hfilter', Settings.filterIn_eq_of_sameItems same]
  refine ⟨fun cluster => ?_, fun ns name => by rw [hchosen]⟩
  rw [Settings.wants, Settings.wants, hselected]

/-! ### Two environments -/

def neatEnvironment : String → Option String
  | "KUBECONFIG" => some "/etc/kubeconfig"
  | "PULL_SECRET_PATH" => some "/etc/pull-secret"
  | "IMAGE_STREAM_NAMESPACES" => some "ci,ocp"
  | "DENIED_IMAGE_STREAMS" => some "ocp/release"
  | _ => none

/-- The variables of `neatEnvironment` with blanks and repetitions and in another order. -/
def untidyEnvironment : String → Option String
  | "KUBECONFIG" => some "/etc/kubeconfig"
  | "PULL_SECRET_PATH" => some "/etc/pull-secret"
  | "IMAGE_STREAM_NAMESPACES" => some " ocp\u3000,\t, ci,ocp"
  | "DENIED_IMAGE_STREAMS" => some "ocp/release ,"
  | "IMAGE_STREAM_PREFIXES" => some ", "
  | _ => none

theorem untidy_lists_are_read_alike :
    SameItems neatEnvironment untidyEnvironment ∧
      NameSet.parse " ocp\u3000,\t, ci,ocp" = .ofList ["ci", "ocp"] ∧
      Settings.ofEnvironment neatEnvironment = Settings.ofEnvironment untidyEnvironment := by
  obtain ⟨-, -, -, hspelled, henvironments⟩ := variables_mean_their_items
  have read : ∀ v ∈ listVariables,
      NameSet.parse ((untidyEnvironment v).getD "") = .parse ((neatEnvironment v).getD "") := by
    decide +kernel
  have same : SameItems neatEnvironment untidyEnvironment := fun v hv =>
    ⟨.parse ((neatEnvironment v).getD ""), (hspelled _ _).mp rfl, (hspelled _ _).mp (read v hv)⟩
  refine ⟨same, by decide +kernel, (henvironments _ _ same).2 ?_⟩
  decide

end TagSync
