/-!
# Maps and sets of names

`NameMap α` holds values under names and lists them in name order, that is, by code points;
`NameSet` holds names alone. Both are lists with a proof that the names ascend, so every traversal
is a traversal in name order.
-/

set_option autoImplicit false

namespace TagSync

/-! ## Maps -/

/-- Puts a value under a name, in place of an earlier one. -/
def insertByName {α : Type} (name : String) (value : α) :
    List (String × α) → List (String × α)
  | [] => [(name, value)]
  | (other, kept) :: rest =>
    if name < other then (name, value) :: (other, kept) :: rest
    else if name = other then (name, value) :: rest
    else (other, kept) :: insertByName name value rest

/-- An entry after an insertion is the new one or was there before. -/
theorem mem_insertByName {α : Type} {name : String} {value : α} {e : String × α}
    {entries : List (String × α)} (h : e ∈ insertByName name value entries) :
    e = (name, value) ∨ e ∈ entries := by
  induction entries with
  | nil => simpa [insertByName] using h
  | cons d rest ih =>
    obtain ⟨other, kept⟩ := d
    simp only [insertByName] at h
    split at h
    · simpa using h
    · split at h
      · rcases List.mem_cons.1 h with h | h
        · exact .inl h
        · exact .inr (List.mem_cons_of_mem _ h)
      · rcases List.mem_cons.1 h with h | h
        · exact .inr (h ▸ List.mem_cons_self)
        · exact (ih h).imp id (List.mem_cons_of_mem _)

/-- Insertion keeps the names ascending. -/
theorem pairwise_insertByName {α : Type} (name : String) (value : α)
    {entries : List (String × α)} (h : entries.Pairwise (·.1 < ·.1)) :
    (insertByName name value entries).Pairwise (·.1 < ·.1) := by
  induction entries with
  | nil => simp [insertByName]
  | cons d rest ih =>
    obtain ⟨other, kept⟩ := d
    obtain ⟨hd, hr⟩ := List.pairwise_cons.1 h
    simp only [insertByName]
    split
    · next hlt =>
      refine List.pairwise_cons.2 ⟨fun e he => ?_, h⟩
      rcases List.mem_cons.1 he with he | he
      · exact he ▸ hlt
      · exact String.lt_trans hlt (hd e he)
    · next hlt =>
      split
      · next heq => exact List.pairwise_cons.2 ⟨fun e he => heq ▸ hd e he, hr⟩
      · next hne =>
        refine List.pairwise_cons.2 ⟨fun e he => ?_, ih hr⟩
        rcases mem_insertByName he with he | he
        · subst he
          -- The new name is neither before the other one nor the same, so it is behind.
          rcases Decidable.em (other < name) with h' | h'
          · exact h'
          · exact absurd (String.le_antisymm (String.not_lt.1 h') (String.not_lt.1 hlt)) hne
        · exact hd e he

theorem lookup_eq_some_iff_mem {α : Type} {l : List (String × α)} (h : (l.map (·.1)).Nodup)
    {name : String} {a : α} : l.lookup name = some a ↔ (name, a) ∈ l := by
  constructor
  · intro hl
    obtain ⟨front, back, rfl, -⟩ := List.lookup_eq_some_iff.mp hl
    simp
  · intro hmem
    obtain ⟨front, back, rfl⟩ := List.append_of_mem hmem
    refine List.lookup_eq_some_iff.mpr ⟨front, back, rfl, fun p hp => ?_⟩
    rw [List.map_append, List.map_cons, List.nodup_append] at h
    simpa using fun heq : name = p.1 =>
      h.2.2 p.1 (List.mem_map_of_mem hp) name List.mem_cons_self heq.symm

theorem insertByName_of_forall_lt {α : Type} {name : String} (value : α)
    {entries : List (String × α)} (h : ∀ e ∈ entries, e.1 < name) :
    insertByName name value entries = entries ++ [(name, value)] := by
  induction entries with
  | nil => rfl
  | cons e entries ih =>
    obtain ⟨he, hentries⟩ := List.forall_mem_cons.1 h
    have hnot : ¬ name < e.1 := fun hlt => String.lt_irrefl _ (String.lt_trans he hlt)
    have hne : name ≠ e.1 := fun heq => String.lt_irrefl _ (heq ▸ he)
    rw [insertByName, if_neg hnot, if_neg hne, ih hentries, List.cons_append]

theorem foldl_insertByName {α : Type} {front back : List (String × α)}
    (h : (front ++ back).Pairwise (·.1 < ·.1)) :
    back.foldl (fun done e => insertByName e.1 e.2 done) front = front ++ back := by
  induction back generalizing front with
  | nil => simp
  | cons e back ih =>
    have hfront : ∀ d ∈ front, d.1 < e.1 := fun d hd =>
      (List.pairwise_append.1 h).2.2 d hd e List.mem_cons_self
    rw [List.foldl_cons, insertByName_of_forall_lt e.2 hfront]
    rw [List.append_cons] at h
    exact (ih h).trans (List.append_cons front e back).symm

theorem mem_foldl_insertByName {α : Type} {entries front : List (String × α)} {e : String × α}
    (h : e ∈ entries.foldl (fun done e => insertByName e.1 e.2 done) front) :
    e ∈ front ∨ e ∈ entries := by
  induction entries generalizing front with
  | nil => exact .inl h
  | cons d entries ih =>
    rcases ih h with h | h
    · rcases mem_insertByName h with rfl | h
      · exact .inr List.mem_cons_self
      · exact .inl h
    · exact .inr (List.mem_cons_of_mem _ h)

/-- Values under names, in name order. -/
structure NameMap (α : Type) where
  /-- The names with their values. -/
  entries : List (String × α)
  /-- The names ascend. -/
  ascending : entries.Pairwise (·.1 < ·.1)

namespace NameMap

variable {α : Type}

def empty : NameMap α := ⟨[], .nil⟩

instance : EmptyCollection (NameMap α) := ⟨empty⟩

instance : Inhabited (NameMap α) := ⟨empty⟩

/-- Puts a value under a name, in place of an earlier one. -/
def insert (m : NameMap α) (name : String) (value : α) : NameMap α :=
  ⟨insertByName name value m.entries, pairwise_insertByName name value m.ascending⟩

def get? (m : NameMap α) (name : String) : Option α :=
  m.entries.lookup name

def contains (m : NameMap α) (name : String) : Bool :=
  (m.get? name).isSome

def names (m : NameMap α) : List String :=
  m.entries.map (·.1)

def isEmpty (m : NameMap α) : Bool :=
  m.entries.isEmpty

/-- The map of a list of entries; the last one under a name counts. -/
def ofList (entries : List (String × α)) : NameMap α :=
  entries.foldl (fun m e => m.insert e.1 e.2) empty

def filter (keep : String → α → Bool) (m : NameMap α) : NameMap α :=
  ⟨m.entries.filter fun e => keep e.1 e.2, m.ascending.filter _⟩

theorem ext {m n : NameMap α} (h : m.entries = n.entries) : m = n := by
  cases m; cases n; cases h; rfl

instance [DecidableEq α] : DecidableEq (NameMap α) := fun m n =>
  if h : m.entries = n.entries then .isTrue (ext h) else .isFalse fun e => h (e ▸ rfl)

@[simp] theorem entries_empty : (empty : NameMap α).entries = [] := rfl

@[simp] theorem get?_empty (name : String) : (empty : NameMap α).get? name = none := rfl

@[simp] theorem get?_insert_self (m : NameMap α) (name : String) (value : α) :
    (m.insert name value).get? name = some value := by
  simp only [get?, insert]
  induction m.entries with
  | nil => simp [insertByName]
  | cons d rest ih =>
    obtain ⟨other, kept⟩ := d
    simp only [insertByName]
    split
    · simp
    · split
      · simp
      · next hne =>
        have hb : (name == other) = false := by simpa using hne
        simp [List.lookup_cons, hb, ih]

theorem contains_iff_mem {m : NameMap α} {name : String} :
    m.contains name = true ↔ name ∈ m.names := by
  simp only [contains, get?, names]
  induction m.entries with
  | nil => simp
  | cons d rest ih =>
      rw [List.lookup_cons, List.map_cons, List.mem_cons, ← ih]
      by_cases h : name = d.1
      · simp [h]
      · have hb : (name == d.1) = false := by simpa using h
        simp [h, hb]

/-- Other names keep their values. -/
theorem get?_insert_of_ne (m : NameMap α) {name other : String} (value : α) (h : other ≠ name) :
    (m.insert name value).get? other = m.get? other := by
  have hb : (other == name) = false := by simpa using h
  simp only [get?, insert]
  induction m.entries with
  | nil => simp [insertByName, List.lookup_cons, hb]
  | cons d rest ih =>
    obtain ⟨third, kept⟩ := d
    simp only [insertByName]
    split
    · simp [List.lookup_cons, hb]
    · split
      · next heq => subst heq; simp [List.lookup_cons, hb]
      · simp only [List.lookup_cons, ih]

theorem nodup_entries (m : NameMap α) : (m.entries.map (·.1)).Nodup := by
  refine (List.pairwise_map.mpr m.ascending).imp ?_
  rintro name _ hlt rfl
  exact String.lt_irrefl _ hlt

theorem get?_eq_some_iff_mem {m : NameMap α} {name : String} {a : α} :
    m.get? name = some a ↔ (name, a) ∈ m.entries :=
  lookup_eq_some_iff_mem m.nodup_entries

theorem get?_filter_eq_some_iff {keep : String → α → Bool} {m : NameMap α} {name : String} {a : α} :
    (m.filter keep).get? name = some a ↔ m.get? name = some a ∧ keep name a = true := by
  rw [get?_eq_some_iff_mem, get?_eq_some_iff_mem]
  exact List.mem_filter

theorem isEmpty_iff {m : NameMap α} : m.isEmpty = true ↔ ∀ name a, m.get? name ≠ some a := by
  simp only [ne_eq, get?_eq_some_iff_mem, isEmpty, List.isEmpty_iff, List.eq_nil_iff_forall_not_mem,
    Prod.forall]

theorem contains_insert {m : NameMap α} {name other : String} {value : α} :
    (m.insert name value).contains other = true ↔ other = name ∨ m.contains other = true := by
  simp only [contains]
  by_cases h : other = name
  · subst h
    simp
  · rw [get?_insert_of_ne m value h]
    simp [h]

theorem contains_ofList {entries : List (String × α)} {name : String} :
    (ofList entries).contains name = true ↔ name ∈ entries.map (·.1) := by
  have key : ∀ m : NameMap α, (entries.foldl (fun m e => m.insert e.1 e.2) m).contains name = true ↔
      m.contains name = true ∨ name ∈ entries.map (·.1) := by
    induction entries with
    | nil => simp
    | cons e entries ih =>
      intro m
      rw [List.foldl_cons, ih, contains_insert, List.map_cons, List.mem_cons]
      grind
  rw [ofList, key]
  simp [contains]

theorem entries_ofList (entries : List (String × α)) :
    (ofList entries).entries = entries.foldl (fun done e => insertByName e.1 e.2 done) [] := by
  have key : ∀ m : NameMap α, (entries.foldl (fun m e => m.insert e.1 e.2) m).entries =
      entries.foldl (fun done e => insertByName e.1 e.2 done) m.entries := by
    induction entries with
    | nil => exact fun _ => rfl
    | cons e entries ih => exact fun m => ih (m.insert e.1 e.2)
  exact key .empty

theorem mem_of_mem_ofList {entries : List (String × α)} {e : String × α}
    (h : e ∈ (ofList entries).entries) : e ∈ entries := by
  rw [entries_ofList] at h
  exact (mem_foldl_insertByName h).resolve_left List.not_mem_nil

theorem ofList_entries (m : NameMap α) : ofList m.entries = m := by
  refine ext ?_
  rw [entries_ofList, foldl_insertByName m.ascending, List.nil_append]

end NameMap

/-! ## Sets -/

/-- A set of names, in name order. -/
structure NameSet where
  /-- The names as a map to nothing. -/
  members : NameMap Unit
  deriving DecidableEq

namespace NameSet

def empty : NameSet := ⟨.empty⟩

instance : EmptyCollection NameSet := ⟨empty⟩

instance : Inhabited NameSet := ⟨empty⟩

def ofList (names : List String) : NameSet :=
  ⟨.ofList (names.map fun n => (n, ()))⟩

def toList (s : NameSet) : List String :=
  s.members.names

def contains (s : NameSet) (name : String) : Bool :=
  s.members.contains name

def isEmpty (s : NameSet) : Bool :=
  s.members.isEmpty

theorem contains_iff_mem {s : NameSet} {name : String} :
    s.contains name = true ↔ name ∈ s.toList :=
  NameMap.contains_iff_mem

theorem pairwise_toList (s : NameSet) : s.toList.Pairwise (· < ·) :=
  List.pairwise_map.mpr s.members.ascending

theorem nodup_toList (s : NameSet) : s.toList.Nodup :=
  s.pairwise_toList.imp fun h => by
    rintro rfl
    exact String.lt_irrefl _ h

theorem contains_ofList {names : List String} {name : String} :
    (ofList names).contains name = true ↔ name ∈ names := by
  show (NameMap.ofList (names.map fun n => (n, ()))).contains name = true ↔ _
  rw [NameMap.contains_ofList, List.map_map]
  simp

/-- A set is determined by its names. -/
theorem ext {s t : NameSet} (h : ∀ name, s.contains name = true ↔ t.contains name = true) :
    s = t := by
  have hperm : s.toList.Perm t.toList := by
    refine (List.perm_ext_iff_of_nodup s.nodup_toList t.nodup_toList).2 fun name => ?_
    rw [← contains_iff_mem, ← contains_iff_mem, h]
  have hanti : ∀ a b : String, a ∈ s.toList → b ∈ t.toList → a < b → b < a → a = b :=
    fun a b _ _ hab hba => absurd (String.lt_trans hab hba) (String.lt_irrefl a)
  have hnames : s.toList = t.toList :=
    hperm.eq_of_pairwise hanti s.pairwise_toList t.pairwise_toList
  have hentries : s.members.entries = t.members.entries :=
    (List.map_inj_right fun _ _ heq => Prod.ext heq rfl).1 hnames
  obtain ⟨m⟩ := s
  obtain ⟨n⟩ := t
  exact congrArg NameSet.mk (NameMap.ext hentries)

end NameSet

end TagSync
