import TagSync.Json.Record

/-!
# Reading written fields

A way to read values and a way to write them belong together if what was read can be written and
read again, with nothing lost but what is not written (`Json.RoundTrip`). Strings, numbers, lists,
maps and whole values have such ways.

A record is written slot by slot, and its fields show the slots (`Fields.Shows`). So it is enough to
read each field again from its slot, whichever way it is read (`last_written` and its like): that
gives a round trip of the record, lenient or strict (`RoundTrip.lenient`, `RoundTrip.strict`).
-/

set_option autoImplicit false

namespace TagSync

/-! ## Lists that are read item by item -/

section Items

variable {α β γ : Type}

/-- What comes out comes from an item. -/
theorem exists_of_mem_mapM {f : α → Option β} {items : List α} {bs : List β}
    (h : items.mapM f = some bs) : ∀ b ∈ bs, ∃ a ∈ items, f a = some b := by
  induction items generalizing bs with
  | nil =>
      obtain rfl := Option.some.inj h
      simp
  | cons a items ih =>
      simp only [List.mapM_cons, Option.bind_eq_bind, Option.bind_eq_some_iff] at h
      obtain ⟨b, hb, bs, hbs, heq⟩ := h
      obtain rfl := Option.some.inj heq
      refine List.forall_mem_cons.mpr ⟨⟨a, List.mem_cons_self, hb⟩, fun b' hb' => ?_⟩
      obtain ⟨a', ha', hread⟩ := ih hbs b' hb'
      exact ⟨a', List.mem_cons_of_mem _ ha', hread⟩

theorem mapM_map_eq_some {f : β → Option γ} {g : α → β} {k : α → γ} {as : List α}
    (h : ∀ a ∈ as, f (g a) = some (k a)) : (as.map g).mapM f = some (as.map k) := by
  induction as with
  | nil => rfl
  | cons a as ih =>
      obtain ⟨ha, has⟩ := List.forall_mem_cons.mp h
      rw [List.map_cons, List.mapM_cons, ha, ih has]
      rfl

theorem mapM_eq_self {f : α → Option α} {items : List α} (h : ∀ a ∈ items, f a = some a) :
    items.mapM f = some items := by
  have again := @mapM_map_eq_some α α α f id id items h
  rwa [List.map_id] at again

end Items

namespace Json

/-! ## Values -/

section Values

variable {α : Type} {read : Json → Option α} {write : α → Json} {kept : α → α}

/-- What was read is read again from what is written of it, but for what is lost in writing; and
`null` stands for itself only. -/
structure RoundTrip (read : Json → Option α) (write : α → Json) (kept : α → α) : Prop where
  back : ∀ {v a}, read v = some a → read (write a) = some (kept a)
  ne_null : ∀ {v a}, v ≠ .null → read v = some a → write a ≠ .null
  write_kept : ∀ a, write (kept a) = write a

theorem RoundTrip.string : RoundTrip asString? .str id :=
  ⟨fun _ => rfl, fun _ _ => nofun, fun _ => rfl⟩

theorem RoundTrip.bool : RoundTrip asBool? .bool id :=
  ⟨fun _ => rfl, fun _ _ => nofun, fun _ => rfl⟩

theorem RoundTrip.int (low high : Int) :
    RoundTrip (asIntBetween? low high) (fun n => .num (.int n)) id where
  back := by
    intro v n h
    rw [asIntBetween?.eq_def] at h
    split at h
    · obtain ⟨hn, heq⟩ := Option.ite_none_right_eq_some.mp h
      obtain rfl := Option.some.inj heq
      exact if_pos hn
    · cases h
  ne_null := fun _ _ => nofun
  write_kept _ := rfl

theorem RoundTrip.list (h : RoundTrip read write kept) :
    RoundTrip (asList? read) (fun as => .arr (as.map write)) (List.map kept) where
  back := by
    intro v as hread
    rw [asList?.eq_def] at hread
    split at hread
    · refine mapM_map_eq_some fun a ha => ?_
      obtain ⟨v, -, hv⟩ := exists_of_mem_mapM hread a ha
      exact h.back hv
    · cases hread
  ne_null := fun _ _ => nofun
  write_kept as := by simp only [List.map_map, Function.comp_def, h.write_kept]

theorem RoundTrip.exactList (h : RoundTrip read write id) :
    RoundTrip (asList? read) (fun as => .arr (as.map write)) id := by
  simpa using h.list

theorem RoundTrip.slotOfList_kept (h : RoundTrip read write kept) (items : List α) :
    slotOfList write (items.map kept) = slotOfList write items := by
  simp only [slotOfList, List.isEmpty_map, List.map_map, Function.comp_def, h.write_kept]

/-- Maps to values of which nothing is lost. -/
theorem RoundTrip.map (h : RoundTrip read write id) : RoundTrip (asMap? read) (ofMap write) id where
  back := by
    intro v m hread
    rw [asMap?.eq_def] at hread
    split at hread
    · next fields =>
      obtain ⟨entries, hentries, heq⟩ := Option.bind_eq_some_iff.mp hread
      obtain rfl := Option.some.inj heq
      -- Each value in the map is one that was read.
      have each : ∀ e ∈ (NameMap.ofList entries).entries,
          (read (write e.2)).map (fun a => (e.1, a)) = some e := by
        intro e he
        obtain ⟨f, -, hf⟩ := exists_of_mem_mapM hentries e (NameMap.mem_of_mem_ofList he)
        obtain ⟨a, ha, rfl⟩ := Option.map_eq_some_iff.mp hf
        rw [h.back ha]
        rfl
      rw [ofMap, asMap?, mapM_map_eq_some each, List.map_id']
      exact congrArg some (NameMap.ofList_entries _)
    · cases hread
  ne_null := fun _ _ => nofun
  write_kept _ := rfl

/-! ## Whole values -/

theorem insertField_eq (name : String) (value : Json) (fields : List (String × Json)) :
    insertField name value fields = insertByName name value fields := by
  induction fields with
  | nil => rfl
  | cons f fields ih => rw [insertField, insertByName, ih]

theorem settle?_arr {room : Nat} {items : List Json} {w : Json}
    (settled : ∀ {v w : Json}, v.settle? room = some w → w.settle? room = some w)
    (h : (arr items).settle? (room + 1) = some w) : w.settle? (room + 1) = some w := by
  rw [settle?] at h
  obtain ⟨items', hitems, rfl⟩ := Option.map_eq_some_iff.mp h
  have each : ∀ v ∈ items', v.settle? room = some v := fun v hv =>
    have ⟨_, _, hw⟩ := exists_of_mem_mapM hitems v hv
    settled hw
  rw [settle?, mapM_eq_self each]
  rfl

/-- Settled fields are settled as they are. -/
theorem settle?_obj {room : Nat} {fields : List (String × Json)} {w : Json}
    (settled : ∀ {v w : Json}, v.settle? room = some w → w.settle? room = some w)
    (h : (obj fields).settle? (room + 1) = some w) : w.settle? (room + 1) = some w := by
  rw [settle?] at h
  obtain ⟨entries, hentries, heq⟩ := Option.bind_eq_some_iff.mp h
  obtain rfl := Option.some.inj heq
  simp only [insertField_eq]
  rw [← NameMap.entries_ofList]
  have each : ∀ e ∈ (NameMap.ofList entries).entries,
      (e.2.settle? room).map (fun v => (e.1, v)) = some e := by
    intro e he
    obtain ⟨f, -, hf⟩ := exists_of_mem_mapM hentries e (NameMap.mem_of_mem_ofList he)
    obtain ⟨v, hv, rfl⟩ := Option.map_eq_some_iff.mp hf
    rw [settled hv]
    rfl
  simp only [settle?, mapM_eq_self each, Option.bind_eq_bind, Option.bind_some, insertField_eq,
    ← NameMap.entries_ofList, NameMap.ofList_entries]

/-- A settled value is settled as it is. -/
theorem settle?_settled {room : Nat} {v w : Json} (h : v.settle? room = some w) :
    w.settle? room = some w := by
  -- The induction is on how deep values may still be nested.
  induction room generalizing v w with
  | zero =>
      cases v with
      | null | bool | str => cases h; rfl
      | num n =>
          obtain ⟨hn, heq⟩ := Option.ite_none_right_eq_some.mp h
          cases heq
          exact h
      | arr | obj | garbled => cases h
  | succ room ih =>
      cases v with
      | null | bool | str => cases h; rfl
      | num n =>
          obtain ⟨hn, heq⟩ := Option.ite_none_right_eq_some.mp h
          cases heq
          exact h
      | arr items => exact settle?_arr ih h
      | obj fields => exact settle?_obj ih h
      | garbled => cases h

theorem RoundTrip.any (room : Nat) : RoundTrip (asAny? room) id id where
  back := settle?_settled
  ne_null := by
    intro v w hv h hw
    obtain rfl : w = .null := hw
    cases room <;> cases v <;> simp_all [asAny?, settle?, Option.bind_eq_some_iff]
  write_kept _ := rfl

end Values

/-! ## Fields from their slots -/

section Slots

variable {slots : List (String × Option Json)} {names : List String} {name : String}
  {slot : Option Json} {fs : Fields}

/-- All that stands under a name is what its slot holds. -/
def Fields.Shows (fs : Fields) (name : String) (slot : Option Json) : Prop :=
  fs.entries.filter (·.1 == name) = (slot.map (name, ·)).toList

/-- Every slot is shown. -/
def Fields.ShowsAll (fs : Fields) (slots : List (String × Option Json)) : Prop :=
  ∀ ⦃name : String⦄ ⦃slot : Option Json⦄, slots.lookup name = some slot → fs.Shows name slot

/-- Every slot with one of the given names is shown. -/
def Fields.ShowsKnown (fs : Fields) (names : List String) (slots : List (String × Option Json)) :
    Prop :=
  ∀ ⦃name : String⦄ ⦃slot : Option Json⦄, names.contains name = true →
    slots.lookup name = some slot → fs.Shows name slot

/-- Under names that differ, at most one value stands under each. -/
theorem filter_eq_lookup {entries : List (String × Json)} (h : (entries.map (·.1)).Nodup)
    (name : String) :
    entries.filter (·.1 == name) = ((entries.lookup name).map (name, ·)).toList := by
  induction entries with
  | nil => rfl
  | cons e entries ih =>
      obtain ⟨hfresh, hentries⟩ := List.nodup_cons.mp h
      by_cases heq : e.1 = name
      · have hrest : entries.filter (·.1 == name) = [] :=
          List.filter_eq_nil_iff.mpr fun d hd hname =>
            hfresh (List.mem_map.mpr ⟨d, hd, (eq_of_beq hname).trans heq.symm⟩)
        obtain rfl := heq
        rw [List.filter_cons, if_pos (beq_self_eq_true _), hrest, List.lookup_cons_self]
        rfl
      · have hne : (name == e.1) = false := beq_false_of_ne (Ne.symm heq)
        rw [List.filter_cons_of_neg (by simpa using heq), ih hentries, List.lookup_cons, hne]

theorem lookup_eq_head?_filter {α : Type} (entries : List (String × α)) (name : String) :
    entries.lookup name = ((entries.filter (·.1 == name)).head?).map (·.2) := by
  induction entries with
  | nil => rfl
  | cons e entries ih =>
      by_cases heq : e.1 = name
      · obtain rfl := heq
        rw [List.lookup_cons_self, List.filter_cons, if_pos (beq_self_eq_true _)]
        rfl
      · have hne : (name == e.1) = false := beq_false_of_ne (Ne.symm heq)
        rw [List.lookup_cons, hne, List.filter_cons_of_neg (by simpa using heq)]
        exact ih

theorem Fields.Shows.lookup_eq (h : fs.Shows name slot) : fs.entries.lookup name = slot := by
  rw [lookup_eq_head?_filter, h]
  cases slot <;> rfl

theorem nodup_compact (h : (slots.map (·.1)).Nodup) : ((compact slots).map (·.1)).Nodup := by
  refine h.sublist ?_
  clear h
  induction slots with
  | nil => exact .slnil
  | cons s slots ih =>
      rcases s with ⟨name, _ | v⟩
      · exact ih.cons _
      · exact ih.cons_cons _

theorem showsAll_compact (h : (slots.map (·.1)).Nodup) :
    Fields.ShowsAll ⟨compact slots⟩ slots := by
  intro name slot hslot
  rw [Fields.Shows, filter_eq_lookup (nodup_compact h), lookup_compact h, hslot]
  rfl

theorem exists_strict?_ofSlots (names : List String) (h : (slots.map (·.1)).Nodup) :
    ∃ fs, (ofSlots slots).strict? names = some fs ∧ fs.ShowsKnown names slots := by
  have hknown : (((compact slots).filter fun f => names.contains f.1).map (·.1)).Nodup :=
    (nodup_compact h).sublist (List.filter_sublist.map _)
  refine ⟨_, if_pos hknown, fun name slot hname hslot => ?_⟩
  rw [Fields.Shows, List.filter_filter, ← showsAll_compact h hslot]
  refine List.filter_congr fun f _ => ?_
  by_cases heq : f.1 = name
  · rw [heq, hname, Bool.and_true]
  · rw [beq_false_of_ne heq, Bool.false_and]

end Slots

/-! ## Fields that are read again -/

namespace Fields

variable {α : Type} {read : Json → Option α} {write : α → Json} {kept : α → α}
  {fs gs : Fields} {name value : String} {v : Json} {missing a : α} {items : List α}
  {slot : Option α}

theorem orNull?_written (was : orNull? read v = some (some a)) (h : RoundTrip read write kept) :
    orNull? read (write a) = some (some (kept a)) := by
  rw [orNull?.eq_def] at was
  split at was
  · cases was
  · next hv =>
    obtain ⟨b, hread, heq⟩ := Option.map_eq_some_iff.mp was
    obtain rfl := Option.some.inj heq
    rw [orNull?.eq_2 _ _ (h.ne_null hv hread), h.back hread]
    rfl

theorem required_written (was : gs.required name read = some a) (h : RoundTrip read write kept)
    (shows : fs.Shows name (some (write a))) : fs.required name read = some (kept a) := by
  obtain ⟨v, -, hread⟩ := Option.bind_eq_some_iff.mp was
  rw [Fields.required, shows.lookup_eq]
  exact h.back hread

theorem orElse_written (was : gs.orElse name missing read = some a)
    (hmissing : read v = some missing) (h : RoundTrip read write kept)
    (shows : fs.Shows name (some (write a))) : fs.orElse name missing read = some (kept a) := by
  have hread : ∃ v, read v = some a := by
    rw [Fields.orElse] at was
    split at was
    · exact ⟨v, hmissing.trans was⟩
    · exact ⟨_, was⟩
  obtain ⟨v, hv⟩ := hread
  rw [Fields.orElse, shows.lookup_eq]
  exact h.back hv

theorem list_written (was : gs.orElse name [] (asList? read) = some items)
    (h : RoundTrip read write kept) (shows : fs.Shows name (slotOfList write items)) :
    fs.orElse name [] (asList? read) = some (items.map kept) := by
  by_cases hempty : items = []
  · obtain rfl := hempty
    rw [Fields.orElse, shows.lookup_eq]
    rfl
  · rw [slotOfList, if_neg (by simpa using hempty)] at shows
    exact orElse_written was (v := .arr []) rfl h.list shows

theorem optional_written (was : gs.optional name read = some slot)
    (h : RoundTrip read write kept) (shows : fs.Shows name (slot.map write)) :
    fs.optional name read = some (slot.map kept) := by
  rw [Fields.optional, Fields.orElse, shows.lookup_eq]
  cases slot with
  | none => rfl
  | some a =>
      rw [Fields.optional, Fields.orElse] at was
      split at was
      · cases was
      · exact orNull?_written was h

/-- A field whose last value counts is read again. -/
theorem last_written (was : gs.last name read = some slot) (h : RoundTrip read write kept)
    (shows : fs.Shows name (slot.map write)) : fs.last name read = some (slot.map kept) := by
  rw [Fields.last, shows]
  cases slot with
  | none => rfl
  | some a =>
      obtain ⟨values, hvalues, heq⟩ := Option.bind_eq_some_iff.mp was
      have hlast : values.getLast? = some (some a) :=
        Option.join_eq_some_iff.mp (Option.some.inj heq)
      obtain ⟨f, -, hf⟩ := exists_of_mem_mapM hvalues _ (List.mem_of_getLast? hlast)
      simp only [Option.map_some, Option.toList_some, List.mapM_cons, List.mapM_nil,
        orNull?_written hf h]
      rfl

theorem any_written {room : Nat} {slot : Option Json}
    (was : gs.last name (asAny? room) = some slot) (shows : fs.Shows name slot) :
    fs.last name (asAny? room) = some slot := by
  have hslot : slot.map id = slot := by rw [Option.map_id, id]
  rw [last_written was (.any room) (hslot.symm ▸ shows), hslot]

/-- A field with a value of its own when it is missing is read again where its last value counts. -/
theorem lastOrElse_written (was : gs.lastOrElse name missing read = some a)
    (hnull : v ≠ .null) (hmissing : read v = some missing) (h : RoundTrip read write kept)
    (shows : fs.Shows name (some (write a))) :
    fs.lastOrElse name missing read = some (kept a) := by
  obtain ⟨slot, hslot, rfl⟩ := Option.map_eq_some_iff.mp was
  cases slot with
  | none =>
      have hv : Fields.last ⟨[(name, v)]⟩ name read = some (some missing) := by
        simp [Fields.last, orNull?, hmissing]
      rw [Fields.lastOrElse, last_written hv h shows]
      rfl
  | some a =>
      rw [Fields.lastOrElse, last_written hslot h shows]
      rfl

theorem text_written (was : gs.lastOrElse name "" asString? = some value)
    (shows : fs.Shows name (some (.str value))) :
    fs.lastOrElse name "" asString? = some value :=
  lastOrElse_written was (v := .str "") nofun rfl .string shows

theorem record_written (was : gs.lastOrElse name missing read = some a)
    (hmissing : read (.obj []) = some missing) (h : RoundTrip read write kept)
    (shows : fs.Shows name (some (write a))) :
    fs.lastOrElse name missing read = some (kept a) :=
  lastOrElse_written was (v := .obj []) nofun hmissing h shows

theorem allows_written (shows : fs.Shows name (some (.str value))) :
    fs.allows name value = true := by
  refine List.all_eq_true.mpr fun f hf => ?_
  by_cases heq : f.1 = name
  · have hmem : f ∈ fs.entries.filter (·.1 == name) :=
      List.mem_filter.mpr ⟨hf, beq_iff_eq.mpr heq⟩
    rw [shows] at hmem
    obtain rfl := List.mem_singleton.mp hmem
    simp [asString?]
  · rw [bne_iff_ne.mpr heq, Bool.true_or]

end Fields

/-! ## Records -/

section Records

variable {α : Type} {record : Fields → Option α} {slots : α → List (String × Option Json)}
  {kept : α → α}

/-- A record is read again if it is from whatever shows it, and what was written does. -/
theorem RoundTrip.ofFields {fields? : Json → Option Fields} {Shown : α → Fields → Prop}
    (shown : ∀ a, ∃ fs, fields? (ofSlots (slots a)) = some fs ∧ Shown a fs)
    (again : ∀ {gs fs : Fields} {a : α}, record gs = some a → Shown a fs →
      record fs = some (kept a))
    (write_kept : ∀ a, ofSlots (slots (kept a)) = ofSlots (slots a)) :
    RoundTrip (fun v => fields? v >>= record) (fun a => ofSlots (slots a)) kept where
  back := by
    intro v a h
    obtain ⟨gs, -, hread⟩ := Option.bind_eq_some_iff.mp h
    obtain ⟨fs, hfs, hshown⟩ := shown a
    exact Option.bind_eq_some_iff.mpr ⟨fs, hfs, again hread hshown⟩
  ne_null := fun _ _ => nofun
  write_kept := write_kept

/-- A lenient record is shown by fields that show all its slots. -/
theorem RoundTrip.lenient (nodup : ∀ a, ((slots a).map (·.1)).Nodup)
    (again : ∀ {gs fs : Fields} {a : α}, record gs = some a → fs.ShowsAll (slots a) →
      record fs = some (kept a))
    (write_kept : ∀ a, ofSlots (slots (kept a)) = ofSlots (slots a)) :
    RoundTrip (fun v => v.lenient? >>= record) (fun a => ofSlots (slots a)) kept :=
  .ofFields (fun a => ⟨_, rfl, showsAll_compact (nodup a)⟩) again write_kept

/-- A strict record is shown by fields that show the slots of its names. -/
theorem RoundTrip.strict {names : List String} (nodup : ∀ a, ((slots a).map (·.1)).Nodup)
    (again : ∀ {gs fs : Fields} {a : α}, record gs = some a → fs.ShowsKnown names (slots a) →
      record fs = some (kept a))
    (write_kept : ∀ a, ofSlots (slots (kept a)) = ofSlots (slots a)) :
    RoundTrip (fun v => v.strict? names >>= record) (fun a => ofSlots (slots a)) kept :=
  .ofFields (fun a => exists_strict?_ofSlots names (nodup a)) again write_kept

theorem RoundTrip.strictFull {names : List String} (nodup : ∀ a, ((slots a).map (·.1)).Nodup)
    (again : ∀ {gs fs : Fields} {a : α}, record gs = some a → fs.ShowsKnown names (slots a) →
      record fs = some (kept a))
    (write_kept : ∀ a, ofSlots (slots (kept a)) = ofSlots (slots a)) :
    RoundTrip (fun v => v.strictFull? names >>= record) (fun a => ofSlots (slots a)) kept :=
  .ofFields (fun a => exists_strict?_ofSlots names (nodup a)) again write_kept

end Records

end Json

end TagSync
