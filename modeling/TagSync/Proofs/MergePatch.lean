import Mathlib.Data.List.Induction
import TagSync.Proofs.WrittenFields

/-!
# Merge patches

A merge patch changes a JSON value (`Json.mergePatch`): it names fields of an object, and a field
that it does not name keeps all its values (`Json.named_mergeFields_of_not_mem`).
-/

set_option autoImplicit false

namespace TagSync.Json

/-! ## Fields by name -/

/-- The fields of an object; any other value has none. -/
def fieldsOf : Json → List (String × Json)
  | .obj fields => fields
  | _ => []

def named (name : String) (fields : List (String × Json)) : List (String × Json) :=
  fields.filter (·.1 == name)

/-- The value under a name, of which the last one counts; `null` if there is none. -/
def valueAt (name : String) (fields : List (String × Json)) : Json :=
  (((named name fields).getLast?).map (·.2)).getD .null

def without (name : String) (fields : List (String × Json)) : List (String × Json) :=
  fields.filter (·.1 != name)

/-! ## Patches -/

mutual

/-- What a merge patch makes of a value: an object is changed field by field, and anything else
takes the place of the value. -/
def mergePatch : (patch value : Json) → Json
  | .obj changes, value => .obj (mergeFields changes (fieldsOf value))
  | patch, _ => patch

/-- What the changes of a merge patch make of fields: `null` takes a field off, and any other value
is a patch of the field. -/
def mergeFields : (changes fields : List (String × Json)) → List (String × Json)
  | [], fields => fields
  | (name, .null) :: changes, fields => mergeFields changes (without name fields)
  | (name, patch) :: changes, fields =>
    mergeFields changes (without name fields ++ [(name, mergePatch patch (valueAt name fields))])

end

/-- One field is replaced in depth, and one is taken off. -/
example :
    mergePatch (.obj [("metadata", .obj [("labels", .null), ("owner", .str "ci")])])
      (.obj [("metadata", .obj [("labels", .obj []), ("name", .str "app")]), ("spec", .null)]) =
    .obj [("spec", .null), ("metadata", .obj [("name", .str "app"), ("owner", .str "ci")])] := rfl

section Patches

variable {name other : String} {patch value : Json} {changes fields : List (String × Json)}

theorem mergeFields_cons (h : patch ≠ .null) (changes fields : List (String × Json)) :
    mergeFields ((name, patch) :: changes) fields =
      mergeFields changes
        (without name fields ++ [(name, mergePatch patch (valueAt name fields))]) := by
  cases patch with
  | null => exact absurd rfl h
  | _ => rw [mergeFields.eq_3 _ _ _ _ (by nofun)]

theorem named_append (name : String) (front back : List (String × Json)) :
    named name (front ++ back) = named name front ++ named name back :=
  List.filter_append ..

theorem named_without_self (name : String) (fields : List (String × Json)) :
    named name (without name fields) = [] := by
  refine List.filter_eq_nil_iff.mpr fun f hf hname => ?_
  exact absurd (eq_of_beq hname) (bne_iff_ne.mp (List.mem_filter.mp hf).2)

theorem named_filter {keeps : String × Json → Bool} (h : ∀ f, f.1 = name → keeps f = true)
    (fields : List (String × Json)) : named name (fields.filter keeps) = named name fields := by
  rw [named, named, List.filter_filter]
  refine List.filter_congr fun f _ => ?_
  by_cases hname : f.1 = name
  · rw [h f hname, Bool.and_true]
  · rw [beq_false_of_ne hname, Bool.false_and]

theorem named_without_of_ne (h : name ≠ other) (fields : List (String × Json)) :
    named name (without other fields) = named name fields :=
  named_filter (fun _ hname => bne_iff_ne.mpr (hname ▸ h)) fields

theorem named_singleton_of_ne (h : name ≠ other) (value : Json) :
    named name [(other, value)] = [] :=
  List.filter_cons_of_neg (by simpa using h.symm)

/-- A field that a patch does not name keeps all its values. -/
theorem named_mergeFields_of_not_mem (h : name ∉ changes.map (·.1))
    (fields : List (String × Json)) :
    named name (mergeFields changes fields) = named name fields := by
  induction changes generalizing fields with
  | nil => rw [mergeFields]
  | cons change changes ih =>
      obtain ⟨other, patch⟩ := change
      rw [List.map_cons, List.mem_cons, not_or] at h
      by_cases hpatch : patch = .null
      · rw [hpatch, mergeFields, ih h.2, named_without_of_ne h.1]
      · rw [mergeFields_cons hpatch, ih h.2, named_append, named_without_of_ne h.1,
          named_singleton_of_ne h.1, List.append_nil]

/-- A field that a patch names once has the patched value only. -/
theorem named_mergeFields_of_mem (nodup : (changes.map (·.1)).Nodup)
    (h : (name, patch) ∈ changes) (hpatch : patch ≠ .null) (fields : List (String × Json)) :
    named name (mergeFields changes fields) =
      [(name, mergePatch patch (valueAt name fields))] := by
  induction changes generalizing fields with
  | nil => cases h
  | cons change changes ih =>
      obtain ⟨other, first⟩ := change
      obtain ⟨hfresh, hnodup⟩ := List.nodup_cons.mp nodup
      rcases List.mem_cons.mp h with heq | hrest
      · obtain ⟨rfl, rfl⟩ := Prod.mk.inj heq
        rw [mergeFields_cons hpatch, named_mergeFields_of_not_mem hfresh, named_append,
          named_without_self, List.nil_append]
        exact List.filter_cons_of_pos (beq_self_eq_true name)
      · have hne : name ≠ other := by
          rintro rfl
          exact hfresh (List.mem_map.mpr ⟨_, hrest, rfl⟩)
        -- The first change leaves the field as it is, so the others find the same value.
        have hsame (fields' : List (String × Json)) (heq : named name fields' = named name fields) :
            named name (mergeFields changes fields') =
              [(name, mergePatch patch (valueAt name fields))] := by
          rw [ih hnodup hrest, valueAt, heq, valueAt]
        by_cases hfirst : first = .null
        · rw [hfirst, mergeFields]
          exact hsame _ (named_without_of_ne hne fields)
        · rw [mergeFields_cons hfirst]
          refine hsame _ ?_
          rw [named_append, named_without_of_ne hne, named_singleton_of_ne hne, List.append_nil]

theorem named_mergeFields_singleton (name : String) (hpatch : patch ≠ .null)
    (fields : List (String × Json)) :
    named name (mergeFields [(name, patch)] fields) =
      [(name, mergePatch patch (valueAt name fields))] := by
  have hnodup : ([(name, patch)].map (·.1)).Nodup := List.pairwise_singleton _ name
  exact named_mergeFields_of_mem hnodup List.mem_cons_self hpatch fields

theorem valueAt_of_named (h : named name fields = [(name, value)]) :
    valueAt name fields = value := by
  rw [valueAt, h]
  rfl

end Patches

/-! ## What is read of fields -/

section Reading

variable {α : Type} {read : Json → Option α} {name : String} {fs gs : Fields}

theorem Fields.last_congr (h : named name fs.entries = named name gs.entries)
    (read : Json → Option α) : fs.last name read = gs.last name read := by
  have hsame : (fs.entries.filter fun f => f.1 == name) =
      gs.entries.filter fun f => f.1 == name := h
  rw [Fields.last, Fields.last, hsame]

theorem lookup_congr {fields fields' : List (String × Json)}
    (h : named name fields = named name fields') : fields.lookup name = fields'.lookup name := by
  have hsame : (fields.filter fun f => f.1 == name) = fields'.filter fun f => f.1 == name := h
  rw [lookup_eq_head?_filter, lookup_eq_head?_filter, hsame]

theorem Fields.Shows.last_eq {slot : Option Json} (h : fs.Shows name slot)
    (read : Json → Option α) : fs.last name read = slot.elim (some none) (orNull? read) := by
  rw [Fields.last, h]
  cases slot with
  | none => rfl
  | some value =>
      show _ = orNull? read value
      cases h : orNull? read value with
      | none => simp [h]
      | some slot => simp [h]

theorem Fields.Shows.last_map {write : α → Json} {slot : Option α}
    (h : fs.Shows name (slot.map write)) (hread : ∀ a, orNull? read (write a) = some (some a)) :
    fs.last name read = some slot := by
  rw [h.last_eq]
  cases slot with
  | none => rfl
  | some a => exact hread a

theorem Fields.Shows.last_none (h : fs.Shows name none) (read : Json → Option α) :
    fs.last name read = some none :=
  h.last_eq read

theorem Fields.Shows.valueAt_eq {slot : Option Json} (h : fs.Shows name slot) :
    valueAt name fs.entries = slot.getD .null := by
  have hnamed : named name fs.entries = (slot.map (name, ·)).toList := h
  rw [valueAt, hnamed]
  cases slot <;> rfl

theorem asList?_strings (items : List String) :
    asList? asString? (.strings items) = some items := by
  have hitems : (items.map Json.str).mapM asString? = some (items.map id) :=
    mapM_map_eq_some fun _ _ => rfl
  rw [Json.strings, asList?, hitems, List.map_id]

theorem asMap?_ofMap (m : NameMap String) : asMap? asString? (.ofMap .str m) = some m := by
  have hentries : (m.entries.map fun e => (e.1, Json.str e.2)).mapM
      (fun f => (asString? f.2).map fun a => (f.1, a)) = some (m.entries.map id) :=
    mapM_map_eq_some fun _ _ => rfl
  rw [ofMap, asMap?, hentries, List.map_id]
  exact congrArg some m.ofList_entries

/-- A field whose last value counts is read of the value at its name. -/
theorem Fields.orNull?_valueAt {slot : Option α} (h : fs.last name read = some slot) :
    orNull? read (valueAt name fs.entries) = some slot := by
  obtain ⟨values, hvalues, hlast⟩ := Option.bind_eq_some_iff.mp h
  have hnamed : (named name fs.entries).mapM (fun f => orNull? read f.2) = some values := hvalues
  rw [valueAt]
  -- Only the last field of the name counts, so the fields are split from their end.
  cases hfields : named name fs.entries using List.reverseRecOn with
  | nil =>
      rw [hfields] at hnamed
      obtain rfl := Option.some.inj hnamed
      exact hlast
  | append_singleton front f _ =>
      rw [hfields, List.mapM_append] at hnamed
      simp only [List.mapM_cons, List.mapM_nil, Option.bind_eq_bind,
        Option.bind_eq_some_iff] at hnamed
      obtain ⟨earlier, -, back, ⟨value, hvalue, rest, hrest, hback⟩, hall⟩ := hnamed
      obtain rfl := Option.some.inj hrest
      obtain rfl := Option.some.inj hback
      obtain rfl := Option.some.inj hall
      simp at hlast
      simp [hvalue, hlast]

/-- What is under a name of a map is read from the last of the values there. -/
theorem get?_of_asMap? {v : Json} {m : NameMap α} (h : asMap? read v = some m) (name : String) :
    m.get? name = ((named name (fieldsOf v)).getLast?).bind fun f => read f.2 := by
  rw [asMap?.eq_def] at h
  split at h
  · next fields =>
    obtain ⟨entries, hentries, heq⟩ := Option.bind_eq_some_iff.mp h
    obtain rfl := Option.some.inj heq
    show (NameMap.ofList entries).get? name = ((named name fields).getLast?).bind fun f => read f.2
    clear h heq
    -- By induction on the fields from the last one, which is the one that counts.
    induction fields using List.reverseRecOn generalizing entries with
    | nil =>
        obtain rfl := Option.some.inj hentries
        rfl
    | append_singleton fields f ih =>
        simp only [List.mapM_append, List.mapM_cons, List.mapM_nil, Option.bind_eq_bind,
          Option.bind_eq_some_iff, Option.map_eq_some_iff] at hentries
        obtain ⟨front, hfront, back, ⟨e, ⟨a, ha, rfl⟩, rest, hrest, hback⟩, hall⟩ := hentries
        obtain rfl := Option.some.inj hrest
        obtain rfl := Option.some.inj hback
        obtain rfl := Option.some.inj hall
        have hinsert : NameMap.ofList (front ++ [(f.1, a)]) =
            (NameMap.ofList front).insert f.1 a := by
          rw [NameMap.ofList, List.foldl_append]
          rfl
        rw [hinsert, named_append]
        by_cases hname : f.1 = name
        · obtain rfl := hname
          have hself : named f.1 [f] = [f] := List.filter_cons_of_pos (beq_self_eq_true _)
          rw [NameMap.get?_insert_self, hself, List.getLast?_append]
          exact ha.symm
        · rw [NameMap.get?_insert_of_ne _ _ (Ne.symm hname), named_singleton_of_ne (Ne.symm hname),
            List.append_nil]
          exact ih front hfront
  · cases h

end Reading

end TagSync.Json
