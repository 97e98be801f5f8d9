import TagSync.Json
import TagSync.NameMap
import TagSync.Text.Numeral

/-!
# Records in JSON

How the fields of a record are taken out of a JSON value and written into one. A *strict* record
refuses a repeated field of its own, and may also be written as the list of its fields' values. A
*lenient* record is an object; of a repeated field every occurrence has to be readable and the
last one counts. Both ignore fields that they do not know. `ofSlots` writes a record, leaving out
the fields without a value.

Main statement: looking a field up among those that `ofSlots` wrote gives the value of its slot
(`lookup_compact`).
-/

set_option autoImplicit false

namespace TagSync.Json

open TagSync.Text

/-! ## Single values -/

def asString? : Json → Option String
  | .str s => some s
  | _ => none

def asBool? : Json → Option Bool
  | .bool b => some b
  | _ => none

/-- Reads a whole number between two bounds, both included. -/
def asIntBetween? (low high : Int) : Json → Option Int
  | .num (.int n) => if low ≤ n ∧ n ≤ high then some n else none
  | _ => none

def asInt64? : Json → Option Int :=
  asIntBetween? (-(bitValues 63 : Int)) (bitValues 63 - 1)

def asInt32? : Json → Option Int :=
  asIntBetween? (-(bitValues 31 : Int)) (bitValues 31 - 1)

def asNatBelow? (limit : Nat) : Json → Option Nat
  | .num (.int n) => if 0 ≤ n ∧ n < limit then some n.toNat else none
  | _ => none

def asList? {α : Type} (read : Json → Option α) : Json → Option (List α)
  | .arr items => items.mapM read
  | _ => none

/-- Reads an object as a map from its names; the last value under a name counts. -/
def asMap? {α : Type} (read : Json → Option α) : Json → Option (NameMap α)
  | .obj fields => do
    let entries ← fields.mapM fun f => (read f.2).map fun a => (f.1, a)
    some (.ofList entries)
  | _ => none

/-- Reads a value in whose place `null` may stand. -/
def orNull? {α : Type} (read : Json → Option α) : Json → Option (Option α)
  | .null => some none
  | v => (read v).map some

/-- Reads any value as a whole, nested at most `room` deep. -/
def asAny? (room : Nat) (v : Json) : Option Json :=
  v.settle? room

/-! ## Strict records -/

/-- The known fields of a record, in any order. -/
structure Fields where
  /-- The names with their values. -/
  entries : List (String × Json)

/-- Takes the fields of the given names out of a value: out of an object, in which none of them
may be repeated, or out of a list that gives their values in the order of the names. -/
def strict? (names : List String) : Json → Option Fields
  | .obj fields =>
    let known := fields.filter fun f => names.contains f.1
    if (known.map (·.1)).Nodup then some ⟨known⟩ else none
  | .arr items => if items.length ≤ names.length then some ⟨names.zip items⟩ else none
  | _ => none

/-- As `strict?`, but a list has to give every field. -/
def strictFull? (names : List String) : Json → Option Fields
  | .arr items => if items.length = names.length then some ⟨names.zip items⟩ else none
  | v => strict? names v

namespace Fields

variable {α : Type}

def required (fs : Fields) (name : String) (read : Json → Option α) : Option α :=
  (fs.entries.lookup name).bind read

def orElse (fs : Fields) (name : String) (missing : α) (read : Json → Option α) : Option α :=
  match fs.entries.lookup name with
  | none => some missing
  | some v => read v

/-- A field that may be missing or `null`. -/
def optional (fs : Fields) (name : String) (read : Json → Option α) : Option (Option α) :=
  fs.orElse name none (orNull? read)

/-! ## Lenient records -/

/-- The last value of a field that may be missing or `null`; all its values have to be readable. -/
def last (fs : Fields) (name : String) (read : Json → Option α) : Option (Option α) := do
  let values ← (fs.entries.filter fun f => f.1 == name).mapM fun f => orNull? read f.2
  some (values.getLast?.join)

/-- As `last`, with a value of its own for a missing field. -/
def lastOrElse (fs : Fields) (name : String) (missing : α) (read : Json → Option α) : Option α :=
  (fs.last name read).map (·.getD missing)

/-- Whether a field, wherever it stands, holds just the given string. -/
def allows (fs : Fields) (name value : String) : Bool :=
  fs.entries.all fun f => f.1 != name || f.2.asString? == some value

end Fields

def lenient? : Json → Option Fields
  | .obj fields => some ⟨fields⟩
  | _ => none

/-! ## Writing -/

def compact (slots : List (String × Option Json)) : List (String × Json) :=
  slots.filterMap fun s => s.2.map fun v => (s.1, v)

/-- The object with the fields that have a value. -/
def ofSlots (slots : List (String × Option Json)) : Json :=
  .obj (compact slots)

def slotOfList {α : Type} (write : α → Json) (items : List α) : Option Json :=
  if items.isEmpty then none else some (.arr (items.map write))

def ofMap {α : Type} (write : α → Json) (m : NameMap α) : Json :=
  .obj (m.entries.map fun e => (e.1, write e.2))

/-! ## Reading what was written -/

/-- A field is found with the value of its slot. -/
theorem lookup_compact {slots : List (String × Option Json)} (h : (slots.map (·.1)).Nodup)
    (name : String) : (compact slots).lookup name = (slots.lookup name).join := by
  induction slots with
  | nil => rfl
  | cons s rest ih =>
    obtain ⟨n, v⟩ := s
    simp only [List.map_cons, List.nodup_cons] at h
    have ih := ih h.2
    cases v with
    | none =>
      have : compact ((n, none) :: rest) = compact rest := rfl
      rw [this, ih, List.lookup_cons]
      by_cases hn : name = n
      · subst hn
        have : rest.lookup name = none := by
          -- The names differ, so no later slot has this one.
          rw [List.lookup_eq_none_iff]
          intro e he
          simp only [bne_iff_ne, ne_eq]
          rintro rfl
          exact h.1 (List.mem_map.2 ⟨e, he, rfl⟩)
        simp [this]
      · have hb : (name == n) = false := by simpa using hn
        simp [hb]
    | some w =>
      have : compact ((n, some w) :: rest) = (n, w) :: compact rest := rfl
      rw [this, List.lookup_cons, List.lookup_cons]
      by_cases hn : name = n
      · subst hn; simp
      · have hb : (name == n) = false := by simpa using hn
        simp [hb, ih]

end TagSync.Json
