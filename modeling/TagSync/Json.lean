import TagSync.Text.Binary53

/-!
# JSON values

`Json` is a JSON text as a tree. An object keeps its fields in written order and with
repetitions, since only its reader knows what a repetition means. A value whose text is well
formed but denotes nothing, a string with half of a surrogate pair, is `garbled`: it may be
skipped, but nothing can be read from it.
-/

set_option autoImplicit false

namespace TagSync

/-- A number as it is written. -/
inductive Json.Number where
  /-- A whole number between `-2 ^ 63` and `2 ^ 64 - 1`, written without point and exponent. -/
  | int (n : Int)
  /-- Any other number, `digits * 10 ^ exponent` with a sign. Of its digits only those in front
  count that together stay below `2 ^ 64`. -/
  | real (negative : Bool) (digits : Nat) (exponent : Int)
  deriving DecidableEq, Repr, Inhabited

/-- A JSON value. -/
inductive Json where
  /-- The value `null`. -/
  | null
  | bool (b : Bool)
  | num (n : Json.Number)
  | str (s : String)
  /-- A list of values. -/
  | arr (items : List Json)
  /-- Fields in written order. -/
  | obj (fields : List (String × Json))
  /-- A value that denotes nothing. -/
  | garbled
  deriving Inhabited

namespace Json

open TagSync.Text

def nat (n : Nat) : Json := .num (.int n)

def strings (ss : List String) : Json := .arr (ss.map .str)

/-- A string or `null`. -/
def ofString? : Option String → Json
  | none => .null
  | some s => .str s

def field? (name : String) : Json → Option Json
  | .obj fields => fields.lookup name
  | _ => none

/-! ## Settled values -/

/-- The floating point number that stands for a number without its sign. It is reached through
rounded steps, so it may miss the nearest one. Fails when the number is out of range. -/
def Number.float? : Number → Option Binary53
  | .int n => some (.ofNat n.natAbs)
  | .real _ digits exponent => (Binary53.ofNat digits).scaledByTen? 3 exponent

/-- Whether a number is in the range of 64-bit floating point numbers. -/
def Number.isFinite (n : Number) : Bool :=
  n.float?.isSome

/-- Puts a field among fields in name order, in place of an earlier one. -/
def insertField (name : String) (value : Json) : List (String × Json) → List (String × Json)
  | [] => [(name, value)]
  | (other, kept) :: rest =>
    if name < other then (name, value) :: (other, kept) :: rest
    else if name = other then (name, value) :: rest
    else (other, kept) :: insertField name value rest

/-- The value as a whole: every object has its fields in name order, the last one of a name
counts, and no number is out of range. Fails also when lists and objects are nested more than
`room` deep. -/
def settle? : (room : Nat) → Json → Option Json
  | _, .null => some .null
  | _, .bool b => some (.bool b)
  | _, .num n => if n.isFinite then some (.num n) else none
  | _, .str s => some (.str s)
  | _, .garbled => none
  | 0, .arr _ => none
  | 0, .obj _ => none
  | room + 1, .arr items => (items.mapM (settle? room)).map .arr
  | room + 1, .obj fields => do
    let settled ← fields.mapM fun f => (settle? room f.2).map fun v => (f.1, v)
    some (.obj (settled.foldl (fun done f => insertField f.1 f.2 done) []))

end Json

end TagSync
