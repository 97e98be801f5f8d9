/-!
# Numerals

Decimal digits, and reading a natural number that has to stay below a limit.
-/

set_option autoImplicit false

namespace TagSync.Text

def digit? (c : Char) : Option Nat :=
  if '0' ≤ c ∧ c ≤ '9' then some (c.toNat - 48) else none

def isDigit (c : Char) : Bool :=
  (digit? c).isSome

/-- The number that digits stand for; other characters count as zero. -/
def ofDigits (cs : List Char) : Nat :=
  cs.foldl (fun n c => n * 10 + (digit? c).getD 0) 0

def bitValues (bits : Nat) : Nat :=
  Nat.pow 2 bits

/-- Why a text is no number below a limit. -/
inductive NumeralFault where
  /-- There is no digit at all. -/
  | empty
  /-- A character is no digit. -/
  | invalidDigit
  /-- The number reaches the limit. -/
  | tooLarge
  deriving DecidableEq, Repr

def NumeralFault.message : NumeralFault → String
  | .empty => "cannot parse integer from empty string"
  | .invalidDigit => "invalid digit found in string"
  | .tooLarge => "number too large to fit in target type"

/-- Reads the digits behind a number read so far. The first character that decides wins: a stray
character before the limit is reached, or the digit that reaches it. -/
def readBelow (limit : Nat) : Nat → List Char → Except NumeralFault Nat
  | n, [] => .ok n
  | n, c :: cs =>
    match digit? c with
    | none => .error .invalidDigit
    | some d => if n * 10 + d < limit then readBelow limit (n * 10 + d) cs else .error .tooLarge

/-- Reads an unsigned number below `limit`, with one plus sign allowed in front. -/
def unsignedBelow (limit : Nat) : List Char → Except NumeralFault Nat
  | [] => .error .empty
  | ['+'] => .error .invalidDigit
  | '+' :: cs => readBelow limit 0 cs
  | cs => readBelow limit 0 cs

end TagSync.Text
