import TagSync.Text.Binary53

/-!
# The fewest digits of a binary fraction

A number with 53 binary digits is written with the fewest decimal digits that still read back as
the same number. `Binary53.nearest` rounds a decimal to such a number, half to even, and
`Binary53.shortest` finds the digits: on the grid of one decimal digit, of two, and so on, the
first grid with a point that rounds to the number wins, and of two such points the nearer one.
All arithmetic is exact.
-/

set_option autoImplicit false

namespace TagSync.Text

/-- Decimal digits with an exponent of ten: `digits * 10 ^ exponent`. -/
structure Decimal where
  /-- The digits as a number. -/
  digits : Nat
  /-- The exponent of ten. -/
  exponent : Int
  deriving DecidableEq, Repr

namespace Binary53

/-- The number nearest to a decimal. -/
def nearest (d : Decimal) : Binary53 :=
  let (num, den) := scaled d.digits 10 d.exponent
  ofRatio num den

def isReadFrom (b : Binary53) (d : Decimal) : Bool :=
  decide (nearest d = b)

def digitCount (n : Nat) : Nat :=
  (Nat.toDigits 10 n).length

/-- The exponent of the leading decimal digit of `num / den`. -/
def leadingExponent (num den : Nat) : Int :=
  if den ≤ num then (digitCount (num / den) : Int) - 1
  else
    let t := digitCount (den / num)
    if den ≤ num * Nat.pow 10 (t - 1) then -((t : Int) - 1) else -(t : Int)

/-- The point of a decimal grid that reads back as a number, if one of its two neighbours does. -/
def onGrid? (b : Binary53) (count : Nat) : Option Decimal :=
  let (num, den) := scaled b.m 2 b.q
  let k := leadingExponent num den - (count : Int) + 1
  let (a, c) := scaled num 10 (-k)
  let below := a / (c * den)
  let low : Decimal := ⟨below, k⟩
  let high : Decimal := ⟨below + 1, k⟩
  let rest := a % (c * den)
  match b.isReadFrom low, b.isReadFrom high with
  | true, false => some low
  | false, true => some high
  | false, false => none
  | true, true =>
    if 2 * rest < c * den ∨ (2 * rest = c * den ∧ below % 2 = 0) then some low else some high

/-- The fewest digits that read back as a number; 17 always suffice. -/
def shortest (b : Binary53) : Decimal :=
  ((List.range 17).findSome? fun i => b.onGrid? (i + 1)).getD ⟨b.m, b.q⟩

end Binary53

/-- A decimal without zeros at the end of its digits; the first argument bounds their count. -/
def Decimal.trimmed : Nat → Decimal → Decimal
  | 0, d => d
  | n + 1, d =>
    if d.digits ≠ 0 ∧ d.digits % 10 = 0 then Decimal.trimmed n ⟨d.digits / 10, d.exponent + 1⟩
    else d

end TagSync.Text
