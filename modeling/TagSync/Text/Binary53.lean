import TagSync.Text.Numeral

/-!
# Numbers with 53 binary digits

A `Binary53` is a number of at least zero with 53 binary digits and an exponent of two, as floating
point numbers of 64 bits hold it. `ofRatio` rounds a quotient to the nearest one, half to even;
products and quotients are rounded in the same way, and `scaledByTen?` multiplies with a power of
ten in as few of these steps as it takes. All arithmetic is exact.
-/

set_option autoImplicit false

namespace TagSync.Text

/-- The number `m * 2 ^ q`, with `m` below `2 ^ 53`. -/
structure Binary53 where
  /-- The binary digits. -/
  m : Nat
  /-- The exponent of two. -/
  q : Int
  deriving DecidableEq, Repr, Inhabited

/-- The numerator and the denominator of `n * b ^ e`. -/
def scaled (n b : Nat) (e : Int) : Nat × Nat :=
  if 0 ≤ e then (n * Nat.pow b e.toNat, 1) else (n, Nat.pow b (-e).toNat)

def roundHalfEven (num den : Nat) : Nat :=
  let quotient := num / den
  let rest := num % den
  if 2 * rest < den then quotient
  else if den < 2 * rest then quotient + 1
  else quotient + quotient % 2

namespace Binary53

/-! ## Rounding -/

/-- A quotient in steps of `2 ^ q`. -/
def rounded (num den : Nat) (q : Int) : Nat :=
  let (a, b) := scaled num 2 (-q)
  roundHalfEven a (b * den)

/-- The number nearest to a quotient. `m = 0` stands for zero and for underflow. -/
def ofRatio (num den : Nat) : Binary53 :=
  let guess : Int := (num.log2 : Int) - (den.log2 : Int) - 53
  let floor : Int := -1074
  let q := max guess floor
  let m := rounded num den q
  if m < bitValues 53 then ⟨m, q⟩
  else
    let m' := rounded num den (q + 1)
    if m' < bitValues 53 then ⟨m', q + 1⟩ else ⟨m' / 2, q + 2⟩

def ofNat (n : Nat) : Binary53 :=
  ofRatio n 1

/-- Whether a number is in the range of the floating point numbers. -/
def isFinite (b : Binary53) : Bool :=
  b.m == 0 || decide (b.q ≤ 971)

/-! ## Arithmetic -/

def times (a b : Binary53) : Binary53 :=
  let (num, den) := scaled (a.m * b.m) 2 (a.q + b.q)
  ofRatio num den

def dividedBy (a b : Binary53) : Binary53 :=
  let (num, den) := scaled a.m 2 (a.q - b.q)
  ofRatio num (den * b.m)

def tenTo (n : Nat) : Binary53 :=
  ofNat (Nat.pow 10 n)

/-- The greatest exponent of a power of ten in the range of the floating point numbers. -/
def greatestPower : Nat := 308

/-- A number times a power of ten, rounded after each step; fails when it is out of range. A power
below the range is divided off in several steps, of which at most `steps` change anything. -/
def scaledByTen? : (steps : Nat) → Binary53 → Int → Option Binary53
  | steps, b, e =>
    if e.natAbs ≤ greatestPower then
      if 0 ≤ e then
        let product := b.times (tenTo e.toNat)
        if product.isFinite then some product else none
      else some (b.dividedBy (tenTo (-e).toNat))
    else if b.m = 0 then some b
    else if 0 ≤ e then none
    else
      match steps with
      | 0 => some ⟨0, 0⟩
      | steps + 1 => scaledByTen? steps (b.dividedBy (tenTo greatestPower)) (e + greatestPower)

end Binary53

end TagSync.Text
