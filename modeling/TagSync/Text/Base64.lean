/-!
# Base64

Three octets become four characters of a 64-letter alphabet; `=` fills up the last group.
`encode` writes octets and `decode` reads exactly what `encode` writes: no line breaks, no
missing filling and no stray bits in the last group. `parse` also says where something else is.

Main statement: reading gives back what was written (`decode_encode`).
-/

set_option autoImplicit false

namespace TagSync.Text.Base64

def letter (n : Nat) : Char :=
  if n < 26 then Char.ofNat (65 + n)
  else if n < 52 then Char.ofNat (97 + (n - 26))
  else if n < 62 then Char.ofNat (48 + (n - 52))
  else if n = 62 then '+'
  else '/'

def value? (c : Char) : Option Nat :=
  let n := c.toNat
  if 65 ≤ n ∧ n ≤ 90 then some (n - 65)
  else if 97 ≤ n ∧ n ≤ 122 then some (n - 97 + 26)
  else if 48 ≤ n ∧ n ≤ 57 then some (n - 48 + 52)
  else if c = '+' then some 62
  else if c = '/' then some 63
  else none

theorem value?_letter : ∀ n < 64, value? (letter n) = some n := by
  decide

theorem letter_ne_filling : ∀ n < 64, letter n ≠ '=' := by
  decide

/-- The written form of a list of octets. -/
def encode : List UInt8 → List Char
  | [] => []
  | [a] =>
    let n := a.toNat * 16
    [letter (n / 64), letter (n % 64), '=', '=']
  | [a, b] =>
    let n := (a.toNat * 256 + b.toNat) * 4
    [letter (n / 4096), letter (n / 64 % 64), letter (n % 64), '=']
  | a :: b :: c :: rest =>
    let n := (a.toNat * 256 + b.toNat) * 256 + c.toNat
    letter (n / 262144) :: letter (n / 4096 % 64) :: letter (n / 64 % 64) :: letter (n % 64) ::
      encode rest

/-- Reads a written form; the bits that the last group does not need have to be zero. -/
def decode : List Char → Option (List UInt8)
  | [] => some []
  | [p, q, '=', '='] => do
    let n := (← value? p) * 64 + (← value? q)
    if n % 16 = 0 then some [UInt8.ofNat (n / 16)] else none
  | [p, q, r, '='] => do
    let n := ((← value? p) * 64 + (← value? q)) * 64 + (← value? r)
    if n % 4 = 0 then some [UInt8.ofNat (n / 1024), UInt8.ofNat (n / 4 % 256)] else none
  | p :: q :: r :: s :: rest => do
    let n := (((← value? p) * 64 + (← value? q)) * 64 + (← value? r)) * 64 + (← value? s)
    let more ← decode rest
    some (UInt8.ofNat (n / 65536) :: UInt8.ofNat (n / 256 % 256) :: UInt8.ofNat (n % 256) :: more)
  | _ => none

/-- Reading gives back what was written. -/
theorem decode_encode (octets : List UInt8) : decode (encode octets) = some octets := by
  induction octets using encode.induct with
  | case1 => rfl
  | case2 a =>
      have ha := a.toNat_lt
      simp only [encode, decode]
      rw [value?_letter _ (by omega), value?_letter _ (by omega)]
      -- The octets of a group are one number, of which the letters are the digits.
      generalize hn : a.toNat * 16 = n
      have hgroup : n / 64 * 64 + n % 64 = n := by omega
      have hfirst : n / 16 = a.toNat := by omega
      have hbits : n % 16 = 0 := by omega
      simp [hgroup, hfirst, hbits]
  | case3 a b =>
      have ha := a.toNat_lt
      have hb := b.toNat_lt
      simp only [encode]
      rw [decode.eq_3 _ _ _ (letter_ne_filling _ (by omega)), value?_letter _ (by omega),
        value?_letter _ (by omega), value?_letter _ (by omega)]
      generalize hn : (a.toNat * 256 + b.toNat) * 4 = n
      have hgroup : (n / 4096 * 64 + n / 64 % 64) * 64 + n % 64 = n := by omega
      have hfirst : n / 1024 = a.toNat := by omega
      have hsecond : n / 4 % 256 = b.toNat := by omega
      have hbits : n % 4 = 0 := by omega
      simp [hgroup, hfirst, hsecond, hbits]
  | case4 a b c rest ih =>
      have ha := a.toNat_lt
      have hb := b.toNat_lt
      have hc := c.toNat_lt
      simp only [encode]
      rw [decode.eq_4, value?_letter _ (by omega), value?_letter _ (by omega),
        value?_letter _ (by omega), value?_letter _ (by omega), ih]
      · generalize hn : (a.toNat * 256 + b.toNat) * 256 + c.toNat = n
        have hgroup : ((n / 262144 * 64 + n / 4096 % 64) * 64 + n / 64 % 64) * 64 + n % 64 = n := by
          omega
        have hfirst : n / 65536 = a.toNat := by omega
        have hsecond : n / 256 % 256 = b.toNat := by omega
        have hthird : n % 256 = c.toNat := by omega
        simp [hgroup, hfirst, hsecond, hthird]
      · exact fun h => absurd h (letter_ne_filling _ (by omega))
      · exact fun h => absurd h (letter_ne_filling _ (by omega))

/-! ## Faults -/

/-- Why octets are no written form. -/
inductive Fault where
  /-- An octet is no letter, or fills up what is no last group. -/
  | symbol (octet : UInt8) (index : Nat)
  /-- The last group has a single letter. -/
  | length (letters : Nat)
  /-- The last letter has bits that are not needed. -/
  | lastSymbol (octet : UInt8) (index : Nat)
  /-- The last group is not filled up. -/
  | filling
  deriving DecidableEq, Repr

def Fault.message : Fault → String
  | .symbol octet index => s!"Invalid symbol {octet}, offset {index}."
  | .length letters => s!"Invalid input length: {letters}"
  | .lastSymbol octet index => s!"Invalid last symbol {octet}, offset {index}."
  | .filling => "Invalid padding"

def filler : UInt8 := 61

def isLetter (octet : UInt8) : Bool :=
  (value? (Char.ofNat octet.toNat)).isSome

/-- The fault of a last group of at most four octets behind `index` octets in order. -/
def lastFault (index : Nat) (group : List UInt8) : Fault :=
  let front := group.takeWhile (· != filler)
  let back := group.dropWhile (· != filler)
  match front.zipIdx.find? fun e => !isLetter e.1 with
  | some (octet, i) => .symbol octet (index + i)
  | none =>
    if !back.isEmpty && (decide (front.length < 2) || back.any (· != filler)) then
      .symbol filler (index + front.length)
    else if front.length < 2 then .length (index + front.length)
    else if group.length % 4 ≠ 0 then .filling
    else .lastSymbol (front.getLastD filler) (index + front.length - 1)

/-- The fault of octets that are no written form. A stray last octet is reported first. -/
def fault (octets : List UInt8) : Fault :=
  let size := octets.length
  let stray := octets.getLast?.filter fun b => size % 4 = 1 && b != filler && !isLetter b
  match stray with
  | some octet => .symbol octet (size - 1)
  | none =>
    let whole := (size - 1) / 4 * 4
    match (octets.take whole).zipIdx.find? fun e => !isLetter e.1 with
    | some (octet, i) => .symbol octet i
    | none => lastFault whole (octets.drop whole)

/-- Reads a written form that is given as octets. -/
def parse (octets : List UInt8) : Except Fault (List UInt8) :=
  match decode (octets.map fun b => Char.ofNat b.toNat) with
  | some decoded => .ok decoded
  | none => .error (fault octets)

end TagSync.Text.Base64
