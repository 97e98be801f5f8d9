import TagSync.Json
import TagSync.Text.Shortest

/-!
# Writing JSON

`Json.compress` writes a value without any blank. Strings escape only what has to be escaped;
numbers that are not whole are written as the 64-bit floating point numbers that stand for them,
with the fewest digits that read back, positionally while the point stands at most 16 digits behind the
first one or at most 4 zeros in front of it.
-/

set_option autoImplicit false

namespace TagSync.Json

open TagSync.Text

/-! ## Strings -/

/-- The last two digits of a control character's escape. -/
def hexPair (n : Nat) : List Char :=
  [Nat.digitChar (n / 16), Nat.digitChar (n % 16)]

def escape (c : Char) : List Char :=
  if c = '"' then ['\\', '"']
  else if c = '\\' then ['\\', '\\']
  else if c = '\n' then ['\\', 'n']
  else if c = '\r' then ['\\', 'r']
  else if c = '\t' then ['\\', 't']
  else if c.toNat = 8 then ['\\', 'b']
  else if c.toNat = 12 then ['\\', 'f']
  else if c.toNat < 0x20 then ['\\', 'u', '0', '0'] ++ hexPair c.toNat
  else [c]

def quote (s : String) : String :=
  String.ofList ('"' :: s.toList.flatMap escape ++ ['"'])

/-! ## Numbers -/

def zeros (n : Nat) : String :=
  String.ofList (List.replicate n '0')

/-- A decimal as text. The point stands behind the first `point` digits. -/
def layout (d : Decimal) : String :=
  let digits := Nat.toDigits 10 d.digits
  let point : Int := digits.length + d.exponent
  if 0 ≤ d.exponent ∧ point ≤ 16 then
    String.ofList digits ++ zeros d.exponent.toNat ++ ".0"
  else if 0 < point ∧ point ≤ 16 then
    String.ofList (digits.take point.toNat) ++ "." ++ String.ofList (digits.drop point.toNat)
  else if -5 < point ∧ point ≤ 0 then
    "0." ++ zeros (-point).toNat ++ String.ofList digits
  else
    let fraction := digits.drop 1
    String.ofList (digits.take 1) ++ (if fraction.isEmpty then "" else "." ++ String.ofList fraction)
      ++ "e" ++ toString (point - 1)

def Number.write : Number → String
  | .int n => toString n
  | .real negative digits exponent =>
    let sign := if negative then "-" else ""
    let b := ((Number.real negative digits exponent).float?).getD ⟨0, 0⟩
    if b.m = 0 then sign ++ "0.0" else sign ++ layout (b.shortest.trimmed 20)

/-! ## Values -/

mutual

/-- A value as text without blanks. -/
def compress : Json → String
  | .null => "null"
  | .bool true => "true"
  | .bool false => "false"
  | .num n => n.write
  | .str s => quote s
  | .arr items => "[" ++ compressItems true items ++ "]"
  | .obj fields => "\x7b" ++ compressFields true fields ++ "\x7d"
  | .garbled => "null"

/-- The elements of a list, with a comma before each but the first. -/
def compressItems (isFirst : Bool) : List Json → String
  | [] => ""
  | v :: vs => (if isFirst then "" else ",") ++ compress v ++ compressItems false vs

/-- The fields of an object, with a comma before each but the first. -/
def compressFields (isFirst : Bool) : List (String × Json) → String
  | [] => ""
  | (name, v) :: fs =>
    (if isFirst then "" else ",") ++ quote name ++ ":" ++ compress v ++ compressFields false fs

end

end TagSync.Json
