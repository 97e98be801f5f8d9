import TagSync.Json.Token
import TagSync.Text.Binary53

/-!
# Numbers of a YAML text

Which plain scalars are numbers. A whole number may have a sign and be written with base two,
eight, ten or sixteen; with base ten a zero does not stand in front of other digits. Any other
number has a point or an exponent, or is infinite or none at all in the words for that.
-/

set_option autoImplicit false

namespace TagSync.Yaml.Numeral

open TagSync.Text

/-! ## Whole numbers -/

/-- The number that digits of a base stand for; there has to be one. -/
def ofBase? (base : Nat) (cs : List Char) : Option Nat :=
  if cs.isEmpty then none
  else cs.foldlM (fun n c => do
    let d ← Json.hexDigit? c
    if d < base then some (n * base + d) else none) 0

def magnitude? (cs : List Char) : Option Nat :=
  match cs with
  | '0' :: 'x' :: digits => ofBase? 16 digits
  | '0' :: 'o' :: digits => ofBase? 8 digits
  | '0' :: 'b' :: digits => ofBase? 2 digits
  | '0' :: _ :: _ => none
  | _ => ofBase? 10 cs

def int? (text : String) : Option Int :=
  match text.toList with
  | '-' :: cs => (magnitude? cs).map fun n => -(n : Int)
  | '+' :: cs => (magnitude? cs).map fun n => (n : Int)
  | cs => (magnitude? cs).map fun n => (n : Int)

/-- Whether a whole number can be held in a number of bits, with or without a sign. -/
def fits (bits : Nat) (n : Int) : Bool :=
  decide (-(bitValues (bits - 1) : Int) ≤ n) && decide (n < bitValues bits)

/-! ## Other numbers -/

/-- Whether digits times a power of ten are in the range of the floating point numbers. -/
def isInRange (digits : List Char) (exponent : Int) : Bool :=
  let n := ofDigits digits
  let scale := (Nat.toDigits 10 n).length + exponent
  if n = 0 ∨ scale < 0 then true
  else if 400 < scale then false
  else
    let (num, den) := scaled n 10 exponent
    (Binary53.ofRatio num den).isFinite

/-- Whether a text is a number of limited size: digits with a point in any place, and possibly an
exponent. -/
def isDecimal (cs : List Char) : Bool :=
  let whole := cs.takeWhile isDigit
  let rest := cs.dropWhile isDigit
  let (fraction, rest) :=
    match rest with
    | '.' :: rest => (rest.takeWhile isDigit, rest.dropWhile isDigit)
    | rest => ([], rest)
  match Json.exponent? rest with
  | none => false
  | some e => !(whole ++ fraction).isEmpty && isInRange (whole ++ fraction) (e - fraction.length)

def isFloat (text : String) : Bool :=
  let infinite := [".inf", ".Inf", ".INF"]
  if [".nan", ".NaN", ".NAN"].contains text then true
  else
    match text.toList with
    | '-' :: cs => infinite.contains (String.ofList cs) || isDecimal cs
    | '+' :: cs => infinite.contains (String.ofList cs) || isDecimal cs
    | cs => infinite.contains text || isDecimal cs

end TagSync.Yaml.Numeral
