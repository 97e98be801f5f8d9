import TagSync.Json
import TagSync.Text.Numeral

/-!
# Tokens of a JSON text

`Token.scan` cuts a text into brackets, commas, colons and scalar values, one character at a
time. Escapes are checked here; half of a surrogate pair makes a garbled scalar.
-/

set_option autoImplicit false

namespace TagSync.Json

open TagSync.Text

/-! ## Numbers -/

/-- The digits behind a point, with the rest; without a point there are none. -/
def fraction? : List Char → Option (List Char × List Char)
  | '.' :: cs =>
    let digits := cs.takeWhile isDigit
    if digits.isEmpty then none else some (digits, cs.dropWhile isDigit)
  | cs => some ([], cs)

def exponent? : List Char → Option Int
  | [] => some 0
  | e :: cs =>
    if e ≠ 'e' ∧ e ≠ 'E' then none
    else
      let (negative, digits) :=
        match cs with
        | '-' :: ds => (true, ds)
        | '+' :: ds => (false, ds)
        | ds => (false, ds)
      if digits.isEmpty ∨ ¬ digits.all isDigit then none
      else
        let n : Int := ofDigits digits
        some (if negative then -n else n)

/-- The number that the digits in front stand for which, behind those read so far, keep it below
`2 ^ 64`, and how many digits are left. -/
def leadingDigits (n : Nat) : List Char → Nat × Nat
  | [] => (n, 0)
  | c :: cs =>
    let next := n * 10 + (digit? c).getD 0
    if next < bitValues 64 then leadingDigits next cs else (n, cs.length + 1)

/-- A number with the given digits in front of the point, behind it, and a power of ten. -/
def Number.ofParts (negative : Bool) (whole fraction : List Char) (exponent : Int) : Number :=
  let (n, left) := leadingDigits 0 whole
  let (n, unread) := leadingDigits n fraction
  .real negative n (left - (fraction.length - unread : Int) + exponent)

/-- A whole number, which keeps its sign when it is zero. -/
def Number.ofWhole (negative : Bool) (whole : List Char) : Number :=
  let n := ofDigits whole
  if negative ∧ n ≠ 0 ∧ n ≤ bitValues 63 then .int (-(n : Int))
  else if ¬ negative ∧ n < bitValues 64 then .int n
  else .ofParts negative whole [] 0

/-- Reads a number: no zero in front of another digit, and digits on both sides of a point. -/
def Number.read? (word : List Char) : Option Number :=
  let (negative, cs) :=
    match word with
    | '-' :: cs => (true, cs)
    | cs => (false, cs)
  let whole := cs.takeWhile isDigit
  let rest := cs.dropWhile isDigit
  if whole.isEmpty ∨ (whole.head? = some '0' ∧ whole.length ≠ 1) then none
  else if rest.isEmpty then some (.ofWhole negative whole)
  else do
    let (fraction, rest) ← fraction? rest
    let e ← exponent? rest
    some (.ofParts negative whole fraction e)

/-- Reads a value that is written without quotes and brackets. -/
def scalar? (word : List Char) : Option Json :=
  if word = ['n', 'u', 'l', 'l'] then some .null
  else if word = ['t', 'r', 'u', 'e'] then some (.bool true)
  else if word = ['f', 'a', 'l', 's', 'e'] then some (.bool false)
  else (Number.read? word).map .num

/-! ## Strings -/

/-- A string while it is read. -/
structure Reading where
  /-- The characters so far, last one first. -/
  chars : List Char
  /-- The first half of a surrogate pair, if one was just read. -/
  half : Option Nat
  /-- Whether half of a pair stood alone. -/
  garbled : Bool

namespace Reading

def start : Reading := ⟨[], none, false⟩

def push (r : Reading) (c : Char) : Reading :=
  ⟨c :: r.chars, none, r.garbled || r.half.isSome⟩

def pushUnit (r : Reading) (unit : Nat) : Reading :=
  if 0xD800 ≤ unit ∧ unit < 0xDC00 then
    ⟨r.chars, some unit, r.garbled || r.half.isSome⟩
  else if 0xDC00 ≤ unit ∧ unit < 0xE000 then
    match r.half with
    | some high =>
      ⟨Char.ofNat (0x10000 + (high - 0xD800) * 0x400 + (unit - 0xDC00)) :: r.chars, none, r.garbled⟩
    | none => ⟨r.chars, none, true⟩
  else r.push (Char.ofNat unit)

def finish (r : Reading) : Json :=
  if r.garbled || r.half.isSome then .garbled else .str (String.ofList r.chars.reverse)

end Reading

/-- The character that an escape of one letter stands for. -/
def unescape? (c : Char) : Option Char :=
  if c = '"' ∨ c = '\\' ∨ c = '/' then some c
  else if c = 'b' then some (Char.ofNat 8)
  else if c = 'f' then some (Char.ofNat 12)
  else if c = 'n' then some '\n'
  else if c = 'r' then some '\r'
  else if c = 't' then some '\t'
  else none

def hexDigit? (c : Char) : Option Nat :=
  let n := c.toNat
  if 48 ≤ n ∧ n ≤ 57 then some (n - 48)
  else if 65 ≤ n ∧ n ≤ 70 then some (n - 55)
  else if 97 ≤ n ∧ n ≤ 102 then some (n - 87)
  else none

/-! ## Tokens -/

/-- A piece of a JSON text. -/
inductive Token where
  /-- An opening bracket of a list. -/
  | openArr
  /-- A closing bracket of a list. -/
  | closeArr
  /-- An opening brace of an object. -/
  | openObj
  /-- A closing brace of an object. -/
  | closeObj
  | comma
  | colon
  /-- A string, a number, a truth value or `null`. -/
  | scalar (v : Json)

namespace Token

/-- Where a scan stands. -/
inductive Mode where
  /-- Between tokens. -/
  | between
  /-- In a value without quotes; its characters, last one first. -/
  | word (chars : List Char)
  | string (r : Reading)
  /-- Behind a backslash. -/
  | escape (r : Reading)
  /-- In an escape of four hexadecimal digits, of which `owed` are to come. -/
  | hex (r : Reading) (owed value : Nat)

/-- Whether a character may stand in a value without quotes. -/
def isWordChar (c : Char) : Bool :=
  c.isAlphanum || c = '-' || c = '+' || c = '.'

def begin? (c : Char) : Option (List Token × Mode) :=
  if c = ' ' ∨ c = '\n' ∨ c = '\r' ∨ c = '\t' then some ([], .between)
  else if c = '[' then some ([openArr], .between)
  else if c = ']' then some ([closeArr], .between)
  else if c = '\x7b' then some ([openObj], .between)
  else if c = '\x7d' then some ([closeObj], .between)
  else if c = ',' then some ([comma], .between)
  else if c = ':' then some ([colon], .between)
  else if c = '"' then some ([], .string .start)
  else if isWordChar c then some ([], .word [c])
  else none

/-- The tokens that a character completes, last one first, and where the scan stands then. -/
def step? : Mode → Char → Option (List Token × Mode)
  | .between, c => begin? c
  | .word chars, c =>
    if isWordChar c then some ([], .word (c :: chars))
    else do
      let v ← scalar? chars.reverse
      let (tokens, mode) ← begin? c
      some (tokens ++ [scalar v], mode)
  | .string r, c =>
    if c = '"' then some ([scalar r.finish], .between)
    else if c = '\\' then some ([], .escape r)
    else if c.toNat < 0x20 then none
    else some ([], .string (r.push c))
  | .escape r, c =>
    if c = 'u' then some ([], .hex r 4 0)
    else (unescape? c).map fun d => ([], .string (r.push d))
  | .hex r owed value, c => do
    let d ← hexDigit? c
    let value := value * 16 + d
    some ([], if owed = 1 then .string (r.pushUnit value) else .hex r (owed - 1) value)

/-- Scans the rest of a text behind the tokens `done`, last one first. -/
def scanFrom (done : List Token) : Mode → List Char → Option (List Token)
  | .between, [] => some done.reverse
  | .word chars, [] => (scalar? chars.reverse).map fun v => (scalar v :: done).reverse
  | _, [] => none
  | mode, c :: cs =>
    match step? mode c with
    | none => none
    | some (tokens, mode) => scanFrom (tokens ++ done) mode cs

/-- The tokens of a text. -/
def scan? (text : List Char) : Option (List Token) :=
  scanFrom [] .between text

end Token

end TagSync.Json
