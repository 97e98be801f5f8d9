import TagSync.Instant
import TagSync.Text.Blank
import TagSync.Text.Numeral

/-!
# Written instants

Instants in the notation of RFC 3339. Reading is generous: a blank or a small `t` may stand
between date and time, blanks in front of numbers and separators, a number may lack its leading
zeros, a year with a sign may have any number of digits. `parse` says what is wrong with a text
that is no instant. Writing gives UTC in whole seconds.
-/

set_option autoImplicit false

namespace TagSync

open TagSync.Text

/-- What is wrong with a text that is no instant. -/
inductive InstantFault where
  /-- A character is out of place. -/
  | badCharacter
  /-- The text ends too early. -/
  | tooShort
  /-- A number is too great or too small, or there is no such day. -/
  | outOfRange
  /-- Something stands behind the instant. -/
  | tooLong
  /-- In UTC the instant is out of the calendar. -/
  | impossible
  deriving DecidableEq, Repr

def InstantFault.message : InstantFault → String
  | .badCharacter => "input contains invalid characters"
  | .tooShort => "premature end of input"
  | .outOfRange => "input is out of range"
  | .tooLong => "trailing input"
  | .impossible => "no possible date and time matching input"

namespace Instant

/-! ## Reading -/

/-- Digits that have to be at the begin of characters, with the number of characters they take. -/
def digitsAt (cs : List Char) : Except InstantFault (List Char) :=
  let digits := cs.takeWhile isDigit
  if digits.isEmpty then .error (if cs.isEmpty then .tooShort else .badCharacter) else .ok digits

/-- A number of at most `most` digits between two bounds, behind any blanks, with the rest. -/
def number (most low high : Nat) (cs : List Char) : Except InstantFault (Nat × List Char) := do
  let cs := cs.dropWhile isBlank
  let digits ← digitsAt (cs.take most)
  let n := ofDigits digits
  if low ≤ n ∧ n ≤ high then .ok (n, cs.drop digits.length) else .error .outOfRange

/-- A year: up to four digits, or a sign and any digits, within 32 bits. -/
def year (cs : List Char) : Except InstantFault (Int × List Char) := do
  let cs := cs.dropWhile isBlank
  let sign := (cs.take 1).filter fun c => c = '-' || c = '+'
  let rest := cs.drop sign.length
  let digits ← digitsAt (if sign.isEmpty then rest.take 4 else rest)
  let n : Int := if sign = ['-'] then -(ofDigits digits : Int) else ofDigits digits
  if -(bitValues 31 : Int) ≤ n ∧ n < bitValues 31 then .ok (n, rest.drop digits.length)
  else .error .outOfRange

/-- The rest behind a separator, which blanks may precede. -/
def behind (separator : Char) (cs : List Char) : Except InstantFault (List Char) :=
  match cs.dropWhile isBlank with
  | [] => .error .tooShort
  | c :: rest => if c = separator then .ok rest else .error .badCharacter

/-- The rest behind the character between date and time. -/
def behindDate : List Char → Except InstantFault (List Char)
  | [] => .error .tooShort
  | c :: rest => if c = 'T' ∨ c = 't' ∨ c = ' ' then .ok rest else .error .badCharacter

/-- The nanoseconds of a fraction's digits; digits from the tenth on do not count. -/
def nanosOf (digits : List Char) : Nat :=
  let first := digits.take 9
  ofDigits first * Nat.pow 10 (9 - first.length)

/-- A fraction of a second in nanoseconds, zero if there is none. -/
def fraction : List Char → Except InstantFault (Nat × List Char)
  | '.' :: cs => do
    let digits ← digitsAt cs
    .ok (nanosOf digits, cs.drop digits.length)
  | cs => .ok (0, cs)

def pair : List Char → Except InstantFault (Nat × List Char)
  | [] => .error .tooShort
  | [c] => .error (if c.toNat < 128 then .tooShort else .badCharacter)
  | a :: b :: rest =>
    match digit? a, digit? b with
    | some m, some n => .ok (m * 10 + n, rest)
    | _, _ => .error .badCharacter

/-- The seconds by which a zone is ahead of UTC: the letter Z, `UTC`, or a sign with hours and
minutes, between which colons and blanks may stand. -/
def zone : List Char → Except InstantFault (Int × List Char)
  | [] => .error .tooShort
  | c :: rest =>
    if ((c :: rest).take 3).map Char.toLower = ['u', 't', 'c'] then .ok (0, rest.drop 2)
    else if c = 'Z' ∨ c = 'z' then .ok (0, rest)
    else if c = '+' ∨ c = '-' ∨ c = '−' then do
      let (hours, rest) ← pair rest
      let (minutes, rest) ← pair (rest.dropWhile fun d => d = ':' || isBlank d)
      if 60 ≤ minutes then .error .outOfRange
      else
        let offset : Int := hours * 3600 + minutes * 60
        .ok (if c = '+' then offset else -offset, rest)
    else .error .badCharacter

/-- Reads a written instant. The sixtieth second of a minute is a leap second. -/
def parse (text : String) : Except InstantFault Instant := do
  let (year, cs) ← year text.toList
  let (month, cs) ← number 2 1 12 (← behind '-' cs)
  let (day, cs) ← number 2 1 31 (← behind '-' cs)
  let (hour, cs) ← number 2 0 23 (← behindDate cs)
  let (minute, cs) ← number 2 0 59 (← behind ':' cs)
  let (second, cs) ← number 2 0 60 (← behind ':' cs)
  let (nano, cs) ← fraction cs
  let (offset, cs) ← zone (cs.dropWhile isBlank)
  if !cs.all isBlank then .error .tooLong
  else
    match Day.ofNumbers? year month day with
    | none => .error .outOfRange
    | some date =>
      if 86400 ≤ offset.natAbs then .error .outOfRange
      else
        let (second, nano) := if second = 60 then (59, nano + 1000000000) else (second, nano)
        match ofLocal? date (hour * 3600 + minute * 60 + second) nano offset with
        | none => .error .impossible
        | some t => .ok t

/-- Reads a written instant. -/
def parse? (text : String) : Option Instant :=
  (parse text).toOption

/-! ## Writing -/

/-- A number with at least `width` digits. -/
def padded (width n : Nat) : List Char :=
  let digits := Nat.toDigits 10 n
  List.replicate (width - digits.length) '0' ++ digits

/-- A year with four digits, or with a sign when four digits without one do not hold it. -/
def writeYear (year : Int) : List Char :=
  if 0 ≤ year ∧ year ≤ 9999 then padded 4 year.toNat
  else (if year < 0 then '-' else '+') :: padded 4 year.natAbs

/-- An instant in UTC, without its fraction of a second. -/
def write (t : Instant) : String :=
  let second := t.second % 60 + (if t.nano < 1000000000 then 0 else 1)
  String.ofList (writeYear t.day.year ++ ['-'] ++ padded 2 t.day.month ++ ['-'] ++
    padded 2 t.day.day ++ ['T'] ++ padded 2 (t.second / 3600) ++ [':'] ++
    padded 2 (t.second / 60 % 60) ++ [':'] ++ padded 2 second ++ ['Z'])

end Instant

end TagSync
