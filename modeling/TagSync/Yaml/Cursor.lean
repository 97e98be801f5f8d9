/-!
# A place in a YAML text

A `Cursor` is what is left of a text with the place where it begins: its line, its column and
the number of characters before it. Texts are `normalized` first, so that a line ends in one
character.
-/

set_option autoImplicit false

namespace TagSync.Yaml

/-! ## Characters -/

def isBlank (c : Char) : Bool :=
  c = ' ' || c = '\t'

def isBreak (c : Char) : Bool :=
  c = '\n' || c.toNat = 0x2028 || c.toNat = 0x2029

def isAllowed (c : Char) : Bool :=
  let n := c.toNat
  n == 9 || n == 10 || n == 13 || (0x20 ≤ n && n ≤ 0x7E) || n == 0x85 ||
    (0xA0 ≤ n && n ≠ 0xFFFE && n ≠ 0xFFFF)

/-- The mark for the order of octets, which may stand at the begin of a line. -/
def isOrderMark (c : Char) : Bool :=
  c.toNat = 0xFEFF

/-- Whether a character may stand in a name: a letter, a digit, a low line or a dash. -/
def isNameChar (c : Char) : Bool :=
  c.isAlphanum || c = '_' || c = '-'

/-- The text with every carriage return, alone or before a line feed, and every next-line
character as a line feed. -/
def normalized : List Char → List Char
  | '\r' :: '\n' :: cs => '\n' :: normalized cs
  | c :: cs => (if c = '\r' ∨ c.toNat = 0x85 then '\n' else c) :: normalized cs
  | [] => []

/-! ## Cursors -/

/-- What is left of a text. -/
structure Cursor where
  /-- The characters. -/
  rest : List Char
  /-- How many characters stand before them. -/
  index : Nat := 0
  /-- How many lines end before them. -/
  line : Nat := 0
  /-- How many characters stand before them on their line. -/
  column : Nat := 0

namespace Cursor

def next (c : Cursor) : Cursor :=
  match c.rest with
  | [] => c
  | d :: rest =>
    if isBreak d then ⟨rest, c.index + 1, c.line + 1, 0⟩
    else ⟨rest, c.index + 1, c.line, c.column + 1⟩

def skip (c : Cursor) : Nat → Cursor
  | 0 => c
  | n + 1 => c.next.skip n

def at? (c : Cursor) (n : Nat) : Option Char :=
  c.rest[n]?

/-- Whether a blank, the end of a line or the end of the text is some places on. -/
def isGapAt (c : Cursor) (n : Nat) : Bool :=
  match c.at? n with
  | none => true
  | some d => isBlank d || isBreak d

/-- Whether nothing but the end of a line or of the text is here. -/
def isAtLineEnd (c : Cursor) : Bool :=
  (c.at? 0).all isBreak

/-- Whether a line begins here with one of the marks between documents. -/
def isAtMark (c : Cursor) : Bool :=
  c.column == 0 && (c.rest.take 3 == ['-', '-', '-'] || c.rest.take 3 == ['.', '.', '.']) &&
    c.isGapAt 3

def skipWhile (c : Cursor) (test : Char → Bool) : Cursor :=
  c.skip (c.rest.takeWhile test).length

def skipBlanks (c : Cursor) : Cursor :=
  c.skipWhile isBlank

/-- Behind a comment, if one begins here. -/
def skipComment (c : Cursor) : Cursor :=
  if c.at? 0 = some '#' then c.skipWhile fun d => !isBreak d else c

end Cursor

end TagSync.Yaml
