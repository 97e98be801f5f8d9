import TagSync.Yaml.Scalar
import TagSync.Yaml.Tag

/-!
# Tokens of a YAML text

`Token.scan?` cuts a text into tokens. Indentation becomes tokens for the begin and the end of
block collections. A scalar or bracket turns out to be a key only when the colon behind it is
seen, so its place among the tokens is remembered until then; a key has to stand on one line.
-/

set_option autoImplicit false

namespace TagSync.Yaml

/-- A piece of a YAML text. -/
inductive Token where
  /-- A line that gives the version of the notation. -/
  | version (major minor : Nat)
  /-- A line that gives a handle of tags its meaning. -/
  | handle (name : List Char) (meaning : Tag)
  /-- The mark at the begin of a document. -/
  | documentStart
  /-- The mark at the end of a document. -/
  | documentEnd
  /-- The begin of an indented list. -/
  | blockListStart
  /-- The begin of an indented map. -/
  | blockMapStart
  /-- The end of an indented collection. -/
  | blockEnd
  /-- An opening bracket. -/
  | flowListStart
  /-- A closing bracket. -/
  | flowListEnd
  /-- An opening brace. -/
  | flowMapStart
  /-- A closing brace. -/
  | flowMapEnd
  /-- A dash before an item. -/
  | blockEntry
  | flowEntry
  /-- The begin of a key. -/
  | key
  /-- The begin of a value. -/
  | value
  /-- A name that stands for a node. -/
  | alias (name : List Char)
  /-- A name given to a node. -/
  | anchor (name : List Char)
  /-- A type given to a node. -/
  | tag (handle : List Char) (suffix : Tag)
  | scalar (style : Style) (text : List Char)
  deriving DecidableEq

/-- A token that may turn out to be a key. -/
structure PossibleKey where
  /-- Whether it has to be a key because of its indentation. -/
  required : Bool
  /-- How many tokens stand before it. -/
  place : Nat
  /-- Where it begins in the text. -/
  index : Nat
  line : Nat
  column : Nat

/-- The state of a scan. -/
structure Scan where
  /-- What is left of the text. -/
  cursor : Cursor
  tokens : Array Token := #[]
  /-- The column of the innermost block collection. -/
  indent : Int := -1
  /-- The columns of the block collections around it. -/
  outer : List Int := []
  /-- What may be a key: inside of the innermost brackets, and around each of them. -/
  keys : List (Option PossibleKey) := [none]
  /-- Whether a key may begin here. -/
  keyAllowed : Bool := true

namespace Scan

def inFlow (s : Scan) : Bool :=
  decide (1 < s.keys.length)

def push (s : Scan) (t : Token) : Scan :=
  { s with tokens := s.tokens.push t }

def moveTo (s : Scan) (c : Cursor) : Scan :=
  { s with cursor := c }

def allowing (s : Scan) (allowed : Bool) : Scan :=
  { s with keyAllowed := allowed }

/-! ## Indentation -/

/-- Ends the block collections that lie deeper than a column; there are at most `bound`. -/
def unroll (column : Int) : Nat → Scan → Scan
  | 0, s => s
  | bound + 1, s =>
    if s.indent ≤ column then s
    else
      unroll column bound
        { s with
          tokens := s.tokens.push .blockEnd
          indent := s.outer.headD (-1)
          outer := s.outer.tail }

/-- Ends the block collections that lie deeper than a column, unless inside of brackets. -/
def leave (s : Scan) (column : Int) : Scan :=
  if s.inFlow then s else unroll column (s.outer.length + 1) s

/-- Begins a block collection at a column that is deeper than the innermost one. The token goes
to a place among the tokens so far. -/
def enter (s : Scan) (column : Nat) (place : Nat) (t : Token) : Scan :=
  if s.inFlow || (column : Int) ≤ s.indent then s
  else
    { s with
      outer := s.indent :: s.outer
      indent := column
      tokens := s.tokens.insertIdxIfInBounds place t }

/-! ## Keys -/

/-- Forgets what may be a key; it is an error if that had to be one. -/
def dropKey? (s : Scan) : Option Scan :=
  match s.keys with
  | some k :: rest => if k.required then none else some { s with keys := none :: rest }
  | _ => some s

def markKey? (s : Scan) : Option Scan :=
  if s.keyAllowed then do
    let required := !s.inFlow && s.indent == (s.cursor.column : Int)
    let s ← s.dropKey?
    let k : PossibleKey :=
      ⟨required, s.tokens.size, s.cursor.index, s.cursor.line, s.cursor.column⟩
    some { s with keys := some k :: s.keys.tail }
  else some s

def isStale (s : Scan) (k : PossibleKey) : Bool :=
  decide (k.line < s.cursor.line) || decide (k.index + 1024 < s.cursor.index)

/-- Forgets everything that may be a key but is too far back. -/
def dropStale? (s : Scan) : Option Scan := do
  let keys ← s.keys.mapM fun k =>
    match k with
    | none => some none
    | some k => if s.isStale k then (if k.required then none else some none) else some (some k)
  some { s with keys }

/-! ## Single tokens -/

/-- A token of a fixed number of characters behind which no key is open. -/
def fixed? (s : Scan) (length : Nat) (allowed : Bool) (t : Token) : Option Scan := do
  let s ← s.dropKey?
  some ((s.allowing allowed).moveTo (s.cursor.skip length) |>.push t)

def openFlow? (s : Scan) (t : Token) : Option Scan := do
  let s ← s.markKey?
  some ({ s with keys := none :: s.keys, keyAllowed := true }.moveTo s.cursor.next |>.push t)

def closeFlow? (s : Scan) (t : Token) : Option Scan := do
  let s ← s.dropKey?
  let keys := if s.inFlow then s.keys.tail else s.keys
  some ({ s with keys, keyAllowed := false }.moveTo s.cursor.next |>.push t)

def blockEntry? (s : Scan) : Option Scan :=
  if s.inFlow then s.fixed? 1 true .blockEntry
  else if s.keyAllowed then
    (s.enter s.cursor.column s.tokens.size .blockListStart).fixed? 1 true .blockEntry
  else none

def explicitKey? (s : Scan) : Option Scan :=
  if s.inFlow then s.fixed? 1 false .key
  else if s.keyAllowed then
    (s.enter s.cursor.column s.tokens.size .blockMapStart).fixed? 1 true .key
  else none

/-- The colon before a value, which makes what stands before it a key. -/
def value? (s : Scan) : Option Scan :=
  match s.keys with
  | some k :: rest =>
    let s := { s with
      tokens := s.tokens.insertIdxIfInBounds k.place .key
      keys := none :: rest
      keyAllowed := false }
    some ((s.enter k.column k.place .blockMapStart).moveTo s.cursor.next |>.push .value)
  | _ =>
    if s.inFlow then some ((s.allowing false).moveTo s.cursor.next |>.push .value)
    else if s.keyAllowed then
      let s := s.enter s.cursor.column s.tokens.size .blockMapStart
      some (s.moveTo s.cursor.next |>.push .value)
    else none

def name? (s : Scan) (token : List Char → Token) : Option Scan := do
  let s ← s.markKey?
  let start := s.cursor.next
  let name := start.rest.takeWhile isNameChar
  let c := start.skip name.length
  let ends := c.isGapAt 0 ||
    (c.at? 0).any fun d => ['?', ':', ',', ']', '\x7d', '%', '@', '`'].contains d
  if name.isEmpty || !ends then none
  else some ((s.allowing false).moveTo c |>.push (token name))

def tag? (s : Scan) : Option Scan := do
  let s ← s.markKey?
  let (handle, suffix, c) ← Tag.written? s.cursor
  if c.isGapAt 0 || (s.inFlow && c.at? 0 = some ',') then
    some ((s.allowing false).moveTo c |>.push (.tag handle suffix))
  else none

def quotedScalar? (s : Scan) (quote : Char) : Option Scan := do
  let s ← s.markKey?
  let start := s.cursor.next
  let (text, c) ← quoted? quote (start.rest.length + 1) [] start
  some ((s.allowing false).moveTo c |>.push (.scalar .other text))

/-- A plain scalar. Behind one that ended with its line a key may begin. -/
def plainScalar? (s : Scan) : Option Scan := do
  let s ← s.markKey?
  let (text, lineEnded, c) ←
    plain? s.inFlow (s.indent + 1) (s.cursor.rest.length + 1) [] {} s.cursor
  some ((s.allowing lineEnded).moveTo c |>.push (.scalar .plain text))

def blockScalar? (s : Scan) (literal : Bool) : Option Scan := do
  let s ← s.dropKey?
  let (text, c) ← block? literal s.indent s.cursor.next
  let style := if literal then Style.literal else .other
  some ((s.allowing true).moveTo c |>.push (.scalar style text))

def documentMark? (s : Scan) (t : Token) : Option Scan :=
  (s.leave (-1)).fixed? 3 false t

def versionPart? (c : Cursor) : Option (Nat × Cursor) :=
  let digits := c.rest.takeWhile Text.isDigit
  if digits.isEmpty || decide (9 < digits.length) then none
  else some (Text.ofDigits digits, c.skip digits.length)

/-- What a line about the notation says, behind its percent sign: a version, or the meaning of a
handle. -/
def directiveToken? (c : Cursor) : Option (Token × Cursor) :=
  let name := c.rest.takeWhile isNameChar
  let behind := c.skip name.length
  if !behind.isGapAt 0 then none
  else if name = ['Y', 'A', 'M', 'L'] then do
    let (major, c) ← versionPart? behind.skipBlanks
    if c.at? 0 = some '.' then
      let (minor, c) ← versionPart? c.next
      some (.version major minor, c)
    else none
  else if name = ['T', 'A', 'G'] then do
    let (handle, meaning, c) ← Tag.directive? behind.skipBlanks
    some (.handle handle meaning, c)
  else none

/-- A line about the notation, which is taken up to the begin of the next line. -/
def directive? (s : Scan) : Option Scan := do
  let s ← (s.leave (-1)).dropKey?
  let (token, c) ← directiveToken? s.cursor.next
  let c := c.skipBlanks.skipComment
  if c.isAtLineEnd then some ((s.allowing false).moveTo c.next |>.push token) else none

/-! ## Scanning -/

/-- Behind blanks, comments and line ends. A tab counts as a blank only where no key may begin. -/
def skipToToken : Nat → Scan → Scan
  | 0, s => s
  | bound + 1, s =>
    let c := s.cursor
    let c := if c.column = 0 && (c.at? 0).any isOrderMark then c.next else c
    let c := c.skipWhile fun d => d = ' ' || (d = '\t' && (s.inFlow || !s.keyAllowed))
    let c := c.skipComment
    match c.at? 0 with
    | some d =>
      if isBreak d then
        skipToToken bound { s with cursor := c.next, keyAllowed := s.keyAllowed || !s.inFlow }
      else s.moveTo c
    | none => s.moveTo c

def beginsPlain (s : Scan) (d : Char) : Bool :=
  let marks := ['-', '?', ':', ',', '[', ']', '\x7b', '\x7d', '#', '&', '*', '!', '|', '>', '\'',
    '"', '%', '@', '`']
  (!isBlank d && !isBreak d && !marks.contains d) ||
    (d = '-' && !(s.cursor.at? 1).any isBlank) ||
    (!s.inFlow && (d = '?' || d = ':') && !s.cursor.isGapAt 1)

/-- The token at the cursor, which is at its first character. -/
def token? (s : Scan) (d : Char) : Option Scan :=
  let gap := s.cursor.isGapAt 1
  if s.cursor.column = 0 && d = '%' then s.directive?
  else if s.cursor.isAtMark then s.documentMark? (if d = '-' then .documentStart else .documentEnd)
  else if d = '[' then s.openFlow? .flowListStart
  else if d = '\x7b' then s.openFlow? .flowMapStart
  else if d = ']' then s.closeFlow? .flowListEnd
  else if d = '\x7d' then s.closeFlow? .flowMapEnd
  else if d = ',' then s.fixed? 1 true .flowEntry
  else if d = '-' && gap then s.blockEntry?
  else if d = '?' && (s.inFlow || gap) then s.explicitKey?
  else if d = ':' && (s.inFlow || gap) then s.value?
  else if d = '*' then s.name? .alias
  else if d = '&' then s.name? .anchor
  else if d = '!' then s.tag?
  else if d = '|' && !s.inFlow then s.blockScalar? true
  else if d = '>' && !s.inFlow then s.blockScalar? false
  else if d = '\'' || d = '"' then s.quotedScalar? d
  else if s.beginsPlain d then s.plainScalar?
  else none

/-- Scans to the end of the text; every token but the last takes at least one character. -/
def run? : Nat → Scan → Option Scan
  | 0, _ => none
  | bound + 1, s => do
    let s ← (skipToToken (bound + 1) s).dropStale?
    let s := s.leave s.cursor.column
    match s.cursor.at? 0 with
    | none => (s.leave (-1)).dropKey?
    | some d => run? bound (← s.token? d)

end Scan

/-- The tokens of a text. -/
def Token.scan? (text : List Char) : Option (List Token) :=
  if text.all isAllowed then
    (Scan.run? (text.length + 1) { cursor := { rest := normalized text } }).map (·.tokens.toList)
  else none

end TagSync.Yaml
