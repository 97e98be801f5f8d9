import TagSync.Json.Token
import TagSync.Yaml.Cursor

/-!
# Scalars of a YAML text

A scalar is written plainly, in single or double quotes, or as a block of indented lines. Inside
of plain and quoted scalars a line's end counts as a blank, and further empty lines count as
line ends. Each function reads a scalar at a cursor and gives its text and the cursor behind it.
The first argument of the recursive functions bounds their steps by the length of the text.
-/

set_option autoImplicit false

namespace TagSync.Yaml

/-- How a scalar is written, as far as it matters for its meaning. -/
inductive Style where
  /-- Without quotes and on the lines of its collection. -/
  | plain
  /-- As a block that keeps its lines. -/
  | literal
  /-- In quotes, or as a block whose lines are joined. -/
  | other
  deriving DecidableEq, Repr

/-! ## Folding -/

/-- The blanks and line ends between two parts of a scalar. -/
structure Gap where
  /-- The blanks, if no line ends. -/
  blanks : List Char := []
  /-- The first line end, if one was seen; one that was escaped counts as nothing. -/
  first : Option (List Char) := none
  /-- The line ends after it. -/
  more : List Char := []

namespace Gap

/-- What a gap stands for: its blanks, a space for one line end, or its line ends but for the
first. -/
def text (g : Gap) : List Char :=
  match g.first with
  | none => g.blanks
  | some ['\n'] => if g.more.isEmpty then [' '] else g.more
  | some other => other ++ g.more

/-- The gap at a cursor. A tab before column `indent` of a later line is an error. -/
def read? (indent : Int) : Nat → Gap → Cursor → Option (Gap × Cursor)
  | 0, g, c => some (g, c)
  | bound + 1, g, c =>
    match c.rest with
    | [] => some (g, c)
    | d :: _ =>
      if isBlank d then
        match g.first with
        | none => read? indent bound { g with blanks := g.blanks ++ [d] } c.next
        | some _ => if d = '\t' ∧ c.column < indent then none else read? indent bound g c.next
      else if isBreak d then
        match g.first with
        | none => read? indent bound { g with blanks := [], first := some [d] } c.next
        | some _ => read? indent bound { g with more := g.more ++ [d] } c.next
      else some (g, c)

end Gap

/-! ## Plain scalars -/

/-- Whether a character is a bracket or a comma of a flow collection. -/
def isFlowMark (c : Char) : Bool :=
  c = ',' || c = '[' || c = ']' || c = '\x7b' || c = '\x7d'

/-- The characters of a plain scalar up to a gap or its end. -/
def plainRun? (flow : Bool) : Nat → List Char → Cursor → Option (List Char × Cursor)
  | 0, run, c => some (run.reverse, c)
  | bound + 1, run, c =>
    match c.at? 0 with
    | none => some (run.reverse, c)
    | some d =>
      if isBlank d || isBreak d then some (run.reverse, c)
      else if flow && d = ':' && (c.at? 1).any (fun e => isFlowMark e || e = '?') then none
      else if (d = ':' && c.isGapAt 1) || (flow && isFlowMark d) then some (run.reverse, c)
      else plainRun? flow bound (d :: run) c.next

/-- A plain scalar behind the text `done`, last character first, and whether a line ended behind it.
Outside of brackets its later lines have to be indented to column `indent`. -/
def plain? (flow : Bool) (indent : Int) : Nat → (done : List Char) → Gap → Cursor →
    Option (List Char × Bool × Cursor)
  | 0, _, _, _ => none
  | bound + 1, done, gap, c =>
    let ends := some (done.reverse, gap.first.isSome, c)
    if c.isAtMark || c.at? 0 = some '#' then ends
    else do
      let (run, behind) ← plainRun? flow bound [] c
      let done := if run.isEmpty then done else run.reverse ++ (gap.text.reverse ++ done)
      if !behind.isGapAt 0 || behind.rest.isEmpty then
        some (done.reverse, run.isEmpty && gap.first.isSome, behind)
      else
        let (gap, c) ← Gap.read? indent bound (if run.isEmpty then gap else {}) behind
        if !flow && c.column < indent then some (done.reverse, gap.first.isSome, c)
        else plain? flow indent bound done gap c

/-! ## Quoted scalars -/

/-- The character that an escape of one letter stands for. -/
def unescape? (c : Char) : Option Char :=
  [('0', 0), ('a', 7), ('b', 8), ('t', 9), ('\t', 9), ('n', 10), ('v', 11), ('f', 12), ('r', 13),
    ('e', 27), (' ', 32), ('"', 34), ('/', 47), ('\\', 92), ('N', 0x85), ('_', 0xA0),
    ('L', 0x2028), ('P', 0x2029)].lookup c |>.map Char.ofNat

/-- How many hexadecimal digits follow the letter of an escape. -/
def escapeDigits? (c : Char) : Option Nat :=
  [('x', 2), ('u', 4), ('U', 8)].lookup c

/-- The character of a code point in hexadecimal digits. -/
def ofHex? (digits : List Char) : Option Char := do
  let values ← digits.mapM Json.hexDigit?
  let n := values.foldl (fun n d => n * 16 + d) 0
  if n.isValidChar then some (Char.ofNat n) else none

/-- The characters of a quoted scalar up to a gap or its end, and whether a line end was escaped
behind them. -/
def quotedRun? (quote : Char) : Nat → List Char → Cursor → Option (List Char × Bool × Cursor)
  | 0, run, c => some (run.reverse, false, c)
  | bound + 1, run, c =>
    match c.at? 0 with
    | none => none
    | some d =>
      if isBlank d || isBreak d then some (run.reverse, false, c)
      -- Two single quotes stand for one, and do not end the scalar.
      else if d = '\'' && quote = '\'' && c.at? 1 = some '\'' then
        quotedRun? quote bound ('\'' :: run) (c.skip 2)
      else if d = quote then some (run.reverse, false, c)
      else if d = '\\' && quote = '"' then
        match c.at? 1 with
        | none => none
        | some e =>
          if isBreak e then some (run.reverse, true, c.skip 2)
          else
            match escapeDigits? e with
            | some n => do
              let digits := (c.rest.drop 2).take n
              if digits.length = n then
                quotedRun? quote bound ((← ofHex? digits) :: run) (c.skip (2 + n))
              else none
            | none => do quotedRun? quote bound ((← unescape? e) :: run) (c.skip 2)
      else quotedRun? quote bound (d :: run) c.next

/-- The rest of a quoted scalar behind the text `done`, last character first. -/
def quoted? (quote : Char) : Nat → (done : List Char) → Cursor → Option (List Char × Cursor)
  | 0, _, _ => none
  | bound + 1, done, c =>
    if c.isAtMark then none
    else do
      let (run, escaped, c) ← quotedRun? quote bound [] c
      let done := run.reverse ++ done
      if !escaped && c.at? 0 = some quote then some (done.reverse, c.next)
      else if c.rest.isEmpty then none
      else
        let start : Gap := if escaped then { first := some [] } else {}
        let (gap, c) ← Gap.read? 0 bound start c
        quoted? quote bound (gap.text.reverse ++ done) c

/-! ## Block scalars -/

/-- What happens to the line ends at the end of a block. -/
inductive Chomping where
  /-- All are dropped. -/
  | strip
  | clip
  | keep
  deriving DecidableEq

def Chomping.ofMark? (c : Char) : Option Chomping :=
  if c = '-' then some .strip else if c = '+' then some .keep else none

/-- The depth of a block that is given by a digit; zero is none. -/
def depth? (c : Char) : Option Nat :=
  match Text.digit? c with
  | some 0 => none
  | d => d

/-- The header of a block: chomping and depth, in either order, and whether both are in order. -/
def blockHeader? (c : Cursor) : Option (Chomping × Option Nat × Cursor) :=
  let isMark (d : Option Char) : Option Chomping := d.bind Chomping.ofMark?
  let isDepth (d : Option Char) : Option Nat := d.bind depth?
  if c.at? 0 = some '0' || ((isMark (c.at? 0)).isSome && c.at? 1 = some '0') then none
  else
    match isMark (c.at? 0), isDepth (c.at? 0) with
    | some m, _ =>
      match isDepth (c.at? 1) with
      | some d => some (m, some d, c.skip 2)
      | none => some (m, none, c.next)
    | none, some d =>
      match isMark (c.at? 1) with
      | some m => some (m, some d, c.skip 2)
      | none => some (.clip, some d, c.next)
    | none, none => some (.clip, none, c)

/-- The empty lines at a cursor, the greatest indentation among them and the cursor behind the
indentation of the line after them. Without a given `indent` all spaces are skipped. -/
def blockBreaks? (indent : Option Nat) : Nat → List Char → Nat → Cursor →
    Option (List Char × Nat × Cursor)
  | 0, breaks, deepest, c => some (breaks, deepest, c)
  | bound + 1, breaks, deepest, c =>
    let spaces := (c.rest.takeWhile (· = ' ')).length
    let c := c.skip (match indent with
      | none => spaces
      | some n => min spaces (n - c.column))
    let deepest := max deepest c.column
    let isShort := match indent with
      | none => true
      | some n => decide (c.column < n)
    match c.at? 0 with
    | some d =>
      if isShort && d = '\t' then none
      else if isBreak d then blockBreaks? indent bound (breaks ++ [d]) deepest c.next
      else some (breaks, deepest, c)
    | none => some (breaks, deepest, c)

/-- The lines of a block of known indentation, behind the text `done`, last character first, the
last line end and the empty lines after it. -/
def blockLines? (literal : Bool) (indent : Nat) : Nat → (done : List Char) →
    (lastBreak : List Char) → (empty : List Char) → (wasBlank : Bool) → Cursor →
    Option (List Char × List Char × List Char × Cursor)
  | 0, done, lastBreak, empty, _, c => some (done.reverse, lastBreak, empty, c)
  | bound + 1, done, lastBreak, empty, wasBlank, c =>
    match c.rest with
    | [] => some (done.reverse, lastBreak, empty, c)
    | d :: _ =>
      if c.column ≠ indent then some (done.reverse, lastBreak, empty, c)
      else do
        let blank := isBlank d
        let joint :=
          if !literal && lastBreak = ['\n'] && !wasBlank && !blank then
            (if empty.isEmpty then [' '] else empty)
          else lastBreak ++ empty
        let line := c.rest.takeWhile (fun e => !isBreak e)
        let c := c.skip line.length
        let lastBreak := c.rest.take 1
        let (empty, _, c) ← blockBreaks? (some indent) bound [] 0 c.next
        blockLines? literal indent bound (line.reverse ++ (joint.reverse ++ done)) lastBreak empty
          blank c

/-- A block scalar behind its mark, inside of a collection at column `outer`. -/
def block? (literal : Bool) (outer : Int) (c : Cursor) : Option (List Char × Cursor) := do
  let (chomping, depth, c) ← blockHeader? c
  let c := c.skipBlanks.skipComment
  if !c.isAtLineEnd then none
  else
    let base := max outer 0
    let given := depth.map fun d => (base + d).toNat
    let c := c.next
    let (empty, deepest, c) ← blockBreaks? given (c.rest.length + 1) [] 0 c
    let indent := given.getD (max (max deepest (outer + 1).toNat) 1)
    let (text, lastBreak, empty, c) ← blockLines? literal indent (c.rest.length + 1) [] [] empty
      false c
    let ending :=
      match chomping with
      | .strip => []
      | .clip => lastBreak
      | .keep => lastBreak ++ empty
    some (text ++ ending, c)

end TagSync.Yaml
