import TagSync.Text.Base64
import TagSync.Text.Blank
import TagSync.Text.Utf8

/-!
# Armoured texts

Octets in base64 between a begin line and an end line that say what they are. Such a block may
have lines with headers, each a name and a value around a colon, and an empty line behind them.
`Pem.parse` reads the blocks of a text; what stands between them does not count.
-/

set_option autoImplicit false

namespace TagSync.Pem

open TagSync.Text

/-- A block. -/
structure Block where
  label : String
  content : List UInt8
  deriving DecidableEq, Repr

/-- What is wrong with a block. -/
inductive Fault where
  /-- Nothing stands in the begin line. -/
  | noBegin
  /-- Nothing stands in the end line. -/
  | noEnd
  /-- Begin and end line differ. -/
  | mismatch (front back : String)
  /-- The octets are not in base64. -/
  | badData (fault : Base64.Fault)
  /-- A part is no text. -/
  | notText (fault : Utf8Fault)
  /-- A header has no colon. -/
  | badHeader (line : String)
  deriving DecidableEq, Repr

def Fault.message : Fault → String
  | .noBegin => "missing BEGIN tag"
  | .noEnd => "missing END tag"
  | .mismatch front back =>
    "mismatching BEGIN (\"" ++ front ++ "\") and END (\"" ++ back ++ "\") tags"
  | .badData fault => s!"invalid data: {fault.message}"
  | .notText fault => s!"invalid utf-8 value: {fault.message}"
  | .badHeader line => s!"invalid header: {line}"

/-! ## Parts -/

/-- What stands before and behind the first occurrence of some octets. -/
def around? (mark : List UInt8) : List UInt8 → Option (List UInt8 × List UInt8)
  | [] => if mark.isEmpty then some ([], []) else none
  | b :: bs =>
    if mark.isPrefixOf (b :: bs) then some ([], (b :: bs).drop mark.length)
    else (around? mark bs).map fun (front, back) => (b :: front, back)

def behindBlanks (octets : List UInt8) : List UInt8 :=
  octets.dropWhile fun b => b = 32 || b = 9 || b = 10 || b = 13

/-- A block as it is written. -/
structure Raw where
  /-- What stands in the begin line. -/
  front : List UInt8
  /-- What stands between the lines. -/
  body : List UInt8
  /-- What stands in the end line. -/
  back : List UInt8

/-- The first block of a text, with what stands behind it. -/
def raw? (octets : List UInt8) : Option (Raw × List UInt8) := do
  let (_, rest) ← around? (Utf8.encode "-----BEGIN ") octets
  let (front, rest) ← around? (Utf8.encode "-----") rest
  let (body, rest) ← around? (Utf8.encode "-----END ") (behindBlanks rest)
  let (back, rest) ← around? (Utf8.encode "-----") rest
  some (⟨front, body, back⟩, behindBlanks rest)

/-- The blocks of a text, of which there are at most `bound`. -/
def raws : (bound : Nat) → List UInt8 → List Raw
  | 0, _ => []
  | bound + 1, octets =>
    match raw? octets with
    | none => []
    | some (block, rest) => block :: raws bound rest

/-- The headers of a block, if it has any, and its data. -/
def split (body : List UInt8) : List UInt8 × List UInt8 :=
  match around? [10, 10] body with
  | some parts => parts
  | none => (around? [13, 10, 13, 10] body).getD ([], body)

/-! ## Blocks -/

def textOf (octets : List UInt8) : Except Fault String :=
  match Utf8.decode octets with
  | .ok text => .ok text
  | .error fault => .error (.notText fault)

def withoutReturn (line : List Char) : List Char :=
  if line.getLast? = some '\r' then line.dropLast else line

def linesOf (text : String) : List String :=
  let lines := pieces '\n' text.toList
  let last := String.ofList (lines.getLastD [])
  lines.dropLast.map (String.ofList <| withoutReturn ·) ++ (if last = "" then [] else [last])

def checkHeaders (text : String) : Except Fault Unit :=
  match (linesOf text).find? fun line => !line.toList.contains ':' with
  | some line => .error (.badHeader line)
  | none => .ok ()

def Block.ofRaw (raw : Raw) : Except Fault Block := do
  let front ← textOf raw.front
  if front = "" then .error .noBegin
  else
    let back ← textOf raw.back
    if back = "" then .error .noEnd
    else if front ≠ back then .error (.mismatch front back)
    else
      let (headers, data) := split raw.body
      let data ← textOf data
      let letters := String.ofList (data.toList.filter fun c => !isBlank c)
      match Base64.parse (Utf8.encode letters) with
      | .error fault => .error (.badData fault)
      | .ok content =>
        checkHeaders (← textOf headers)
        .ok ⟨front, content⟩

/-- Reads the blocks of a text. -/
def parse (octets : List UInt8) : Except Fault (List Block) :=
  (raws octets.length octets).mapM Block.ofRaw

def certificates (octets : List UInt8) : Except Fault (List (List UInt8)) := do
  let blocks ← parse octets
  .ok ((blocks.filter (·.label == "CERTIFICATE")).map (·.content))

end TagSync.Pem
