import TagSync.Json.Token
import TagSync.Text.Utf8
import TagSync.Yaml.Cursor

/-!
# Tags of a YAML text

A tag says what type a node has; as a value it is the octets of an address. In a text it stands
either whole in angle brackets or as a handle, which is short for the begin of an address, and a
suffix. Octets may be written as a percent sign and two hexadecimal digits. `Tag.written?` reads
a tag at a cursor, `Tag.directive?` a line that gives a handle its meaning.
-/

set_option autoImplicit false

namespace TagSync.Yaml

open TagSync.Text

abbrev Tag := List UInt8

namespace Tag

/-! ## Known tags -/

/-- How the addresses of the types of the language itself begin. -/
def core : Tag := Utf8.encode "tag:yaml.org,2002:"

def null : Tag := core ++ Utf8.encode "null"

def bool : Tag := core ++ Utf8.encode "bool"

def int : Tag := core ++ Utf8.encode "int"

def float : Tag := core ++ Utf8.encode "float"

def mark : Tag := Utf8.encode "!"

/-- The name of a type that only a file's own readers know: what stands behind an exclamation
mark, or the mark itself. -/
def ownName? (t : Tag) : Option String :=
  let name? (octets : Tag) : Option String :=
    match Utf8.decode octets with
    | .ok name => some name
    | .error _ => none
  if t = mark then name? t
  else if t.head? = mark.head? then name? t.tail
  else none

/-! ## Addresses -/

/-- An octet in hexadecimal digits behind a percent sign. -/
def octet? (c : Cursor) : Option (Nat × Cursor) :=
  match c.rest with
  | '%' :: a :: b :: _ => do
    let n := (← Json.hexDigit? a) * 16 + (← Json.hexDigit? b)
    some (n, c.skip 3)
  | _ => none

/-- How many octets belong to the character that an octet begins. -/
def width? (lead : Nat) : Option Nat :=
  if lead < 0x80 then some 1
  else if lead / 32 = 6 then some 2
  else if lead / 16 = 14 then some 3
  else if lead / 8 = 30 then some 4
  else none

/-- The octets that a character still needs, behind those so far. -/
def further? : Nat → Tag → Cursor → Option (Tag × Cursor)
  | 0, octets, c => some (octets, c)
  | owed + 1, octets, c => do
    let (n, c) ← octet? c
    if n / 64 = 2 then further? owed (octets ++ [UInt8.ofNat n]) c else none

/-- The octets of a character that is written with percent signs. -/
def escape? (c : Cursor) : Option (Tag × Cursor) := do
  let (lead, c) ← octet? c
  further? ((← width? lead) - 1) [UInt8.ofNat lead] c

/-- Whether a character may stand in an address as it is. Commas and brackets may do so only where
the end of the address is marked. -/
def isAddressChar (marked : Bool) (c : Char) : Bool :=
  isNameChar c || [';', '/', '?', ':', '@', '&', '=', '+', '$', '.', '!', '~', '*', '\'', '(',
    ')'].contains c || (marked && (c = ',' || c = '[' || c = ']'))

/-- The octets of an address, behind those so far; there are at most `bound` characters. -/
def addressFrom? (marked : Bool) : (bound : Nat) → Tag → Cursor → Option (Tag × Cursor)
  | 0, octets, c => some (octets, c)
  | bound + 1, octets, c =>
    match c.at? 0 with
    | none => some (octets, c)
    | some d =>
      if d = '%' then do
        let (more, c) ← escape? c
        addressFrom? marked bound (octets ++ more) c
      else if isAddressChar marked d then
        addressFrom? marked bound (octets ++ [UInt8.ofNat d.toNat]) c.next
      else some (octets, c)

/-- An address of at least one character. A zero octet ends what counts of it. -/
def address? (marked : Bool) (c : Cursor) : Option (Tag × Cursor) := do
  let (octets, behind) ← addressFrom? marked c.rest.length [] c
  if c.index < behind.index then some (octets.takeWhile (· != 0), behind) else none

/-! ## Handles -/

/-- What looks like a handle: an exclamation mark, the characters of a name and possibly another
mark. -/
def handle (c : Cursor) : List Char × Cursor :=
  let name := c.next.rest.takeWhile isNameChar
  let behind := c.next.skip name.length
  if behind.at? 0 = some '!' then ('!' :: name ++ ['!'], behind.next) else ('!' :: name, behind)

def isClosed (handle : List Char) : Bool :=
  decide (1 < handle.length) && handle.getLast? == some '!'

/-- A tag at a cursor, which is at an exclamation mark: its handle and its suffix. Without a handle
the suffix is all of it. -/
def written? (c : Cursor) : Option (List Char × Tag × Cursor) :=
  if c.at? 1 = some '<' then do
    let (suffix, behind) ← address? true (c.skip 2)
    if behind.at? 0 = some '>' then some ([], suffix, behind.next) else none
  else
    let (front, behind) := handle c
    if isClosed front then do
      let (suffix, behind) ← address? false behind
      some (front, suffix, behind)
    else do
      let name := front.tail.map fun d => UInt8.ofNat d.toNat
      let (octets, behind) ← addressFrom? false behind.rest.length name behind
      let suffix := octets.takeWhile (· != 0)
      if suffix.isEmpty then some ([], mark, behind) else some (['!'], suffix, behind)

/-- A handle and what it is short for, as a line about the notation gives them. -/
def directive? (c : Cursor) : Option (List Char × Tag × Cursor) :=
  if c.at? 0 = some '!' then
    let (front, behind) := handle c
    if (front = ['!'] || isClosed front) && (behind.at? 0).any isBlank then do
      let (meaning, behind) ← address? true behind.skipBlanks
      if behind.isGapAt 0 then some (front, meaning, behind) else none
    else none
  else none

end Tag

end TagSync.Yaml
