import TagSync.Json.Writer
import TagSync.NameMap
import TagSync.Yaml
import TagSync.Yaml.Numeral

/-!
# Records in YAML

How a value is read out of the nodes of a document. Every scalar may be read as a string; what
else it can be depends on its style and its tag. A node that stands for another one is followed
where a value is read, and nowhere else; how often that happens and how deep the collections are
that are read inside of each other is limited. A known field of a record must not be repeated,
and unknown ones are ignored. Where nothing is written, an empty record or an empty list is read.
-/

set_option autoImplicit false

namespace TagSync.Yaml

variable {α : Type}

/-! ## Reading -/

/-- What the reading of a node depends on. -/
structure Scope where
  document : Document
  /-- How many collections may be inside of each other here. -/
  room : Nat

/-- Reading something out of a document. The state counts the nodes that were followed. -/
abbrev Reading := ReaderT Scope (StateT Nat Option)

/-- How many times the size of the document nodes may be followed. -/
def followFactor : Nat := 100

/-- The node that a node stands for, which is the node itself unless it is an alias. -/
def follow : Yaml → Reading Yaml
  | .alias number => do
    let document := (← read).document
    let followed := (← get) + 1
    set followed
    if document.size * followFactor < followed then failure
    else document.meanings.lookup number
  | v => return v

def inside (inner : Reading α) : Reading α := do
  match (← read).room with
  | 0 => failure
  | room + 1 => withReader (fun scope => { scope with room }) inner

/-! ## Single values -/

def isNullWord (text : String) : Bool :=
  text == "~" || text == "null" || text == "Null" || text == "NULL"

def boolWord? (text : String) : Option Bool :=
  if ["true", "True", "TRUE"].contains text then some true
  else if ["false", "False", "FALSE"].contains text then some false
  else none

def asString (v : Yaml) : Reading String := do
  match ← follow v with
  | .scalar _ _ text => return text
  | _ => failure

/-- Reads a truth value. A block that keeps its lines can be one if its tag says so. -/
def asBool (v : Yaml) : Reading Bool := do
  match ← follow v with
  | .scalar .plain _ text => boolWord? text
  | .scalar .literal tag text => if tag = some Tag.bool then boolWord? text else failure
  | _ => failure

/-- Reads one of the given words. It is a tag's own name, on a scalar without a value, or else the
text of a scalar. -/
def asWord (words : List String) (v : Yaml) : Reading String := do
  match ← follow v with
  | .scalar style tag text =>
    let isNone := style == .plain && (text == "" || isNullWord text)
    let word ←
      match tag.bind Tag.ownName? with
      | some name => if isNone then pure name else failure
      | none => pure text
    if words.contains word then return word else failure
  | _ => failure

/-- Reads a value that may be missing. A tag for the missing value has to be right. -/
def orNull (item : Yaml → Reading α) (v : Yaml) : Reading (Option α) := do
  let v ← follow v
  match v with
  | .scalar .plain none text =>
    if text == "" || isNullWord text then return none else return some (← item v)
  | .scalar .plain (some tag) text =>
    if tag = Tag.null then (if isNullWord text then return none else failure)
    else return some (← item v)
  | _ => return some (← item v)

/-! ## Collections -/

def asList (item : Yaml → Reading α) (v : Yaml) : Reading (List α) := do
  match ← follow v with
  | .list _ items => inside (items.mapM item)
  | .scalar .plain _ "" => return []
  | _ => failure

def asStringMap (v : Yaml) : Reading (List (String × String)) := do
  match ← follow v with
  | .map _ entries => inside (entries.mapM fun e => return (← asString e.1, ← asString e.2))
  | .scalar .plain _ "" => return []
  | _ => failure

/-! ## Any value -/

/-- Whether a scalar is a value. A tag of a type of the language has to be right, and there are no
values for other types and for whole numbers of more than 64 bits, unless they are so great that
they count as numbers of any kind. -/
def isValue (style : Style) (tag : Option Tag) (text : String) : Bool :=
  let isPlainValue : Bool :=
    style != .plain || (Numeral.int? text).all fun n => Numeral.fits 64 n || !Numeral.fits 128 n
  match tag with
  | none => isPlainValue
  | some tag =>
    if tag = Tag.bool then (boolWord? text).isSome
    else if tag = Tag.int then (Numeral.int? text).any (Numeral.fits 64)
    else if tag = Tag.float then Numeral.isFloat text
    else if tag = Tag.null then isNullWord text
    else if tag.head? = Tag.mark.head? then (Tag.ownName? tag).isNone && isPlainValue
    else true

/-- A scalar that is a value, as JSON. A tag decides what it is, or else its style and its text. -/
def scalarJson (style : Style) (tag : Option Tag) (text : String) : String :=
  let mayBe (t : Tag) : Bool := tag == some t || (tag.isNone && style == .plain)
  if mayBe Tag.null && (text == "" || isNullWord text) then "null"
  else
    match (boolWord? text).filter fun _ => mayBe Tag.bool,
        (Numeral.int? text).filter fun _ => mayBe Tag.int with
    | some b, _ => toString b
    | none, some n => toString n
    | none, none => if mayBe Tag.float && Numeral.isFloat text then text else Json.quote text

/-- A map as JSON; the last value under a name counts. -/
def mapJson (entries : List (String × String)) : String :=
  let fields := (NameMap.ofList entries).entries.map fun f => Json.quote f.1 ++ ":" ++ f.2
  "\x7b" ++ ",".intercalate fields ++ "\x7d"

/-- Reads any value, inside of which there are at most `room` collections inside of each other, as
JSON. The keys of maps have to be scalars. -/
def jsonWithin : (room : Nat) → Yaml → Reading String
  | room, v => do
    match ← follow v with
    | .scalar style tag text =>
      if isValue style tag text then return scalarJson style tag text else failure
    | .list tag items =>
      if (tag.bind Tag.ownName?).isSome then failure
      else
        match room with
        | 0 => failure
        | room + 1 => return "[" ++ ",".intercalate (← items.mapM (jsonWithin room)) ++ "]"
    | .map tag entries =>
      if (tag.bind Tag.ownName?).isSome then failure
      else
        match room with
        | 0 => failure
        | room + 1 =>
          return mapJson (← entries.mapM fun e => return (← asString e.1, ← jsonWithin room e.2))
    | .alias _ => failure

def asJson (v : Yaml) : Reading String := do
  jsonWithin (← read).room v

/-! ## Records -/

/-- The known fields of a record. -/
structure Fields where
  /-- The names with their nodes. -/
  entries : List (String × Yaml)

/-- Reads a record out of the fields of the given names. A map must not repeat any of them, and
every key has to be a string. A list gives the fields in order, and at least `least` of them. -/
def recordWith (names : List String) (least : Nat) (inner : Fields → Reading α) (v : Yaml) :
    Reading α := do
  match ← follow v with
  | .map _ entries => inside do
    let all ← entries.mapM fun e => return (← asString e.1, e.2)
    let known := all.filter fun f => names.contains f.1
    if (known.map (·.1)).Nodup then inner ⟨known⟩ else failure
  | .list _ items =>
    if least ≤ items.length ∧ items.length ≤ names.length then inside (inner ⟨names.zip items⟩)
    else failure
  | .scalar .plain _ "" => inner ⟨[]⟩
  | _ => failure

/-- As `recordWith`, but a list has to give every field. -/
def record (names : List String) (inner : Fields → Reading α) (v : Yaml) : Reading α :=
  recordWith names names.length inner v

namespace Fields

def required (fs : Fields) (name : String) (item : Yaml → Reading α) : Reading α :=
  match fs.entries.lookup name with
  | none => failure
  | some v => item v

def orElse (fs : Fields) (name : String) (missing : α) (item : Yaml → Reading α) : Reading α :=
  match fs.entries.lookup name with
  | none => return missing
  | some v => item v

def optional (fs : Fields) (name : String) (item : Yaml → Reading α) : Reading (Option α) :=
  fs.orElse name none (orNull item)

/-- A list that may be missing, which is the empty list. -/
def list (fs : Fields) (name : String) (item : Yaml → Reading α) : Reading (List α) := do
  return (← fs.optional name (asList item)).getD []

end Fields

/-! ## Documents -/

/-- How many collections may be inside of each other in what is read. -/
def greatestRoom : Nat := 128

/-- Reads something out of a document, beginning with its outermost node. -/
def Document.decode? (d : Document) (item : Yaml → Reading α) : Option α :=
  ((item d.root ⟨d, greatestRoom⟩).run 0).map (·.1)

end TagSync.Yaml
