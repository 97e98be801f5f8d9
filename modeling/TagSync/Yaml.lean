import TagSync.Yaml.Token

/-!
# YAML documents

`Yaml` is the tree of a document, in which a node may stand for another one by name: such an
`alias` holds a number, and a `Document` says which node a number means. The meaning of a number
is settled only when the whole document is known, so a node can even stand inside of the one that
it means. `Document.read?` reads a text that has at most one document; a text without one is the
empty plain scalar.
-/

set_option autoImplicit false

namespace TagSync

open Yaml (Style Tag)

/-- A node of a document. -/
inductive Yaml where
  | scalar (style : Style) (tag : Option Tag) (text : String)
  | list (tag : Option Tag) (items : List Yaml)
  | map (tag : Option Tag) (entries : List (Yaml × Yaml))
  /-- A node that stands for the one of a number. -/
  | alias (number : Nat)
  deriving Inhabited

namespace Yaml

def empty : Yaml := .scalar .plain none ""

/-- A document. -/
structure Document where
  /-- The outermost node. -/
  root : Yaml
  /-- How many scalars and aliases there are, and begins and ends of collections. -/
  size : Nat
  /-- The nodes that numbers mean; the first of a number counts. -/
  meanings : List (Nat × Yaml) := []
  deriving Inhabited

/-! ## Parsing -/

/-- Where the parsing of a document stands. -/
structure Progress where
  /-- The tokens that are left. -/
  tokens : List Token
  /-- The handles of tags with their meanings. -/
  handles : List (List Char × Tag)
  /-- The size of the document so far. -/
  size : Nat := 0
  /-- The names of nodes with their numbers, each name once. -/
  numbers : List (List Char × Nat) := []
  /-- The places of the nodes that numbers mean, last one first. A place is the size before. -/
  places : List (Nat × Nat) := []
  /-- The nodes with names at their places, once they are complete. -/
  nodes : List (Nat × Yaml) := []

abbrev Parser := StateT Progress Option

namespace Parser

def peek : Parser (Option Token) := do
  return (← get).tokens.head?

def isAt (ts : List Token) : Parser Bool := do
  return (← get).tokens.head?.any ts.contains

def skip : Parser Unit :=
  modify fun p => { p with tokens := p.tokens.tail }

def grow : Parser Unit :=
  modify fun p => { p with size := p.size + 1 }

def number (name : List Char) : Parser Nat := do
  (← get).numbers.lookup name

/-- Gives a name to the node that begins here. Its number is how many names there were; so a name
that is given again takes a number that another one may have, whose meaning changes with it. -/
def declare (name : List Char) : Parser Unit :=
  modify fun p =>
    let number := p.numbers.length
    { p with
      numbers := (name, number) :: p.numbers.filter (·.1 != name)
      places := (number, p.size) :: p.places }

/-- The node that is parsed, under its name if it has one. -/
def named (name : Option (List Char)) (node : Parser Yaml) : Parser Yaml :=
  match name with
  | none => node
  | some n => do
    let place := (← get).size
    declare n
    let v ← node
    modify fun p => { p with nodes := (place, v) :: p.nodes }
    return v

/-- The tag of a handle and a suffix; there has to be such a handle. -/
def tagOf (handle : List Char) (suffix : Tag) : Parser Tag := do
  if handle.isEmpty then return suffix
  else return (← (← get).handles.lookup handle) ++ suffix

/-- A name, if one comes next. -/
def name? : Parser (Option (List Char)) := do
  match ← peek with
  | some (.anchor n) =>
    skip
    return some n
  | _ => return none

/-- A tag, if one comes next. -/
def tag? : Parser (Option Tag) := do
  match ← peek with
  | some (.tag handle suffix) =>
    skip
    return some (← tagOf handle suffix)
  | _ => return none

/-- What stands in front of a node: a name and a tag, each at most once, in either order. -/
def properties : Parser (Option (List Char) × Option Tag) := do
  match ← name? with
  | some n => return (some n, ← tag?)
  | none =>
    let tag ← tag?
    return (← name?, tag)

def scalar (style : Style) (tag : Option Tag) (text : String) : Parser Yaml := do
  grow
  return .scalar style tag text

def nothing : Parser Yaml :=
  scalar .plain none ""

mutual

/-- A node. The flags say whether it may be a block collection, and whether it may be a list
whose dashes are not indented. -/
def node (block dashes : Bool) : Nat → Parser Yaml
  | 0 => failure
  | bound + 1 => do
    match ← peek with
    | some (.alias n) =>
      skip
      grow
      return .alias (← number n)
    | _ =>
      let (name, tag) ← properties
      -- A node may have a name and a tag before its content, or instead of it.
      let first ← peek
      named name do
        match first with
        | some (.scalar style text) =>
          skip
          scalar style (tag.filter (· != Tag.mark)) (String.ofList text)
        | some .blockEntry =>
          if dashes then
            grow
            dashList tag bound []
          else if name.isSome || tag.isSome then scalar .plain tag ""
          else failure
        | some .flowListStart =>
          skip
          grow
          flowList tag bound true []
        | some .flowMapStart =>
          skip
          grow
          flowMap tag bound true []
        | some .blockListStart =>
          if block then
            skip
            grow
            blockList tag bound []
          else if name.isSome || tag.isSome then scalar .plain tag ""
          else failure
        | some .blockMapStart =>
          if block then
            skip
            grow
            blockMap tag bound []
          else if name.isSome || tag.isSome then scalar .plain tag ""
          else failure
        | _ => if name.isSome || tag.isSome then scalar .plain tag "" else failure

/-- A node, or the empty node if one of the given tokens comes next. -/
def part (ends : List Token) (block dashes : Bool) : Nat → Parser Yaml
  | 0 => failure
  | bound + 1 => do if ← isAt ends then nothing else node block dashes bound

def blockList (tag : Option Tag) : Nat → List Yaml → Parser Yaml
  | 0, _ => failure
  | bound + 1, items => do
    match ← peek with
    | some .blockEntry =>
      skip
      let item ← part [.blockEntry, .blockEnd] true false bound
      blockList tag bound (item :: items)
    | some .blockEnd =>
      skip
      grow
      return .list tag items.reverse
    | _ => failure

/-- The items of a list whose dashes are not indented, behind those so far. -/
def dashList (tag : Option Tag) : Nat → List Yaml → Parser Yaml
  | 0, _ => failure
  | bound + 1, items => do
    match ← peek with
    | some .blockEntry =>
      skip
      let item ← part [.blockEntry, .key, .value, .blockEnd] true false bound
      dashList tag bound (item :: items)
    | _ =>
      grow
      return .list tag items.reverse

/-- The entries of an indented map, behind those so far. -/
def blockMap (tag : Option Tag) : Nat → List (Yaml × Yaml) → Parser Yaml
  | 0, _ => failure
  | bound + 1, entries => do
    match ← peek with
    | some .key =>
      skip
      let key ← part [.key, .value, .blockEnd] true true bound
      let value ← valueBehind [.key, .value, .blockEnd] true bound
      blockMap tag bound ((key, value) :: entries)
    | some .blockEnd =>
      skip
      grow
      return .map tag entries.reverse
    | _ => failure

/-- The value behind a key, which is the empty node without a colon. -/
def valueBehind (ends : List Token) (block : Bool) : Nat → Parser Yaml
  | 0 => failure
  | bound + 1 => do
    if ← isAt [.value] then
      skip
      part ends block block bound
    else nothing

/-- The items of a list in brackets, behind those so far. A key makes its item a map with one
entry; a colon, a comma or the closing bracket directly behind a question mark is passed over. -/
def flowList (tag : Option Tag) : Nat → (isFirst : Bool) → List Yaml → Parser Yaml
  | 0, _, _ => failure
  | bound + 1, isFirst, items => do
    if !isFirst && !(← isAt [.flowListEnd]) then
      if ← isAt [.flowEntry] then skip else failure
    match ← peek with
    | some .flowListEnd =>
      skip
      grow
      return .list tag items.reverse
    | some .key =>
      skip
      grow
      -- A pair that stands in a list is a map of its own; its key may be left out.
      if ← isAt [.value, .flowEntry, .flowListEnd] then
        skip
        let key ← nothing
        let value ← valueBehind [.flowEntry, .flowListEnd] false bound
        grow
        flowList tag bound false (.map none [(key, value)] :: items)
      else
        let key ← node false false bound
        let value ← valueBehind [.flowEntry, .flowListEnd] false bound
        grow
        flowList tag bound false (.map none [(key, value)] :: items)
    | _ =>
      let item ← node false false bound
      flowList tag bound false (item :: items)

/-- The entries of a map in braces, behind those so far. -/
def flowMap (tag : Option Tag) : Nat → (isFirst : Bool) → List (Yaml × Yaml) → Parser Yaml
  | 0, _, _ => failure
  | bound + 1, isFirst, entries => do
    if !isFirst && !(← isAt [.flowMapEnd]) then
      if ← isAt [.flowEntry] then skip else failure
    match ← peek with
    | some .flowMapEnd =>
      skip
      grow
      return .map tag entries.reverse
    | some .key =>
      skip
      let key ← part [.value, .flowEntry, .flowMapEnd] false false bound
      let value ← valueBehind [.flowEntry, .flowMapEnd] false bound
      flowMap tag bound false ((key, value) :: entries)
    | _ =>
      let key ← node false false bound
      let value ← nothing
      flowMap tag bound false ((key, value) :: entries)

end

end Parser

/-! ## Documents -/

def ownHandles : List (List Char × Tag) :=
  [(['!'], Tag.mark), (['!', '!'], Tag.core)]

/-- The handles that the lines about the notation give, behind those so far, with the tokens after
those lines. The version has to be 1.1 or 1.2 and stands at most once, as does each handle. -/
def directives? : (versionSeen : Bool) → List (List Char × Tag) → List Token →
    Option (List (List Char × Tag) × List Token)
  | seen, handles, .version major minor :: rest =>
    if seen || major != 1 || (minor != 1 && minor != 2) then none
    else directives? true handles rest
  | seen, handles, .handle name meaning :: rest =>
    if (handles.lookup name).isSome then none
    else directives? seen ((name, meaning) :: handles) rest
  | _, handles, rest => some (handles, rest)

namespace Document

/-- The document that parsing leads to, if nothing but marks at the end of documents is left. -/
def ofProgress? (root : Yaml) (p : Progress) : Option Document :=
  if p.tokens.all (· == .documentEnd) then
    some {
      root
      size := p.size
      meanings := p.places.filterMap fun (number, place) =>
        (p.nodes.lookup place).map fun v => (number, v) }
  else none

/-- The only document among tokens. Behind the mark at its begin it may be empty. -/
def ofTokens? (ts : List Token) : Option Document := do
  let (handles, rest) ← directives? false [] ts
  let start (tokens : List Token) : Progress := { tokens, handles := handles ++ ownHandles }
  let bound := 4 * ts.length + 4
  match rest with
  | .documentStart :: body =>
    let isEmpty :=
      match body with
      | [] | .documentStart :: _ | .documentEnd :: _ | .version _ _ :: _ | .handle _ _ :: _ => true
      | _ => false
    let content := if isEmpty then Parser.nothing else Parser.node true false bound
    let (root, p) ← content (start body)
    ofProgress? root p
  | _ =>
    if ts.isEmpty then some { root := empty, size := 1 }
    else if rest.length < ts.length then none
    else
      let (root, p) ← Parser.node true false bound (start rest)
      ofProgress? root p

/-- The only document of a text. -/
def read? (text : String) : Option Document :=
  (Token.scan? text.toList).bind ofTokens?

end Document

end Yaml

end TagSync
