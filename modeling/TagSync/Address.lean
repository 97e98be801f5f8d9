import TagSync.Api.Target

/-!
# Addresses of servers

An `Address` is where a server or a proxy is reached: a scheme, an authority (host, port and
possibly credentials) and a path. An address without a scheme is an authority alone or a path
alone. `Address.parse` takes an address apart or says what is wrong with it.
-/

set_option autoImplicit false

namespace TagSync

open Api

/-- What is wrong with an address. -/
inductive AddressFault where
  /-- There is nothing, or nothing behind the scheme. -/
  | empty
  /-- There are too many octets. -/
  | tooLong
  | schemeTooLong
  /-- A character has no place in an address. -/
  | badCharacter
  /-- The authority is not in order. -/
  | badAuthority
  /-- A scheme before anything else than an authority, or an authority and a path without a
  scheme. -/
  | badFormat
  deriving DecidableEq, Repr

def AddressFault.message : AddressFault → String
  | .empty => "empty string"
  | .tooLong => "uri too long"
  | .schemeTooLong => "scheme too long"
  | .badCharacter => "invalid uri character"
  | .badAuthority => "invalid authority"
  | .badFormat => "invalid format"

/-- Where a server is reached. -/
structure Address where
  scheme : Option String := none
  /-- Host, port and credentials. -/
  authority : String := ""
  /-- The path with its query. -/
  path : String := ""
  deriving DecidableEq, Repr, Inhabited

namespace Address

/-! ## Schemes -/

def maxScheme : Nat := 64

def isSchemeChar (c : Char) : Bool :=
  c.isAlphanum || c = '+' || c = '-' || c = '.' || c = '~'

/-- The scheme at the begin of an address, with the rest behind it. The schemes of the web may
have any case; any other is what stands before a colon and two slashes. -/
def scheme? (cs : List Char) : Except AddressFault (Option (String × List Char)) :=
  if (cs.take 7).map Char.toLower = "http://".toList then .ok (some ("http", cs.drop 7))
  else if (cs.take 8).map Char.toLower = "https://".toList then .ok (some ("https", cs.drop 8))
  else if cs.length ≤ 3 then .ok none
  else
    let name := cs.takeWhile isSchemeChar
    match cs.dropWhile isSchemeChar with
    | ':' :: '/' :: '/' :: rest =>
      if maxScheme < name.length then .error .schemeTooLong
      else .ok (some (String.ofList name, rest))
    | _ => .ok none

/-! ## Authorities -/

/-- What was seen of an authority. -/
structure Seen where
  /-- Colons since the last at-sign or closing bracket. -/
  colons : Nat := 0
  /-- Whether a bracket was opened. -/
  opened : Bool := false
  /-- Whether it was closed. -/
  closed : Bool := false
  /-- Whether there is a percent sign since the last at-sign or closing bracket. -/
  percent : Bool := false
  /-- Whether the last character is an at-sign. -/
  atSign : Bool := false

/-- Whether a character may stand in an authority, apart from those with a meaning of their own. -/
def isAuthorityChar (c : Char) : Bool :=
  c.isAlphanum ||
    ['!', '$', '&', '\'', '(', ')', '*', '+', ',', '-', '.', ';', '=', '_', '~'].contains c

def look (s : Seen) (c : Char) : Except AddressFault Seen :=
  if c = ':' then
    if 8 ≤ s.colons then .error .badAuthority
    else .ok { s with colons := s.colons + 1, atSign := false }
  else if c = '[' then
    if s.percent || s.opened then .error .badAuthority
    else .ok { s with opened := true, atSign := false }
  else if c = ']' then
    if !s.opened || s.closed then .error .badAuthority
    else .ok { s with closed := true, colons := 0, percent := false, atSign := false }
  else if c = '@' then .ok { s with colons := 0, percent := false, atSign := true }
  else if c = '%' then .ok { s with percent := true, atSign := false }
  else if isAuthorityChar c then .ok { s with atSign := false }
  else .error .badCharacter

/-- The authority at the begin of characters, which ends before a slash, a question mark or a
number sign, with the rest behind it. -/
def splitAuthority (cs : List Char) : Except AddressFault (List Char × List Char) :=
  let ends (c : Char) : Bool := c = '/' || c = '?' || c = '#'
  let front := cs.takeWhile fun c => !ends c
  match front.foldlM look {} with
  | .error fault => .error fault
  | .ok s =>
    if s.opened != s.closed || 1 < s.colons || s.atSign || s.percent then .error .badAuthority
    else .ok (front, cs.dropWhile fun c => !ends c)

/-! ## Addresses -/

def ofPath (cs : List Char) : Except AddressFault String :=
  if (Target.path cs).all Target.isPathChar && (Target.query cs).all Target.isQueryChar then
    .ok (String.ofList (Target.sent cs))
  else .error .badCharacter

/-- Takes an address apart. -/
def parse (text : String) : Except AddressFault Address :=
  let cs := text.toList
  if Target.maxSize < text.utf8ByteSize then .error .tooLong
  else if cs = [] then .error .empty
  else if cs.head? = some '/' then do
    let path ← ofPath cs
    .ok { path }
  else if cs = ['*'] then .ok { path := "*" }
  else do
    match ← scheme? cs with
    | none =>
      let (front, rest) ← splitAuthority cs
      if rest.isEmpty then .ok { authority := String.ofList front }
      else .error (if cs.length = 1 then .badCharacter else .badFormat)
    | some (scheme, cs) =>
      let (front, rest) ← splitAuthority cs
      if cs.isEmpty then .error .empty
      else if front.isEmpty then .error .badFormat
      else
        let path ← ofPath rest
        .ok { scheme := some scheme, authority := String.ofList front, path }

/-- An address as text; behind an authority with a scheme there is at least the root path. -/
def text (a : Address) : String :=
  match a.scheme with
  | none => a.authority ++ a.path
  | some scheme =>
    let path := if a.path.toList.head? = some '/' then a.path else "/" ++ a.path
    scheme ++ "://" ++ a.authority ++ path

end Address

end TagSync
