import TagSync.Der
import TagSync.Text.Base64
import TagSync.Text.Quoted
import TagSync.Text.Utf8

/-!
# Identities

A client shows who it is by a certificate and its private key. `Identity.check` looks for both in
an armoured text, which is read line by line: a begin line starts a section, whatever stands in
front of it, and only the end line that fits ends it.
-/

set_option autoImplicit false

namespace TagSync.Identity

open TagSync.Text

/-! ## Faults -/

/-- What is wrong with the data of a section. -/
inductive DataFault where
  /-- An octet is no letter. -/
  | badSymbol (octet : UInt8)
  /-- A group before the last one is filled up. -/
  | earlyFilling
  /-- The last group is not filled up in the right way. -/
  | badFilling
  deriving DecidableEq, Repr

def DataFault.message : DataFault → String
  | .badSymbol octet => s!"InvalidCharacter({octet})"
  | .earlyFilling => "PrematurePadding"
  | .badFilling => "InvalidTrailingPadding"

/-- Why a text is no identity. -/
inductive Fault where
  /-- A begin line does not end as it has to. -/
  | badBegin (line : String)
  /-- There is no end line. -/
  | noEnd (line : String)
  /-- The data of a section is not in order. -/
  | badData (fault : DataFault)
  /-- A section is neither a certificate nor a key. -/
  | otherKind
  /-- There is no key. -/
  | noKey
  /-- There is no certificate. -/
  | noCertificate
  /-- The key is of no known kind. -/
  | badKey
  deriving DecidableEq, Repr

def Fault.message : Fault → String
  | .badBegin line => invalid ++ s!"illegal section start: {Quoted.quote line}"
  | .noEnd line => invalid ++ s!"section end {Quoted.quote line} missing"
  | .badData fault => invalid ++ fault.message
  | .otherKind => "unknown private key format"
  | .noKey => "identity PEM is missing a private key: the key must be PKCS8 or RSA/PKCS1"
  | .noCertificate => "identity PEM is missing certificate"
  | .badKey =>
    "invalid private key: unexpected error: failed to parse private key as RSA, ECDSA, or EdDSA"
where
  /-- How the text begins when the sections are not in order. -/
  invalid : String := "identity PEM is invalid: "

/-! ## Sections -/

/-- What a section is. -/
inductive Kind where
  | certificate
  /-- A private key, of one of three kinds in order of preference. -/
  | key (rank : Nat)
  /-- Something else. -/
  | other
  deriving DecidableEq, Repr

def kind? (label : List UInt8) : Option Kind :=
  [("CERTIFICATE", .certificate), ("PRIVATE KEY", .key 0), ("RSA PRIVATE KEY", .key 1),
    ("EC PRIVATE KEY", .key 2), ("PUBLIC KEY", .other), ("X509 CRL", .other),
    ("CERTIFICATE REQUEST", .other)].lookup (String.ofList (label.map fun b => Char.ofNat b.toNat))

/-- Octets as text; what is no text shows as replacement characters. -/
def shown (octets : List UInt8) : String :=
  match Utf8.decode octets with
  | .ok text => text
  | .error _ =>
    String.ofList (octets.map fun b => Char.ofNat (if b.toNat < 128 then b.toNat else 0xFFFD))

/-- The lines of a text, each with the line feed or carriage return at its end; `line` is what was
read of the first one, last octet first. -/
def linesFrom (line : List UInt8) : List UInt8 → List (List UInt8)
  | [] => if line.isEmpty then [] else [line.reverse]
  | b :: bs =>
    if b = 10 ∨ b = 13 then (b :: line).reverse :: linesFrom [] bs else linesFrom (b :: line) bs

def dash : UInt8 := 45

def beginMark : List UInt8 := Utf8.encode "-----BEGIN "

/-- The label of a begin line, which ends in five dashes. -/
def label? (line : List UInt8) : Option (List UInt8) :=
  let back := line.reverse.dropWhile fun b => b = 10 || b = 13 || b = 32
  if (back.takeWhile (· = dash)).length = 5 then
    some ((back.drop 5).reverse.drop beginMark.length)
  else none

def endLine (label : List UInt8) : List UInt8 :=
  Utf8.encode "-----END " ++ label ++ List.replicate 5 dash

def dataOf (data : List UInt8) : Except DataFault (List UInt8) :=
  let letters := data.filter fun b => b != 32 && b != 9 && b != 10 && b != 13
  match letters.find? fun b => !Base64.isLetter b && b != Base64.filler with
  | some octet => .error (.badSymbol octet)
  | none =>
    let whole := (letters.length - 1) / 4 * 4
    let last := letters.drop whole
    let front := last.takeWhile (· != Base64.filler)
    if (letters.take whole).contains Base64.filler then .error .earlyFilling
    else if (last.drop front.length).any (· != Base64.filler) || front.length = 1 ||
        (last.length ≠ front.length && last.length ≠ 4) || (last.length = 4 && front.length < 2)
    then .error .badFilling
    else
      let filled := letters ++ List.replicate ((4 - last.length) % 4) Base64.filler
      .ok ((Base64.parse filled).toOption.getD [])

/-- The sections of lines. `label` is that of the section that was begun, and `data` what was read
of its data. -/
def sections (label : Option (List UInt8)) (data : List UInt8) :
    List (List UInt8) → Except Fault (List (Kind × List UInt8))
  | [] =>
    match label with
    | none => .ok []
    | some label => .error (.noEnd (shown (endLine label)))
  | line :: lines =>
    if beginMark.isPrefixOf line then
      match label? line with
      | none => .error (.badBegin (shown line))
      | some label => sections (some label) data lines
    else
      match label with
      | none => sections none data lines
      | some label =>
        if (endLine label).isPrefixOf line then
          -- A section of an unknown kind is skipped together with its data.
          match kind? label with
          | none => sections none [] lines
          | some .other => .error .otherKind
          | some kind =>
            match dataOf data with
            | .error fault => .error (.badData fault)
            | .ok content =>
              match sections none [] lines with
              | .error fault => .error fault
              | .ok more => .ok ((kind, content) :: more)
        else sections (some label) (data ++ line) lines

/-! ## Checking -/

/-- The private key among sections: the last one of the kind that is preferred. -/
def key? (found : List (Kind × List UInt8)) : Option (List UInt8) :=
  let last? (rank : Nat) := found.reverse.lookup (Kind.key rank)
  (last? 0).or ((last? 1).or (last? 2))

/-- Checks that a text has a private key and a certificate for it. -/
def check (octets : List UInt8) : Except Fault Unit := do
  let found ← sections none [] (linesFrom [] octets)
  match key? found with
  | none => .error .noKey
  | some key =>
    if (found.lookup .certificate).isNone then .error .noCertificate
    else if Der.isPrivateKey key then .ok ()
    else .error .badKey

end TagSync.Identity
