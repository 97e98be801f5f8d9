/-!
# Certificates and keys as octets

A certificate is nested elements, each a tag, a length and that many octets. Only the form is
checked: `isCertificate` and `isPrivateKey` tell octets that can be such a thing from others.
-/

set_option autoImplicit false

namespace TagSync.Der

/-! ## Elements -/

/-- An element. -/
structure Element where
  tag : UInt8
  content : List UInt8
  deriving DecidableEq, Repr

/-- A length of at most two octets, in its shortest form. -/
def length? : List UInt8 → Option (Nat × List UInt8)
  | 0x81 :: n :: rest => if n.toNat < 128 then none else some (n.toNat, rest)
  | 0x82 :: m :: n :: rest => if m = 0 then none else some (m.toNat * 256 + n.toNat, rest)
  | n :: rest => if n.toNat < 128 then some (n.toNat, rest) else none
  | [] => none

def element? : List UInt8 → Option (Element × List UInt8)
  | [] => none
  | tag :: rest =>
    match length? rest with
    | none => none
    | some (n, rest) =>
      if tag.toNat % 32 = 31 ∨ rest.length < n then none
      else some (⟨tag, rest.take n⟩, rest.drop n)

/-- The elements of octets, of which there are at most `bound`. -/
def elements? : (bound : Nat) → List UInt8 → Option (List Element)
  | _, [] => some []
  | 0, _ => none
  | bound + 1, octets => do
    let (e, rest) ← element? octets
    let more ← elements? bound rest
    some (e :: more)

def all? (octets : List UInt8) : Option (List Element) :=
  elements? octets.length octets

/-- The elements of the only element of octets, which has to be of a tag. -/
def inside? (tag : UInt8) (octets : List UInt8) : Option (List Element) :=
  match all? octets with
  | some [e] => if e.tag = tag then all? e.content else none
  | _ => none

/-! ## Tags -/

def integer : UInt8 := 0x02

def bits : UInt8 := 0x03

def sequence : UInt8 := 0x30

def version : UInt8 := 0xA0

def extensions : UInt8 := 0xA3

/-! ## Certificates -/

/-- Whether elements are what a certificate says: possibly its version, a number, how it is
signed, issuer, validity, subject and key, and possibly extensions. -/
def isBody (algorithm : Element) (body : List Element) : Bool :=
  let body := if (body.head?.map (·.tag)) = some version then body.tail else body
  match body with
  | number :: signed :: rest =>
    number.tag == integer && !number.content.isEmpty && signed == algorithm &&
      ((rest.take 4).map (·.tag) == List.replicate 4 sequence) &&
      ((rest.drop 4).map (·.tag) == [] || (rest.drop 4).map (·.tag) == [extensions])
  | _ => false

/-- Whether octets have the form of a certificate: what it says, how it is signed and the
signature. -/
def isCertificate (octets : List UInt8) : Bool :=
  match inside? sequence octets with
  | some [body, algorithm, signature] =>
    body.tag == sequence && algorithm.tag == sequence && signature.tag == bits &&
      signature.content.head? == some 0 &&
      ((all? body.content).any (isBody algorithm))
  | _ => false

/-- Whether octets have the form of a private key, which begins with its version. -/
def isPrivateKey (octets : List UInt8) : Bool :=
  match inside? sequence octets with
  | some (first :: _ :: _) => first.tag == integer
  | _ => false

end TagSync.Der
