import TagSync.Object.Meta
import TagSync.Text.Base64

/-!
# Secrets

A secret as the API writes it, with its data in base64.
-/

set_option autoImplicit false

namespace TagSync

open TagSync.Text

/-- A secret object. -/
structure Secret where
  metadata : ObjectMeta := {}
  /-- Its data by key. -/
  data : Option (NameMap (List UInt8)) := none
  type : Option String := none
  deriving Inhabited

namespace Secret

/-- Reads octets from base64; `null` stands for none at all. -/
def octetsOf? : Json → Option (List UInt8)
  | .null => some []
  | v => v.asString?.bind fun s => Base64.decode s.toList

def ofOctets (octets : List UInt8) : Json :=
  .str (String.ofList (Base64.encode octets))

def decode? (v : Json) : Option Secret := do
  let fs ← v.lenient?
  guard (fs.allows "apiVersion" "v1" && fs.allows "kind" "Secret")
  let data ← fs.last "data" (Json.asMap? octetsOf?)
  let _ ← fs.last "immutable" Json.asBool?
  let metadata ← fs.lastOrElse "metadata" {} (ObjectMeta.decode? 1)
  let _ ← fs.last "stringData" stringMapOf?
  let type ← fs.last "type" Json.asString?
  some { metadata, data, type }

/-- Writes a secret. -/
def encode (s : Secret) : Json :=
  .ofSlots [
    ("apiVersion", some (.str "v1")),
    ("kind", some (.str "Secret")),
    ("data", s.data.map (Json.ofMap ofOctets)),
    ("metadata", some s.metadata.encode),
    ("type", s.type.map .str)]

end Secret

end TagSync
