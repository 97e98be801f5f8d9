import TagSync.Object.Meta
import TagSync.Object.Reference

/-!
# Images and tag references

`Image` is an image as the API shows it below a tag: its digest is its name, its age its creation
time. `TagReference` says where a tag comes from. These records are strict.
-/

set_option autoImplicit false

namespace TagSync

def dockerImageKind : String := "DockerImage"

/-! ## Images -/

/-- An image. -/
structure Image where
  /-- Its metadata; the name is the digest. -/
  metadata : ObjectMeta := {}
  /-- Where a registry keeps it. -/
  dockerImageReference : Option String := none
  deriving Inhabited

namespace Image

def digest (i : Image) : Option String :=
  i.metadata.name

def created (i : Image) : Option Instant :=
  i.metadata.creationTimestamp

/-- Reads an image that stands inside of `outside` lists and objects. -/
def decode? (outside : Nat) (v : Json) : Option Image := do
  let fs ← v.strict? ["metadata", "dockerImageReference"]
  let metadata ← fs.orElse "metadata" {} (ObjectMeta.decode? (outside + 1))
  let dockerImageReference ← fs.optional "dockerImageReference" Json.asString?
  some { metadata, dockerImageReference }

/-- Writes an image. -/
def encode (i : Image) : Json :=
  .ofSlots [
    ("metadata", some i.metadata.encode),
    ("dockerImageReference", i.dockerImageReference.map .str)]

end Image

/-! ## Tag references -/

/-- How users of a tag see its image. -/
structure ReferencePolicy where
  /-- Where users are pointed to: to the image's source or to the local registry. -/
  type : String
  deriving DecidableEq, Repr, Inhabited

namespace ReferencePolicy

def localRegistry : ReferencePolicy := ⟨"Local"⟩

def decode? (v : Json) : Option ReferencePolicy := do
  let fs ← v.strict? ["type"]
  let type ← fs.required "type" Json.asString?
  some { type }

/-- Writes a policy. -/
def encode (p : ReferencePolicy) : Json :=
  .ofSlots [("type", some (.str p.type))]

end ReferencePolicy

/-- A tag and where it comes from. -/
structure TagReference where
  name : String
  /-- Where it comes from. -/
  «from» : Option ObjectReference := none
  /-- How users see its image. -/
  referencePolicy : Option ReferencePolicy := none
  deriving DecidableEq, Repr, Inhabited

namespace TagReference

def decode? (v : Json) : Option TagReference := do
  let fs ← v.strict? ["name", "from", "referencePolicy"]
  let name ← fs.required "name" Json.asString?
  let «from» ← fs.optional "from" ObjectReference.decode?
  let referencePolicy ← fs.optional "referencePolicy" ReferencePolicy.decode?
  some { name, «from», referencePolicy }

/-- Writes a tag reference. -/
def encode (t : TagReference) : Json :=
  .ofSlots [
    ("name", some (.str t.name)),
    ("from", t.from.map ObjectReference.encode),
    ("referencePolicy", t.referencePolicy.map ReferencePolicy.encode)]

end TagReference

end TagSync
