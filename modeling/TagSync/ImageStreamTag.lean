import TagSync.Image

/-!
# Image stream tags

One tag of an image stream together with the image that it stands for.
-/

set_option autoImplicit false

namespace TagSync

/-- A tag with its image. -/
structure ImageStreamTag where
  metadata : ObjectMeta := {}
  /-- Where the tag comes from. -/
  tag : Option TagReference := none
  image : Image := {}
  deriving Inhabited

namespace ImageStreamTag

/-- Reads a tag that stands inside of `outside` lists and objects. -/
def decodeWithin? (outside : Nat) (v : Json) : Option ImageStreamTag := do
  let fs ← v.strict? ["metadata", "tag", "image"]
  let metadata ← fs.orElse "metadata" {} (ObjectMeta.decode? (outside + 1))
  let tag ← fs.optional "tag" TagReference.decode?
  let image ← fs.orElse "image" {} (Image.decode? (outside + 1))
  some { metadata, tag, image }

def decode? (v : Json) : Option ImageStreamTag :=
  decodeWithin? 0 v

/-- Writes a tag. -/
def encode (t : ImageStreamTag) : Json :=
  .ofSlots [
    ("metadata", some t.metadata.encode),
    ("tag", t.tag.map TagReference.encode),
    ("image", some t.image.encode)]

/-- The registry image that the tag was imported from, if it comes from one. -/
def importedFrom (t : ImageStreamTag) : Option String :=
  match t.tag.bind (·.from) with
  | some source => if source.kind = some dockerImageKind then source.name else none
  | none => none

/-- Whether two tags stand for the same image: both have a digest, and it is the same one. -/
def sameImage (a b : ImageStreamTag) : Bool :=
  match a.image.digest, b.image.digest with
  | some x, some y => x == y
  | _, _ => false

theorem sameImage_iff {a b : ImageStreamTag} :
    a.sameImage b = true ↔ ∃ d, a.image.digest = some d ∧ b.image.digest = some d := by
  unfold sameImage
  split
  · next x y hx hy => simp only [hx, hy, beq_iff_eq, Option.some.injEq]; grind
  · next h =>
    constructor
    · intro h'; simp at h'
    · rintro ⟨d, ha, hb⟩; exact absurd hb (h d d ha)

end ImageStreamTag

end TagSync
