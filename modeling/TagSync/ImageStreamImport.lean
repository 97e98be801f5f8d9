import TagSync.Image
import TagSync.ImageStream
import TagSync.Object.Status

/-!
# Image stream imports

A request to bring images from a registry into tags of an image stream, and the server's answer
to it. `importTo` is the request for one image and one tag, and `check` says whether an answer
reports that image as imported.
-/

set_option autoImplicit false

namespace TagSync

/-! ## Requests -/

/-- One image to import. -/
structure ImageImport where
  «from» : ObjectReference
  /-- The tag it goes to. -/
  target : Option LocalReference := none
  /-- How users of the tag see the image. -/
  referencePolicy : Option ReferencePolicy := none
  deriving DecidableEq, Repr, Inhabited

namespace ImageImport

def decode? (v : Json) : Option ImageImport := do
  let fs ← v.strict? ["from", "to", "referencePolicy"]
  let «from» ← fs.required "from" ObjectReference.decode?
  let target ← fs.optional "to" LocalReference.decode?
  let referencePolicy ← fs.optional "referencePolicy" ReferencePolicy.decode?
  some { «from», target, referencePolicy }

/-- Writes an image to import. -/
def encode (i : ImageImport) : Json :=
  .ofSlots [
    ("from", some i.from.encode),
    ("to", i.target.map LocalReference.encode),
    ("referencePolicy", i.referencePolicy.map ReferencePolicy.encode)]

end ImageImport

/-- What to import. -/
structure ImageStreamImportSpec where
  /-- Whether to import at all, and not only to look. -/
  importing : Bool
  images : List ImageImport := []
  deriving DecidableEq, Repr, Inhabited

namespace ImageStreamImportSpec

def decode? (v : Json) : Option ImageStreamImportSpec := do
  let fs ← v.strict? ["import", "images"]
  let importing ← fs.required "import" Json.asBool?
  let images ← fs.orElse "images" [] (Json.asList? ImageImport.decode?)
  some { importing, images }

/-- Writes what to import. -/
def encode (s : ImageStreamImportSpec) : Json :=
  .ofSlots [
    ("import", some (.bool s.importing)),
    ("images", Json.slotOfList ImageImport.encode s.images)]

end ImageStreamImportSpec

/-! ## Results -/

/-- How the import of one image went. -/
structure ImageImportStatus where
  status : Status := {}
  /-- The image, if it was imported. -/
  image : Option Image := none
  /-- The tag it went to. -/
  tag : Option String := none
  deriving Inhabited

namespace ImageImportStatus

/-- Reads a result that stands inside of `outside` lists and objects. -/
def decode? (outside : Nat) (v : Json) : Option ImageImportStatus := do
  let fs ← v.strict? ["status", "image", "tag"]
  let status ← fs.orElse "status" {} Status.decode?
  let image ← fs.optional "image" (Image.decode? (outside + 1))
  let tag ← fs.optional "tag" Json.asString?
  some { status, image, tag }

/-- Writes a result. -/
def encode (s : ImageImportStatus) : Json :=
  .ofSlots [
    ("status", some s.status.encode),
    ("image", s.image.map Image.encode),
    ("tag", s.tag.map .str)]

end ImageImportStatus

/-- How an import went. -/
structure ImageStreamImportStatus where
  /-- The results, image by image. -/
  images : List ImageImportStatus := []
  deriving Inhabited

namespace ImageStreamImportStatus

def decode? (v : Json) : Option ImageStreamImportStatus := do
  let fs ← v.strict? ["images"]
  let images ← fs.orElse "images" [] (Json.asList? (ImageImportStatus.decode? 3))
  some { images }

/-- Writes the results. -/
def encode (s : ImageStreamImportStatus) : Json :=
  .ofSlots [("images", Json.slotOfList ImageImportStatus.encode s.images)]

end ImageStreamImportStatus

/-! ## Imports -/

/-- An import with its results. -/
structure ImageStreamImport where
  /-- Its metadata; name and namespace are those of the stream. -/
  metadata : ObjectMeta := {}
  /-- What to import. -/
  spec : ImageStreamImportSpec
  status : Option ImageStreamImportStatus := none
  deriving Inhabited

/-- Why an import did not succeed. -/
inductive ImportFault where
  /-- The only image was not imported, with the server's reason and message. -/
  | refused (reason message : String)
  /-- There are results for this many images. -/
  | resultCount (n : Nat)
  deriving DecidableEq, Repr

def ImportFault.message : ImportFault → String
  | .refused reason message =>
    s!"imageStreamImport did not succeed: reason: {reason}, message: {message}"
  | .resultCount n =>
    s!"imageStreamImport did not succeed: expected status for 1 image, got {n}"

namespace ImageStreamImport

def decode? (v : Json) : Option ImageStreamImport := do
  let fs ← v.strictFull? ["metadata", "spec", "status"]
  let metadata ← fs.required "metadata" (ObjectMeta.decode? 1)
  let spec ← fs.required "spec" ImageStreamImportSpec.decode?
  let status ← fs.optional "status" ImageStreamImportStatus.decode?
  some { metadata, spec, status }

/-- Writes an import. -/
def encode (i : ImageStreamImport) : Json :=
  .ofSlots [
    ("apiVersion", some (.str imageApiVersion)),
    ("kind", some (.str "ImageStreamImport")),
    ("metadata", some i.metadata.encode),
    ("spec", some i.spec.encode),
    ("status", i.status.map ImageStreamImportStatus.encode)]

/-- The request to import the image at `reference` as a tag of a stream. -/
def importTo (namespaceName stream tag reference : String) : ImageStreamImport where
  metadata := { name := some stream, «namespace» := some namespaceName }
  spec := {
    importing := true
    images := [{
      «from» := { kind := some dockerImageKind, name := some reference }
      target := some { name := tag }
      referencePolicy := some .localRegistry }] }

/-- Whether an answer reports one image, and that one as imported. -/
def check (i : ImageStreamImport) : Except ImportFault Unit :=
  match (i.status.map (·.images)).getD [] with
  | [only] =>
    if only.image.isSome then .ok ()
    else .error (.refused (only.status.reason.getD "") (only.status.message.getD ""))
  | results => .error (.resultCount results.length)

end ImageStreamImport

end TagSync
