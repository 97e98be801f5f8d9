import TagSync.Image

/-!
# Image streams

A named collection of tags. The specification says which tags are wanted, the state which images
they stood for over time.
-/

set_option autoImplicit false

namespace TagSync

def imageApiVersion : String := "image.openshift.io/v1"

/-! ## Specification -/

/-- How names of images are looked up in a namespace. -/
structure LookupPolicy where
  /-- Whether short names find the stream. -/
  «local» : Bool := false
  deriving DecidableEq, Repr, Inhabited

namespace LookupPolicy

def decode? (v : Json) : Option LookupPolicy := do
  let fs ← v.strict? ["local"]
  let «local» ← fs.orElse "local" false Json.asBool?
  some { «local» }

/-- Writes a policy. -/
def encode (p : LookupPolicy) : Json :=
  .ofSlots [("local", some (.bool p.local))]

end LookupPolicy

/-- What is wanted of a stream. -/
structure ImageStreamSpec where
  /-- How its images are looked up. -/
  lookupPolicy : Option LookupPolicy := none
  /-- The wanted tags. -/
  tags : List TagReference := []
  deriving DecidableEq, Repr, Inhabited

namespace ImageStreamSpec

def decode? (v : Json) : Option ImageStreamSpec := do
  let fs ← v.strict? ["lookupPolicy", "tags"]
  let lookupPolicy ← fs.optional "lookupPolicy" LookupPolicy.decode?
  let tags ← fs.orElse "tags" [] (Json.asList? TagReference.decode?)
  some { lookupPolicy, tags }

/-- Writes a specification. -/
def encode (s : ImageStreamSpec) : Json :=
  .ofSlots [
    ("lookupPolicy", s.lookupPolicy.map LookupPolicy.encode),
    ("tags", Json.slotOfList TagReference.encode s.tags)]

end ImageStreamSpec

/-! ## State -/

/-- An image that a tag stood for from some time on. -/
structure TagEvent where
  created : Option Instant := none
  /-- Where a registry keeps the image. -/
  dockerImageReference : Option String := none
  /-- The image's digest. -/
  image : Option String := none
  deriving DecidableEq, Repr, Inhabited

namespace TagEvent

def decode? (v : Json) : Option TagEvent := do
  let fs ← v.strict? ["created", "dockerImageReference", "image"]
  let created ← fs.optional "created" Instant.decode?
  let dockerImageReference ← fs.optional "dockerImageReference" Json.asString?
  let image ← fs.optional "image" Json.asString?
  some { created, dockerImageReference, image }

/-- Writes an event. -/
def encode (e : TagEvent) : Json :=
  .ofSlots [
    ("created", e.created.map Instant.encode),
    ("dockerImageReference", e.dockerImageReference.map .str),
    ("image", e.image.map .str)]

end TagEvent

/-- The history of a tag. -/
structure TagHistory where
  tag : String
  /-- Its events, latest first. -/
  items : List TagEvent := []
  deriving DecidableEq, Repr, Inhabited

namespace TagHistory

def decode? (v : Json) : Option TagHistory := do
  let fs ← v.strict? ["tag", "items"]
  let tag ← fs.required "tag" Json.asString?
  let items ← fs.orElse "items" [] (Json.asList? TagEvent.decode?)
  some { tag, items }

/-- Writes a history. -/
def encode (h : TagHistory) : Json :=
  .ofSlots [
    ("tag", some (.str h.tag)),
    ("items", Json.slotOfList TagEvent.encode h.items)]

end TagHistory

/-- The state of a stream. -/
structure ImageStreamStatus where
  /-- Where the cluster's registry keeps the stream. -/
  dockerImageRepository : Option String := none
  /-- The same as seen from outside of the cluster. -/
  publicDockerImageRepository : Option String := none
  /-- The histories of its tags. -/
  tags : List TagHistory := []
  deriving DecidableEq, Repr, Inhabited

namespace ImageStreamStatus

def decode? (v : Json) : Option ImageStreamStatus := do
  let fs ← v.strict? ["dockerImageRepository", "publicDockerImageRepository", "tags"]
  let dockerImageRepository ← fs.optional "dockerImageRepository" Json.asString?
  let publicDockerImageRepository ← fs.optional "publicDockerImageRepository" Json.asString?
  let tags ← fs.orElse "tags" [] (Json.asList? TagHistory.decode?)
  some { dockerImageRepository, publicDockerImageRepository, tags }

/-- Writes a state. -/
def encode (s : ImageStreamStatus) : Json :=
  .ofSlots [
    ("dockerImageRepository", s.dockerImageRepository.map .str),
    ("publicDockerImageRepository", s.publicDockerImageRepository.map .str),
    ("tags", Json.slotOfList TagHistory.encode s.tags)]

end ImageStreamStatus

/-! ## Streams -/

/-- An image stream. -/
structure ImageStream where
  metadata : ObjectMeta := {}
  /-- What is wanted of it. -/
  spec : ImageStreamSpec := {}
  status : Option ImageStreamStatus := none
  deriving Inhabited

namespace ImageStream

def decode? (v : Json) : Option ImageStream := do
  let fs ← v.strictFull? ["metadata", "spec", "status"]
  let metadata ← fs.required "metadata" (ObjectMeta.decode? 1)
  let spec ← fs.required "spec" ImageStreamSpec.decode?
  let status ← fs.optional "status" ImageStreamStatus.decode?
  some { metadata, spec, status }

/-- Writes a stream. -/
def encode (s : ImageStream) : Json :=
  .ofSlots [
    ("apiVersion", some (.str imageApiVersion)),
    ("kind", some (.str "ImageStream")),
    ("metadata", some s.metadata.encode),
    ("spec", some s.spec.encode),
    ("status", s.status.map ImageStreamStatus.encode)]

def namespaceName (s : ImageStream) : String :=
  s.metadata.namespaceOrEmpty

def name (s : ImageStream) : String :=
  s.metadata.anyName

/-- The tags of a stream: those with a history, or, while there is none, the wanted ones. -/
def tagNames (s : ImageStream) : List String :=
  match (s.status.map fun t => t.tags.map (·.tag)).getD [] with
  | [] => s.spec.tags.map (·.name)
  | tag :: tags => tag :: tags

end ImageStream

end TagSync
