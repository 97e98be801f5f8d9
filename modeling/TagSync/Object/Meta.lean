import TagSync.Instant.Rfc3339
import TagSync.Json.Record

/-!
# Object metadata

What every API object says about itself: its name and namespace, its labels and annotations, the
finalizers that hold it, and when it was created and marked for deletion. All of it is optional,
and a record of this kind is lenient.
-/

set_option autoImplicit false

namespace TagSync

open Json (Fields)

/-! ## Single values -/

def Instant.decode? (v : Json) : Option Instant :=
  v.asString?.bind Instant.parse?

/-- Writes an instant. -/
def Instant.encode (t : Instant) : Json :=
  .str t.write

def stringsOf? : Json → Option (List String) :=
  Json.asList? Json.asString?

def stringMapOf? : Json → Option (NameMap String) :=
  Json.asMap? Json.asString?

def nestingLimit : Nat := 127

/-! ## Owners -/

/-- An object that owns another one. -/
structure OwnerReference where
  /-- The version of the owner's type. -/
  apiVersion : String := ""
  /-- Whether the owner has to wait for the owned object. -/
  blockOwnerDeletion : Option Bool := none
  /-- Whether the owner controls the owned object. -/
  controller : Option Bool := none
  /-- The owner's type. -/
  kind : String := ""
  /-- The owner's name. -/
  name : String := ""
  /-- The owner's identity. -/
  uid : String := ""
  deriving DecidableEq, Repr, Inhabited

namespace OwnerReference

def decode? (v : Json) : Option OwnerReference := do
  let fs ← v.lenient?
  let apiVersion ← fs.lastOrElse "apiVersion" "" Json.asString?
  let blockOwnerDeletion ← fs.last "blockOwnerDeletion" Json.asBool?
  let controller ← fs.last "controller" Json.asBool?
  let kind ← fs.lastOrElse "kind" "" Json.asString?
  let name ← fs.lastOrElse "name" "" Json.asString?
  let uid ← fs.lastOrElse "uid" "" Json.asString?
  some { apiVersion, blockOwnerDeletion, controller, kind, name, uid }

/-- Writes an owner. -/
def encode (o : OwnerReference) : Json :=
  .ofSlots [
    ("apiVersion", some (.str o.apiVersion)),
    ("blockOwnerDeletion", o.blockOwnerDeletion.map .bool),
    ("controller", o.controller.map .bool),
    ("kind", some (.str o.kind)),
    ("name", some (.str o.name)),
    ("uid", some (.str o.uid))]

end OwnerReference

/-! ## Managed fields -/

/-- Which fields of an object a manager has set. -/
structure ManagedFields where
  /-- The version of the object's type that the fields belong to. -/
  apiVersion : Option String := none
  /-- The notation of `fieldsV1`. -/
  fieldsType : Option String := none
  fieldsV1 : Option Json := none
  manager : Option String := none
  /-- How the fields were set. -/
  operation : Option String := none
  /-- Through which part of the object they were set. -/
  subresource : Option String := none
  /-- When they were set. -/
  time : Option Instant := none
  deriving Inhabited

namespace ManagedFields

/-- Reads an entry; its fields may be nested `room` deep. -/
def decode? (room : Nat) (v : Json) : Option ManagedFields := do
  let fs ← v.lenient?
  let apiVersion ← fs.last "apiVersion" Json.asString?
  let fieldsType ← fs.last "fieldsType" Json.asString?
  let fieldsV1 ← fs.last "fieldsV1" (Json.asAny? room)
  let manager ← fs.last "manager" Json.asString?
  let operation ← fs.last "operation" Json.asString?
  let subresource ← fs.last "subresource" Json.asString?
  let time ← fs.last "time" Instant.decode?
  some { apiVersion, fieldsType, fieldsV1, manager, operation, subresource, time }

/-- Writes an entry. -/
def encode (m : ManagedFields) : Json :=
  .ofSlots [
    ("apiVersion", m.apiVersion.map .str),
    ("fieldsType", m.fieldsType.map .str),
    ("fieldsV1", m.fieldsV1),
    ("manager", m.manager.map .str),
    ("operation", m.operation.map .str),
    ("subresource", m.subresource.map .str),
    ("time", m.time.map Instant.encode)]

end ManagedFields

/-! ## Metadata -/

/-- What an object says about itself. -/
structure ObjectMeta where
  /-- Free annotations. -/
  annotations : Option (NameMap String) := none
  /-- When the object was created. -/
  creationTimestamp : Option Instant := none
  /-- How long the object may take to end. -/
  deletionGracePeriodSeconds : Option Int := none
  /-- When the object was marked for deletion. -/
  deletionTimestamp : Option Instant := none
  /-- The parties that hold the object back from deletion. -/
  finalizers : Option (List String) := none
  /-- How the server makes up a name. -/
  generateName : Option String := none
  /-- How often the wanted state was changed. -/
  generation : Option Int := none
  /-- Labels for selection. -/
  labels : Option (NameMap String) := none
  /-- Which fields were set by whom. -/
  managedFields : Option (List ManagedFields) := none
  name : Option String := none
  «namespace» : Option String := none
  ownerReferences : Option (List OwnerReference) := none
  /-- The version, which every write changes. -/
  resourceVersion : Option String := none
  /-- The path of the object. -/
  selfLink : Option String := none
  uid : Option String := none
  deriving Inhabited

namespace ObjectMeta

/-- Reads metadata that stands inside of `outside` lists and objects. -/
def decode? (outside : Nat) (v : Json) : Option ObjectMeta := do
  let fs ← v.lenient?
  let annotations ← fs.last "annotations" stringMapOf?
  let creationTimestamp ← fs.last "creationTimestamp" Instant.decode?
  let deletionGracePeriodSeconds ← fs.last "deletionGracePeriodSeconds" Json.asInt64?
  let deletionTimestamp ← fs.last "deletionTimestamp" Instant.decode?
  let finalizers ← fs.last "finalizers" stringsOf?
  let generateName ← fs.last "generateName" Json.asString?
  let generation ← fs.last "generation" Json.asInt64?
  let labels ← fs.last "labels" stringMapOf?
  let managedFields ←
    fs.last "managedFields" (Json.asList? (ManagedFields.decode? (nestingLimit - (outside + 3))))
  let name ← fs.last "name" Json.asString?
  let «namespace» ← fs.last "namespace" Json.asString?
  let ownerReferences ← fs.last "ownerReferences" (Json.asList? OwnerReference.decode?)
  let resourceVersion ← fs.last "resourceVersion" Json.asString?
  let selfLink ← fs.last "selfLink" Json.asString?
  let uid ← fs.last "uid" Json.asString?
  some {
    annotations, creationTimestamp, deletionGracePeriodSeconds, deletionTimestamp, finalizers,
    generateName, generation, labels, managedFields, name, «namespace», ownerReferences,
    resourceVersion, selfLink, uid }

/-- Writes metadata. -/
def encode (m : ObjectMeta) : Json :=
  .ofSlots [
    ("annotations", m.annotations.map (Json.ofMap .str)),
    ("creationTimestamp", m.creationTimestamp.map Instant.encode),
    ("deletionGracePeriodSeconds", m.deletionGracePeriodSeconds.map fun n => .num (.int n)),
    ("deletionTimestamp", m.deletionTimestamp.map Instant.encode),
    ("finalizers", m.finalizers.map Json.strings),
    ("generateName", m.generateName.map .str),
    ("generation", m.generation.map fun n => .num (.int n)),
    ("labels", m.labels.map (Json.ofMap .str)),
    ("managedFields", m.managedFields.map fun es => .arr (es.map ManagedFields.encode)),
    ("name", m.name.map .str),
    ("namespace", m.namespace.map .str),
    ("ownerReferences", m.ownerReferences.map fun os => .arr (os.map OwnerReference.encode)),
    ("resourceVersion", m.resourceVersion.map .str),
    ("selfLink", m.selfLink.map .str),
    ("uid", m.uid.map .str)]

/-- The namespace, empty if there is none. -/
def namespaceOrEmpty (m : ObjectMeta) : String :=
  m.namespace.getD ""

/-- The name, or else the beginning from which the server makes up a name. -/
def anyName (m : ObjectMeta) : String :=
  (m.name.or m.generateName).getD ""

def isTerminating (m : ObjectMeta) : Bool :=
  m.deletionTimestamp.isSome

/-- The finalizers; no list is the empty list. -/
def finalizerList (m : ObjectMeta) : List String :=
  m.finalizers.getD []

/-- The annotations; no map is the empty map. -/
def annotationMap (m : ObjectMeta) : NameMap String :=
  m.annotations.getD ∅

end ObjectMeta

end TagSync
