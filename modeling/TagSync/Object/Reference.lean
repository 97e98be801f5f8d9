import TagSync.Json.Record

/-!
# References

How one object names another: with the parts of an address (`ObjectReference`) or by name alone
inside its own namespace (`LocalReference`). Both records are lenient.
-/

set_option autoImplicit false

namespace TagSync

/-- The address of an object or of an image. -/
structure ObjectReference where
  /-- The version of its type. -/
  apiVersion : Option String := none
  /-- A path to a part of it. -/
  fieldPath : Option String := none
  kind : Option String := none
  name : Option String := none
  «namespace» : Option String := none
  resourceVersion : Option String := none
  uid : Option String := none
  deriving DecidableEq, Repr, Inhabited

namespace ObjectReference

def decode? (v : Json) : Option ObjectReference := do
  let fs ← v.lenient?
  let apiVersion ← fs.last "apiVersion" Json.asString?
  let fieldPath ← fs.last "fieldPath" Json.asString?
  let kind ← fs.last "kind" Json.asString?
  let name ← fs.last "name" Json.asString?
  let «namespace» ← fs.last "namespace" Json.asString?
  let resourceVersion ← fs.last "resourceVersion" Json.asString?
  let uid ← fs.last "uid" Json.asString?
  some { apiVersion, fieldPath, kind, name, «namespace», resourceVersion, uid }

/-- Writes a reference. -/
def encode (r : ObjectReference) : Json :=
  .ofSlots [
    ("apiVersion", r.apiVersion.map .str),
    ("fieldPath", r.fieldPath.map .str),
    ("kind", r.kind.map .str),
    ("name", r.name.map .str),
    ("namespace", r.namespace.map .str),
    ("resourceVersion", r.resourceVersion.map .str),
    ("uid", r.uid.map .str)]

end ObjectReference

/-- The name of something in the same namespace. -/
structure LocalReference where
  name : String := ""
  deriving DecidableEq, Repr, Inhabited

namespace LocalReference

def decode? (v : Json) : Option LocalReference := do
  let fs ← v.lenient?
  let name ← fs.lastOrElse "name" "" Json.asString?
  some { name }

/-- Writes a reference. -/
def encode (r : LocalReference) : Json :=
  .ofSlots [("name", some (.str r.name))]

end LocalReference

end TagSync
