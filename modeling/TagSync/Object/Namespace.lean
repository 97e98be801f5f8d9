import TagSync.Object.Meta

/-!
# Namespaces

A namespace as the API writes it. Of its specification and its state only the form is checked:
nothing in this library looks into them.
-/

set_option autoImplicit false

namespace TagSync

/-- A namespace object. -/
structure Namespace where
  metadata : ObjectMeta := {}
  deriving Inhabited

namespace Namespace

def isCondition (v : Json) : Bool :=
  Option.isSome do
    let fs ← v.lenient?
    let _ ← fs.last "lastTransitionTime" Instant.decode?
    let _ ← fs.last "message" Json.asString?
    let _ ← fs.last "reason" Json.asString?
    let _ ← fs.last "status" Json.asString?
    fs.last "type" Json.asString?

/-- Whether a value is the specification of a namespace. -/
def isSpec (v : Json) : Bool :=
  Option.isSome do
    let fs ← v.lenient?
    fs.last "finalizers" stringsOf?

def isState (v : Json) : Bool :=
  Option.isSome do
    let fs ← v.lenient?
    let _ ← fs.last "conditions" (Json.asList? fun c => if isCondition c then some () else none)
    fs.last "phase" Json.asString?

def decode? (v : Json) : Option Namespace := do
  let fs ← v.lenient?
  guard (fs.allows "apiVersion" "v1" && fs.allows "kind" "Namespace")
  let metadata ← fs.lastOrElse "metadata" {} (ObjectMeta.decode? 1)
  let _ ← fs.last "spec" fun s => if isSpec s then some () else none
  let _ ← fs.last "status" fun s => if isState s then some () else none
  some { metadata }

/-- Writes a namespace. -/
def encode (n : Namespace) : Json :=
  .ofSlots [
    ("apiVersion", some (.str "v1")),
    ("kind", some (.str "Namespace")),
    ("metadata", some n.metadata.encode)]

end Namespace

end TagSync
