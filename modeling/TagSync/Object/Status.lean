import TagSync.Json.Record

/-!
# Status objects

The API object that says how a request went. The record is lenient, but its own version and type
have to be right where they stand.
-/

set_option autoImplicit false

namespace TagSync

/-- One cause of a failure. -/
structure StatusCause where
  /-- The field at fault. -/
  field : Option String := none
  /-- The cause in words. -/
  message : Option String := none
  /-- The cause in one word. -/
  reason : Option String := none
  deriving DecidableEq, Repr, Inhabited

namespace StatusCause

def decode? (v : Json) : Option StatusCause := do
  let fs ← v.lenient?
  let field ← fs.last "field" Json.asString?
  let message ← fs.last "message" Json.asString?
  let reason ← fs.last "reason" Json.asString?
  some { field, message, reason }

/-- Writes a cause. -/
def encode (c : StatusCause) : Json :=
  .ofSlots [
    ("field", c.field.map .str),
    ("message", c.message.map .str),
    ("reason", c.reason.map .str)]

end StatusCause

/-- More about a failure. -/
structure StatusDetails where
  causes : Option (List StatusCause) := none
  /-- The group of the object's type. -/
  group : Option String := none
  /-- The object's type. -/
  kind : Option String := none
  /-- The object's name. -/
  name : Option String := none
  /-- When to try again. -/
  retryAfterSeconds : Option Int := none
  /-- The object's identity. -/
  uid : Option String := none
  deriving DecidableEq, Repr, Inhabited

namespace StatusDetails

def decode? (v : Json) : Option StatusDetails := do
  let fs ← v.lenient?
  let causes ← fs.last "causes" (Json.asList? StatusCause.decode?)
  let group ← fs.last "group" Json.asString?
  let kind ← fs.last "kind" Json.asString?
  let name ← fs.last "name" Json.asString?
  let retryAfterSeconds ← fs.last "retryAfterSeconds" Json.asInt32?
  let uid ← fs.last "uid" Json.asString?
  some { causes, group, kind, name, retryAfterSeconds, uid }

/-- Writes details. -/
def encode (d : StatusDetails) : Json :=
  .ofSlots [
    ("causes", d.causes.map fun cs => .arr (cs.map StatusCause.encode)),
    ("group", d.group.map .str),
    ("kind", d.kind.map .str),
    ("name", d.name.map .str),
    ("retryAfterSeconds", d.retryAfterSeconds.map fun n => .num (.int n)),
    ("uid", d.uid.map .str)]

end StatusDetails

/-- The metadata of a list. -/
structure ListMeta where
  /-- Where a list goes on. -/
  «continue» : Option String := none
  /-- How many items are left. -/
  remainingItemCount : Option Int := none
  /-- The version of the list. -/
  resourceVersion : Option String := none
  /-- The path of the list. -/
  selfLink : Option String := none
  deriving DecidableEq, Repr, Inhabited

namespace ListMeta

def decode? (v : Json) : Option ListMeta := do
  let fs ← v.lenient?
  let «continue» ← fs.last "continue" Json.asString?
  let remainingItemCount ← fs.last "remainingItemCount" Json.asInt64?
  let resourceVersion ← fs.last "resourceVersion" Json.asString?
  let selfLink ← fs.last "selfLink" Json.asString?
  some { «continue», remainingItemCount, resourceVersion, selfLink }

/-- Writes metadata of a list. -/
def encode (m : ListMeta) : Json :=
  .ofSlots [
    ("continue", m.continue.map .str),
    ("remainingItemCount", m.remainingItemCount.map fun n => .num (.int n)),
    ("resourceVersion", m.resourceVersion.map .str),
    ("selfLink", m.selfLink.map .str)]

end ListMeta

/-- How a request went. -/
structure Status where
  /-- The code, as in HTTP. -/
  code : Option Int := none
  /-- More about a failure. -/
  details : Option StatusDetails := none
  /-- The outcome in words. -/
  message : Option String := none
  /-- Metadata as of a list. -/
  metadata : ListMeta := {}
  /-- The outcome in one word. -/
  reason : Option String := none
  /-- Success or failure. -/
  status : Option String := none
  deriving DecidableEq, Repr, Inhabited

namespace Status

def decode? (v : Json) : Option Status := do
  let fs ← v.lenient?
  guard (fs.allows "apiVersion" "v1" && fs.allows "kind" "Status")
  let code ← fs.last "code" Json.asInt32?
  let details ← fs.last "details" StatusDetails.decode?
  let message ← fs.last "message" Json.asString?
  let metadata ← fs.lastOrElse "metadata" {} ListMeta.decode?
  let reason ← fs.last "reason" Json.asString?
  let status ← fs.last "status" Json.asString?
  some { code, details, message, metadata, reason, status }

/-- Writes a status object. -/
def encode (s : Status) : Json :=
  .ofSlots [
    ("apiVersion", some (.str "v1")),
    ("kind", some (.str "Status")),
    ("code", s.code.map fun n => .num (.int n)),
    ("details", s.details.map StatusDetails.encode),
    ("message", s.message.map .str),
    ("metadata", some s.metadata.encode),
    ("reason", s.reason.map .str),
    ("status", s.status.map .str)]

end Status

end TagSync
