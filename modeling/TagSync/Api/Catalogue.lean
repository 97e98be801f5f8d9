import TagSync.Json.Record

/-!
# The catalogue of an API server

What a server says about the groups of types it serves: the versions of each group, and the
types of each version. All records are lenient.
-/

set_option autoImplicit false

namespace TagSync.Api

open TagSync

/-! ## Groups -/

/-- A version of a group. -/
structure GroupVersion where
  /-- Group and version, as they stand in a path. -/
  groupVersion : String := ""
  /-- The version alone. -/
  version : String := ""
  deriving DecidableEq, Repr, Inhabited

def GroupVersion.decode? (v : Json) : Option GroupVersion := do
  let fs ← v.lenient?
  let groupVersion ← fs.lastOrElse "groupVersion" "" Json.asString?
  let version ← fs.lastOrElse "version" "" Json.asString?
  some { groupVersion, version }

/-- A group of types. -/
structure Group where
  name : String := ""
  /-- The version that the server prefers. -/
  preferredVersion : Option GroupVersion := none
  versions : List GroupVersion := []
  deriving DecidableEq, Repr, Inhabited

/-- Whether a value is a server address for some clients. -/
def isServerAddress (v : Json) : Bool :=
  Option.isSome do
    let fs ← v.lenient?
    let _ ← fs.last "clientCIDR" Json.asString?
    fs.last "serverAddress" Json.asString?

def Group.decode? (v : Json) : Option Group := do
  let fs ← v.lenient?
  guard (fs.allows "apiVersion" "v1" && fs.allows "kind" "APIGroup")
  let name ← fs.lastOrElse "name" "" Json.asString?
  let preferredVersion ← fs.last "preferredVersion" GroupVersion.decode?
  let _ ← fs.last "serverAddressByClientCIDRs"
    (Json.asList? fun a => if isServerAddress a then some () else none)
  let versions ← fs.lastOrElse "versions" [] (Json.asList? GroupVersion.decode?)
  some { name, preferredVersion, versions }

/-- The groups of a server. -/
structure GroupList where
  groups : List Group := []
  deriving DecidableEq, Repr, Inhabited

def GroupList.decode? (v : Json) : Option GroupList := do
  let fs ← v.lenient?
  guard (fs.allows "apiVersion" "v1" && fs.allows "kind" "APIGroupList")
  let groups ← fs.lastOrElse "groups" [] (Json.asList? Group.decode?)
  some { groups }

/-! ## Types -/

/-- A type, or a part of one, that a version of a group serves. -/
structure Resource where
  /-- Its name in a path; a part of a type has a slash in it. -/
  name : String := ""
  kind : String := ""
  /-- Its version, if it differs from that of the list. -/
  version : Option String := none
  deriving DecidableEq, Repr, Inhabited

def Resource.decode? (v : Json) : Option Resource := do
  let fs ← v.lenient?
  let strings := Json.asList? Json.asString?
  let _ ← fs.last "categories" strings
  let _ ← fs.last "group" Json.asString?
  let kind ← fs.lastOrElse "kind" "" Json.asString?
  let name ← fs.lastOrElse "name" "" Json.asString?
  let _ ← fs.last "namespaced" Json.asBool?
  let _ ← fs.last "shortNames" strings
  let _ ← fs.last "singularName" Json.asString?
  let _ ← fs.last "storageVersionHash" Json.asString?
  let _ ← fs.last "verbs" strings
  let version ← fs.last "version" Json.asString?
  some { name, kind, version }

/-- The types of a version of a group. -/
structure ResourceList where
  /-- Group and version. -/
  groupVersion : String := ""
  /-- The types and their parts. -/
  resources : List Resource := []
  deriving DecidableEq, Repr, Inhabited

def ResourceList.decode? (v : Json) : Option ResourceList := do
  let fs ← v.lenient?
  guard (fs.allows "apiVersion" "v1" && fs.allows "kind" "APIResourceList")
  let groupVersion ← fs.lastOrElse "groupVersion" "" Json.asString?
  let resources ← fs.lastOrElse "resources" [] (Json.asList? Resource.decode?)
  some { groupVersion, resources }

/-- The version of a list: what stands behind the first slash, or all of it without one. -/
def ResourceList.version (l : ResourceList) : String :=
  match l.groupVersion.toList.dropWhile (· != '/') with
  | [] => l.groupVersion
  | _ :: version => String.ofList version

/-- The versions and names of the whole types in a list. -/
def ResourceList.served (l : ResourceList) : List (String × String) :=
  (l.resources.filter fun r => !r.name.toList.contains '/').map fun r =>
    (r.kind, r.version.getD l.version)

end TagSync.Api
