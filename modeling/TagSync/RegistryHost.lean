import TagSync.ImageStreamTag

/-!
# Registry hosts

Each known cluster has a registry with two host names, one that only the cluster itself knows and
one for everybody. `publicReference` turns the first into the second where an image reference
begins with it; `comesFrom` tells whether a tag was imported from a cluster's public registry.
-/

set_option autoImplicit false

namespace TagSync

/-- The host names of a cluster's registry. -/
structure RegistryHosts where
  /-- The name inside of the cluster. -/
  inner : String
  /-- The name for everybody. -/
  outer : String
  deriving DecidableEq, Repr

namespace RegistryHosts

/-- The clusters whose registries are known. -/
def known : List (String × RegistryHosts) := [
  ("api.ci", ⟨"docker-registry.default.svc:5000", "registry.svc.ci.openshift.org"⟩),
  ("app.ci", ⟨"image-registry.openshift-image-registry.svc:5000", "registry.ci.openshift.org"⟩)]

/-- The registry of a cluster. -/
def of? (cluster : String) : Option RegistryHosts :=
  known.lookup cluster

/-- The rest of a reference behind a host and a slash. -/
def path? (host reference : String) : Option (List Char) :=
  (host.toList ++ ['/']).isPrefixOf? reference.toList

/-- An image reference as everybody can use it: the inner host name, where the reference begins
with it and a slash, gives way to the outer one. -/
def publicReference (hosts : RegistryHosts) (reference : String) : String :=
  match path? hosts.inner reference with
  | some path => hosts.outer ++ "/" ++ String.ofList path
  | none => reference

/-- Whether a reference is an image of the public registry. -/
def servesPublicly (hosts : RegistryHosts) (reference : String) : Bool :=
  (path? hosts.outer reference).isSome

end RegistryHosts

/-- Whether a tag was imported from the public registry of a known cluster. -/
def ImageStreamTag.comesFrom (t : ImageStreamTag) (cluster : String) : Bool :=
  match RegistryHosts.of? cluster, t.importedFrom with
  | some hosts, some reference => hosts.servesPublicly reference
  | _, _ => false

end TagSync
