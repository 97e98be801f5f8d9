import TagSync.Hold
import TagSync.Newest
import TagSync.Provision
import TagSync.RegistryHost

/-!
# Keeping a tag in step

A pass reads a tag from every cluster, takes the cluster with the newest image as the source and
imports that image on every other cluster that does not have it. When the source's stream is
being deleted, the pass deletes the stream on the other clusters instead and then releases it.
Every step writes only what is missing, so a failed pass can be repeated.
-/

set_option autoImplicit false

namespace TagSync

/-- The clusters that are kept in step, and the credentials for pulling images from them. -/
structure Fleet where
  /-- The names of the clusters. -/
  clusters : NameSet
  credentials : List UInt8
  deriving Inhabited

namespace Fleet

/-- The names of the clusters, in order. -/
def names (fleet : Fleet) : List String :=
  fleet.clusters.toList

end Fleet

/-! ## Reading -/

/-- Reads a tag from clusters in order; those without the tag are left out. -/
def observe (namespaceName name : String) : List String → Job (List (String × ImageStreamTag))
  | [] => pure []
  | cluster :: clusters => do
    match ← Job.send cluster (.getTag namespaceName name) with
    | .ok tag =>
      let others ← observe namespaceName name clusters
      pure ((cluster, tag) :: others)
    | .error cause =>
      if cause.isNotFound then observe namespaceName name clusters
      else throw (.getTag namespaceName name cluster cause)

/-! ## Deleting -/

/-- Deletes a stream on clusters in order; one that is not there is as good as deleted. -/
def deleteOn (namespaceName name : String) : List String → Job Unit
  | [] => pure ()
  | cluster :: clusters => do
    match ← Job.send cluster (.deleteStream namespaceName name) with
    | .ok _ => deleteOn namespaceName name clusters
    | .error cause =>
      if cause.isNotFound then deleteOn namespaceName name clusters
      else throw (.write (.deletion namespaceName name) cluster cause)

/-- Deletes a stream on all clusters but its own and then releases it there. -/
def retire (fleet : Fleet) (owner : String) (stream : ImageStream) : Job Unit := do
  deleteOn stream.namespaceName stream.name (fleet.names.filter (· != owner))
  if fleet.clusters.contains owner then release owner stream else pure ()

/-! ## Copying -/

/-- The tag on the cluster with the newest image, and the stream it belongs to. -/
structure Source where
  cluster : String
  tag : ImageStreamTag
  stream : ImageStream

/-- The reference by which other clusters pull a source's image. -/
def Source.reference (source : Source) (tag : String) : Except SyncError String :=
  match source.tag.image.dockerImageReference with
  | none =>
    .error (.missingReference source.stream.namespaceName source.stream.name tag source.cluster)
  | some reference =>
    match RegistryHosts.of? source.cluster with
    | none => .error (.unknownCluster source.cluster)
    | some hosts => .ok (hosts.publicReference reference)

/-- Brings a source's image to a cluster. -/
def copyTo (credentials : List UInt8) (source : Source) (tag cluster : String) : Job Unit := do
  let ns := source.stream.namespaceName
  match source.reference tag with
  | .error e => throw e
  | .ok reference =>
    provideNamespace cluster ns
    provideStream cluster source.stream
    providePullSecret cluster ns credentials
    importImage cluster ns source.stream.name tag reference

/-- Whether a cluster needs a source's image: not if the image came from that cluster, and not if
the cluster has the image. -/
def Source.isNeededOn (source : Source) (observations : List (String × ImageStreamTag))
    (cluster : String) : Bool :=
  !source.tag.comesFrom cluster &&
    !((observations.lookup cluster).any fun tag => tag.sameImage source.tag)

/-- Brings a source's image to clusters in order and gathers the failures. -/
def copyToAll (credentials : List UInt8) (source : Source) (tag : String) :
    List String → Plan (List SyncError)
  | [] => pure []
  | cluster :: clusters => do
    let outcome ← (copyTo credentials source tag cluster).run
    let others ← copyToAll credentials source tag clusters
    match outcome with
    | .ok () => pure others
    | .error e => pure (e :: others)

/-! ## Passes -/

/-- One pass for a tag. -/
def syncTag (fleet : Fleet) (namespaceName name : String) : Job Unit := do
  match TagName.parse? name with
  | none => throw (.invalidTagName namespaceName name)
  | some parts =>
    let observations ← observe namespaceName name fleet.names
    match newest? observations with
    | none => pure ()
    | some (cluster, tag) =>
      let stream ← Job.require cluster (.getStream namespaceName parts.stream)
        (.getStream namespaceName parts.stream cluster)
      if stream.metadata.isTerminating then
        if stream.metadata.isManaged then retire fleet cluster stream else pure ()
      else
        hold cluster stream
        let source : Source := ⟨cluster, tag, stream⟩
        let targets := fleet.names.filter fun c => c != cluster && source.isNeededOn observations c
        let errors ← copyToAll fleet.credentials source parts.tag targets
        SyncError.collect errors

end TagSync
