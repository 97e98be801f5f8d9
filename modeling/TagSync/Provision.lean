import TagSync.Plan
import TagSync.Release

/-!
# Preparing a cluster for an import

What has to be on a cluster before an image is imported into a stream there: the namespace, a
copy of the stream and the credentials for pulling the image. Each step writes only what is
missing, except that the credentials are always written.
-/

set_option autoImplicit false

namespace TagSync

/-- Makes sure that a namespace exists. -/
def provideNamespace (cluster name : String) : Job Unit := do
  match ← Job.send cluster (.getNamespace name) with
  | .ok _ => pure ()
  | .error cause =>
    if cause.isNotFound then
      let _ ← Job.require cluster (.createNamespace name) (.namespaceStep .create name cluster)
      pure ()
    else throw (.namespaceStep .check name cluster cause)

/-- Makes sure that there is a copy of a stream, with its release annotations. -/
def provideStream (cluster : String) (source : ImageStream) : Job Unit := do
  let ns := source.namespaceName
  let name := source.name
  let existing ← Job.find? cluster (.getStream ns name) (.getStream ns name cluster)
  match existing with
  | none =>
    let _ ← Job.require cluster (.createStream ns source.copy) (.write (.creation ns name) cluster)
    pure ()
  | some existing =>
    let missing := existing.missingAnnotations source
    if missing.isEmpty then pure ()
    else
      let _ ← Job.require cluster (.setAnnotations ns name missing)
        (.write (.annotations ns name) cluster)
      pure ()

/-- Writes the credentials for pulling images. -/
def providePullSecret (cluster namespaceName : String) (credentials : List UInt8) : Job Unit := do
  let _ ← Job.require cluster (.applyPullSecret namespaceName credentials)
    (.write (.secret namespaceName Api.pullSecretName) cluster)
  pure ()

/-- Imports an image as a tag of a stream. -/
def importImage (cluster namespaceName stream tag reference : String) : Job Unit := do
  let failure := SyncError.importFailed tag stream namespaceName cluster
  let answer ← Job.require cluster
    (.importImages namespaceName (.importTo namespaceName stream tag reference))
    fun cause => failure (.call cause)
  match answer.check with
  | .ok () => pure ()
  | .error fault => throw (failure (.answer fault))

end TagSync
