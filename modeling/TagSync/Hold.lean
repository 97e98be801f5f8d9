import TagSync.Finalizer
import TagSync.Plan

/-!
# Holding and releasing streams

`hold` puts the managed finalizer on a stream, and `release` takes it off the stream as the
cluster has it now. Both write only if there is something to change, and only to the version of
the stream that the new list was made from.
-/

set_option autoImplicit false

namespace TagSync

/-- Writes the finalizers of a stream, unless it changed since it was read. -/
def writeFinalizers (cluster : String) (stream : ImageStream) (finalizers : List String) :
    Job Unit := do
  let _ ← Job.require cluster
    (.setFinalizers stream.namespaceName stream.name finalizers stream.metadata.resourceVersion)
    (.write (.finalizers stream.namespaceName stream.name) cluster)
  pure ()

/-- Puts the managed finalizer on a stream that lacks it. -/
def hold (cluster : String) (stream : ImageStream) : Job Unit :=
  match withFinalizer? stream.metadata.finalizerList managedFinalizer with
  | none => pure ()
  | some finalizers => writeFinalizers cluster stream finalizers

/-- Takes the managed finalizer off the stream of the same name that the cluster has now, if it
has one and that one carries it. -/
def release (cluster : String) (stream : ImageStream) : Job Unit := do
  let current ← Job.find? cluster (.getStream stream.namespaceName stream.name)
    (.getStream stream.namespaceName stream.name cluster)
  match current with
  | none => pure ()
  | some current =>
    match withoutFinalizer? current.metadata.finalizerList managedFinalizer with
    | none => pure ()
    | some finalizers => writeFinalizers cluster current finalizers

end TagSync
