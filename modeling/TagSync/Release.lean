import TagSync.Finalizer
import TagSync.ImageStream

/-!
# Copies of streams

What another cluster gets of a stream: a stream of the same name that this program holds, with
the release annotations and the lookup policy of its source and without any tags.
-/

set_option autoImplicit false

namespace TagSync

/-- How the names of release annotations begin. -/
def releaseAnnotation : String := "release.openshift.io"

namespace ImageStream

/-- The annotations that belong to releases. -/
def releaseAnnotations (s : ImageStream) : NameMap String :=
  s.metadata.annotationMap.filter fun name _ => releaseAnnotation.toList.isPrefixOf name.toList

/-- The stream that another cluster gets. -/
def copy (s : ImageStream) : ImageStream where
  metadata := {
    name := s.metadata.name
    «namespace» := s.metadata.namespace
    annotations := if s.releaseAnnotations.isEmpty then none else some s.releaseAnnotations
    finalizers := some [managedFinalizer] }
  spec := { lookupPolicy := s.spec.lookupPolicy }

/-- The release annotations of a source that a stream lacks or has with another value. -/
def missingAnnotations (target source : ImageStream) : NameMap String :=
  source.releaseAnnotations.filter fun name value =>
    target.metadata.annotationMap.get? name != some value

end ImageStream

end TagSync
