import TagSync.NameMap
import TagSync.TagName

/-!
# Choosing tags

A `TagFilter` says which tags are kept in step: single tags, all tags of single streams, of the
streams whose names begin in a certain way, or of whole namespaces, less the streams denied
there.
-/

set_option autoImplicit false

namespace TagSync

/-- Which tags are kept in step. -/
structure TagFilter where
  /-- Tags, as `namespace/stream:tag`. -/
  tags : NameSet := ∅
  /-- Streams, as `namespace/stream`. -/
  streams : NameSet := ∅
  /-- Beginnings of streams, as `namespace/beginning`. -/
  beginnings : NameSet := ∅
  /-- Whole namespaces. -/
  namespaces : NameSet := ∅
  /-- Streams that their namespace alone does not let in, as `namespace/stream`. -/
  denied : NameSet := ∅
  deriving DecidableEq, Inhabited

namespace TagFilter

/-- Whether a tag is kept in step. -/
def admits (f : TagFilter) (namespaceName name : String) : Bool :=
  match TagName.parse? name with
  | none => false
  | some n =>
    let stream := qualified namespaceName n.stream
    f.tags.contains (qualified namespaceName name) ||
      f.streams.contains stream ||
      f.beginnings.toList.any (fun b => b.toList.isPrefixOf stream.toList) ||
      (f.namespaces.contains namespaceName && !f.denied.contains stream)

end TagFilter

end TagSync
