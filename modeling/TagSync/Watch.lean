import TagSync.Pass
import TagSync.TagFilter

/-!
# Reacting to a stream

What happens when a cluster reports one of its streams: a stream that is being deleted is
retired, and of any other stream each chosen tag gets a pass. After a failure all of it is
repeated at intervals.
-/

set_option autoImplicit false

namespace TagSync

/-- A pass for each chosen tag, in order; gathers the failures. -/
def syncTags (fleet : Fleet) (filter : TagFilter) (namespaceName stream : String) :
    List String → Plan (List SyncError)
  | [] => pure []
  | tag :: tags => do
    let name := (TagName.mk stream tag).toName
    if filter.admits namespaceName name then
      let outcome ← (syncTag fleet namespaceName name).run
      let others ← syncTags fleet filter namespaceName stream tags
      match outcome with
      | .ok () => pure others
      | .error e => pure (e :: others)
    else syncTags fleet filter namespaceName stream tags

/-- The reaction to a stream that a cluster reports. -/
def reactTo (fleet : Fleet) (filter : TagFilter) (cluster : String) (stream : ImageStream) :
    Job Unit := do
  if stream.metadata.isTerminating then
    if stream.metadata.isManaged then retire fleet cluster stream else pure ()
  else
    let errors ← syncTags fleet filter stream.namespaceName stream.name stream.tagNames
    SyncError.collect errors

/-! ## Repeating -/

/-- At most `attempts` reactions, up to the first that succeeds; gives the failures. -/
def react (fleet : Fleet) (filter : TagFilter) (cluster : String) (stream : ImageStream) :
    (attempts : Nat) → Plan (List SyncError)
  | 0 => pure []
  | attempts + 1 => do
    match ← (reactTo fleet filter cluster stream).run with
    | .ok () => pure []
    | .error e =>
      let later ← react fleet filter cluster stream attempts
      pure (e :: later)

/-- How many moments `0`, `interval`, `2 * interval`, … lie before an end. -/
def momentsBefore (interval finish : Nat) : Nat :=
  (finish + (interval - 1)) / interval

/-- The line that is logged for a failed reaction. -/
def reactionLogLine (cluster : String) (e : SyncError) : String :=
  s!"ERROR Reconciliation error on {cluster}: {e.message}"

end TagSync
