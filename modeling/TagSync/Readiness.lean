import TagSync.Api.VersionRank
import TagSync.Plan

/-!
# Waiting for the image API

Before a cluster is used, its server has to serve image streams. `imageApiServed` asks the
server's catalogue, and `awaitImageApi` asks again and again, with growing pauses, until they are
served.
-/

set_option autoImplicit false

namespace TagSync

open Api

/-! ## Asking the catalogue -/

/-- The group of the image types. -/
def imageGroup : String := "image.openshift.io"

/-- The types that each listed version of a group serves, in order. -/
def listVersions (cluster : String) : List GroupVersion →
    Plan (Except CallError (List (String × ResourceList)))
  | [] => pure (.ok [])
  | version :: versions => do
    match ← Plan.send cluster (.listResources version.groupVersion) with
    | .error cause => pure (.error cause)
    | .ok types =>
      match ← listVersions cluster versions with
      | .error cause => pure (.error cause)
      | .ok others => pure (.ok ((version.version, types) :: others))

/-- The types of the version of a group that is to be used: the preferred one, or else the one
of the highest rank. -/
def recommended (group : Group) (versions : List (String × ResourceList)) :
    List (String × String) :=
  let ranked := sortByRank (·.1) versions
  let types : Option ResourceList :=
    match group.preferredVersion with
    | some preferred => ranked.lookup preferred.version
    | none => ranked.head?.map (·.2)
  (types.map (·.served)).getD []

/-- Whether types are those of the image API. -/
def serveImageStreams (types : List (String × String)) : Bool :=
  types.contains ("ImageStream", "v1")

/-- Asks for the versions of the image group among listed groups; of several groups of this name
the last one counts. -/
def checkGroups (cluster : String) (found : Bool) : List Group → Plan (Except CallError Bool)
  | [] => pure (.ok found)
  | group :: groups =>
    if group.name ≠ imageGroup then checkGroups cluster found groups
    else if group.versions.isEmpty then pure (.error (.emptyGroup group.name))
    else do
      match ← listVersions cluster group.versions with
      | .error cause => pure (.error cause)
      | .ok versions =>
        checkGroups cluster (serveImageStreams (recommended group versions)) groups

/-- Whether a cluster serves image streams now. -/
def imageApiServed (cluster : String) : Plan (Except CallError Bool) := do
  match ← Plan.send cluster .listGroups with
  | .error cause => pure (.error cause)
  | .ok list => checkGroups cluster false list.groups

/-! ## Waiting -/

/-- The first pause, in seconds. -/
def firstPause : Nat := 10

/-- The longest pause, in seconds. -/
def longestPause : Nat := 60

/-- The pause after a pause. -/
def nextPause (pause : Nat) : Nat :=
  min (pause * 2) longestPause

/-- What is logged about a check. -/
inductive ReadinessNote where
  /-- Image streams are served. -/
  | available
  /-- They are not served yet; the next check follows after a pause. -/
  | waiting (pause : Nat)
  /-- The check failed; the next one follows after a pause. -/
  | failed (cause : CallError) (pause : Nat)
  deriving DecidableEq, Repr

/-- The log line of a note. -/
def ReadinessNote.line (cluster : String) : ReadinessNote → String
  | .available => s!"INFO ImageStream API (image.openshift.io/v1) is available on {cluster}"
  | .waiting pause =>
    s!"INFO ImageStream API (image.openshift.io/v1) not yet available on {cluster}, " ++
      s!"waiting {pause} seconds..."
  | .failed cause pause =>
    s!"WARN Error checking for ImageStream API on {cluster}: Kubernetes API error: " ++
      s!"{cause.message}, retrying in {pause} seconds..."

/-- What came of waiting. -/
structure Readiness where
  /-- Whether image streams are served. -/
  ready : Bool
  /-- The seconds of all pauses. -/
  waited : Nat
  /-- The notes, in order. -/
  notes : List ReadinessNote
  deriving DecidableEq, Repr

/-- A pause and a note before what comes after it. -/
def Readiness.behind (note : ReadinessNote) (pause : Nat) (r : Readiness) : Readiness :=
  { r with waited := pause + r.waited, notes := note :: r.notes }

/-- At most `checks` checks, up to the first that finds image streams served, with a pause after
each of the others. -/
def awaitImageApi (cluster : String) : (checks : Nat) → (pause : Nat) → Plan Readiness
  | 0, _ => pure ⟨false, 0, []⟩
  | checks + 1, pause => do
    match ← imageApiServed cluster with
    | .ok true => pure ⟨true, 0, [.available]⟩
    | .ok false =>
      let later ← awaitImageApi cluster checks (nextPause pause)
      pure (later.behind (.waiting pause) pause)
    | .error cause =>
      let later ← awaitImageApi cluster checks (nextPause pause)
      pure (later.behind (.failed cause pause) pause)

/-- How many checks begin before an end, if the first is at `now` and the pauses grow from
`pause` on; the first argument bounds their number. -/
def checksBefore (finish : Nat) : (bound now pause : Nat) → Nat
  | 0, _, _ => 0
  | bound + 1, now, pause =>
    if now < finish then 1 + checksBefore finish bound (now + pause) (nextPause pause) else 0

end TagSync
