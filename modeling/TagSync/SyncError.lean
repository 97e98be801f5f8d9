import TagSync.Api.CallError
import TagSync.ImageStreamImport
import TagSync.TagName

/-!
# Why syncing fails

A `SyncError` names the step that failed, the object and the cluster, and the failed call behind
it. `collect` puts the failures of several steps together: one alone stays as it is, several
become `multiple`, whose members are never fewer than two. `leaves` lists the single failures
again.
-/

set_option autoImplicit false

namespace TagSync

open Api (CallError)

/-! ## Steps -/

/-- A write whose failure is reported by its own description. -/
inductive Write where
  /-- Changing the finalizers of a stream. -/
  | finalizers (namespaceName stream : String)
  /-- Creating a stream. -/
  | creation (namespaceName stream : String)
  /-- Setting annotations of a stream. -/
  | annotations (namespaceName stream : String)
  /-- Writing a secret. -/
  | secret (namespaceName name : String)
  /-- Deleting a stream. -/
  | deletion (namespaceName stream : String)
  deriving DecidableEq, Repr

def Write.description : Write → String
  | .finalizers ns s => s!"patch finalizers of imageStream {qualified ns s}"
  | .creation ns s => s!"create imageStream {qualified ns s}"
  | .annotations ns s => s!"patch annotations of imageStream {qualified ns s}"
  | .secret ns s => s!"apply secret {qualified ns s}"
  | .deletion ns s => s!"delete imageStream {qualified ns s}"

/-- What was done about a namespace. -/
inductive NamespaceStep where
  /-- Looking whether it exists. -/
  | check
  | create
  deriving DecidableEq, Repr

def NamespaceStep.word : NamespaceStep → String
  | .check => "check"
  | .create => "create"

/-- Why an import failed. -/
inductive ImportFailure where
  /-- The call failed. -/
  | call (cause : CallError)
  /-- The answer does not report the image as imported. -/
  | answer (fault : ImportFault)
  deriving DecidableEq, Repr

def ImportFailure.message : ImportFailure → String
  | .call cause => cause.message
  | .answer fault => fault.message

/-! ## Errors -/

/-- Why syncing failed. -/
inductive SyncError where
  /-- A name is not a stream's name and a tag. -/
  | invalidTagName (namespaceName name : String)
  /-- A tag could not be read. -/
  | getTag (namespaceName name cluster : String) (cause : CallError)
  /-- A stream could not be read. -/
  | getStream (namespaceName name cluster : String) (cause : CallError)
  /-- A write failed. -/
  | write (what : Write) (cluster : String) (cause : CallError)
  /-- A namespace could not be looked up or created. -/
  | namespaceStep (step : NamespaceStep) (name cluster : String) (cause : CallError)
  /-- An image was not imported. -/
  | importFailed (tag stream namespaceName cluster : String) (reason : ImportFailure)
  /-- The registry of a cluster is not known. -/
  | unknownCluster (cluster : String)
  /-- The image of a tag has no reference. -/
  | missingReference (namespaceName stream tag cluster : String)
  /-- Several failures. -/
  | multiple (errors : List SyncError)
  deriving Inhabited

namespace SyncError

mutual

/-- The text of an error; several are put one after the other. -/
def message : SyncError → String
  | .invalidTagName ns name =>
    s!"invalid imageStreamTag name {qualified ns name}, expected <imagestream>:<tag>"
  | .getTag ns name cluster cause =>
    s!"failed to get imageStreamTag {qualified ns name} from cluster {cluster}: {cause.message}"
  | .getStream ns name cluster cause =>
    s!"failed to get imageStream {qualified ns name} from cluster {cluster}: {cause.message}"
  | .write what cluster cause =>
    s!"failed to {what.description} on cluster {cluster}: {cause.message}"
  | .namespaceStep step name cluster cause =>
    s!"Namespace creation failed: Failed to {step.word} namespace {name} on cluster {cluster}: " ++
      cause.message
  | .importFailed tag stream ns cluster reason =>
    s!"failed to create and check the status for imageStreamImport for tag {tag} of {stream} " ++
      s!"in namespace {ns} on cluster {cluster}: {reason.message}"
  | .unknownCluster cluster => s!"failed to get the domain for cluster {cluster}"
  | .missingReference ns stream tag cluster =>
    s!"imageStreamTag {qualified ns stream}:{tag} on cluster {cluster} " ++
      "has no docker image reference"
  | .multiple errors => String.intercalate "; " (messages errors)

def messages : List SyncError → List String
  | [] => []
  | e :: es => e.message :: messages es

end

mutual

/-- The single failures in an error, from left to right. -/
def leaves : SyncError → List SyncError
  | .multiple errors => leavesOf errors
  | e => [e]

/-- The single failures in several errors, from left to right. -/
def leavesOf : List SyncError → List SyncError
  | [] => []
  | e :: es => e.leaves ++ leavesOf es

end

/-- The failures of several steps as one outcome. -/
def collect : List SyncError → Except SyncError Unit
  | [] => .ok ()
  | [e] => .error e
  | e :: f :: es => .error (.multiple (e :: f :: es))

theorem collect_eq_ok_iff {errors : List SyncError} : collect errors = .ok () ↔ errors = [] := by
  match errors with
  | [] => simp [collect]
  | [e] => simp [collect]
  | e :: f :: es => simp [collect]

theorem leaves_of_collect {errors : List SyncError} {e : SyncError}
    (h : collect errors = .error e) : e.leaves = leavesOf errors := by
  match errors with
  | [] => simp [collect] at h
  | [f] =>
    simp only [collect, Except.error.injEq] at h
    subst h
    simp [leavesOf]
  | f :: g :: es =>
    simp only [collect, Except.error.injEq] at h
    subst h
    simp [leaves]

end SyncError

end TagSync
