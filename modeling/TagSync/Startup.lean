import TagSync.Clients
import TagSync.Pass

/-!
# Starting up

What has to be in order before any tag is kept in step: the settings, the credentials for pulling
images, and the clients, in this order. The first that is not in order ends the program with a
report.
-/

set_option autoImplicit false

namespace TagSync

/-- Why the program does not start. -/
inductive StartupError where
  /-- The settings are not in order. -/
  | settings (error : SettingsError)
  /-- The credentials cannot be read. -/
  | pullSecret (path : String) (fault : FileFault)
  /-- There are no clients. -/
  | clients (error : ClientsError)
  deriving DecidableEq, Repr

namespace StartupError

/-- The text of an error. -/
def message : StartupError → String
  | .settings e => e.message
  | .pullSecret path _ => s!"failed to read pull secret from {path}"
  | .clients e => e.message

/-- The texts of what caused an error. -/
def causes : StartupError → List String
  | .settings e => e.causes
  | .pullSecret _ fault => [fault.message]
  | .clients _ => []

/-- What is printed about an error: its text, and below it what caused it. -/
def report (e : StartupError) : String :=
  match e.causes with
  | [] => s!"Error: {e.message}\n"
  | [cause] => s!"Error: {e.message}\n\nCaused by:\n    {cause}\n"
  | causes =>
    s!"Error: {e.message}\n\nCaused by:\n" ++
      String.join (causes.zipIdx.map fun (cause, i) => s!"    {i}: {cause}\n")

end StartupError

/-- Reads the credentials for pulling images. -/
def loadPullSecret (path : String) (content : Except FileFault (List UInt8)) :
    Except StartupError (List UInt8) :=
  match content with
  | .error fault => .error (.pullSecret path fault)
  | .ok octets => .ok octets

/-- Everything that is needed to keep tags in step. -/
structure Startup where
  settings : Settings
  /-- The clusters and the credentials. -/
  fleet : Fleet
  /-- The access to the clusters. -/
  clients : NameMap Client

/-- Starts up on a machine, in an environment. -/
def Startup.begin (environment : String → Option String) (m : Machine) :
    Except StartupError Startup :=
  match Settings.ofEnvironment environment with
  | .error e => .error (.settings e)
  | .ok settings =>
    match loadPullSecret settings.pullSecretPath (m.read settings.pullSecretPath) with
    | .error e => .error e
    | .ok credentials =>
      match connect m settings.kubeconfig settings.wants with
      | .error e => .error (.clients e)
      | .ok clients => .ok ⟨settings, ⟨.ofList clients.names, credentials⟩, clients⟩

end TagSync
