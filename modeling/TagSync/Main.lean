import Std.Time.DateTime.Timestamp
import TagSync.Startup

/-!
# The command

Checks everything that has to be in order before tags can be kept in step. What is not in order
is reported on the standard error output.
-/

set_option autoImplicit false

namespace TagSync

def settingNames : List String := [
  "KUBECONFIG", "PULL_SECRET_PATH", "REQUEUE_SECS", "CLUSTERS", "IMAGE_STREAM_TAGS",
  "IMAGE_STREAMS", "IMAGE_STREAM_PREFIXES", "IMAGE_STREAM_NAMESPACES", "DENIED_IMAGE_STREAMS"]

/-- Whether a code of the system, which may have either sign, is the given one. -/
def isSystemCode (n code : UInt32) : Bool :=
  code == n || code + n == 0

def FileFault.ofError (e : IO.Error) : FileFault :=
  match e with
  | .noFileOrDirectory _ _ _ => .notFound
  | .permissionDenied _ _ _ => .notPermitted
  | .inappropriateType _ code _ =>
    if isSystemCode 20 code then .notADirectory
    else if isSystemCode 21 code then .isADirectory
    else .other (toString e)
  | .invalidArgument _ code _ =>
    if isSystemCode 36 code then .nameTooLong else .other (toString e)
  | e => .other (toString e)

def readFile (path : String) : IO (Except FileFault (List UInt8)) := do
  try
    let octets ← IO.FS.readBinFile path
    pure (.ok octets.toList)
  catch e => pure (.error (.ofError e))

def environment : IO (String → Option String) := do
  let values ← settingNames.mapM fun name => do
    let value ← IO.getEnv name
    pure (name, value)
  pure fun name => (values.lookup name).join

def readFiles (paths : List String) : IO (List (String × Except FileFault (List UInt8))) :=
  paths.mapM fun path => do
    let content ← readFile path
    pure (path, content)

def currentTime : IO Instant := do
  let t ← Std.Time.Timestamp.now
  pure (.ofEpoch t.val.second.val.toNat t.val.nano.val.toNat)

/-- This machine, of which only what the settings and the kubeconfig file name can be read. Other
programs are not started. -/
def thisMachine (environment : String → Option String) : IO Machine := do
  let now ← currentTime
  let named ← readFiles (["KUBECONFIG", "PULL_SECRET_PATH"].filterMap environment)
  let known (path : String) := (named.lookup path).getD (.error .notFound)
  let text := (environment "KUBECONFIG").bind fun path =>
    (({ read := known, now } : Machine).readText path).toOption
  let more ← readFiles ((text.bind Kubeconfig.parse?).elim [] Kubeconfig.paths)
  let read (path : String) := ((named ++ more).lookup path).getD (.error .notFound)
  pure { read, now, programs := .none read }

end TagSync

def main : IO UInt32 := do
  let environment ← TagSync.environment
  let machine ← TagSync.thisMachine environment
  match TagSync.Startup.begin environment machine with
  | .ok _ => pure 0
  | .error e =>
    let stderr ← IO.getStderr
    stderr.putStr e.report
    pure 1
