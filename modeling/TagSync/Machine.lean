import TagSync.FileTree
import TagSync.Instant
import TagSync.Kubeconfig
import TagSync.Text.Base64
import TagSync.Text.Utf8

/-!
# The machine

What can be seen of the machine: its files, its clock, and what comes of logins through its other
programs. What those programs do is up to the machine; on one that has none, `Programs.none` says
why they cannot be started.
-/

set_option autoImplicit false

namespace TagSync

open TagSync.Text

/-- Why a program cannot be started. -/
inductive StartFault where
  /-- The path or a word for the program has a character that cannot be passed on. -/
  | badWord
  /-- The program's file cannot be used. -/
  | file (fault : FileFault)
  deriving DecidableEq, Repr

namespace StartFault

/-- What is wrong with a character that cannot be passed on. -/
def wordText : String := "nul byte found in provided data"

def message : StartFault → String
  | .badWord => wordText
  | .file fault => fault.message

/-- The text of a fault with all that is known about it. -/
def details : StartFault → String
  | .badWord => "Error \x7b kind: InvalidInput, message: \"" ++ wordText ++ "\" \x7d"
  | .file fault =>
    match fault.ofSystem? with
    | none => fault.ownText
    | some (number, kind, text) =>
      s!"Os \x7b code: {number}, kind: {kind}, message: \"{text}\" \x7d"

end StartFault

/-! ## Programs -/

/-- What comes of logins through other programs. If there is none, the machine says why in words. -/
structure Programs where
  /-- Logs in through a command at a cluster. A certificate with its key, if the command hands one
  out, goes before those of the login. -/
  command : CommandLogin → ClusterEntry → Except String (Option (List UInt8))
  /-- Logs in through the command of a service. -/
  service : ServiceLogin → Except String Unit

/-- Why a program cannot be started with words that are passed to it, where there are files but no
programs. A name without a slash is looked up in the places for programs. -/
def startFault (read : String → Except FileFault (List UInt8)) (program : String)
    (words : List String) : StartFault :=
  if (program :: words).any (·.toList.contains '\x00') then .badWord
  else if program.toList.contains '/' then
    match read program with
    | .ok _ | .error .isADirectory => .file .notPermitted
    | .error fault => .file fault
  else .file (if 255 < program.utf8ByteSize then .nameTooLong else .notFound)

def serviceFailed (text : String) : String := "failed exec auth: " ++ text

/-- The logins of a machine on which there are files but no programs. -/
def Programs.none (read : String → Except FileFault (List UInt8)) : Programs where
  command login _ :=
    let words := login.environment.flatMap fun v => [v.1, v.2]
    let fault := startFault read (login.command.getD "") (login.arguments ++ words)
    .error s!"unable to run auth exec: {fault.message}"
  service login :=
    let command := (login.config.get? "cmd-path").getD ""
    let fault := startFault read command (login.config.get? "cmd-args").toList
    .error (serviceFailed s!"Executing {command} failed: {fault.details}")

/-! ## Machines -/

/-- The machine. -/
structure Machine where
  /-- Reads the file at a path. -/
  read : String → Except FileFault (List UInt8)
  now : Instant
  /-- Logs in through other programs. -/
  programs : Programs := .none read

namespace Machine

def readText (m : Machine) (path : String) : Except FileFault String :=
  match m.read path with
  | .error fault => .error fault
  | .ok octets =>
    match Utf8.decode octets with
    | .error _ => .error .notText
    | .ok text => .ok text

/-- The octets that are given in base64 or else are in a file. -/
def load? (m : Machine) (data path : Option String) : Option (List UInt8) :=
  match data, path with
  | some text, _ => Base64.decode text.toList
  | none, some path => (m.read path).toOption
  | none, none => none

end Machine

end TagSync
