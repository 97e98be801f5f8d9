import TagSync.Address
import TagSync.Instant.Rfc3339
import TagSync.Kubeconfig
import TagSync.Machine
import TagSync.Text.Quoted

/-!
# Authentication

How a login proves who makes a request. The ways are tried in a fixed order: another service, a
password, a token, a file with a token, a command. `Login.enter` goes the first of them that the
login names and says why it fails. What comes of a command is up to the machine.
-/

set_option autoImplicit false

namespace TagSync

open TagSync.Text

/-! ## Faults -/

/-- Why a login fails. -/
inductive LoginFault where
  /-- There are no services of this kind. -/
  | unknownService (name : String)
  /-- The service is not used in this way any more. -/
  | retiredService (name : String) (instead : Address)
  /-- The service has given no token yet. -/
  | noIdToken
  /-- The time up to which a token can be used is none. -/
  | badExpiry (fault : InstantFault)
  /-- Without a token or a command there is no login through the service. -/
  | noCredentials
  /-- The file with the token cannot be read. -/
  | tokenFile (path : String) (fault : FileFault)
  /-- There is no command. -/
  | noCommand
  /-- Another program has not logged in, for a reason in words. -/
  | program (reason : String)
  deriving DecidableEq, Repr

def LoginFault.message : LoginFault → String
  | .unknownService name => serviceFailed s!"Authentication with provider {name} not supported"
  | .retiredService name instead =>
    serviceFailed s!"The {name} auth plugin is not supported; use {instead.text} instead"
  | .noIdToken => serviceFailed "No id-token for oidc Authentication provider"
  | .badExpiry fault => s!"malformed token expiration date: {fault.message}"
  | .noCredentials =>
    serviceFailed "Enable oauth feature to use Google Application Credentials-based token source"
  | .tokenFile path fault =>
    "failed to read token file '" ++ Quoted.quotePath path ++ s!"': {fault.message}"
  | .noCommand => "command must be specified to use exec authentication plugin"
  | .program reason => reason

/-! ## Services -/

/-- What is used instead of the service `azure`. -/
def azureInstead : Address :=
  { scheme := some "https", authority := "github.com", path := "/Azure/kubelogin" }

/-- The least number of seconds for which a token that is kept has to be good. -/
def leastValidity : Nat := 60

namespace ServiceLogin

def keepsToken (s : ServiceLogin) (m : Machine) : Except LoginFault Bool :=
  match s.config.get? "access-token", s.config.get? "expiry" with
  | some _, some expiry =>
    match Instant.parse expiry with
    | .error fault => .error (.badExpiry fault)
    | .ok expiry => .ok ((m.now.later? leastValidity).any fun soon => decide (soon < expiry))
  | _, _ => .ok false

/-- Logs in at the service `gcp`: by a token, by one that is kept, or by a command. -/
def checkGcp (s : ServiceLogin) (m : Machine) : Except LoginFault Unit :=
  if s.config.contains "id-token" then .ok ()
  else do
    if ← s.keepsToken m then .ok ()
    else
      match s.config.get? "cmd-path" with
      | none => .error .noCredentials
      | some _ => (m.programs.service s).mapError .program

/-- Logs in at a service. -/
def check (s : ServiceLogin) (m : Machine) : Except LoginFault Unit :=
  if s.name = "oidc" then
    if s.config.contains "id-token" then .ok () else .error .noIdToken
  else if s.name = "gcp" then s.checkGcp m
  else if s.name = "azure" then .error (.retiredService s.name azureInstead)
  else .error (.unknownService s.name)

end ServiceLogin

/-! ## Logins -/

/-- Logs in by a command at a cluster, and hands over the certificate that comes of it, if any. -/
def CommandLogin.enter (c : CommandLogin) (m : Machine) (cluster : ClusterEntry) :
    Except LoginFault (Option (List UInt8)) :=
  match c.command with
  | none => .error .noCommand
  | some _ => (m.programs.command c cluster).mapError .program

namespace Login

/-- Logs in at a cluster, and hands over the certificate that comes of it, if any. A login that
names no way at all works. -/
def enter (l : Login) (m : Machine) (cluster : ClusterEntry) :
    Except LoginFault (Option (List UInt8)) :=
  match l.service with
  | some service => (service.check m).map fun _ => none
  | none =>
    if l.username.isSome && l.password.isSome || l.token.isSome then .ok none
    else
      match l.tokenPath with
      | some path =>
        match m.readText path with
        | .error fault => .error (.tokenFile path fault)
        | .ok _ => .ok none
      | none =>
        match l.command with
        | some command => command.enter m cluster
        | none => .ok none

/-- The certificate and its key, if both can be read; the key comes first. -/
def identity? (l : Login) (m : Machine) : Option (List UInt8) := do
  let certificate ← m.load? l.certificateData l.certificatePath
  let key ← m.load? l.keyData l.keyPath
  some (withLineEnd key ++ withLineEnd certificate)
where
  /-- Octets with a line feed at their end. -/
  withLineEnd (octets : List UInt8) : List UInt8 :=
    if octets.getLast? = some 10 then octets else octets ++ [10]

/-- Whether a text can be sent as a header: it has no control characters but tabs. -/
def isHeader (text : String) : Bool :=
  text.toList.all fun c => c = '\t' || (decide (32 ≤ c.toNat) && c.toNat != 127)

/-- Whether the users and groups in whose place requests are made can be sent. -/
def sendsHeaders (l : Login) : Bool :=
  (l.actsAs.toList ++ l.actsAsGroups).all isHeader

end Login

end TagSync
