import TagSync.Authentication
import TagSync.HostName
import TagSync.Identity
import TagSync.NameMap
import TagSync.Pem
import TagSync.Settings

/-!
# Clients of clusters

From the kubeconfig file to one client for each context that is to be used. The contexts are
tried in the order of the file, and the first that gives no client fails all of them. How a context
gives a client is up to a `Connector`; `Machine.connector` is the one of a machine.
-/

set_option autoImplicit false

namespace TagSync

/-! ## Connectors -/

/-- How clients are made out of kubeconfig files: a file and the name of a context give a
configuration, and this gives a client. Where there is none, the reason is given in words. -/
structure Connector (Config Client : Type) where
  config : Kubeconfig → String → Except String Config
  client : Config → Except String Client

/-- Why there are no clients. -/
inductive ClientsError where
  /-- The file cannot be read. -/
  | unreadable (path : String) (fault : FileFault)
  /-- The file is no kubeconfig. -/
  | malformed
  /-- A context gives no configuration. -/
  | noConfig (context reason : String)
  /-- The configuration of a context gives no client. -/
  | noClient (context reason : String)
  /-- No context is to be used. -/
  | noContexts
  deriving DecidableEq, Repr

/-- The text of an error. -/
def ClientsError.message (e : ClientsError) : String :=
  "Failed to parse kubeconfig: " ++
    match e with
    | .unreadable path fault => s!"Failed to read {path}: {fault.message}"
    | .malformed => "Failed to parse kubeconfig"
    | .noConfig context reason => s!"Failed to create config for context {context}: {reason}"
    | .noClient context reason => s!"Failed to create client for context {context}: {reason}"
    | .noContexts => "no usable contexts found in kubeconfig"

/-- The names of the contexts that are to be used, in the order of the file. -/
def Kubeconfig.wanted (k : Kubeconfig) (wants : String → Bool) : List String :=
  (k.contexts.map (·.name)).filter wants

namespace Connector

variable {Config Client : Type}

/-- The client of a context. -/
def make (connector : Connector Config Client) (k : Kubeconfig) (context : String) :
    Except ClientsError Client :=
  match connector.config k context with
  | .error reason => .error (.noConfig context reason)
  | .ok config =>
    match connector.client config with
    | .error reason => .error (.noClient context reason)
    | .ok client => .ok client

/-- The clients of contexts, in order, up to the first that gives none. -/
def makeEach (connector : Connector Config Client) (k : Kubeconfig) :
    List String → Except ClientsError (List (String × Client))
  | [] => .ok []
  | name :: names =>
    match connector.make k name with
    | .error e => .error e
    | .ok client =>
      match connector.makeEach k names with
      | .error e => .error e
      | .ok clients => .ok ((name, client) :: clients)

/-- The clients of all contexts that are to be used. -/
def clients (connector : Connector Config Client) (k : Kubeconfig) (wants : String → Bool) :
    Except ClientsError (NameMap Client) :=
  match k.wanted wants with
  | [] => .error .noContexts
  | name :: names => (connector.makeEach k (name :: names)).map .ofList

/-- The clients of all contexts that are to be used of a file on a machine. -/
def connect (connector : Connector Config Client) (m : Machine) (path : String)
    (wants : String → Bool) : Except ClientsError (NameMap Client) :=
  match m.readText path with
  | .error fault => .error (.unreadable path fault)
  | .ok text =>
    match Kubeconfig.parse? text with
    | none => .error .malformed
    | some k => connector.clients k wants

end Connector

/-! ## Configurations -/

/-- The access to a cluster. -/
structure Client where
  /-- The address of its server. -/
  address : Address
  /-- The namespace for everything that does not say its own. -/
  «namespace» : String
  deriving DecidableEq, Repr, Inhabited

/-- What a file says about a context. -/
structure ClientConfig where
  /-- The address of the cluster's server. -/
  address : Address
  /-- The namespace for everything that does not say its own. -/
  «namespace» : String
  /-- The certificates that the server may show. -/
  trusted : List (List UInt8)
  proxy : Option Address
  /-- How the user logs in. -/
  login : Login
  cluster : ClusterEntry

/-- Why a context gives no configuration. -/
inductive ConfigFault where
  /-- There is no such context, or nothing is said about it. -/
  | noContext (name : String)
  /-- There is no such cluster, or nothing is said about it. -/
  | noCluster (name : String)
  /-- The cluster has no address. -/
  | noServer
  /-- The cluster's address is not in order. -/
  | badServer (fault : AddressFault)
  /-- The certificates that are trusted cannot be read. -/
  | noAuthority
  /-- The certificates that are trusted are not in order. -/
  | badAuthority (fault : Pem.Fault)
  /-- The proxy's address is not in order. -/
  | badProxy (fault : AddressFault)
  deriving DecidableEq, Repr

/-- The text of a fault. -/
def ConfigFault.message : ConfigFault → String
  | .noContext name => s!"failed to load current context: {name}"
  | .noCluster name => s!"failed to load the cluster of context: {name}"
  | .noServer => "cluster url is missing on selected cluster"
  | .badServer fault => s!"failed to parse cluster url: {fault.message}"
  | .noAuthority => "failed to load certificate authority"
  | .badAuthority fault => s!"failed to parse PEM-encoded certificates: {fault.message}"
  | .badProxy fault => s!"failed to parse proxy url: {fault.message}"

/-- The octets of the certificates that a cluster's server may show; without any the choice is the
machine's. -/
def ClusterEntry.authority (c : ClusterEntry) (m : Machine) :
    Except ConfigFault (Option (List UInt8)) :=
  if c.authorityData.isNone && c.authorityPath.isNone then .ok none
  else
    match m.load? c.authorityData c.authorityPath with
    | none => .error .noAuthority
    | some octets => .ok (some octets)

/-- The certificates that a cluster's server may show. -/
def ClusterEntry.trusted (c : ClusterEntry) (m : Machine) :
    Except ConfigFault (List (List UInt8)) := do
  match ← c.authority m with
  | none => .ok []
  | some octets =>
    match Pem.certificates octets with
    | .error fault => .error (.badAuthority fault)
    | .ok certificates => .ok certificates

/-- The address of a cluster's server. -/
def ClusterEntry.address (c : ClusterEntry) : Except ConfigFault Address :=
  match c.server with
  | none => .error .noServer
  | some text =>
    match Address.parse text with
    | .error fault => .error (.badServer fault)
    | .ok address => .ok address

/-- The address of a cluster's proxy; an empty address is none. -/
def ClusterEntry.proxyAddress (c : ClusterEntry) : Except ConfigFault (Option Address) :=
  match c.proxy.filter (· != "") with
  | none => .ok none
  | some text =>
    match Address.parse text with
    | .error fault => .error (.badProxy fault)
    | .ok proxy => .ok (some proxy)

/-- What the file says about a context. -/
def Kubeconfig.config (k : Kubeconfig) (m : Machine) (name : String) :
    Except ConfigFault ClientConfig := do
  let context ← (k.context? name).elim (.error (.noContext name)) .ok
  let cluster ← (k.cluster? context.cluster).elim (.error (.noCluster context.cluster)) .ok
  let login := k.login context
  if login.command.any (·.wantsCluster) then
    let _ ← cluster.authority m
  let address ← cluster.address
  let trusted ← cluster.trusted m
  let proxy ← cluster.proxyAddress
  return {
    address, trusted, proxy, login, cluster
    «namespace» := context.namespace.getD "default" }

/-! ## Clients -/

/-- Why there is no safe connection to a server. -/
inductive SecurityFault where
  /-- A certificate that is to be trusted is none. -/
  | badAuthority
  /-- The client cannot show who it is. -/
  | badIdentity (fault : Identity.Fault)
  /-- The name for the server's certificate is no name of a host. -/
  | badServerName
  deriving DecidableEq, Repr

/-- The text of a fault. -/
def SecurityFault.message : SecurityFault → String
  | .badAuthority => "failed to add a root certificate: invalid peer certificate: BadEncoding"
  | .badIdentity fault => fault.message
  | .badServerName => "invalid server name: invalid dns name"

/-- Why a configuration gives no client. -/
inductive ClientFault where
  /-- Proxies of this kind are not built in; `feature` would be needed for them. -/
  | proxyNotBuiltIn (proxy : Address) (feature : String)
  /-- There are no proxies of this kind. -/
  | proxyNotSupported (proxy : Address)
  /-- The login fails. -/
  | badLogin (fault : LoginFault)
  /-- There is no safe connection. -/
  | badSecurity (fault : SecurityFault)
  /-- A user or a group in whose place requests are made cannot be sent. -/
  | badHeader
  deriving DecidableEq, Repr

/-- The text of a fault. -/
def ClientFault.message : ClientFault → String
  | .proxyNotBuiltIn proxy feature =>
    s!"configured proxy {proxy.text} requires the disabled feature \"{feature}\""
  | .proxyNotSupported proxy => s!"configured proxy {proxy.text} uses an unsupported protocol"
  | .badLogin fault => s!"auth error: {fault.message}"
  | .badSecurity fault => s!"rustls tls error: {fault.message}"
  | .badHeader => "HttpError: failed to parse header value"

/-- Checks that there is no proxy, as none is built in. -/
def checkProxy : Option Address → Except ClientFault Unit
  | none => .ok ()
  | some proxy =>
    match proxy.scheme with
    | some "http" => .error (.proxyNotBuiltIn proxy "kube/http-proxy")
    | some "socks5" => .error (.proxyNotBuiltIn proxy "kube/socks5")
    | _ => .error (.proxyNotSupported proxy)

/-- Checks what a safe connection needs: the certificates that are trusted, those that the client
shows, and the name that the server's certificate has to be for. -/
def checkSecurity (trusted : List (List UInt8)) (identity : Option (List UInt8))
    (serverName : Option String) : Except SecurityFault Unit :=
  if !trusted.all Der.isCertificate then .error .badAuthority
  else
    match identity.map Identity.check with
    | some (.error fault) => .error (.badIdentity fault)
    | _ => if serverName.all HostName.isValid then .ok () else .error .badServerName

/-- The client of a configuration. A certificate that the login hands out goes before the one that
the login names. -/
def ClientConfig.client (c : ClientConfig) (m : Machine) : Except ClientFault Client := do
  checkProxy c.proxy
  let handedOut ← (c.login.enter m c.cluster).mapError .badLogin
  let identity := handedOut.or (c.login.identity? m)
  (checkSecurity c.trusted identity c.cluster.serverName).mapError .badSecurity
  if c.login.sendsHeaders then .ok ⟨c.address, c.namespace⟩
  else .error .badHeader

/-- How clients are made on a machine. -/
def Machine.connector (m : Machine) : Connector ClientConfig Client where
  config k name := (k.config m name).mapError (·.message)
  client c := (c.client m).mapError (·.message)

/-- The clients of all contexts that are to be used of a file on a machine, which makes them. -/
def connect (m : Machine) (path : String) (wants : String → Bool) :
    Except ClientsError (NameMap Client) :=
  m.connector.connect m path wants

end TagSync
