import TagSync.NameMap
import TagSync.Yaml.Record

/-!
# Kubeconfig files

A file that names clusters, users and contexts; a context joins a cluster, a user and a
namespace. `Kubeconfig.parse?` reads the file's text. Of what no client depends on only the form is
checked.
-/

set_option autoImplicit false

namespace TagSync

open Yaml (Fields Reading)

/-- Reads extensions, each with a name and a value, which is kept as JSON. -/
def readExtensions (v : Yaml) : Reading (List (String × String)) :=
  v.asList (Yaml.record ["name", "extension"] fun fs => do
    let name ← fs.required "name" Yaml.asString
    let value ← fs.required "extension" Yaml.asJson
    return (name, value))

/-! ## Clusters -/

/-- How a cluster's server is reached. -/
structure ClusterEntry where
  /-- The server's address. -/
  server : Option String := none
  /-- The address of a proxy. -/
  proxy : Option String := none
  /-- The path of the certificates that are trusted. -/
  authorityPath : Option String := none
  /-- The certificates that are trusted, in base64. -/
  authorityData : Option String := none
  /-- The name that the server's certificate has to be for. -/
  serverName : Option String := none
  /-- Whether the server's certificate does not matter. -/
  isInsecure : Option Bool := none
  /-- Whether answers are not to be compressed. -/
  isUncompressed : Option Bool := none
  /-- What other programs are told about the cluster. -/
  extensions : List (String × String) := []
  deriving DecidableEq, Repr, Inhabited

/-- Reads how a server is reached. -/
def ClusterEntry.decode : Yaml → Reading ClusterEntry :=
  Yaml.record ["server", "insecure-skip-tls-verify", "certificate-authority",
      "certificate-authority-data", "proxy-url", "disable-compression", "tls-server-name",
      "extensions"] fun fs => do
    let server ← fs.optional "server" Yaml.asString
    let isInsecure ← fs.optional "insecure-skip-tls-verify" Yaml.asBool
    let authorityPath ← fs.optional "certificate-authority" Yaml.asString
    let authorityData ← fs.optional "certificate-authority-data" Yaml.asString
    let proxy ← fs.optional "proxy-url" Yaml.asString
    let isUncompressed ← fs.optional "disable-compression" Yaml.asBool
    let serverName ← fs.optional "tls-server-name" Yaml.asString
    let extensions ← fs.optional "extensions" readExtensions
    return {
      server, proxy, authorityPath, authorityData, serverName, isInsecure, isUncompressed
      extensions := extensions.getD [] }

/-- A cluster of the file. -/
structure NamedCluster where
  name : String
  /-- How its server is reached. -/
  cluster : Option ClusterEntry := none
  deriving DecidableEq, Repr, Inhabited

/-- Reads a cluster. -/
def NamedCluster.decode : Yaml → Reading NamedCluster :=
  Yaml.record ["name", "cluster"] fun fs => do
    let name ← fs.required "name" Yaml.asString
    let cluster ← fs.optional "cluster" ClusterEntry.decode
    return { name, cluster }

/-! ## Users -/

/-- A login through another service. -/
structure ServiceLogin where
  /-- The kind of the service. -/
  name : String
  /-- What the service needs. -/
  config : NameMap String := ∅
  deriving DecidableEq, Inhabited

/-- Reads a login through another service. -/
def ServiceLogin.decode : Yaml → Reading ServiceLogin :=
  Yaml.recordWith ["name", "config"] 1 fun fs => do
    let name ← fs.required "name" Yaml.asString
    let config ← fs.orElse "config" [] Yaml.asStringMap
    return { name, config := .ofList config }

/-- A login through a command. -/
structure CommandLogin where
  command : Option String := none
  arguments : List String := []
  /-- The names and values of variables of the environment for it. -/
  environment : List (String × String) := []
  /-- Whether it is told about the cluster. -/
  wantsCluster : Bool := false
  /-- The form in which it answers. -/
  version : Option String := none
  /-- Whether it may ask the user for something. -/
  interaction : Option String := none
  deriving DecidableEq, Repr, Inhabited

/-- Reads a login through a command. A variable without a name or without a value is ignored. -/
def CommandLogin.decode : Yaml → Reading CommandLogin :=
  Yaml.recordWith ["apiVersion", "command", "args", "env", "interactiveMode",
      "provideClusterInfo"] 5 fun fs => do
    let version ← fs.optional "apiVersion" Yaml.asString
    let command ← fs.optional "command" Yaml.asString
    let arguments ← fs.list "args" Yaml.asString
    let records ← fs.list "env" Yaml.asStringMap
    let interaction ← fs.optional "interactiveMode" (Yaml.asWord ["Never", "IfAvailable", "Always"])
    let wantsCluster ← fs.orElse "provideClusterInfo" false Yaml.asBool
    let environment := records.filterMap fun entries => do
      let m := NameMap.ofList entries
      some (← m.get? "name", ← m.get? "value")
    return { command, arguments, environment, wantsCluster, version, interaction }

/-- How a user logs in. -/
structure Login where
  /-- The name for a login with a password. -/
  username : Option String := none
  password : Option String := none
  token : Option String := none
  tokenPath : Option String := none
  certificatePath : Option String := none
  /-- A certificate, in base64. -/
  certificateData : Option String := none
  /-- The path of the certificate's key. -/
  keyPath : Option String := none
  /-- The certificate's key, in base64. -/
  keyData : Option String := none
  /-- The user in whose place requests are made. -/
  actsAs : Option String := none
  /-- The groups in whose place requests are made. -/
  actsAsGroups : List String := []
  /-- A login through another service. -/
  service : Option ServiceLogin := none
  /-- A login through a command. -/
  command : Option CommandLogin := none
  deriving DecidableEq, Inhabited

/-- Reads how a user logs in. -/
def Login.decode : Yaml → Reading Login :=
  Yaml.record ["username", "password", "token", "tokenFile", "client-certificate",
      "client-certificate-data", "client-key", "client-key-data", "as", "as-groups",
      "auth-provider", "exec"] fun fs => do
    let username ← fs.optional "username" Yaml.asString
    let password ← fs.optional "password" Yaml.asString
    let token ← fs.optional "token" Yaml.asString
    let tokenPath ← fs.optional "tokenFile" Yaml.asString
    let certificatePath ← fs.optional "client-certificate" Yaml.asString
    let certificateData ← fs.optional "client-certificate-data" Yaml.asString
    let keyPath ← fs.optional "client-key" Yaml.asString
    let keyData ← fs.optional "client-key-data" Yaml.asString
    let actsAs ← fs.optional "as" Yaml.asString
    let actsAsGroups ← fs.list "as-groups" Yaml.asString
    let service ← fs.optional "auth-provider" ServiceLogin.decode
    let command ← fs.optional "exec" CommandLogin.decode
    return {
      username, password, token, tokenPath, certificatePath, certificateData, keyPath, keyData,
      actsAs, actsAsGroups, service, command }

/-- A user of the file. -/
structure NamedUser where
  name : String
  /-- How the user logs in. -/
  login : Option Login := none
  deriving DecidableEq, Inhabited

/-- Reads a user. -/
def NamedUser.decode : Yaml → Reading NamedUser :=
  Yaml.record ["name", "user"] fun fs => do
    let name ← fs.required "name" Yaml.asString
    let login ← fs.optional "user" Login.decode
    return { name, login }

/-! ## Contexts -/

/-- What a context joins. -/
structure ContextEntry where
  cluster : String
  user : Option String := none
  /-- The namespace for everything that does not say its own. -/
  «namespace» : Option String := none
  deriving DecidableEq, Repr, Inhabited

/-- Reads what a context joins. -/
def ContextEntry.decode : Yaml → Reading ContextEntry :=
  Yaml.record ["cluster", "user", "namespace", "extensions"] fun fs => do
    let cluster ← fs.required "cluster" Yaml.asString
    let user ← fs.optional "user" Yaml.asString
    let «namespace» ← fs.optional "namespace" Yaml.asString
    let _ ← fs.optional "extensions" readExtensions
    return { cluster, user, «namespace» }

/-- A context of the file. -/
structure NamedContext where
  name : String
  context : Option ContextEntry := none
  deriving DecidableEq, Repr, Inhabited

/-- Reads a context. -/
def NamedContext.decode : Yaml → Reading NamedContext :=
  Yaml.record ["name", "context"] fun fs => do
    let name ← fs.required "name" Yaml.asString
    let context ← fs.optional "context" ContextEntry.decode
    return { name, context }

/-! ## Files -/

/-- A kubeconfig file. -/
structure Kubeconfig where
  clusters : List NamedCluster := []
  users : List NamedUser := []
  contexts : List NamedContext := []
  deriving DecidableEq, Inhabited

namespace Kubeconfig

def checkPreferences : Yaml → Reading Unit :=
  Yaml.record ["colors", "extensions"] fun fs => do
    let _ ← fs.optional "colors" Yaml.asBool
    let _ ← fs.optional "extensions" readExtensions

/-- Reads a file. -/
def decode : Yaml → Reading Kubeconfig :=
  Yaml.record ["preferences", "clusters", "users", "contexts", "current-context", "extensions",
      "kind", "apiVersion"] fun fs => do
    let _ ← fs.optional "preferences" checkPreferences
    let clusters ← fs.list "clusters" NamedCluster.decode
    let users ← fs.list "users" NamedUser.decode
    let contexts ← fs.list "contexts" NamedContext.decode
    let _ ← fs.optional "current-context" Yaml.asString
    let _ ← fs.optional "extensions" readExtensions
    let _ ← fs.optional "kind" Yaml.asString
    let _ ← fs.optional "apiVersion" Yaml.asString
    return { clusters, users, contexts }

/-- Reads the text of a file. -/
def parse? (text : String) : Option Kubeconfig :=
  (Yaml.Document.read? text).bind fun d => d.decode? decode

def context? (k : Kubeconfig) (name : String) : Option ContextEntry :=
  (k.contexts.find? (·.name == name)).bind (·.context)

/-- How the server of the first cluster of a name is reached. -/
def cluster? (k : Kubeconfig) (name : String) : Option ClusterEntry :=
  (k.clusters.find? (·.name == name)).bind (·.cluster)

/-- How the user of a context logs in. A user who is not in the file does not log in at all, and
neither does one about whom nothing is said. -/
def login (k : Kubeconfig) (context : ContextEntry) : Login :=
  let found := context.user.bind fun name => k.users.find? (·.name == name)
  (found.bind (·.login)).getD {}

/-- The paths that the file names: of certificates, keys, tokens and commands. -/
def paths (k : Kubeconfig) : List String :=
  let ofCluster (c : ClusterEntry) := c.authorityPath.toList
  let ofLogin (l : Login) :=
    [l.tokenPath, l.certificatePath, l.keyPath, l.command.bind (·.command),
      l.service.bind (·.config.get? "cmd-path")].filterMap id
  (k.clusters.filterMap (·.cluster)).flatMap ofCluster ++
    (k.users.filterMap (·.login)).flatMap ofLogin

end Kubeconfig

end TagSync
