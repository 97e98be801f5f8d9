import TagSync.Api.CallError
import TagSync.Api.Catalogue
import TagSync.ImageStreamImport
import TagSync.ImageStreamTag
import TagSync.Object.Namespace
import TagSync.Object.Secret

/-!
# Calls

A `Call` is one thing that can be asked of a cluster's API server. Each call has a type of
results, `Call.Result`, and is sent as one `Request`. `Call.request` is that request, or the
reason why it cannot be sent.
-/

set_option autoImplicit false

namespace TagSync.Api

open TagSync

/-! ## Calls and their results -/

/-- What can be asked of a server. -/
inductive Call where
  | getTag (namespaceName name : String)
  | getStream (namespaceName name : String)
  | createStream (namespaceName : String) (stream : ImageStream)
  /-- Replace the finalizers of a stream, as long as it has the given version. -/
  | setFinalizers (namespaceName name : String) (finalizers : List String)
      (version : Option String)
  /-- Set annotations of a stream. -/
  | setAnnotations (namespaceName name : String) (annotations : NameMap String)
  | deleteStream (namespaceName name : String)
  /-- Read a namespace. -/
  | getNamespace (name : String)
  | createNamespace (name : String)
  /-- Create or replace the secret with the credentials for pulling images. -/
  | applyPullSecret (namespaceName : String) (credentials : List UInt8)
  /-- Import images into a stream. -/
  | importImages (namespaceName : String) (request : ImageStreamImport)
  /-- List the groups of types. -/
  | listGroups
  /-- List the types of a version of a group. -/
  | listResources (groupVersion : String)
  deriving Inhabited

namespace Call

/-- What a call gives when it succeeds. -/
abbrev Result : Call → Type
  | .getTag _ _ => ImageStreamTag
  | .getStream _ _ => ImageStream
  | .createStream _ _ => ImageStream
  | .setFinalizers _ _ _ _ => ImageStream
  | .setAnnotations _ _ _ => ImageStream
  | .deleteStream _ _ => Unit
  | .getNamespace _ => Namespace
  | .createNamespace _ => Namespace
  | .applyPullSecret _ _ => Secret
  | .importImages _ _ => ImageStreamImport
  | .listGroups => GroupList
  | .listResources _ => ResourceList

abbrev Reply (call : Call) : Type :=
  Except CallError call.Result

end Call

/-! ## Requests -/

/-- What a request does. -/
inductive Method where
  | get
  | post
  | patch
  | delete
  deriving DecidableEq, Repr, Inhabited

def Method.name : Method → String
  | .get => "GET"
  | .post => "POST"
  | .patch => "PATCH"
  | .delete => "DELETE"

/-- A request as it is sent. -/
structure Request where
  method : Method
  /-- The target, with everything that is not sent of it. -/
  target : String
  /-- The notation of the body. -/
  contentType : Option String := none
  body : Option Json := none
  deriving Inhabited

namespace Request

def path (r : Request) : String :=
  String.ofList (Target.path r.target.toList)

def query (r : Request) : String :=
  String.ofList (Target.query r.target.toList)

end Request

/-! ## Objects that are sent -/

/-- The name of the secret with the credentials for pulling images. -/
def pullSecretName : String := "registry-pull-credentials"

/-- The key under which the secret keeps the credentials. -/
def pullSecretKey : String := ".dockerconfigjson"

def pullSecretType : String := "kubernetes.io/dockerconfigjson"

/-- The name under which this program writes fields of objects. -/
def fieldManager : String := "registry-syncer"

def pullSecret (namespaceName : String) (credentials : List UInt8) : Secret where
  metadata := { name := some pullSecretName, «namespace» := some namespaceName }
  data := some (.ofList [(pullSecretKey, credentials)])
  type := some pullSecretType

def requestedNamespace (name : String) : Namespace where
  metadata := {
    name := some name
    annotations := some (.ofList [("dptp.openshift.io/requester", "registry_syncer")]) }

/-- The change that replaces the finalizers of an object of a given version. -/
def finalizersPatch (finalizers : List String) (version : Option String) : Json :=
  .obj [("metadata", .obj [
    ("finalizers", .strings finalizers),
    ("resourceVersion", .ofString? version)])]

def annotationsPatch (annotations : NameMap String) : Json :=
  .obj [("metadata", .obj [("annotations", .ofMap .str annotations)])]

/-! ## Calls as requests -/

/-- The path of the objects of an image type in a namespace. -/
def imagePath (namespaceName plural : String) : String :=
  "/apis/image.openshift.io/v1/namespaces/" ++ namespaceName ++ "/" ++ plural

def namespacesPath : String := "/api/v1/namespaces"

namespace Call

/-- The name of the object that a call is about, for calls that need one. -/
def objectName? : Call → Option String
  | .getTag _ name => some name
  | .getStream _ name => some name
  | .setFinalizers _ name _ _ => some name
  | .setAnnotations _ name _ => some name
  | .deleteStream _ name => some name
  | .getNamespace name => some name
  | _ => none

/-- A change of some fields. -/
def mergePatch (target : String) (change : Json) : Request where
  method := .patch
  target := target ++ "?"
  contentType := some "application/merge-patch+json"
  body := some change

def creation (target : String) (object : Json) : Request where
  method := .post
  target := target ++ "?"
  contentType := some "application/json"
  body := some object

/-- The request of a call, whether or not it can be sent. -/
def draft : Call → Request
  | .getTag ns name => { method := .get, target := imagePath ns "imagestreamtags" ++ "/" ++ name }
  | .getStream ns name => { method := .get, target := imagePath ns "imagestreams" ++ "/" ++ name }
  | .createStream ns stream => creation (imagePath ns "imagestreams") stream.encode
  | .setFinalizers ns name finalizers version =>
    mergePatch (imagePath ns "imagestreams" ++ "/" ++ name) (finalizersPatch finalizers version)
  | .setAnnotations ns name annotations =>
    mergePatch (imagePath ns "imagestreams" ++ "/" ++ name) (annotationsPatch annotations)
  | .deleteStream ns name => {
      method := .delete
      target := imagePath ns "imagestreams" ++ "/" ++ name ++ "?"
      contentType := some "application/json"
      body := some (.obj []) }
  | .getNamespace name => { method := .get, target := namespacesPath ++ "/" ++ name }
  | .createNamespace name => creation namespacesPath (requestedNamespace name).encode
  | .applyPullSecret ns credentials => {
      method := .patch
      target := "/api/v1/namespaces/" ++ ns ++ "/secrets/" ++ pullSecretName ++
        "?&force=true&fieldManager=" ++ fieldManager
      contentType := some "application/apply-patch+yaml"
      body := some (pullSecret ns credentials).encode }
  | .importImages ns request => creation (imagePath ns "imagestreamimports") request.encode
  | .listGroups => { method := .get, target := "/apis" }
  | .listResources groupVersion => { method := .get, target := "/apis/" ++ groupVersion }

def targetError (call : Call) (fault : TargetFault) : CallError :=
  match call with
  | .listResources _ => .badAddress fault
  | _ => .notSent (.target fault)

/-- The request of a call, or why it cannot be sent: the object needs a name, and the target has
to be one that can be sent. -/
def request (call : Call) : Except CallError Request :=
  if call.objectName? = some "" then .error (.notSent .emptyName)
  else
    match Target.fault? call.draft.target with
    | some fault => .error (call.targetError fault)
    | none => .ok call.draft

/-- Whether a call only reads. -/
def isRead (call : Call) : Bool :=
  call.draft.method == .get

end Call

end TagSync.Api
