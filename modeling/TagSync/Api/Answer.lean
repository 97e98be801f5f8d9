import TagSync.Api.Call
import TagSync.Json.Reader

/-!
# Answers

What a server sends back, and what it means for a call. An answer with a code from 400 to 599 is
an error: its body says which, or else the code does. Any other answer has to be an object of the
type that the call is about.
-/

set_option autoImplicit false

namespace TagSync.Api

open TagSync TagSync.Text

/-- What comes back for a request. -/
inductive Answer where
  /-- The connection failed. -/
  | failed (text : String)
  | response (code : Nat) (body : List UInt8)
  deriving Inhabited

/-! ## Errors -/

def ApiError.decode? (v : Json) : Option ApiError := do
  let fs ← v.strict? ["status", "message", "reason", "code"]
  let status ← fs.required "status" Json.asString?
  let message ← fs.orElse "message" "" Json.asString?
  let reason ← fs.orElse "reason" "" Json.asString?
  let code ← fs.required "code" (Json.asNatBelow? 65536)
  some { status, message, reason, code }

def codeNames : List (Nat × String) := [
  (400, "Bad Request"),
  (401, "Unauthorized"),
  (402, "Payment Required"),
  (403, "Forbidden"),
  (404, "Not Found"),
  (405, "Method Not Allowed"),
  (406, "Not Acceptable"),
  (407, "Proxy Authentication Required"),
  (408, "Request Timeout"),
  (409, "Conflict"),
  (410, "Gone"),
  (411, "Length Required"),
  (412, "Precondition Failed"),
  (413, "Payload Too Large"),
  (414, "URI Too Long"),
  (415, "Unsupported Media Type"),
  (416, "Range Not Satisfiable"),
  (417, "Expectation Failed"),
  (418, "I'm a teapot"),
  (421, "Misdirected Request"),
  (422, "Unprocessable Entity"),
  (423, "Locked"),
  (424, "Failed Dependency"),
  (425, "Too Early"),
  (426, "Upgrade Required"),
  (428, "Precondition Required"),
  (429, "Too Many Requests"),
  (431, "Request Header Fields Too Large"),
  (451, "Unavailable For Legal Reasons"),
  (500, "Internal Server Error"),
  (501, "Not Implemented"),
  (502, "Bad Gateway"),
  (503, "Service Unavailable"),
  (504, "Gateway Timeout"),
  (505, "HTTP Version Not Supported"),
  (506, "Variant Also Negotiates"),
  (507, "Insufficient Storage"),
  (508, "Loop Detected"),
  (510, "Not Extended"),
  (511, "Network Authentication Required")]

def codeText (code : Nat) : String :=
  toString code ++ " " ++ (codeNames.lookup code).getD "<unknown status code>"

def ApiError.ofCode (code : Nat) (body : String) : ApiError where
  status := codeText code
  message := Quoted.quote body
  reason := "Failed to parse error data"
  code := code

def ApiError.ofBody (code : Nat) (body : String) : ApiError :=
  ((Json.read? body).bind ApiError.decode?).getD (.ofCode code body)

/-! ## Answers to deletions -/

/-- Whether a value is the outcome of a deletion: one of two words, also as the only field of an
object that is `null`. -/
def isOutcome : Json → Bool
  | .str s => s == "Success" || s == "Failure"
  | .obj [(name, .null)] => name == "Success" || name == "Failure"
  | _ => false

def passing? (test : Json → Bool) (v : Json) : Option Unit :=
  if test v then some () else none

/-- Whether a value is a cause in a status of a deletion. -/
def isDeletionCause (v : Json) : Bool :=
  Option.isSome do
    let fs ← v.strict? ["reason", "message", "field"]
    let _ ← fs.orElse "reason" "" Json.asString?
    let _ ← fs.orElse "message" "" Json.asString?
    fs.orElse "field" "" Json.asString?

/-- Whether a value holds the details in a status of a deletion. -/
def isDeletionDetails (v : Json) : Bool :=
  Option.isSome do
    let fs ← v.strict? ["name", "group", "kind", "uid", "causes", "retryAfterSeconds"]
    let _ ← fs.orElse "name" "" Json.asString?
    let _ ← fs.orElse "group" "" Json.asString?
    let _ ← fs.orElse "kind" "" Json.asString?
    let _ ← fs.orElse "uid" "" Json.asString?
    let _ ← fs.orElse "causes" [] (Json.asList? (passing? isDeletionCause))
    fs.orElse "retryAfterSeconds" 0 (Json.asNatBelow? (bitValues 32))

/-- Whether a value is a status as a deletion may be answered with. -/
def isDeletionStatus (v : Json) : Bool :=
  Option.isSome do
    let fs ← v.strict? ["status", "code", "message", "reason", "details"]
    let _ ← fs.optional "status" (passing? isOutcome)
    let _ ← fs.orElse "code" 0 (Json.asNatBelow? 65536)
    let _ ← fs.orElse "message" "" Json.asString?
    let _ ← fs.orElse "reason" "" Json.asString?
    fs.optional "details" (passing? isDeletionDetails)

/-- Reads the answer to a deletion: a status, if it says that it is one, or else the deleted
stream. The text as a whole has to be in range. -/
def readDeletion? (v : Json) : Option Unit := do
  let settled ← v.settle? nestingLimit
  match settled.field? "kind" with
  | some (.str "Status") => passing? isDeletionStatus v
  | _ => (ImageStream.decode? v).map fun _ => ()

/-! ## Replies -/

/-- Reads the object that a call gives. -/
def Call.read? : (call : Call) → Json → Option call.Result
  | .getTag _ _, v => ImageStreamTag.decode? v
  | .getStream _ _, v => ImageStream.decode? v
  | .createStream _ _, v => ImageStream.decode? v
  | .setFinalizers _ _ _ _, v => ImageStream.decode? v
  | .setAnnotations _ _ _, v => ImageStream.decode? v
  | .deleteStream _ _, v => readDeletion? v
  | .getNamespace _, v => Namespace.decode? v
  | .createNamespace _, v => Namespace.decode? v
  | .applyPullSecret _ _, v => Secret.decode? v
  | .importImages _ _, v => ImageStreamImport.decode? v
  | .listGroups, v => GroupList.decode? v
  | .listResources _, v => ResourceList.decode? v

def Call.reply (call : Call) : Answer → call.Reply
  | .failed text => .error (.connection text)
  | .response code body =>
    match Utf8.decode body with
    | .error fault => .error (.notText fault)
    | .ok text =>
      if 400 ≤ code ∧ code < 600 then .error (.api (.ofBody code text))
      else
        match (Json.read? text).bind call.read? with
        | none => .error .unreadable
        | some result => .ok result

end TagSync.Api
