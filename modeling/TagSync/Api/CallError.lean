import TagSync.Api.Target
import TagSync.Text.Quoted
import TagSync.Text.Utf8

/-!
# Failed calls

Why a call to an API server has no result: the server answered with an error, its answer could
not be read, or the request was not sent at all. Two questions decide what a failure means: an
error whose *code* is 404 says "not found" (`isNotFound`), an error whose *reason* is `NotFound`
says "absent" (`saysAbsent`).
-/

set_option autoImplicit false

namespace TagSync.Api

open TagSync.Text

/-- An error that a server answered with. -/
structure ApiError where
  status : String
  /-- The error in words. -/
  message : String
  /-- The error in one word. -/
  reason : String
  /-- The code, as in HTTP. -/
  code : Nat
  deriving DecidableEq, Repr, Inhabited

/-- Why a request was not sent. -/
inductive RequestFault where
  /-- The object has no name. -/
  | emptyName
  /-- The target cannot be sent. -/
  | target (fault : TargetFault)
  deriving DecidableEq, Repr

def RequestFault.message : RequestFault → String
  | .emptyName => "failed to validate request: A non-empty name is required"
  | .target fault => s!"failed to build request: {fault.message}"

/-- Why a call has no result. -/
inductive CallError where
  /-- The server answered with an error. -/
  | api (error : ApiError)
  /-- The answer is no object of the expected type. -/
  | unreadable
  /-- The answer is no text. -/
  | notText (fault : Utf8Fault)
  | notSent (fault : RequestFault)
  /-- The address of a version of a group cannot be sent. -/
  | badAddress (fault : TargetFault)
  /-- The connection failed. -/
  | connection (text : String)
  /-- A group has no version. -/
  | emptyGroup (group : String)
  deriving DecidableEq, Repr

/-- The text of an error that a server answered with, followed by all that it said. -/
def ApiError.text (e : ApiError) : String :=
  let status := Quoted.quote e.status
  let message := Quoted.quote e.message
  let reason := Quoted.quote e.reason
  let all := s!"status: {status}, message: {message}, reason: {reason}, code: {e.code}"
  s!"ApiError: {e.message}: {e.reason} (ErrorResponse \x7b {all} \x7d)"

namespace CallError

def message : CallError → String
  | .api e => e.text
  | .unreadable => "Error deserializing response"
  | .notText fault => s!"UTF-8 Error: {fault.message}"
  | .notSent fault => s!"Failed to build request: {fault.message}"
  | .badAddress fault => s!"HttpError: {fault.message}"
  | .connection text => s!"ServiceError: {text}"
  | .emptyGroup group => s!"Error from discovery: Empty Api Group: {group}"

/-- Whether the server answered with the code of something not found. -/
def isNotFound : CallError → Bool
  | .api e => e.code == 404
  | _ => false

/-- Whether the server gave the absence of an object as its reason. -/
def saysAbsent : CallError → Bool
  | .api e => e.reason == "NotFound"
  | _ => false

end CallError

end TagSync.Api
