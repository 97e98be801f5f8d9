import TagSync.Json.Writer
import TagSync.Plan

/-!
# Rehearsals

Servers for trying out plans. Each cluster answers from prepared answers, used one after the
other until the last one, which repeats. Where nothing is prepared, creations and changes are
answered with what was sent, and everything else is not found. The requests are recorded.
-/

set_option autoImplicit false

namespace TagSync

open Api TagSync.Text

/-- The prepared answers of a server, by method and path. -/
abbrev Script : Type :=
  NameMap (List Answer)

/-- The servers of a rehearsal. -/
structure Rehearsal where
  /-- The prepared answers of each cluster. -/
  scripts : NameMap Script := ∅
  /-- The requests so far with their clusters, last one first. -/
  log : List (String × Request) := []
  deriving Inhabited

namespace Rehearsal

/-- The body of an answer to a request for something that is not there. -/
def notFoundBody : String :=
  (Json.obj [
    ("kind", .str "Status"),
    ("apiVersion", .str "v1"),
    ("status", .str "Failure"),
    ("message", .str "resource \"unknown\" not found"),
    ("reason", .str "NotFound"),
    ("code", .nat 404)]).compress

def unprepared (r : Request) : Answer :=
  match r.method with
  | .post | .patch => .response 201 (Utf8.encode ((r.body.getD .null).compress))
  | .get | .delete => .response 404 (Utf8.encode notFoundBody)

def key (r : Request) : String :=
  r.method.name ++ " " ++ r.path

/-- A script's answer to a request, and the script that is left. -/
def answer (script : Script) (r : Request) : Answer × Script :=
  match script.get? (key r) with
  | some (a :: b :: rest) => (a, script.insert (key r) (b :: rest))
  | some [a] => (a, script)
  | _ => (unprepared r, script)

/-- Serves a call. -/
def serve (s : Rehearsal) (cluster : String) (call : Call) : call.Reply × Rehearsal :=
  match call.request with
  | .error fault => (.error fault, s)
  | .ok r =>
    let (a, script) := answer ((s.scripts.get? cluster).getD ∅) r
    (call.reply a, ⟨s.scripts.insert cluster script, (cluster, r) :: s.log⟩)

/-- Prepares answers of a cluster, in place of earlier ones for the same requests. -/
def prepare (s : Rehearsal) (cluster : String) (routes : List (String × List Answer)) : Rehearsal :=
  let script := (s.scripts.get? cluster).getD ∅
  let script := routes.foldl (fun script route => script.insert route.1 route.2) script
  { s with scripts := s.scripts.insert cluster script }

/-- Plays a plan; gives its result, its requests in order and the servers afterwards. -/
def play {α : Type} (s : Rehearsal) (p : Plan α) : α × List (String × Request) × Rehearsal :=
  let (a, s) := p.play serve { s with log := [] }
  (a, s.log.reverse, s)

end Rehearsal

end TagSync
