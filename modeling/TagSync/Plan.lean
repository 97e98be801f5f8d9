import TagSync.Api.Answer
import TagSync.SyncError

/-!
# Plans

A `Plan` is what the program does as far as the clusters can see: it asks one cluster for one
call after the other and goes on according to the replies. A plan does not know the servers, so
a statement about all its runs is a statement about all behaviours of all servers. `Plan.Run`
says which exchanges and which result a run may have; `Plan.play` runs a plan against servers
that are given as a function on a state.
-/

set_option autoImplicit false

namespace TagSync

open Api

/-- Something to do that ends in a value. -/
inductive Plan (α : Type) : Type where
  /-- Nothing is left to ask. -/
  | done (result : α)
  /-- Ask a cluster, and go on with its reply. -/
  | ask (cluster : String) (call : Call) (next : call.Reply → Plan α)

namespace Plan

variable {α β γ : Type}

def bind : Plan α → (α → Plan β) → Plan β
  | .done a, f => f a
  | .ask cluster call next, f => .ask cluster call fun reply => (next reply).bind f

instance : Monad Plan where
  pure := .done
  bind := bind

@[simp] theorem done_bind (a : α) (f : α → Plan β) : (Plan.done a >>= f) = f a := rfl

@[simp] theorem ask_bind (cluster : String) (call : Call) (next : call.Reply → Plan α)
    (f : α → Plan β) :
    (Plan.ask cluster call next >>= f) = .ask cluster call fun reply => next reply >>= f := rfl

theorem bind_done (p : Plan α) : p.bind .done = p := by
  induction p with
  | done a => rfl
  | ask cluster call next ih => simp [bind, ih]

theorem bind_assoc (p : Plan α) (f : α → Plan β) (g : β → Plan γ) :
    (p.bind f).bind g = p.bind fun a => (f a).bind g := by
  induction p with
  | done a => rfl
  | ask cluster call next ih => simp [bind, ih]

instance : LawfulMonad Plan :=
  LawfulMonad.mk' Plan bind_done (fun _ _ => rfl) bind_assoc

/-! ## Runs -/

/-- A call to a cluster and its reply. -/
structure Exchange where
  cluster : String
  call : Call
  reply : call.Reply

/-- A plan may have these exchanges, in this order, and end in this result. -/
inductive Run : Plan α → List Exchange → α → Prop where
  /-- A finished plan has no exchange. -/
  | done (a : α) : Run (.done a) [] a
  /-- A plan that asks goes on with any reply. -/
  | ask {cluster : String} {call : Call} {next : call.Reply → Plan α} (reply : call.Reply)
      {rest : List Exchange} {a : α} :
      Run (next reply) rest a → Run (.ask cluster call next) (⟨cluster, call, reply⟩ :: rest) a

/-- Runs a plan against servers with a state. -/
def play {σ : Type} (serve : σ → String → (call : Call) → call.Reply × σ) :
    Plan α → σ → α × σ
  | .done a, s => (a, s)
  | .ask cluster call next, s =>
    let (reply, s) := serve s cluster call
    play serve (next reply) s

theorem exists_run_of_play {σ : Type} (serve : σ → String → (call : Call) → call.Reply × σ)
    (p : Plan α) (s : σ) : ∃ exchanges, Run p exchanges (p.play serve s).1 := by
  induction p generalizing s with
  | done a => exact ⟨[], .done a⟩
  | ask cluster call next ih =>
    obtain ⟨rest, h⟩ := ih (serve s cluster call).1 (serve s cluster call).2
    exact ⟨_, .ask _ h⟩

/-! ## Sending -/

/-- Sends a call. A request that cannot be sent fails without asking the cluster. -/
def send (cluster : String) (call : Call) : Plan call.Reply :=
  match call.request with
  | .error fault => .done (.error fault)
  | .ok _ => .ask cluster call .done

end Plan

/-! ## Tasks -/

abbrev Job (α : Type) : Type :=
  ExceptT SyncError Plan α

namespace Job

variable {α : Type}

/-- Sends a call, whose failure is not yet a failure of the task. -/
def send (cluster : String) (call : Call) : Job call.Reply :=
  ExceptT.lift (Plan.send cluster call)

def require (cluster : String) (call : Call) (failure : CallError → SyncError) :
    Job call.Result := do
  match ← send cluster call with
  | .ok result => pure result
  | .error cause => throw (failure cause)

def find? (cluster : String) (call : Call) (failure : CallError → SyncError) :
    Job (Option call.Result) := do
  match ← send cluster call with
  | .ok result => pure (some result)
  | .error cause => if cause.saysAbsent then pure none else throw (failure cause)

end Job

end TagSync
