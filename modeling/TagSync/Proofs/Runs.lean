import TagSync.Plan

/-!
# Runs of plans and tasks

How the runs of a plan are put together from the runs of its parts. A run of one plan after the
other is a run of the first followed by a run of the second (`Plan.run_bind_iff`); a task that
fails ends the run (`Job.run_bind_iff`). `Plan.Only` says that a plan asks nothing but calls of a
given kind, whatever the servers answer; `Plan.EachAfter` says of the exchanges of a run that each
of them fits to the ones before it.
-/

set_option autoImplicit false

namespace TagSync

open Api

/-! ## Calls that can be sent -/

namespace Api.Call

/-- A call that can be sent as a request. -/
def Sendable (call : Call) : Prop := ∃ request, call.request = .ok request

/-- The failure of a call that cannot be sent neither says "not found" nor "absent". -/
theorem says_nothing_of_request {call : Call} {fault : CallError}
    (h : call.request = .error fault) : fault.isNotFound = false ∧ fault.saysAbsent = false := by
  have key : (∃ f, fault = .notSent f) ∨ ∃ f, fault = .badAddress f := by
    simp only [request] at h
    split at h
    · exact Or.inl ⟨_, (Except.error.inj h).symm⟩
    · split at h
      · have hf := (Except.error.inj h).symm
        cases call <;> simp only [targetError] at hf <;> simp [hf]
      · cases h
  rcases key with ⟨f, rfl⟩ | ⟨f, rfl⟩
  · exact ⟨rfl, rfl⟩
  · exact ⟨rfl, rfl⟩

end Api.Call

/-- The error of a server that refuses a call, with its reason and code. -/
def refusal (reason : String) (code : Nat) : CallError := .api ⟨"Failure", "", reason, code⟩

def notThere : CallError := refusal "NotFound" 404

/-! ## Plans -/

namespace Plan

variable {α β : Type}

@[simp] theorem run_done_iff {a b : α} {exchanges : List Exchange} :
    Run (.done a) exchanges b ↔ exchanges = [] ∧ b = a := by
  constructor
  · rintro ⟨⟩
    exact ⟨rfl, rfl⟩
  · rintro ⟨rfl, rfl⟩
    exact .done b

@[simp] theorem run_pure_iff {a b : α} {exchanges : List Exchange} :
    Run (pure a) exchanges b ↔ exchanges = [] ∧ b = a :=
  run_done_iff

theorem run_ask_iff {cluster : String} {call : Call} {next : call.Reply → Plan α}
    {exchanges : List Exchange} {a : α} :
    Run (.ask cluster call next) exchanges a ↔
      ∃ reply rest, exchanges = ⟨cluster, call, reply⟩ :: rest ∧ Run (next reply) rest a := by
  constructor
  · intro h
    cases h with
    | ask reply rest => exact ⟨reply, _, rfl, rest⟩
  · rintro ⟨reply, rest, rfl, h⟩
    exact .ask reply h

/-- A run of one plan after the other is a run of each. -/
theorem run_bind_iff {p : Plan α} {f : α → Plan β} {exchanges : List Exchange} {b : β} :
    Run (p >>= f) exchanges b ↔
      ∃ a first second, Run p first a ∧ Run (f a) second b ∧ exchanges = first ++ second := by
  induction p generalizing exchanges with
  | done a =>
      rw [done_bind]
      constructor
      · intro h
        exact ⟨a, [], exchanges, .done a, h, rfl⟩
      · rintro ⟨a', first, second, hfirst, hsecond, rfl⟩
        obtain ⟨rfl, rfl⟩ := run_done_iff.mp hfirst
        exact hsecond
  | ask cluster call next ih =>
      rw [ask_bind, run_ask_iff]
      constructor
      · rintro ⟨reply, rest, rfl, h⟩
        obtain ⟨a, first, second, hfirst, hsecond, rfl⟩ := (ih reply).mp h
        exact ⟨a, _, second, .ask reply hfirst, hsecond, rfl⟩
      · rintro ⟨a, first, second, hfirst, hsecond, rfl⟩
        obtain ⟨reply, rest, rfl, hrest⟩ := run_ask_iff.mp hfirst
        exact ⟨reply, _, rfl, (ih reply).mpr ⟨a, rest, second, hrest, hsecond, rfl⟩⟩

theorem run_send_iff {cluster : String} {call : Call} (h : call.Sendable)
    {exchanges : List Exchange} {reply : call.Reply} :
    Run (send cluster call) exchanges reply ↔ exchanges = [⟨cluster, call, reply⟩] := by
  obtain ⟨request, h⟩ := h
  simp only [send, h, run_ask_iff, run_done_iff]
  constructor
  · rintro ⟨reply', rest, rfl, rfl, rfl⟩
    rfl
  · rintro rfl
    exact ⟨reply, [], rfl, rfl, rfl⟩

theorem run_send_cases {cluster : String} {call : Call} {exchanges : List Exchange}
    {reply : call.Reply} (h : Run (send cluster call) exchanges reply) :
    exchanges = [⟨cluster, call, reply⟩] ∨
      exchanges = [] ∧ ∃ fault, call.request = .error fault ∧ reply = .error fault := by
  cases hr : call.request with
  | ok request => exact Or.inl ((run_send_iff ⟨request, hr⟩).mp h)
  | error fault =>
      simp only [send, hr, run_done_iff] at h
      exact Or.inr ⟨h.1, fault, rfl, h.2⟩

theorem run_send_ok {cluster : String} {call : Call} {exchanges : List Exchange}
    {result : call.Result} (h : Run (send cluster call) exchanges (.ok result)) :
    exchanges = [⟨cluster, call, .ok result⟩] := by
  rcases run_send_cases h with h | ⟨-, fault, -, h⟩
  · exact h
  · cases h

theorem run_send_missing {cluster : String} {call : Call} {exchanges : List Exchange}
    {cause : CallError} (h : Run (send cluster call) exchanges (.error cause))
    (missing : cause.isNotFound = true ∨ cause.saysAbsent = true) :
    exchanges = [⟨cluster, call, .error cause⟩] := by
  rcases run_send_cases h with h | ⟨-, fault, hr, h⟩
  · exact h
  · obtain rfl := Except.error.inj h
    simp [Call.says_nothing_of_request hr] at missing

/-! ## Runs against given servers -/

variable {σ : Type}

/-- The exchanges of a plan with servers that are given as a function on a state. -/
def exchangesWith (serve : σ → String → (call : Call) → call.Reply × σ) :
    Plan α → σ → List Exchange
  | .done _, _ => []
  | .ask cluster call next, s =>
    let answer := serve s cluster call
    ⟨cluster, call, answer.1⟩ :: (next answer.1).exchangesWith serve answer.2

theorem run_play (serve : σ → String → (call : Call) → call.Reply × σ) (p : Plan α) (s : σ) :
    Run p (p.exchangesWith serve s) (p.play serve s).1 := by
  induction p generalizing s with
  | done a => exact .done a
  | ask cluster call next ih => exact .ask _ (ih _ _)

theorem Run.unique {p : Plan α} {exchanges : List Exchange} {a b : α} (h : Run p exchanges a)
    (h' : Run p exchanges b) : a = b := by
  induction h with
  | done a =>
      cases h'
      rfl
  | ask reply _ ih =>
      cases h' with
      | ask _ hrest => exact ih hrest

/-! ## What a plan asks -/

/-- The plan asks nothing but calls that satisfy a condition, whatever the replies. -/
def Only (P : String → Call → Prop) (p : Plan α) : Prop :=
  ∀ ⦃exchanges : List Exchange⦄ ⦃a : α⦄, Run p exchanges a → ∀ e ∈ exchanges, P e.cluster e.call

theorem Only.pure (P : String → Call → Prop) (a : α) : Only P (Pure.pure a : Plan α) := by
  intro exchanges b h e he
  obtain ⟨rfl, -⟩ := run_pure_iff.mp h
  cases he

theorem Only.bind {P : String → Call → Prop} {p : Plan α} {f : α → Plan β} (hp : Only P p)
    (hf : ∀ a, Only P (f a)) : Only P (p >>= f) := by
  intro exchanges b h e he
  obtain ⟨a, first, second, hfirst, hsecond, rfl⟩ := run_bind_iff.mp h
  rcases List.mem_append.mp he with he | he
  · exact hp hfirst e he
  · exact hf a hsecond e he

theorem Only.send {P : String → Call → Prop} {cluster : String} {call : Call}
    (h : P cluster call) : Only P (Plan.send cluster call) := by
  intro exchanges reply hrun e he
  rcases run_send_cases hrun with rfl | ⟨rfl, -⟩
  · obtain rfl := List.mem_singleton.mp he
    exact h
  · cases he

/-! ## What came before -/

/-- Every exchange fits to the exchanges before it. -/
def EachAfter (P : List Exchange → Exchange → Prop) (exchanges : List Exchange) : Prop :=
  ∀ ⦃earlier : List Exchange⦄ ⦃e : Exchange⦄ ⦃later : List Exchange⦄,
    exchanges = earlier ++ e :: later → P earlier e

section EachAfter

variable {P Q : List Exchange → Exchange → Prop} {first second exchanges : List Exchange}

theorem EachAfter.of_forall (h : ∀ e ∈ exchanges, ∀ earlier, P earlier e) :
    EachAfter P exchanges := by
  rintro earlier e later rfl
  exact h e (by simp) earlier

theorem EachAfter.mono (h : EachAfter P exchanges)
    (hPQ : ∀ {earlier e}, P earlier e → Q earlier e) : EachAfter Q exchanges :=
  fun _ _ _ hsplit => hPQ (h hsplit)

/-- The exchanges of the second part come after all of the first one. -/
theorem EachAfter.append (hfirst : EachAfter P first)
    (hsecond : EachAfter (fun earlier => P (first ++ earlier)) second) :
    EachAfter P (first ++ second) := by
  intro earlier e later hsplit
  rcases List.append_eq_append_iff.mp hsplit with ⟨between, rfl, h⟩ | ⟨between, h, hlater⟩
  · exact hsecond h
  · cases between with
    | nil =>
        have hP : P (first ++ []) e := hsecond hlater.symm
        rwa [h, List.append_nil, List.append_nil] at hP
    | cons x between =>
        obtain ⟨rfl, -⟩ := List.cons.inj hlater
        exact hfirst h

end EachAfter

end Plan

/-! ## Tasks -/

namespace Job

open Plan (Exchange)

variable {α β : Type}

/-- A task may have these exchanges, in this order, and end in this way. -/
def Run (job : Job α) (exchanges : List Exchange) (outcome : Except SyncError α) : Prop :=
  Plan.Run (ExceptT.run job) exchanges outcome

@[simp] theorem run_pure_iff {a : α} {exchanges : List Exchange} {outcome : Except SyncError α} :
    Run (pure a) exchanges outcome ↔ exchanges = [] ∧ outcome = .ok a :=
  Plan.run_done_iff

@[simp] theorem run_throw_iff {e : SyncError} {exchanges : List Exchange}
    {outcome : Except SyncError α} :
    Run (throw e) exchanges outcome ↔ exchanges = [] ∧ outcome = .error e :=
  Plan.run_done_iff

theorem run_lift_bind_iff {p : Plan α} {f : α → Job β} {exchanges : List Exchange}
    {outcome : Except SyncError β} :
    Run (ExceptT.lift p >>= f) exchanges outcome ↔
      ∃ a first second, Plan.Run p first a ∧ Run (f a) second outcome ∧
        exchanges = first ++ second := by
  have h : ExceptT.run (ExceptT.lift p >>= f) = p >>= fun a => ExceptT.run (f a) := by
    simp [ExceptT.run_bind, ExceptT.run_lift]
  rw [Run, h, Plan.run_bind_iff]
  rfl

/-- A task after another one: it runs only if the first one succeeds. -/
theorem run_bind_iff {job : Job α} {f : α → Job β} {exchanges : List Exchange}
    {outcome : Except SyncError β} :
    Run (job >>= f) exchanges outcome ↔
      (∃ a first second, Run job first (.ok a) ∧ Run (f a) second outcome ∧
        exchanges = first ++ second) ∨
      ∃ e, Run job exchanges (.error e) ∧ outcome = .error e := by
  rw [Run, ExceptT.run_bind, Plan.run_bind_iff]
  constructor
  · rintro ⟨result, first, second, hfirst, hsecond, rfl⟩
    cases result with
    | ok a => exact Or.inl ⟨a, first, second, hfirst, hsecond, rfl⟩
    | error e =>
        obtain ⟨rfl, rfl⟩ := Plan.run_pure_iff.mp hsecond
        rw [List.append_nil]
        exact Or.inr ⟨e, hfirst, rfl⟩
  · rintro (⟨a, first, second, hfirst, hsecond, rfl⟩ | ⟨e, h, rfl⟩)
    · exact ⟨.ok a, first, second, hfirst, hsecond, rfl⟩
    · exact ⟨.error e, exchanges, [], h, Plan.run_pure_iff.mpr ⟨rfl, rfl⟩, by simp⟩

theorem run_send_bind_iff {cluster : String} {call : Call} {f : call.Reply → Job α}
    {exchanges : List Exchange} {outcome : Except SyncError α} :
    Run (send cluster call >>= f) exchanges outcome ↔
      ∃ reply first second, Plan.Run (Plan.send cluster call) first reply ∧
        Run (f reply) second outcome ∧ exchanges = first ++ second :=
  run_lift_bind_iff

/-- A call that has to succeed hands on its result, or its failure in the task's words. -/
theorem run_require_iff {cluster : String} {call : Call} {failure : CallError → SyncError}
    {exchanges : List Exchange} {outcome : Except SyncError call.Result} :
    Run (require cluster call failure) exchanges outcome ↔
      ∃ reply, Plan.Run (Plan.send cluster call) exchanges reply ∧
        outcome = reply.mapError failure := by
  rw [require, run_send_bind_iff]
  constructor
  · rintro ⟨reply, first, second, hfirst, hsecond, rfl⟩
    cases reply with
    | ok result =>
        obtain ⟨rfl, rfl⟩ := run_pure_iff.mp hsecond
        exact ⟨_, by simpa using hfirst, rfl⟩
    | error cause =>
        obtain ⟨rfl, rfl⟩ := run_throw_iff.mp hsecond
        exact ⟨_, by simpa using hfirst, rfl⟩
  · rintro ⟨reply, h, rfl⟩
    refine ⟨reply, exchanges, [], h, ?_, by simp⟩
    cases reply with
    | ok result => exact run_pure_iff.mpr ⟨rfl, rfl⟩
    | error cause => exact run_throw_iff.mpr ⟨rfl, rfl⟩

/-- A call that has to succeed and whose result does not matter. -/
theorem run_require_done_iff {cluster : String} {call : Call} {failure : CallError → SyncError}
    {exchanges : List Exchange} {outcome : Except SyncError Unit} :
    Run (do let _ ← require cluster call failure; pure ()) exchanges outcome ↔
      ∃ reply, Plan.Run (Plan.send cluster call) exchanges reply ∧
        outcome = (reply.mapError failure).map fun _ => () := by
  rw [run_bind_iff]
  constructor
  · rintro (⟨result, first, second, hfirst, hsecond, rfl⟩ | ⟨e, h, rfl⟩)
    · obtain ⟨rfl, rfl⟩ := run_pure_iff.mp hsecond
      obtain ⟨reply, hsend, hreply⟩ := run_require_iff.mp hfirst
      exact ⟨reply, by simpa using hsend, by rw [← hreply]; rfl⟩
    · obtain ⟨reply, hsend, hreply⟩ := run_require_iff.mp h
      exact ⟨reply, hsend, by rw [← hreply]; rfl⟩
  · rintro ⟨reply, hsend, rfl⟩
    cases reply with
    | ok result =>
        exact Or.inl ⟨result, exchanges, [], run_require_iff.mpr ⟨_, hsend, rfl⟩,
          run_pure_iff.mpr ⟨rfl, rfl⟩, by simp⟩
    | error cause => exact Or.inr ⟨_, run_require_iff.mpr ⟨_, hsend, rfl⟩, rfl⟩

def found {α : Type} (failure : CallError → SyncError) :
    Except CallError α → Except SyncError (Option α)
  | .ok result => .ok (some result)
  | .error cause => if cause.saysAbsent then .ok none else .error (failure cause)

theorem found_eq_some_iff {α : Type} {failure : CallError → SyncError}
    {reply : Except CallError α} {result : α} :
    found failure reply = .ok (some result) ↔ reply = .ok result := by
  cases reply with
  | ok a => simp [found]
  | error cause => by_cases h : cause.saysAbsent <;> simp [found, h]

/-- Looking for an object sends one call and judges its reply. -/
theorem find?_eq (cluster : String) (call : Call) (failure : CallError → SyncError) :
    find? cluster call failure =
      send cluster call >>= fun reply => ExceptT.mk (pure (found failure reply)) := by
  rw [find?]
  congr 1
  funext reply
  cases reply with
  | ok result => rfl
  | error cause =>
      by_cases h : cause.saysAbsent
      · simp only [found, if_pos h]
        rfl
      · simp only [found, if_neg h]
        rfl

theorem run_find?_iff {cluster : String} {call : Call} {failure : CallError → SyncError}
    {exchanges : List Exchange} {outcome : Except SyncError (Option call.Result)} :
    Run (find? cluster call failure) exchanges outcome ↔
      ∃ reply, Plan.Run (Plan.send cluster call) exchanges reply ∧
        outcome = found failure reply := by
  rw [find?_eq, run_send_bind_iff]
  constructor
  · rintro ⟨reply, first, second, hfirst, hsecond, rfl⟩
    obtain ⟨rfl, rfl⟩ := Plan.run_pure_iff.mp hsecond
    exact ⟨reply, by simpa using hfirst, rfl⟩
  · rintro ⟨reply, h, rfl⟩
    exact ⟨reply, exchanges, [], h, Plan.run_pure_iff.mpr ⟨rfl, rfl⟩, by simp⟩

/-! ## What a task asks -/

/-- The task asks nothing but calls that satisfy a condition, whatever the replies. -/
def Only (P : String → Call → Prop) (job : Job α) : Prop := Plan.Only P (ExceptT.run job)

section Only

variable {P : String → Call → Prop}

theorem Only.pure (P : String → Call → Prop) (a : α) : Only P (Pure.pure a : Job α) :=
  Plan.Only.pure P _

theorem Only.throw (P : String → Call → Prop) (e : SyncError) :
    Only P (MonadExcept.throw e : Job α) :=
  Plan.Only.pure P _

theorem Only.mono {Q : String → Call → Prop} {job : Job α} (h : Only P job)
    (hPQ : ∀ {cluster call}, P cluster call → Q cluster call) : Only Q job :=
  fun _ _ hrun e he => hPQ (h hrun e he)

theorem Only.bind {job : Job α} {f : α → Job β} (hjob : Only P job) (hf : ∀ a, Only P (f a)) :
    Only P (job >>= f) := by
  intro exchanges outcome h e he
  rcases run_bind_iff.mp h with ⟨a, first, second, hfirst, hsecond, rfl⟩ | ⟨e', h, -⟩
  · rcases List.mem_append.mp he with he | he
    · exact hjob hfirst e he
    · exact hf a hsecond e he
  · exact hjob h e he

theorem Only.send {cluster : String} {call : Call} (h : P cluster call) :
    Only P (Job.send cluster call) := by
  have key : ExceptT.run (Job.send cluster call) =
      Plan.send cluster call >>= fun reply => Pure.pure (.ok reply) := rfl
  rw [Only, key]
  exact (Plan.Only.send h).bind fun reply => Plan.Only.pure P _

theorem Only.lift_bind {p : Plan α} {f : α → Job β} (hp : Plan.Only P p)
    (hf : ∀ a, Only P (f a)) : Only P (ExceptT.lift p >>= f) := by
  intro exchanges outcome h e he
  obtain ⟨a, first, second, hfirst, hsecond, rfl⟩ := run_lift_bind_iff.mp h
  rcases List.mem_append.mp he with he | he
  · exact hp hfirst e he
  · exact hf a hsecond e he

theorem Only.require {cluster : String} {call : Call} {failure : CallError → SyncError}
    (h : P cluster call) : Only P (Job.require cluster call failure) := by
  intro exchanges outcome hrun e he
  obtain ⟨reply, hsend, -⟩ := run_require_iff.mp hrun
  exact Plan.Only.send h hsend e he

theorem Only.find? {cluster : String} {call : Call} {failure : CallError → SyncError}
    (h : P cluster call) : Only P (Job.find? cluster call failure) := by
  intro exchanges outcome hrun e he
  obtain ⟨reply, hsend, -⟩ := run_find?_iff.mp hrun
  exact Plan.Only.send h hsend e he

end Only

end Job

end TagSync
