import TagSync.Proofs.Deletion

/-!
# What is taken for absent

An object that is looked for or deleted may be absent. Some steps tell so by the code of the
server's error, the others by its reason (`Lookup.byCode`). `absence_is_one_iff` says which error
answers all of them understand alike: one whose body says an error has to have the code 404 exactly
if it has the reason `NotFound`, and one whose body says no error must not have the code 404.
-/

set_option autoImplicit false

namespace TagSync

open Api

/-! ## Answers that are errors -/

/-- The failure that an error answer means for every call. -/
def answerFailure (code : Nat) (body : List UInt8) : CallError :=
  match Text.Utf8.decode body with
  | .error fault => .notText fault
  | .ok text => .api (.ofBody code text)

/-- The error that a body says, if it is one. -/
def saidError? (body : List UInt8) : Option ApiError :=
  (Text.Utf8.decode body).toOption.bind fun text => (Json.read? text).bind ApiError.decode?

theorem Api.Call.reply_error (call : Call) {code : Nat} (body : List UInt8)
    (h : 400 ≤ code ∧ code < 600) :
    call.reply (.response code body) = .error (answerFailure code body) := by
  rw [Call.reply, answerFailure]
  cases Text.Utf8.decode body with
  | error fault => rfl
  | ok text => simp only [if_pos h]

section Failure

variable {code : Nat} {body : List UInt8}

theorem answerFailure_of_said {e : ApiError} (h : saidError? body = some e) :
    answerFailure code body = .api e := by
  rw [saidError?] at h
  rw [answerFailure]
  cases hd : Text.Utf8.decode body with
  | error fault =>
      rw [hd] at h
      cases h
  | ok text =>
      rw [hd] at h
      have hread : (Json.read? text).bind ApiError.decode? = some e := h
      simp only [ApiError.ofBody, hread, Option.getD_some]

/-- Without one, the code of the answer decides, unless the body is no text. -/
theorem answerFailure_of_unsaid (h : saidError? body = none) :
    (answerFailure code body).saysAbsent = false ∧
      ((answerFailure code body).isNotFound = true ↔
        code = 404 ∧ (Text.Utf8.decode body).toOption ≠ none) := by
  rw [saidError?] at h
  rw [answerFailure]
  cases hd : Text.Utf8.decode body with
  | error fault => exact ⟨rfl, nofun, fun hcode => absurd rfl hcode.2⟩
  | ok text =>
      rw [hd] at h
      have hread : (Json.read? text).bind ApiError.decode? = none := h
      simp [ApiError.ofBody, hread, ApiError.ofCode, CallError.saysAbsent, CallError.isNotFound,
        Except.toOption]

end Failure

/-! ## Steps that may find an object absent -/

/-- What is left of a plan once its first question has been answered. -/
def Plan.answered {α : Type} : Plan α → Answer → Plan α
  | .done a, _ => .done a
  | .ask _ call next, answer => next (call.reply answer)

/-- A step whose first call is about an object that may be absent. -/
inductive Lookup where
  /-- A cluster is asked for a tag, and others after it. -/
  | observing (ns name cluster : String) (others : List String)
  /-- A cluster is asked to delete a stream, and others after it. -/
  | deleting (ns name cluster : String) (others : List String)
  /-- A cluster is asked for a namespace. -/
  | providingNamespace (cluster name : String)
  /-- A cluster is asked for its copy of a stream. -/
  | providingStream (cluster : String) (source : ImageStream)
  /-- A cluster is asked for the stream that is to be released. -/
  | releasing (cluster : String) (stream : ImageStream)

namespace Lookup

def call : Lookup → Call
  | .observing ns name _ _ => .getTag ns name
  | .deleting ns name _ _ => .deleteStream ns name
  | .providingNamespace _ name => .getNamespace name
  | .providingStream _ source => .getStream source.namespaceName source.name
  | .releasing _ stream => .getStream stream.namespaceName stream.name

/-- Whether a step goes by the code of an error, and not by its reason. -/
def byCode : Lookup → Bool
  | .observing _ _ _ _ | .deleting _ _ _ _ | .providingNamespace _ _ => true
  | .providingStream _ _ | .releasing _ _ => false

/-- A step takes an answer to its first call for the absence of the object: the cluster is left out
or passed over, the namespace or the stream is created next, or nothing is left to release. -/
def TakesForAbsence : Lookup → Answer → Prop
  | .observing ns name cluster others, answer =>
    (observe ns name (cluster :: others)).run.answered answer = (observe ns name others).run
  | .deleting ns name cluster others, answer =>
    (deleteOn ns name (cluster :: others)).run.answered answer = (deleteOn ns name others).run
  | .providingNamespace cluster name, answer =>
    ∃ next, (provideNamespace cluster name).run.answered answer =
      .ask cluster (.createNamespace name) next
  | .providingStream cluster source, answer =>
    ∃ next, (provideStream cluster source).run.answered answer =
      .ask cluster (.createStream source.namespaceName source.copy) next
  | .releasing cluster stream, answer =>
    (release cluster stream).run.answered answer = .done (.ok ())

end Lookup

/-! ## What each step does with a failure -/

namespace Job

variable {α : Type} {call : Call}

theorem run_send_bind {cluster : String} (h : call.Sendable) (f : call.Reply → Job α) :
    ExceptT.run (send cluster call >>= f) = .ask cluster call fun reply => (f reply).run := by
  obtain ⟨request, hrequest⟩ := h
  have hsend : Plan.send cluster call = .ask cluster call .done := by
    simp only [Plan.send, hrequest]
  rw [send, ExceptT.run_bind, ExceptT.run_lift, hsend]
  rfl

theorem exists_run_require_bind (cluster : String) (h : call.Sendable)
    (failure : CallError → SyncError) (f : call.Result → Job α) :
    ∃ next, ExceptT.run (require cluster call failure >>= f) = .ask cluster call next := by
  rw [require, bind_assoc, run_send_bind h]
  exact ⟨_, rfl⟩

end Job

namespace Api

theorem Target.fitsQuery_concat_mark {cs : List Char} (h : fitsQuery cs = true) :
    fitsQuery (cs ++ ['?']) = true := by
  induction cs with
  | nil => rfl
  | cons c cs ih =>
      simp only [List.cons_append, fitsQuery, Bool.or_eq_true, Bool.and_eq_true] at h ⊢
      exact h.imp_right (And.imp_right ih)

theorem Target.fitsPath_concat_mark {cs : List Char} (h : fitsPath cs = true) :
    fitsPath (cs ++ ['?']) = true := by
  induction cs with
  | nil => rfl
  | cons c cs ih =>
      simp only [List.cons_append, fitsPath, Bool.or_eq_true] at h ⊢
      refine h.imp_right fun h => ?_
      split
      · next hmark => exact fitsQuery_concat_mark (by rwa [if_pos hmark] at h)
      · next hmark =>
        rw [if_neg hmark, Bool.and_eq_true] at h
        rw [Bool.and_eq_true]
        exact h.imp_right ih

/-- Who can be asked for a stream can also be asked to create it. -/
theorem Call.sendable_createStream {ns name : String} (h : (Call.getStream ns name).Sendable)
    (stream : ImageStream) : (Call.createStream ns stream).Sendable := by
  obtain ⟨hsize, hfits⟩ := Target.fault?_eq_none_iff.mp (sendable_iff.mp h).2
  have hget : (getStream ns name).draft.target = imagePath ns "imagestreams" ++ ("/" ++ name) := by
    rw [← String.append_assoc]
    rfl
  have hcreate : (createStream ns stream).draft.target = imagePath ns "imagestreams" ++ "?" := rfl
  -- The target of the creation is that of the look, cut off behind the plural.
  have hmark : "?".toList = ['?'] := rfl
  rw [hget] at hsize hfits
  refine sendable_iff.mpr ⟨nofun, Target.fault?_eq_none_iff.mpr ?_⟩
  rw [hcreate]
  constructor
  · have hone : "?".utf8ByteSize = "/".utf8ByteSize := rfl
    simp only [String.utf8ByteSize_append] at hsize ⊢
    omega
  · rw [String.toList_append] at hfits ⊢
    rw [hmark]
    exact Target.fitsPath_concat_mark (Target.fitsPath_of_append hfits)

theorem Call.sendable_createNamespace (name : String) : (Call.createNamespace name).Sendable :=
  sendable_iff.mpr ⟨nofun, (by decide : Target.fault? (namespacesPath ++ "?") = none)⟩

end Api

/-! ## What a failure leaves to do -/

section Failing

variable {cause : CallError} {answer : Answer} {ns name : String} (cluster : String)

theorem answered_observe (asked : (Call.getTag ns name).Sendable)
    (hreply : (Call.getTag ns name).reply answer = .error cause) (others : List String) :
    (observe ns name (cluster :: others)).run.answered answer =
      if cause.isNotFound then (observe ns name others).run
      else .done (.error (.getTag ns name cluster cause)) := by
  rw [observe, Job.run_send_bind asked, Plan.answered, hreply]
  cases hc : cause.isNotFound with
  | true => simp only [hc, if_true]
  | false =>
      simp only [hc, Bool.false_eq_true, if_false]
      rfl

theorem answered_deleteOn (asked : (Call.deleteStream ns name).Sendable)
    (hreply : (Call.deleteStream ns name).reply answer = .error cause) (others : List String) :
    (deleteOn ns name (cluster :: others)).run.answered answer =
      if cause.isNotFound then (deleteOn ns name others).run
      else .done (.error (.write (.deletion ns name) cluster cause)) := by
  rw [deleteOn, Job.run_send_bind asked, Plan.answered, hreply]
  cases hc : cause.isNotFound with
  | true => simp only [hc, if_true]
  | false =>
      simp only [hc, Bool.false_eq_true, if_false]
      rfl

/-- A namespace that is not there is created. -/
theorem answered_provideNamespace (asked : (Call.getNamespace name).Sendable)
    (hreply : (Call.getNamespace name).reply answer = .error cause) :
    ∃ next, (provideNamespace cluster name).run.answered answer =
      if cause.isNotFound then .ask cluster (.createNamespace name) next
      else .done (.error (.namespaceStep .check name cluster cause)) := by
  rw [provideNamespace, Job.run_send_bind asked, Plan.answered, hreply]
  obtain ⟨next, hnext⟩ := Job.exists_run_require_bind cluster
    (Call.sendable_createNamespace name) (.namespaceStep .create name cluster)
    fun _ => (pure () : Job Unit)
  refine ⟨next, ?_⟩
  cases hc : cause.isNotFound with
  | true =>
      simp only [hc, if_true]
      exact hnext
  | false =>
      simp only [hc, Bool.false_eq_true, if_false]
      rfl

/-- A stream that is not there is created. -/
theorem answered_provideStream {source : ImageStream}
    (asked : (Call.getStream source.namespaceName source.name).Sendable)
    (hreply : (Call.getStream source.namespaceName source.name).reply answer = .error cause) :
    ∃ next, (provideStream cluster source).run.answered answer =
      if cause.saysAbsent then .ask cluster (.createStream source.namespaceName source.copy) next
      else .done (.error (.getStream source.namespaceName source.name cluster cause)) := by
  rw [provideStream, Job.find?_eq, bind_assoc, Job.run_send_bind asked, Plan.answered, hreply]
  obtain ⟨next, hnext⟩ := Job.exists_run_require_bind cluster
    (Call.sendable_createStream asked source.copy)
    (.write (.creation source.namespaceName source.name) cluster) fun _ => (pure () : Job Unit)
  refine ⟨next, ?_⟩
  -- Only an answer that says so leads on to the creation.
  cases hc : cause.saysAbsent with
  | true =>
      simp only [Job.found, hc, if_true]
      exact hnext
  | false =>
      simp only [Job.found, hc, Bool.false_eq_true, if_false]
      rfl

/-- A stream that is not there is not released. -/
theorem answered_release {stream : ImageStream}
    (asked : (Call.getStream stream.namespaceName stream.name).Sendable)
    (hreply : (Call.getStream stream.namespaceName stream.name).reply answer = .error cause) :
    (release cluster stream).run.answered answer =
      if cause.saysAbsent then .done (.ok ())
      else .done (.error (.getStream stream.namespaceName stream.name cluster cause)) := by
  rw [release, Job.find?_eq, bind_assoc, Job.run_send_bind asked, Plan.answered, hreply]
  cases hc : cause.saysAbsent with
  | true =>
      simp only [Job.found, hc, if_true]
      rfl
  | false =>
      simp only [Job.found, hc, Bool.false_eq_true, if_false]
      rfl

theorem run_observe_ne_done (asked : (Call.getTag ns name).Sendable) (others : List String)
    (e : SyncError) : (observe ns name others).run ≠ .done (.error e) := by
  intro h
  cases others with
  | nil => cases h
  | cons other others =>
      rw [observe, Job.run_send_bind asked] at h
      cases h

theorem run_deleteOn_ne_done (asked : (Call.deleteStream ns name).Sendable)
    (others : List String) (e : SyncError) : (deleteOn ns name others).run ≠ .done (.error e) := by
  intro h
  cases others with
  | nil => cases h
  | cons other others =>
      rw [deleteOn, Job.run_send_bind asked] at h
      cases h

end Failing

namespace Lookup

def accepts (l : Lookup) (cause : CallError) : Bool :=
  if l.byCode then cause.isNotFound else cause.saysAbsent

/-- A step takes an error answer for absence exactly if it accepts the failure. -/
theorem takesForAbsence_iff {l : Lookup} (asked : l.call.Sendable) {code : Nat}
    {body : List UInt8} (h : 400 ≤ code ∧ code < 600) :
    l.TakesForAbsence (.response code body) ↔ l.accepts (answerFailure code body) = true := by
  have hreply (call : Call) : call.reply (.response code body) = .error (answerFailure code body) :=
    call.reply_error body h
  generalize answerFailure code body = cause at hreply
  -- Each look-up goes on as if nothing were there, or it ends in a failure.
  cases l with
  | observing ns name cluster others =>
      show _ = _ ↔ cause.isNotFound = true
      rw [answered_observe cluster asked (hreply _)]
      split
      · next hc => exact iff_of_true rfl hc
      · next hc => exact iff_of_false (run_observe_ne_done asked others _).symm hc
  | deleting ns name cluster others =>
      show _ = _ ↔ cause.isNotFound = true
      rw [answered_deleteOn cluster asked (hreply _)]
      split
      · next hc => exact iff_of_true rfl hc
      · next hc => exact iff_of_false (run_deleteOn_ne_done asked others _).symm hc
  | providingNamespace cluster name =>
      show (∃ next, _ = _) ↔ cause.isNotFound = true
      obtain ⟨next, hnext⟩ := answered_provideNamespace cluster asked (hreply _)
      rw [hnext]
      split
      · next hc => exact iff_of_true ⟨next, rfl⟩ hc
      · next hc => exact iff_of_false (by rintro ⟨_, ⟨⟩⟩) hc
  | providingStream cluster source =>
      show (∃ next, _ = _) ↔ cause.saysAbsent = true
      obtain ⟨next, hnext⟩ := answered_provideStream cluster asked (hreply _)
      rw [hnext]
      split
      · next hc => exact iff_of_true ⟨next, rfl⟩ hc
      · next hc => exact iff_of_false (by rintro ⟨_, ⟨⟩⟩) hc
  | releasing cluster stream =>
      show _ = _ ↔ cause.saysAbsent = true
      rw [answered_release cluster asked (hreply _)]
      split
      · next hc => exact iff_of_true rfl hc
      · next hc => exact iff_of_false nofun hc

/-- What a step takes for absence: an error in the body by its code or by its reason, whichever the
step goes by; without one a text with the code 404, if the step goes by the code. -/
theorem takesForAbsence_iff_said {l : Lookup} (asked : l.call.Sendable) {code : Nat}
    (h : 400 ≤ code ∧ code < 600) (body : List UInt8) :
    l.TakesForAbsence (.response code body) ↔
      match saidError? body with
      | some e => if l.byCode then e.code = 404 else e.reason = "NotFound"
      | none => l.byCode = true ∧ code = 404 ∧ (Text.Utf8.decode body).toOption ≠ none := by
  rw [takesForAbsence_iff asked h, accepts]
  cases hsaid : saidError? body with
  | some e =>
      rw [answerFailure_of_said hsaid]
      cases l.byCode <;> simp [CallError.isNotFound, CallError.saysAbsent]
  | none =>
      obtain ⟨hreason, hcode⟩ := @answerFailure_of_unsaid code body hsaid
      cases l.byCode with
      | true => simpa using hcode
      | false => simp [hreason]

end Lookup

/-- **When absence means the same everywhere.** Of an error answer that says an error in its body,
each step takes it for absence exactly if that error has the code 404 or the reason `NotFound`,
whichever the step goes by; of any other one, exactly if the step goes by the code, the answer has
the code 404 and its body is a text. So the steps agree on an answer if and only if the error that
it says has both or neither, or it says none and is no text with the code 404. -/
theorem absence_is_one_iff {code : Nat} {body : List UInt8} (h : 400 ≤ code ∧ code < 600) :
    (∀ l : Lookup, l.call.Sendable → (l.TakesForAbsence (.response code body) ↔
      match saidError? body with
      | some e => if l.byCode then e.code = 404 else e.reason = "NotFound"
      | none => l.byCode = true ∧ code = 404 ∧ (Text.Utf8.decode body).toOption ≠ none)) ∧
    ((∀ l l' : Lookup, l.call.Sendable → l'.call.Sendable →
      (l.TakesForAbsence (.response code body) ↔ l'.TakesForAbsence (.response code body))) ↔
      match saidError? body with
      | some e => e.code = 404 ↔ e.reason = "NotFound"
      | none => ¬ (code = 404 ∧ (Text.Utf8.decode body).toOption ≠ none)) := by
  refine ⟨fun l asked => l.takesForAbsence_iff_said asked h body, ?_⟩
  -- One step of each kind that can be asked by every cluster.
  let looking : Lookup := .observing "ci" "app:latest" "api.ci" []
  let copying : Lookup := .providingStream "api.ci" { metadata := { name := some "app" } }
  have hlooking : looking.call.Sendable := Call.sendable_iff.mpr (by decide)
  have hcopying : copying.call.Sendable := Call.sendable_iff.mpr (by decide)
  have hcode := looking.takesForAbsence_iff_said hlooking h body
  have hreason := copying.takesForAbsence_iff_said hcopying h body
  constructor
  · intro hall
    have hone := hcode.symm.trans ((hall looking copying hlooking hcopying).trans hreason)
    cases hsaid : saidError? body with
    | some e =>
        rw [hsaid] at hone
        simpa [looking, copying, Lookup.byCode] using hone
    | none =>
        rw [hsaid] at hone
        simpa [looking, copying, Lookup.byCode] using hone
  · intro hone l l' asked asked'
    rw [l.takesForAbsence_iff_said asked h, l'.takesForAbsence_iff_said asked' h]
    cases hsaid : saidError? body with
    | some e =>
        rw [hsaid] at hone
        cases l.byCode <;> cases l'.byCode <;> simp [hone]
    | none =>
        rw [hsaid] at hone
        simp [hone]

/-! ### Two answers -/

def octetsOf (text : String) : List UInt8 := text.toList.map fun c => UInt8.ofNat c.toNat

/-- The body with which the API says that it does not have an object. -/
def notFoundStatus : String :=
  "\x7b\"status\":\"Failure\",\"reason\":\"NotFound\",\"code\":404\x7d"

theorem not_found_status_is_absence :
    (400 ≤ 404 ∧ 404 < 600) ∧
      saidError? (octetsOf notFoundStatus) = some ⟨"Failure", "", "NotFound", 404⟩ ∧
      ∀ l l' : Lookup, l.call.Sendable → l'.call.Sendable →
        (l.TakesForAbsence (.response 404 (octetsOf notFoundStatus)) ↔
          l'.TakesForAbsence (.response 404 (octetsOf notFoundStatus))) := by
  have hsaid : saidError? (octetsOf notFoundStatus) = some ⟨"Failure", "", "NotFound", 404⟩ := rfl
  refine ⟨by decide, hsaid, (absence_is_one_iff (by decide)).2.mpr ?_⟩
  rw [hsaid]
  exact iff_of_true rfl rfl

/-- What a server answers that does not know the path at all. -/
def plainNotFound : Answer := .response 404 (octetsOf "404 page not found")

/-- Every step that goes by the code takes it for absence, and no other step does: a pass leaves
the cluster out for want of the tag and creates the namespace there, and then it fails to look for
the stream. -/
theorem plain_not_found_is_absence_by_code_only :
    (∀ l : Lookup, l.call.Sendable → (l.TakesForAbsence plainNotFound ↔ l.byCode = true)) ∧
      (observe "ci" "app:latest" ["api.ci"]).run.answered plainNotFound = .done (.ok []) ∧
      (∃ next, (provideNamespace "api.ci" "ci").run.answered plainNotFound =
        .ask "api.ci" (.createNamespace "ci") next) ∧
      ¬ ∃ next, (provideStream "api.ci" doomedStream).run.answered plainNotFound =
        .ask "api.ci" (.createStream "ci" doomedStream.copy) next := by
  have hunsaid : saidError? (octetsOf "404 page not found") = none := rfl
  have htext : Text.Utf8.decode (octetsOf "404 page not found") = .ok "404 page not found" := rfl
  have each (l : Lookup) (asked : l.call.Sendable) :
      l.TakesForAbsence plainNotFound ↔ l.byCode = true := by
    -- The body says nothing, so only the code counts.
    rw [plainNotFound, Lookup.takesForAbsence_iff asked (by decide), Lookup.accepts]
    obtain ⟨hreason, hcode⟩ := @answerFailure_of_unsaid 404 _ hunsaid
    rw [htext] at hcode
    cases l.byCode with
    | true => exact iff_of_true (hcode.mpr ⟨rfl, nofun⟩) rfl
    | false => exact iff_of_false (by simp [hreason]) nofun
  refine ⟨each, ?_, ?_, ?_⟩
  · exact (each (.observing "ci" "app:latest" "api.ci" [])
      (Call.sendable_iff.mpr (by decide))).mpr rfl
  · exact (each (.providingNamespace "api.ci" "ci") (Call.sendable_iff.mpr (by decide))).mpr rfl
  · intro h
    exact nomatch (each (.providingStream "api.ci" doomedStream)
      (Call.sendable_iff.mpr (by decide))).mp h

end TagSync
