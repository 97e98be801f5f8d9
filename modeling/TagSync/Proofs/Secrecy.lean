import TagSync.Proofs.Deletion
import TagSync.Proofs.Synced

/-!
# Where the credentials go

Two programs that differ in their credentials only ask alike: their plans have the same shape and
send the same requests, save that the secret of a namespace is written with the credentials of the
one or of the other (`Plan.Alike`). Servers that see everything of a request but its body
(`BlindServers`) cannot tell the two apart, whatever they answer. `credentials_stay_secret` says so
of a pass, of the reaction to a stream and of repeated reactions, and that a pass imports nothing
into a namespace before it has written the secret there.
-/

set_option autoImplicit false

namespace TagSync

open Api TagSync.Text
open Plan (Exchange EachAfter)

/-! ## Secrets in requests -/

/-- The change that creates or replaces the secret of a namespace, with a text as its data. The
namespace stands in the target as it is. -/
def secretPatch (ns value : String) : Request where
  method := .patch
  target := "/api/v1/namespaces/" ++ ns ++
    "/secrets/registry-pull-credentials?&force=true&fieldManager=registry-syncer"
  contentType := some "application/apply-patch+yaml"
  body := some (.obj [
    ("apiVersion", .str "v1"),
    ("kind", .str "Secret"),
    ("data", .obj [(".dockerconfigjson", .str value)]),
    ("metadata", .obj [
      ("name", .str "registry-pull-credentials"),
      ("namespace", .str ns)]),
    ("type", .str "kubernetes.io/dockerconfigjson")])

theorem Api.Call.draft_applyPullSecret (ns : String) (credentials : List UInt8) :
    (Call.applyPullSecret ns credentials).draft =
      secretPatch ns (String.ofList (Base64.encode credentials)) := by
  have htarget : "/api/v1/namespaces/" ++ ns ++ "/secrets/" ++ pullSecretName ++
      "?&force=true&fieldManager=" ++ fieldManager = "/api/v1/namespaces/" ++ ns ++
        "/secrets/registry-pull-credentials?&force=true&fieldManager=registry-syncer" := by
    simp only [String.append_assoc]
    rfl
  rw [Call.draft, htarget]
  rfl

/-- The request changes an object of the core API, which secrets belong to. -/
def Api.Request.ChangesCore (r : Request) : Prop :=
  r.method = .patch ∧ "/api/v1/".toList <+: r.target.toList

theorem prefix_toList_append {cs : List Char} {text : String} (h : cs <+: text.toList)
    (more : String) : cs <+: (text ++ more).toList := by
  rw [String.toList_append]
  exact h.trans (List.prefix_append _ _)

theorem Api.not_core_imagePath (ns plural slash name mark : String) :
    ¬ "/api/v1/".toList <+: (imagePath ns plural ++ slash ++ name ++ mark).toList := by
  intro hcore
  have hroot : "/apis/image.openshift.io/v1/namespaces/".toList <+:
      (imagePath ns plural ++ slash ++ name ++ mark).toList :=
    prefix_toList_append (prefix_toList_append (prefix_toList_append (prefix_toList_append
      (prefix_toList_append (prefix_toList_append List.prefix_rfl _) _) _) _) _) _
  rcases List.prefix_or_prefix_of_prefix hcore hroot with h | h
  · exact absurd h (by decide)
  · exact absurd h (by decide)

/-- Whether a call has nothing to do with the credentials. -/
def Api.Call.isSecretFree : Call → Bool
  | .applyPullSecret _ _ => false
  | _ => true

theorem Api.Call.not_changesCore {call : Call} (h : call.isSecretFree = true) :
    ¬ call.draft.ChangesCore := by
  rintro ⟨hmethod, htarget⟩
  cases call with
  | setFinalizers ns name finalizers version => exact not_core_imagePath _ _ _ _ _ htarget
  | setAnnotations ns name annotations => exact not_core_imagePath _ _ _ _ _ htarget
  | applyPullSecret ns credentials => cases h
  | getTag | getStream | createStream | deleteStream | getNamespace | createNamespace
  | importImages | listGroups | listResources => cases hmethod

def Plan.Exchange.sent (e : Exchange) : String × Request := (e.cluster, e.call.draft)

/-- What the one program sends, and what the other sends in its place: the same, which is no secret;
or the secret of the same namespace, each with its own credentials. -/
inductive SentAlike (first second : List UInt8) : String × Request → String × Request → Prop
  | same {cluster : String} {request : Request} : ¬ request.ChangesCore →
      SentAlike first second (cluster, request) (cluster, request)
  | secret {cluster ns value value' : String} :
      Base64.decode value.toList = some first → Base64.decode value'.toList = some second →
      SentAlike first second (cluster, secretPatch ns value) (cluster, secretPatch ns value')

theorem SentAlike.of_applyPullSecret (first second : List UInt8) (cluster ns : String) :
    SentAlike first second (cluster, (Call.applyPullSecret ns first).draft)
      (cluster, (Call.applyPullSecret ns second).draft) := by
  rw [Call.draft_applyPullSecret, Call.draft_applyPullSecret]
  refine .secret ?_ ?_
  · rw [String.toList_ofList, Base64.decode_encode]
  · rw [String.toList_ofList, Base64.decode_encode]

/-! ## Plans that ask alike -/

namespace Plan

variable {α β : Type} {first second : List UInt8}

/-- The plans ask the same one after the other and go on alike after every reply, save that each
writes its own credentials into a secret. -/
inductive Alike (first second : List UInt8) : Plan α → Plan α → Prop
  | done (a : α) : Alike first second (.done a) (.done a)
  | ask {cluster : String} {call : Call} {next next' : call.Reply → Plan α} :
      call.isSecretFree = true → (∀ reply, Alike first second (next reply) (next' reply)) →
      Alike first second (.ask cluster call next) (.ask cluster call next')
  | secret {cluster ns : String} {next next' : Except CallError Secret → Plan α} :
      (∀ reply, Alike first second (next reply) (next' reply)) →
      Alike first second (.ask cluster (.applyPullSecret ns first) next)
        (.ask cluster (.applyPullSecret ns second) next')

theorem Alike.of_only {p : Plan α} (h : Only (fun _ call => call.isSecretFree = true) p) :
    Alike first second p p := by
  induction p with
  | done a => exact .done a
  | ask cluster call next ih =>
      have later (reply : call.Reply) : Only (fun _ call => call.isSecretFree = true)
          (next reply) := fun exchanges a run e he => h (.ask reply run) e (.tail _ he)
      -- Whatever the servers, the plan begins with this call.
      obtain ⟨exchanges, run⟩ := exists_run_of_play (fun (_ : Unit) _ _ => (.error .unreadable, ()))
        (next (.error .unreadable)) ()
      exact .ask (h (.ask _ run) _ List.mem_cons_self) fun reply => ih reply (later reply)

theorem Alike.bind {p p' : Plan α} {f f' : α → Plan β} (h : Alike first second p p')
    (hf : ∀ a, Alike first second (f a) (f' a)) : Alike first second (p >>= f) (p' >>= f') := by
  induction h with
  | done a => exact hf a
  | ask hfree _ ih => exact .ask hfree ih
  | secret _ ih => exact .secret ih

/-- The secret is sent to the same target, so it can be sent with either credentials or with
neither. -/
theorem Alike.send_secret (cluster ns : String) :
    @Alike (Except CallError Secret) first second (send cluster (.applyPullSecret ns first))
      (send cluster (.applyPullSecret ns second)) := by
  have hname : ∀ credentials, (Call.applyPullSecret ns credentials).objectName? ≠ some "" :=
    fun _ => (Option.some_ne_none "").symm
  -- Whether the request can be sent is decided by its target, which holds no credentials.
  have htarget : ∀ credentials, (Call.applyPullSecret ns credentials).draft.target =
      (Call.applyPullSecret ns []).draft.target := fun _ => rfl
  cases hfault : Target.fault? (Call.applyPullSecret ns []).draft.target with
  | some fault =>
      have hrequest : ∀ credentials, (Call.applyPullSecret ns credentials).request =
          .error (.notSent (.target fault)) := fun credentials => by
        rw [Call.request, if_neg (hname _), htarget, hfault]
        rfl
      simp only [send, hrequest]
      exact .done _
  | none =>
      have hrequest : ∀ credentials, (Call.applyPullSecret ns credentials).request =
          .ok (Call.applyPullSecret ns credentials).draft := fun credentials => by
        rw [Call.request, if_neg (hname _), htarget, hfault]
      simp only [send, hrequest]
      exact .secret fun reply => .done reply

end Plan

namespace Job

variable {α β : Type} {first second : List UInt8}

/-- The tasks ask alike. -/
def Alike (first second : List UInt8) (job job' : Job α) : Prop :=
  Plan.Alike first second (ExceptT.run job) (ExceptT.run job')

theorem Alike.of_only {job : Job α} (h : Only (fun _ call => call.isSecretFree = true) job) :
    Alike first second job job :=
  Plan.Alike.of_only h

theorem Alike.bind {job job' : Job α} {f f' : α → Job β} (h : Alike first second job job')
    (hf : ∀ a, Alike first second (f a) (f' a)) : Alike first second (job >>= f) (job' >>= f') := by
  rw [Alike, ExceptT.run_bind, ExceptT.run_bind]
  refine Plan.Alike.bind h fun result => ?_
  cases result with
  | ok a => exact hf a
  | error e => exact .done _

theorem Alike.lift_bind {p p' : Plan α} {f f' : α → Job β} (h : Plan.Alike first second p p')
    (hf : ∀ a, Alike first second (f a) (f' a)) :
    Alike first second (ExceptT.lift p >>= f) (ExceptT.lift p' >>= f') := by
  refine Alike.bind ?_ hf
  rw [Alike, ExceptT.run_lift, ExceptT.run_lift]
  exact h.bind fun a => .done _

end Job

/-! ## What the program asks -/

section Programs

variable {first second : List UInt8}

theorem providePullSecret_alike (cluster ns : String) :
    Job.Alike first second (providePullSecret cluster ns first)
      (providePullSecret cluster ns second) := by
  refine .bind (.lift_bind (.send_secret cluster ns) fun reply => ?_) fun _ =>
    .of_only (Job.Only.pure _ _)
  cases reply with
  | ok result => exact .of_only (Job.Only.pure _ _)
  | error cause => exact .of_only (Job.Only.throw _ _)

theorem importImage_only (cluster ns stream tag reference : String) :
    Job.Only (fun _ call => call = .importImages ns (.importTo ns stream tag reference))
      (importImage cluster ns stream tag reference) :=
  fun _ _ run e he => ((run_importImage run).1 e he).2

theorem copyTo_alike (source : Source) (tag cluster : String) :
    Job.Alike first second (copyTo first source tag cluster)
      (copyTo second source tag cluster) := by
  simp only [copyTo]
  cases source.reference tag with
  | error e => exact .of_only (Job.Only.throw _ _)
  | ok reference =>
      refine .bind (.of_only ?_) fun _ => .bind (.of_only ?_) fun _ =>
        .bind (providePullSecret_alike _ _) fun _ => .of_only ?_
      · refine (provideNamespace_asks _ _).mono ?_
        rintro _ _ ⟨-, rfl | rfl⟩ <;> rfl
      · refine (provideStream_asks _ _).mono ?_
        rintro _ _ ⟨-, rfl | rfl | ⟨_, rfl⟩⟩ <;> rfl
      · refine (importImage_only _ _ _ _ _).mono ?_
        rintro _ _ rfl
        rfl

theorem attemptAll_alike {job job' : String → Job Unit}
    (h : ∀ item, Job.Alike first second (job item) (job' item)) (items : List String) :
    Plan.Alike first second (attemptAll job items) (attemptAll job' items) := by
  induction items with
  | nil => exact .done _
  | cons item items ih =>
      refine Plan.Alike.bind (h item) fun outcome => ih.bind fun others => ?_
      cases outcome with
      | ok done => exact .done _
      | error e => exact .done _

def Api.Call.isApproach : Call → Bool
  | .getTag _ _ => true
  | call => call.isRetirement

theorem Api.Call.isApproach_of_isRetirement {call : Call} (h : call.isRetirement = true) :
    call.isApproach = true := by
  cases call with
  | getTag ns name => rfl
  | _ => exact h

/-- An approach asks for nothing else. -/
theorem approach_only (fleet : Fleet) (ns name : String) :
    Job.Only (fun _ call => call.isApproach = true) (approach fleet ns name) := by
  rw [approach]
  cases TagName.parse? name with
  | none => exact Job.Only.throw _ _
  | some parts =>
      refine ((observe_only _ _ _).mono ?_).bind fun observations => ?_
      · rintro _ _ rfl
        rfl
      · cases newest? observations with
        | none => exact Job.Only.pure _ _
        | some origin =>
            refine (Job.Only.require rfl).bind fun stream => ?_
            -- A stream that is being deleted is retired, any other is held.
            split
            · split
              · refine ((retire_only _ _ _).mono ?_).bind fun _ => Job.Only.pure _ _
                exact Call.isApproach_of_isRetirement
              · exact Job.Only.pure _ _
            · refine ((hold_only _ _).mono ?_).bind fun _ => Job.Only.pure _ _
              rintro _ _ ⟨-, _, _, _, _, rfl⟩
              rfl

theorem Api.Call.isSecretFree_of_isApproach {call : Call} (h : call.isApproach = true) :
    call.isSecretFree = true := by
  cases call with
  | applyPullSecret ns credentials => cases h
  | _ => rfl

theorem syncTag_alike (clusters : NameSet) (ns name : String) :
    Job.Alike first second (syncTag ⟨clusters, first⟩ ns name)
      (syncTag ⟨clusters, second⟩ ns name) := by
  rw [syncTag_eq, syncTag_eq]
  have happroach : Job.Alike first second (approach ⟨clusters, first⟩ ns name)
      (approach ⟨clusters, second⟩ ns name) :=
    .of_only ((approach_only ⟨clusters, first⟩ ns name).mono Call.isSecretFree_of_isApproach)
  refine happroach.bind fun work => ?_
  cases work with
  | none => exact .of_only (Job.Only.pure _ _)
  | some work =>
      exact .lift_bind (attemptAll_alike (copyTo_alike _ _) _) fun errors => .done _

theorem reactTo_alike (clusters : NameSet) (filter : TagFilter) (cluster : String)
    (stream : ImageStream) :
    Job.Alike first second (reactTo ⟨clusters, first⟩ filter cluster stream)
      (reactTo ⟨clusters, second⟩ filter cluster stream) := by
  simp only [reactTo, syncTags_eq]
  split
  · split
    · refine .of_only ((retire_only ⟨clusters, first⟩ _ _).mono fun h => ?_)
      exact Call.isSecretFree_of_isApproach (Call.isApproach_of_isRetirement h)
    · exact .of_only (Job.Only.pure _ _)
  · exact .lift_bind (attemptAll_alike (fun tag => syncTag_alike _ _ _) _) fun errors => .done _

theorem react_alike (clusters : NameSet) (filter : TagFilter) (cluster : String)
    (stream : ImageStream) (attempts : Nat) :
    Plan.Alike first second (react ⟨clusters, first⟩ filter cluster stream attempts)
      (react ⟨clusters, second⟩ filter cluster stream attempts) := by
  induction attempts with
  | zero => exact .done _
  | succ attempts ih =>
      refine Plan.Alike.bind (reactTo_alike clusters filter cluster stream) fun outcome => ?_
      cases outcome with
      | ok done => exact .done _
      | error e => exact ih.bind fun later => .done _

end Programs

/-! ## Servers that do not see bodies -/

/-- All of a request but its body, and where it goes. -/
structure Envelope where
  cluster : String
  /-- What the request does. -/
  method : Method
  target : String
  /-- The notation of the body. -/
  contentType : Option String

def Envelope.of (cluster : String) (call : Call) : Envelope :=
  ⟨cluster, call.draft.method, call.draft.target, call.draft.contentType⟩

/-- Servers whose answers depend on the envelopes of the request and of all requests before it, the
number of these included, but on no body. -/
abbrev BlindServers := List Envelope → Envelope → Answer

/-- How such servers reply; their state is what they have seen. -/
def BlindServers.serve (servers : BlindServers) (seen : List Envelope) (cluster : String)
    (call : Call) : call.Reply × List Envelope :=
  (call.reply (servers seen (.of cluster call)), seen ++ [.of cluster call])

/-- With such servers the plans end alike, also in the words of a failure, and they send the same
requests to the same clusters in the same order, up to the credentials. -/
structure LookAlike {α : Type} (first second : List UInt8) (servers : BlindServers)
    (seen : List Envelope) (p p' : Plan α) : Prop where
  result : (p.play servers.serve seen).1 = (p'.play servers.serve seen).1
  sent : List.Forall₂ (SentAlike first second)
    ((p.exchangesWith servers.serve seen).map (·.sent))
    ((p'.exchangesWith servers.serve seen).map (·.sent))

/-- What an answer means for the secret does not depend on the credentials. -/
theorem Api.Call.reply_applyPullSecret (ns : String) (first second : List UInt8)
    (answer : Answer) :
    ((Call.applyPullSecret ns first).reply answer : Except CallError Secret) =
      (Call.applyPullSecret ns second).reply answer := by
  cases answer with
  | failed text => rfl
  | response code body =>
      simp only [Call.reply]
      cases Utf8.decode body with
      | error fault => rfl
      | ok text =>
          dsimp only
          cases Json.read? text with
          | none => rfl
          | some v => cases h : Secret.decode? v <;> simp [Call.read?, h]

/-- Servers that do not see bodies cannot tell plans apart that ask alike. -/
theorem Plan.Alike.lookAlike {α : Type} {first second : List UInt8} {p p' : Plan α}
    (h : Alike first second p p') (servers : BlindServers) (seen : List Envelope) :
    LookAlike first second servers seen p p' := by
  induction h generalizing seen with
  | done a => exact ⟨rfl, .nil⟩
  | @ask cluster call next next' hfree _ ih =>
      obtain ⟨hresult, hsent⟩ := ih (servers.serve seen cluster call).1
        (servers.serve seen cluster call).2
      exact ⟨hresult, .cons (.same (Call.not_changesCore hfree)) hsent⟩
  | @secret cluster ns next next' _ ih =>
      -- Both secrets have the same envelope, so the second one is served like the first.
      let served : Except CallError Secret × List Envelope :=
        servers.serve seen cluster (.applyPullSecret ns first)
      have hserved : servers.serve seen cluster (.applyPullSecret ns second) = served :=
        Prod.ext (Call.reply_applyPullSecret ns second first _) rfl
      have hplay : (Plan.ask cluster (.applyPullSecret ns second) next').play servers.serve seen =
          (next' served.1).play servers.serve served.2 := by
        rw [← hserved]
        rfl
      have hexchanges : (Plan.ask cluster (.applyPullSecret ns second) next').exchangesWith
          servers.serve seen = ⟨cluster, .applyPullSecret ns second, served.1⟩ ::
            (next' served.1).exchangesWith servers.serve served.2 := by
        rw [← hserved]
        rfl
      obtain ⟨hresult, hsent⟩ := ih served.1 served.2
      refine ⟨hplay ▸ hresult, ?_⟩
      rw [hexchanges]
      exact .cons (.of_applyPullSecret first second cluster ns) hsent

/-! ## Imports behind the secret -/

def Api.Call.isImport : Call → Bool
  | .importImages _ _ => true
  | _ => false

theorem Api.Call.isImport_of_isApproach {call : Call} (h : call.isApproach = true) :
    call.isImport = false := by
  cases call with
  | importImages ns request => cases h
  | _ => rfl

/-- If the exchange is an import, then these credentials were written before into the secret of the
same namespace on the same cluster, and the cluster has confirmed it. -/
def IsBehindSecret (credentials : List UInt8) (earlier : List Exchange) (e : Exchange) : Prop :=
  ∀ ns request, e.call = .importImages ns request →
    ∃ secret, ⟨e.cluster, .applyPullSecret ns credentials, .ok secret⟩ ∈ earlier

section Imports

variable {credentials : List UInt8} {exchanges : List Exchange}

theorem IsBehindSecret.prepend {front earlier : List Exchange} {e : Exchange}
    (h : IsBehindSecret credentials earlier e) :
    IsBehindSecret credentials (front ++ earlier) e := by
  intro ns request hcall
  obtain ⟨secret, hmem⟩ := h ns request hcall
  exact ⟨secret, List.mem_append_right _ hmem⟩

theorem eachAfter_of_no_import (h : ∀ e ∈ exchanges, e.call.isImport = false) :
    EachAfter (IsBehindSecret credentials) exchanges := by
  refine .of_forall fun e he _ ns request hcall => ?_
  have hnot := h e he
  rw [hcall] at hnot
  cases hnot

theorem eachAfter_bind {step rest : Job Unit}
    (hstep : Job.Only (fun _ call => call.isImport = false) step)
    (hrest : ∀ {exchanges : List Exchange} {outcome : Except SyncError Unit},
      rest.Run exchanges outcome → EachAfter (IsBehindSecret credentials) exchanges)
    {outcome : Except SyncError Unit} (run : (do step; rest : Job Unit).Run exchanges outcome) :
    EachAfter (IsBehindSecret credentials) exchanges := by
  rcases Job.run_bind_iff.mp run with ⟨done, first, second, hfirst, hsecond, rfl⟩ | ⟨e, h, rfl⟩
  · exact (eachAfter_of_no_import (hstep hfirst)).append ((hrest hsecond).mono .prepend)
  · exact eachAfter_of_no_import (hstep h)

/-- An import behind the secret. -/
theorem run_secret_then_import {cluster ns stream tag reference : String}
    {outcome : Except SyncError Unit} (run : Job.Run (do
      providePullSecret cluster ns credentials
      importImage cluster ns stream tag reference) exchanges outcome) :
    EachAfter (IsBehindSecret credentials) exchanges := by
  have secret_only : Job.Only (fun _ call => call = .applyPullSecret ns credentials)
      (providePullSecret cluster ns credentials) :=
    (Job.Only.require rfl).bind fun _ => Job.Only.pure _ _
  have no_import {exchanges : List Exchange} {outcome : Except SyncError Unit}
      (h : (providePullSecret cluster ns credentials).Run exchanges outcome) :
      EachAfter (IsBehindSecret credentials) exchanges :=
    eachAfter_of_no_import fun e he => by rw [secret_only h e he]; rfl
  rcases Job.run_bind_iff.mp run with ⟨done, first, second, hfirst, hsecond, rfl⟩ | ⟨e, h, -⟩
  · refine (no_import hfirst).append (.of_forall fun e he earlier ns' request himport => ?_)
    obtain ⟨hcluster, hcall⟩ := (run_importImage hsecond).1 e he
    obtain ⟨rfl, -⟩ := Call.importImages.inj (hcall.symm.trans himport)
    -- The import is made only if the secret was confirmed.
    obtain ⟨reply, hsend, hreply⟩ := Job.run_require_done_iff.mp hfirst
    cases reply with
    | error cause => cases hreply
    | ok secret =>
        obtain rfl := Plan.run_send_ok hsend
        exact ⟨secret, hcluster ▸ List.mem_append_left _ (List.mem_singleton_self _)⟩
  · exact no_import h

/-- A copy imports once the secret is written. -/
theorem run_copyTo_eachAfter {source : Source} {tag cluster : String}
    {outcome : Except SyncError Unit}
    (run : (copyTo credentials source tag cluster).Run exchanges outcome) :
    EachAfter (IsBehindSecret credentials) exchanges := by
  simp only [copyTo] at run
  cases href : source.reference tag with
  | error e =>
      simp only [href] at run
      obtain ⟨rfl, rfl⟩ := Job.run_throw_iff.mp run
      exact .of_forall (by simp)
  | ok reference =>
      simp only [href] at run
      refine eachAfter_bind ((provideNamespace_asks _ _).mono ?_) (fun run => ?_) run
      · rintro _ _ ⟨-, rfl | rfl⟩ <;> rfl
      refine eachAfter_bind ((provideStream_asks _ _).mono ?_) (fun run => ?_) run
      · rintro _ _ ⟨-, rfl | rfl | ⟨_, rfl⟩⟩ <;> rfl
      exact run_secret_then_import run

/-- So does a pass. -/
theorem run_syncTag_eachAfter {fleet : Fleet} {ns name : String}
    {outcome : Except SyncError Unit} (run : (syncTag fleet ns name).Run exchanges outcome) :
    EachAfter (IsBehindSecret fleet.credentials) exchanges := by
  have approached {lead : List Exchange} {result : Except SyncError (Option Work)}
      (h : (approach fleet ns name).Run lead result) :
      EachAfter (IsBehindSecret fleet.credentials) lead := by
    exact eachAfter_of_no_import fun e he =>
      Call.isImport_of_isApproach (approach_only _ _ _ h e he)
  rcases run_syncTag_cases run with ⟨e, h, -⟩ | ⟨h, -⟩ | ⟨work, lead, made, h, hmade, rfl, -⟩
  · exact approached h
  · exact approached h
  · refine (approached h).append (EachAfter.mono ?_ .prepend)
    exact eachAfter_exchangesOf .prepend fun a ha => run_copyTo_eachAfter (hmade.run a ha)

end Imports

/-! ## The credentials -/

/-- **The credentials go nowhere but into the secret.** Two programs for the same clusters that
differ in their credentials have passes, reactions and repeated reactions that look alike to servers
that do not see bodies: they end alike, and what they send differs in the data of secrets only, each
of which holds its own credentials in base64. Whatever the servers, a pass imports nothing into a
namespace before it has written the secret there. -/
theorem credentials_stay_secret (clusters : NameSet) (first second : List UInt8) :
    (∀ (servers : BlindServers) (seen : List Envelope),
      (∀ ns name, LookAlike first second servers seen (syncTag ⟨clusters, first⟩ ns name).run
        (syncTag ⟨clusters, second⟩ ns name).run) ∧
      (∀ filter cluster stream, LookAlike first second servers seen
        (reactTo ⟨clusters, first⟩ filter cluster stream).run
        (reactTo ⟨clusters, second⟩ filter cluster stream).run) ∧
      ∀ filter cluster stream attempts, LookAlike first second servers seen
        (react ⟨clusters, first⟩ filter cluster stream attempts)
        (react ⟨clusters, second⟩ filter cluster stream attempts)) ∧
    ∀ credentials ns name exchanges outcome,
      (syncTag ⟨clusters, credentials⟩ ns name).Run exchanges outcome →
      EachAfter (IsBehindSecret credentials) exchanges := by
  refine ⟨fun servers seen => ⟨fun ns name => ?_, fun filter cluster stream => ?_,
    fun filter cluster stream attempts => ?_⟩, fun credentials ns name exchanges outcome run => ?_⟩
  · exact (syncTag_alike clusters ns name).lookAlike servers seen
  · exact (reactTo_alike clusters filter cluster stream).lookAlike servers seen
  · exact (react_alike clusters filter cluster stream attempts).lookAlike servers seen
  · exact run_syncTag_eachAfter run

/-! ### A pass -/

def tagText : String :=
  "\x7b\"image\":\x7b\"dockerImageReference\":" ++
  "\"image-registry.openshift-image-registry.svc:5000/ci/app\"\x7d\x7d"

def streamText : String :=
  "\x7b\"metadata\":\x7b\"name\":\"app\",\"namespace\":\"ci\"\x7d,\"spec\":\x7b\x7d\x7d"

def emptyText : String :=
  "\x7b\"status\":\"Failure\",\"reason\":\"NotFound\",\"code\":404\x7d"

/-- Servers of which the one that is asked first has the tag, and `build02` has nothing. Whatever is
written is answered with the stream. -/
def blindHolder : BlindServers := fun seen e =>
  if seen.isEmpty then .response 200 (Utf8.encode tagText)
  else if e.cluster = "build02" ∧ e.method = .get then .response 404 (Utf8.encode emptyText)
  else .response 200 (Utf8.encode streamText)

def onePass (credentials : List UInt8) : Plan (Except SyncError Unit) :=
  (syncTag ⟨.ofList ["app.ci", "build02"], credentials⟩ "ci" "app:latest").run

def secretData? (r : Request) : Option String := do
  let data ← (← r.body).field? "data"
  (← data.field? ".dockerconfigjson").asString?

/-- The data of the secrets that a pass with given credentials writes. -/
def secretsSent (credentials : List UInt8) : List String :=
  ((onePass credentials).exchangesWith blindHolder.serve []).filterMap fun e =>
    secretData? e.call.draft

/-- Two passes look alike though they write different secrets. In the pass of `onePassExchanges` the
secret is written before the only import. -/
theorem one_copy_writes_secret_first :
    LookAlike [] [255] blindHolder [] (onePass []) (onePass [255]) ∧
      secretsSent [] = [""] ∧ secretsSent [255] = ["/w=="] ∧
      (syncTag fourClusters "ci" "app:latest").Run onePassExchanges (.ok ()) ∧
      ∃ secret, ⟨"build02", .applyPullSecret "ci" [], .ok secret⟩ ∈ onePassExchanges.take 9 := by
  have hsplit : onePassExchanges = onePassExchanges.take 9 ++
      [⟨"build02", .importImages "ci" imageImport, .ok imageReport⟩] := rfl
  obtain ⟨alike, -⟩ := credentials_stay_secret (.ofList ["app.ci", "build02"]) [] [255]
  obtain ⟨-, behind⟩ := credentials_stay_secret fourClusters.clusters [] [255]
  have hsecrets : secretsSent [] = [""] ∧ secretsSent [255] = ["/w=="] := by decide +kernel
  have hwritten := behind [] _ _ _ _ run_onePass hsplit "ci" imageImport rfl
  exact ⟨(alike blindHolder []).1 "ci" "app:latest", hsecrets.1, hsecrets.2, run_onePass, hwritten⟩

end TagSync
