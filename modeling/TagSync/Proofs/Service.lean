import TagSync.Proofs.Passes
import TagSync.Proofs.World

/-!
# Runs on clusters that are stores

`Serves` says how one exchange may take one world to the next: the cluster is healthy, or it is
one of those that may fail and refuses the call without effect. `Leads` extends this to all
exchanges of a run. `Plan.Ensures` and `Job.Ensures` say what holds after every such run.
-/

set_option autoImplicit false

namespace TagSync

open Api
open Plan (Exchange)

namespace Api.Call

def readsTag : Call → Bool
  | .getTag _ _ => true
  | _ => false

/-- Whether a call neither deletes a stream nor brings in an image. -/
def keepsTags : Call → Bool
  | .deleteStream _ _ | .importImages _ _ => false
  | _ => true

end Api.Call

/-! ## Healthy clusters -/

namespace World

/-- Such a call takes nothing away and changes no tag. -/
theorem serve_keeps {w : World} (live : w.Live) (digest : Option String) (cluster : String)
    {call : Call} (h : call.keepsTags = true) :
    Extends w (w.serve digest cluster call).2 ∧ KeepsTags w (w.serve digest cluster call).2 := by
  cases call with
  | deleteStream | importImages => cases h
  | createStream ns stream => exact create_keeps w cluster ns stream
  | setFinalizers ns name finalizers version =>
      exact change_keeps live ⟨fun _ => rfl, fun _ => rfl, fun _ => rfl⟩
  | setAnnotations ns name annotations =>
      exact change_keeps live ⟨fun _ => rfl, fun _ => rfl, fun _ => rfl⟩
  | createNamespace name =>
      -- A namespace that exists is not replaced.
      cases hn : w.namespace? cluster name with
      | none =>
          simp only [serve, hn]
          exact ⟨.putNamespace _ _ _ _, .putNamespace _ _ _ _⟩
      | some object =>
          simp only [serve, hn]
          exact ⟨.refl w, .refl w⟩
  | getTag | getStream | getNamespace | applyPullSecret | listGroups | listResources =>
      exact ⟨.refl w, .refl w⟩

/-- The tag that an import by a reference leaves behind. -/
def copyTag (digest : Option String) (tag reference : String) (time : Instant) : ImageStreamTag :=
  tagOfImport digest tag {
    «from» := { kind := some dockerImageKind, name := some reference }
    target := some { name := tag }
    referencePolicy := some .localRegistry } time

/-- An import into a stream that is not there is refused; any other one is reported, and the tag
is the copy from then on. -/
theorem importInto_cases (digest : Option String) (w : World)
    (cluster ns stream tag reference : String) :
    (w.stream? cluster ns stream = none ∧
      importInto digest w cluster ns (.importTo ns stream tag reference) =
        (.error notThere, w)) ∨
    ∃ stored answer, w.stream? cluster ns stream = some stored ∧ answer.check = .ok () ∧
      importInto digest w cluster ns (.importTo ns stream tag reference) = (.ok answer,
        w.putTag cluster ns stream tag stored (copyTag digest tag reference (w.times 0))) := by
  have hname : (ImageStreamImport.importTo ns stream tag reference).metadata.anyName = stream := rfl
  cases hs : w.stream? cluster ns stream with
  | none =>
      refine Or.inl ⟨rfl, ?_⟩
      simp only [importInto, hname, hs]
  | some stored =>
      refine Or.inr ⟨stored, _, rfl, ?_, by simp only [importInto, hname, hs]; rfl⟩
      rfl

theorem Extends.putTag {w : World} {cluster ns name tag : String} {stored : StoredStream}
    (hs : w.stream? cluster ns name = some stored) (object : ImageStreamTag) :
    Extends w (w.putTag cluster ns name tag stored object) := by
  have hput : Extends w (w.put cluster ns name (some {
      stream := w.stamp stored.stream
      tags := fun t => if t = tag then some object else stored.tags t })) := by
    refine .put (fun hw => ?_) fun hlive => ?_
    · obtain ⟨hproper, hproper', hns, hname⟩ := hw hs
      exact ⟨hproper, hproper', hns, hname⟩
    · have hmark := hlive hs
      exact hmark
  exact ⟨hput.sound, hput.live, hput.stream, hput.namespace⟩

/-- After storing a tag, that tag is the new one and all others are as they were. -/
theorem tag?_putTag {w : World} {cluster ns name tag : String} {stored : StoredStream}
    (hs : w.stream? cluster ns name = some stored) (object : ImageStreamTag) (c n s t : String) :
    (w.putTag cluster ns name tag stored object).tag? c n s t =
      if c = cluster ∧ n = ns ∧ s = name ∧ t = tag then some object else w.tag? c n s t := by
  have hput : (w.putTag cluster ns name tag stored object).stream? c n s =
      if c = cluster ∧ n = ns ∧ s = name then
        some {
          stream := w.stamp stored.stream
          tags := fun t => if t = tag then some object else stored.tags t }
      else w.stream? c n s :=
    stream?_put w cluster ns name _ c n s
  rw [tag?, hput]
  -- Other streams have the tags that they had.
  by_cases h : c = cluster ∧ n = ns ∧ s = name
  · obtain ⟨rfl, rfl, rfl⟩ := h
    simp [tag?, hs]
  · have h' : ¬ (c = cluster ∧ n = ns ∧ s = name ∧ t = tag) := fun hall =>
      h ⟨hall.1, hall.2.1, hall.2.2.1⟩
    rw [if_neg h, if_neg h', tag?]

end World

/-! ## Steps -/

/-- How an exchange may take one world to the next. A healthy cluster serves the call; one that
may fail refuses it or serves it, but does not fail to say what a tag is. -/
def Serves (digest : Option String) (flaky : String → Prop) (w : World) (e : Exchange)
    (w' : World) : Prop :=
  w.serve digest e.cluster e.call = (e.reply, w') ∨
    flaky e.cluster ∧ e.call.readsTag = false ∧ (∃ cause, e.reply = .error cause) ∧ w' = w

/-- Exchanges lead from one state to another, step by step. -/
inductive Leads {σ : Type} (step : σ → Exchange → σ → Prop) : σ → List Exchange → σ → Prop
  | nil (s : σ) : Leads step s [] s
  | cons {s s' s'' : σ} {e : Exchange} {exchanges : List Exchange} :
      step s e s' → Leads step s' exchanges s'' → Leads step s (e :: exchanges) s''

section Leads

variable {σ : Type} {step : σ → Exchange → σ → Prop} {s s' : σ}

@[simp] theorem leads_nil_iff : Leads step s [] s' ↔ s' = s := by
  constructor
  · rintro ⟨⟩
    rfl
  · rintro rfl
    exact .nil s'

theorem leads_cons_iff {e : Exchange} {exchanges : List Exchange} :
    Leads step s (e :: exchanges) s' ↔ ∃ t, step s e t ∧ Leads step t exchanges s' := by
  constructor
  · intro h
    cases h with
    | cons hstep hrest => exact ⟨_, hstep, hrest⟩
  · rintro ⟨t, hstep, hrest⟩
    exact .cons hstep hrest

theorem leads_append_iff {first second : List Exchange} :
    Leads step s (first ++ second) s' ↔
      ∃ t, Leads step s first t ∧ Leads step t second s' := by
  induction first generalizing s with
  | nil => simp
  | cons e first ih =>
      simp only [List.cons_append, leads_cons_iff, ih]
      constructor
      · rintro ⟨t, hstep, u, hfirst, hsecond⟩
        exact ⟨u, ⟨t, hstep, hfirst⟩, hsecond⟩
      · rintro ⟨u, ⟨t, hstep, hfirst⟩, hsecond⟩
        exact ⟨t, hstep, u, hfirst, hsecond⟩

theorem leads_play {τ α : Type} {serve : τ → String → (call : Call) → call.Reply × τ}
    (state : τ → σ) (h : ∀ t cluster call,
      step (state t) ⟨cluster, call, (serve t cluster call).1⟩ (state (serve t cluster call).2))
    (p : Plan α) (t : τ) :
    Leads step (state t) (p.exchangesWith serve t) (state (p.play serve t).2) := by
  induction p generalizing t with
  | done a => exact .nil _
  | ask cluster call next ih => exact .cons (h t cluster call) (ih _ _)

end Leads

/-! ## What holds after every run -/

/-- After every run of a plan whose exchanges are steps, this holds of its result and of the last
state. -/
def Plan.Ensures {σ α : Type} (step : σ → Exchange → σ → Prop) (p : Plan α) (s : σ)
    (Q : α → σ → Prop) : Prop :=
  ∀ ⦃exchanges : List Exchange⦄ ⦃a : α⦄ ⦃s' : σ⦄,
    Plan.Run p exchanges a → Leads step s exchanges s' → Q a s'

/-- The same for tasks. -/
def Job.Ensures {σ α : Type} (step : σ → Exchange → σ → Prop) (job : Job α) (s : σ)
    (Q : Except SyncError α → σ → Prop) : Prop :=
  Plan.Ensures step (ExceptT.run job) s Q

section Ensures

variable {σ α β : Type} {step : σ → Exchange → σ → Prop} {s : σ}

theorem Plan.Ensures.pure {a : α} {Q : α → σ → Prop} (h : Q a s) :
    Plan.Ensures step (Pure.pure a) s Q := by
  intro exchanges b s' hrun hleads
  obtain ⟨rfl, rfl⟩ := Plan.run_pure_iff.mp hrun
  rwa [leads_nil_iff.mp hleads]

theorem Plan.Ensures.bind {p : Plan α} {f : α → Plan β} {Q : β → σ → Prop}
    (h : Plan.Ensures step p s fun a s' => Plan.Ensures step (f a) s' Q) :
    Plan.Ensures step (p >>= f) s Q := by
  intro exchanges b s' hrun hleads
  obtain ⟨a, first, second, hfirst, hsecond, rfl⟩ := Plan.run_bind_iff.mp hrun
  obtain ⟨t, hleads, hleads'⟩ := leads_append_iff.mp hleads
  exact h hfirst hleads hsecond hleads'

theorem Plan.Ensures.mono {p : Plan α} {Q R : α → σ → Prop} (h : Plan.Ensures step p s Q)
    (hQR : ∀ a s', Q a s' → R a s') : Plan.Ensures step p s R :=
  fun _ _ _ hrun hleads => hQR _ _ (h hrun hleads)

theorem Job.Ensures.pure {a : α} {Q : Except SyncError α → σ → Prop} (h : Q (.ok a) s) :
    Job.Ensures step (Pure.pure a) s Q :=
  Plan.Ensures.pure h

theorem Job.Ensures.mono {job : Job α} {Q R : Except SyncError α → σ → Prop}
    (h : Job.Ensures step job s Q) (hQR : ∀ a s', Q a s' → R a s') : Job.Ensures step job s R :=
  Plan.Ensures.mono h hQR

theorem Job.Ensures.bind {job : Job α} {f : α → Job β} {Q : Except SyncError β → σ → Prop}
    (h : Job.Ensures step job s fun outcome s' =>
      ∃ a, outcome = .ok a ∧ Job.Ensures step (f a) s' Q) :
    Job.Ensures step (job >>= f) s Q := by
  intro exchanges outcome s' hrun hleads
  rcases Job.run_bind_iff.mp hrun with ⟨a, first, second, hfirst, hsecond, rfl⟩ | ⟨e, he, rfl⟩
  · obtain ⟨t, hleads, hleads'⟩ := leads_append_iff.mp hleads
    obtain ⟨a', heq, hrest⟩ := h hfirst hleads
    obtain rfl := Except.ok.inj heq
    exact hrest hsecond hleads'
  · obtain ⟨a', heq, -⟩ := h he hleads
    cases heq

end Ensures

/-! ## Sending to healthy clusters -/

section Healthy

variable {digest : Option String} {flaky : String → Prop} {w : World} {cluster : String}

/-- A healthy cluster serves what it is sent, and any cluster serves a read of a tag. -/
theorem Plan.Ensures.send {call : Call} (served : flaky cluster → call.readsTag = true)
    (sendable : call.Sendable)
    {Q : call.Reply → World → Prop}
    (h : Q (w.serve digest cluster call).1 (w.serve digest cluster call).2) :
    Plan.Ensures (Serves digest flaky) (Plan.send cluster call) w Q := by
  intro exchanges reply w' hrun hleads
  obtain rfl := (Plan.run_send_iff sendable).mp hrun
  obtain ⟨t, hstep, hrest⟩ := leads_cons_iff.mp hleads
  obtain rfl := leads_nil_iff.mp hrest
  rcases hstep with hserve | ⟨hflaky, hread, -⟩
  · have hserve : w.serve digest cluster call = (reply, w') := hserve
    rwa [hserve] at h
  · rw [served hflaky] at hread
    cases hread

theorem Job.Ensures.send {call : Call} (served : flaky cluster → call.readsTag = true)
    (sendable : call.Sendable) {Q : Except SyncError call.Reply → World → Prop}
    (h : Q (.ok (w.serve digest cluster call).1) (w.serve digest cluster call).2) :
    Job.Ensures (Serves digest flaky) (Job.send cluster call) w Q :=
  Plan.Ensures.bind (Plan.Ensures.send served sendable (Plan.Ensures.pure h))

theorem Job.Ensures.require {call : Call} {failure : CallError → SyncError}
    (healthy : ¬ flaky cluster) (sendable : call.Sendable)
    {Q : Except SyncError call.Result → World → Prop}
    (h : Q ((w.serve digest cluster call).1.mapError failure) (w.serve digest cluster call).2) :
    Job.Ensures (Serves digest flaky) (Job.require cluster call failure) w Q := by
  intro exchanges outcome w' hrun hleads
  obtain ⟨reply, hsend, rfl⟩ := Job.run_require_iff.mp hrun
  exact Plan.Ensures.send (fun h => absurd h healthy) sendable
    (Q := fun reply w' => Q (reply.mapError failure) w') h hsend hleads

theorem Job.Ensures.find? {call : Call} {failure : CallError → SyncError}
    (healthy : ¬ flaky cluster) (sendable : call.Sendable)
    {Q : Except SyncError (Option call.Result) → World → Prop}
    (h : Q (Job.found failure (w.serve digest cluster call).1) (w.serve digest cluster call).2) :
    Job.Ensures (Serves digest flaky) (Job.find? cluster call failure) w Q := by
  intro exchanges outcome w' hrun hleads
  obtain ⟨reply, hsend, rfl⟩ := Job.run_find?_iff.mp hrun
  exact Plan.Ensures.send (fun h => absurd h healthy) sendable
    (Q := fun reply w' => Q (Job.found failure reply) w') h hsend hleads

end Healthy

end TagSync
