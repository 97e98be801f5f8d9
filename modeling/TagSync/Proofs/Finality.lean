import TagSync.Proofs.Holding
import TagSync.Proofs.Retry
import TagSync.Proofs.Rewrites
import TagSync.Proofs.SelfImport
import TagSync.Proofs.Withdrawals

/-!
# A propagated deletion is final

A pass may meet the deletion of the stream that it copies: the requests of both may come in any
order, and the whole deletion may fall between two requests of the pass. A pass creates streams only
while it copies, and then it has read its source live and has seen it held
(`Copying`). So the deletion finds the source held and marks it, and the deletion pass of the
source's own cluster takes the copies back (`propagated_deletion_is_final`).
-/

set_option autoImplicit false

namespace TagSync

open Api
open Plan (Exchange)

/-! ## Exchanges of several parties -/

section Share

variable {τ : Type} [DecidableEq τ] {party other : τ}

def share (party : τ) (trace : List (τ × Exchange)) : List Exchange :=
  trace.filterMap fun x => if x.1 = party then some x.2 else none

@[simp] theorem share_append (first second : List (τ × Exchange)) :
    share party (first ++ second) = share party first ++ share party second :=
  List.filterMap_append

theorem mem_share {trace : List (τ × Exchange)} {e : Exchange} :
    e ∈ share party trace ↔ (party, e) ∈ trace := by
  rw [share, List.mem_filterMap]
  constructor
  · rintro ⟨⟨owner, x⟩, hx, h⟩
    by_cases howner : owner = party
    · rw [if_pos howner] at h
      obtain rfl := Option.some.inj h
      exact howner ▸ hx
    · rw [if_neg howner] at h
      cases h
  · intro h
    exact ⟨_, h, if_pos rfl⟩

theorem share_cons_self (e : Exchange) (trace : List (τ × Exchange)) :
    share party ((party, e) :: trace) = e :: share party trace :=
  List.filterMap_cons_some (if_pos rfl)

theorem share_cons_of_ne (h : other ≠ party) (e : Exchange) (trace : List (τ × Exchange)) :
    share party ((other, e) :: trace) = share party trace :=
  List.filterMap_cons_none (if_neg h)

@[simp] theorem share_map (exchanges : List Exchange) :
    share party (exchanges.map (party, ·)) = exchanges := by
  simp [share, List.filterMap_map]

theorem share_subset (party : τ) (trace : List (τ × Exchange)) :
    share party trace ⊆ trace.map (·.2) :=
  fun _ he => List.mem_map_of_mem (mem_share.mp he)

/-- A trace can be split where a share is split at one of its exchanges. -/
theorem exists_split_of_share {trace : List (τ × Exchange)} {before after : List Exchange}
    {e : Exchange} (h : share party trace = before ++ e :: after) :
    ∃ earlier later, trace = earlier ++ (party, e) :: later ∧ share party earlier = before ∧
      share party later = after := by
  obtain ⟨earlier, rest, rfl, hbefore, hrest⟩ := List.filterMap_eq_append_iff.mp h
  obtain ⟨others, ⟨owner, x⟩, later, rfl, hothers, hx, hafter⟩ :=
    List.filterMap_eq_cons_iff.mp hrest
  by_cases howner : owner = party
  · rw [if_pos howner] at hx
    obtain rfl := Option.some.inj hx
    refine ⟨earlier ++ others, later, ?_, ?_, hafter⟩
    · rw [← howner, List.append_assoc]
    · have hnone : share party others = [] := List.filterMap_eq_nil_iff.mpr hothers
      rw [share_append, hnone, List.append_nil]
      exact hbefore
  · rw [if_neg howner] at hx
    cases hx

end Share

/-! ## Turns -/

section Turns

variable {τ σ α : Type} [DecidableEq τ] {serve : σ → String → (call : Call) → call.Reply × σ}

/-- Runs plans of several parties against servers, one request at each turn of a party. Gives all
exchanges, what is left of the plans, and the last state. -/
def takeTurns (serve : σ → String → (call : Call) → call.Reply × σ) :
    List τ → (τ → Plan α) → σ → List (τ × Exchange) × (τ → Plan α) × σ
  | [], plans, s => ([], plans, s)
  | party :: turns, plans, s =>
    match plans party with
    | .done _ => takeTurns serve turns plans s
    | .ask cluster call next =>
      let answer := serve s cluster call
      let (trace, rest) :=
        takeTurns serve turns (Function.update plans party (next answer.1)) answer.2
      ((party, ⟨cluster, call, answer.1⟩) :: trace, rest)

def Plan.isDone : Plan α → Bool
  | .done _ => true
  | .ask _ _ _ => false

/-- The share of a party is what its plan asks up to what is left of it. -/
theorem run_takeTurns {party : τ} {turns : List τ} {plans : τ → Plan α} {s : σ}
    {rest : List Exchange} {a : α}
    (h : Plan.Run ((takeTurns serve turns plans s).2.1 party) rest a) :
    Plan.Run (plans party) (share party (takeTurns serve turns plans s).1 ++ rest) a := by
  -- A turn of this party takes the first exchange off its plan; any other turn leaves it alone.
  induction turns generalizing plans s with
  | nil => exact h
  | cons turn turns ih =>
      cases hplan : plans turn with
      | done b =>
          simp only [takeTurns, hplan] at h ⊢
          exact ih h
      | ask cluster call next =>
          simp only [takeTurns, hplan] at h ⊢
          have hrest := ih h
          by_cases hturn : turn = party
          · subst hturn
            rw [Function.update_self] at hrest
            rw [share_cons_self, hplan]
            exact .ask _ hrest
          · rw [Function.update_of_ne (Ne.symm hturn)] at hrest
            rwa [share_cons_of_ne hturn]

/-- The exchanges of all parties are served. -/
theorem leads_takeTurns {step : σ → Exchange → σ → Prop}
    (hstep : ∀ s cluster call, step s ⟨cluster, call, (serve s cluster call).1⟩
      (serve s cluster call).2) (turns : List τ) (plans : τ → Plan α) (s : σ) :
    Leads step s ((takeTurns serve turns plans s).1.map (·.2))
      (takeTurns serve turns plans s).2.2 := by
  induction turns generalizing plans s with
  | nil => exact .nil s
  | cons turn turns ih =>
      cases hplan : plans turn with
      | done b =>
          simp only [takeTurns, hplan]
          exact ih plans s
      | ask cluster call next =>
          simp only [takeTurns, hplan]
          exact .cons (hstep s cluster call) (ih _ _)

/-- Whether some turns bring the plans of these parties to their end, in a state of that kind. -/
def turnsEnd (serve : σ → String → (call : Call) → call.Reply × σ) (turns : List τ)
    (plans : τ → Plan α) (s : σ) (parties : List τ) (P : σ → Bool) : Bool :=
  let (_, left, last) := takeTurns serve turns plans s
  parties.all (fun party => (left party).isDone) && P last

/-- If they do, there are exchanges of which each of the parties has a run of its plan. -/
theorem exists_of_turnsEnd {step : σ → Exchange → σ → Prop}
    (hstep : ∀ s cluster call, step s ⟨cluster, call, (serve s cluster call).1⟩
      (serve s cluster call).2) {turns : List τ} {plans : τ → Plan α} {s : σ} {parties : List τ}
    {P : σ → Bool} (h : turnsEnd serve turns plans s parties P = true) :
    ∃ trace s', Leads step s (trace.map (·.2)) s' ∧
      (∀ party ∈ parties, ∃ a, Plan.Run (plans party) (share party trace) a) ∧ P s' = true := by
  obtain ⟨hall, hP⟩ := Bool.and_eq_true_iff.mp h
  refine ⟨_, _, leads_takeTurns hstep turns plans s, fun party hparty => ?_, hP⟩
  have hdone := List.all_eq_true.mp hall party hparty
  cases hplan : (takeTurns serve turns plans s).2.1 party with
  | done a =>
      have hrun := run_takeTurns (hplan ▸ Plan.Run.done a)
      rw [List.append_nil] at hrun
      exact ⟨a, hrun⟩
  | ask cluster call next =>
      rw [hplan] at hdone
      cases hdone

end Turns

/-! ## Passes that create streams -/

/-- The exchange creates no stream. -/
def CreatesNothing (e : Exchange) : Prop := ∀ ns stream, e.call ≠ .createStream ns stream

theorem createsNothing_of_isRetirement {e : Exchange} (h : e.call.isRetirement = true) :
    CreatesNothing e := by
  intro ns stream hcall
  rw [hcall] at h
  cases h

theorem createsNothing_of_get {e : Exchange} (h : e.method = .get) : CreatesNothing e := by
  intro ns stream hcall
  rw [Exchange.method, hcall] at h
  cases h

/-- A pass that does not copy creates nothing. -/
theorem PassRun.createsNothing_or_copying {fleet : Fleet} {ns name : String}
    {exchanges : List Exchange} {outcome : Except SyncError Unit}
    (h : PassRun fleet ns name exchanges outcome) :
    (∀ e ∈ exchanges, CreatesNothing e) ∨ ∃ parts source reads holding copies errors,
      Copying fleet ns name parts source reads holding copies errors ∧
      exchanges = reads ++ source.streamRead ns parts :: (holding ++ copies) := by
  rcases h.cases_source with ⟨hread, -⟩ | ⟨parts, source, reads, rest, found, hsequel, rfl⟩
  · exact Or.inl fun e he => createsNothing_of_get (hread e he)
  have idle : (∀ e ∈ rest, CreatesNothing e) →
      ∀ e ∈ reads ++ source.streamRead ns parts :: rest, CreatesNothing e := by
    intro hrest
    rw [List.append_cons]
    exact List.forall_mem_append.mpr
      ⟨fun e he => createsNothing_of_get (found.method_eq e he), hrest⟩
  -- Only a pass that comes to copying creates anything.
  cases hsequel with
  | idle => exact Or.inl (idle (by simp))
  | retiring _ _ hretiring =>
      refine Or.inl (idle fun e he n stream hcall => ?_)
      rcases hretiring.asks e he with ⟨-, hdelete⟩ | ⟨-, hread⟩ | ⟨_, _, -, -, hset⟩
      · cases hcall.symm.trans hdelete
      · cases hcall.symm.trans hread
      · cases hcall.symm.trans hset
  | unheld _ hhold =>
      refine Or.inl (idle fun e he n stream hcall => ?_)
      cases hcall.symm.trans (hold_asks _ _ hhold e he).2
  | copying hcopying => exact Or.inr ⟨_, _, _, _, _, _, hcopying, rfl⟩

namespace Copying

variable {fleet : Fleet} {ns name : String} {parts : TagName} {source : Source}
  {reads holding copies : List Exchange} {errors : List SyncError}

theorem exchange_cases (h : Copying fleet ns name parts source reads holding copies errors) :
    ∀ e ∈ reads ++ source.streamRead ns parts :: (holding ++ copies), e.method = .get ∨
      e.call = source.stream.holdCall ∨
      e.cluster ≠ source.cluster ∧ ∃ cluster, BelongsToCopy source parts.tag cluster e := by
  rw [List.append_cons]
  refine List.forall_mem_append.mpr ⟨fun e he => Or.inl (h.found.method_eq e he), ?_⟩
  refine List.forall_mem_append.mpr ⟨fun e he => ?_, fun e he => ?_⟩
  · exact Or.inr (Or.inl (hold_asks _ _ h.held e he).2)
  · obtain ⟨cluster, -, hbelongs⟩ := h.belongs e he
    exact Or.inr (Or.inr ⟨h.cluster_ne e he, cluster, hbelongs⟩)

theorem deletes_nothing (h : Copying fleet ns name parts source reads holding copies errors) :
    ∀ e ∈ reads ++ source.streamRead ns parts :: (holding ++ copies),
      ∀ n s, e.call ≠ .deleteStream n s := by
  intro e he n s hcall
  rcases h.exchange_cases e he with hget | hhold | ⟨-, cluster, ⟨-, hprep⟩ | ⟨_, -, -, himport⟩⟩
  · rw [Exchange.method, hcall] at hget
    cases hget
  · cases hhold.symm.trans hcall
  · rw [hcall] at hprep
    cases hprep
  · cases himport.symm.trans hcall

theorem not_leavesUnmanaged (h : Copying fleet ns name parts source reads holding copies errors) :
    ∀ e ∈ reads ++ source.streamRead ns parts :: (holding ++ copies), ¬ LeavesUnmanaged e := by
  intro e he hleaves
  rcases h.exchange_cases e he with hget | hhold | ⟨-, cluster, hbelongs⟩
  · cases hleaves.method_eq.symm.trans hget
  · exact not_leavesUnmanaged_hold hhold hleaves
  · exact hbelongs.not_leavesUnmanaged hleaves

theorem createsNothing_at_source
    (h : Copying fleet ns name parts source reads holding copies errors) :
    ∀ e ∈ reads ++ source.streamRead ns parts :: (holding ++ copies),
      e.cluster = source.cluster → CreatesNothing e := by
  intro e he hcluster
  rcases h.exchange_cases e he with hget | hhold | ⟨hne, -⟩
  · exact createsNothing_of_get hget
  · intro n stream hcall
    cases hhold.symm.trans hcall
  · exact absurd hcluster hne

end Copying

/-! ## Deletions with healthy clusters -/

theorem World.delete_error {w : World} {cluster ns name : String} {cause : CallError}
    (h : (w.delete cluster ns name).1 = .error cause) : cause.isNotFound = true := by
  rcases w.delete_reply cluster ns name with hnone | hdone
  · obtain rfl := Except.error.inj (hnone.symm.trans h)
    rfl
  · cases hdone.symm.trans h

theorem Leads.isNotFound_of_delete {digest : Option String} {w w' : World}
    {exchanges : List Exchange} (h : Leads (Serves digest fun _ => False) w exchanges w')
    {cluster ns name : String} {cause : CallError}
    (he : ⟨cluster, .deleteStream ns name, .error cause⟩ ∈ exchanges) :
    cause.isNotFound = true := by
  obtain ⟨earlier, later, rfl⟩ := List.append_of_mem he
  obtain ⟨t, -, hrest⟩ := leads_append_iff.mp h
  obtain ⟨u, hserve | ⟨hfalse, -⟩, -⟩ := leads_cons_iff.mp hrest
  · have hreply : (t.delete cluster ns name).1 = .error cause := congrArg Prod.fst hserve
    exact World.delete_error hreply
  · exact hfalse.elim

/-- A retirement of which no deletion fails deletes on every other cluster. -/
theorem Retirement.exists_delete {fleet : Fleet} {owner : String} {stream : ImageStream}
    {exchanges : List Exchange} {outcome : Except SyncError Unit}
    (h : Retirement fleet owner stream exchanges outcome)
    (served : ∀ cluster cause,
      ⟨cluster, .deleteStream stream.namespaceName stream.name, .error cause⟩ ∈ exchanges →
      cause.isNotFound = true)
    {c : String} (hc : c ∈ fleet.names) (hne : c ≠ owner) :
    ∃ e ∈ exchanges, e.cluster = c ∧
      e.call = .deleteStream stream.namespaceName stream.name := by
  have hmem : c ∈ fleet.names.filter (· != owner) := List.mem_filter.mpr ⟨hc, by simpa using hne⟩
  cases h with
  | @stopped settled last cluster cause left hsplit hsettled hlast =>
      -- A deletion that is served does not stop a retirement.
      obtain ⟨rfl, hcause⟩ := hlast
      cases (served cluster cause (by simp)).symm.trans hcause
  | released hsplit hsettled =>
      rw [hsplit] at hmem
      obtain ⟨e, he, rfl⟩ := List.mem_map.mp hmem
      obtain ⟨cluster, reply, rfl, -⟩ := hsettled e he
      exact ⟨_, List.mem_append_left _ he, rfl, rfl⟩

/-- With healthy clusters, whatever else they serve, a retirement deletes its stream on every other
cluster. -/
theorem exists_delete_of_retire {digest : Option String} {fleet : Fleet} {owner ns name : String}
    {stored : StoredStream} {exchanges all : List Exchange} {outcome : Except SyncError Unit}
    {w w' : World} (named : stored.IsNamed ns name) (owned : owner ∈ fleet.names)
    (run : (retire fleet owner stored.stream).Run exchanges outcome)
    (served : Leads (Serves digest fun _ => False) w all w') (part : exchanges ⊆ all) {c : String}
    (hc : c ∈ fleet.names) (hne : c ≠ owner) :
    ∃ e ∈ exchanges, e.cluster = c ∧ e.call = .deleteStream ns name := by
  have hretirement := Retirement.of_run owned named.isProper.properNamespace
    named.isProper.properName run
  obtain ⟨e, he, hcluster, hcall⟩ := hretirement.exists_delete
    (fun _ _ hmem => served.isNotFound_of_delete (part hmem)) hc hne
  rw [named.namespaceName_eq, named.anyName_eq] at hcall
  exact ⟨e, he, hcluster, hcall⟩

theorem Leads.unique {digest : Option String} {w a b : World} {exchanges : List Exchange}
    (ha : Leads (Serves digest fun _ => False) w exchanges a)
    (hb : Leads (Serves digest fun _ => False) w exchanges b) : a = b := by
  induction exchanges generalizing w with
  | nil => exact (leads_nil_iff.mp ha).trans (leads_nil_iff.mp hb).symm
  | cons e exchanges ih =>
      obtain ⟨t, ht | ⟨hfalse, -⟩, ha⟩ := leads_cons_iff.mp ha
      · obtain ⟨u, hu | ⟨hfalse, -⟩, hb⟩ := leads_cons_iff.mp hb
        · obtain rfl : t = u := (Prod.mk.inj (ht.symm.trans hu)).2
          exact ih ha hb
        · exact hfalse.elim
      · exact hfalse.elim

/-! ## A pass that meets a deletion -/

/-- Who sends requests while a stream is being deleted. -/
inductive Party where
  /-- The pass for a tag of the stream. -/
  | pass
  /-- The retirement of the stream. -/
  | retirement
  deriving DecidableEq

/-- Healthy clusters serve a pass and a retirement of its stream, one request at a time, and nobody
else writes. The pass may be some way on, at `start`, when the retirement begins with the stream as
it is stored on its owner then, being deleted and managed; the exchanges after that are in `trace`.
As nobody else writes, the stream has been marked for deletion before the pass begins. -/
structure Encounter (digest : Option String) (fleet : Fleet) (ns name : String) (parts : TagName)
    (owner : String) (doomed : StoredStream) (start : List Exchange)
    (trace : List (Party × Exchange)) (w marked w' : World) : Prop where
  started : Leads (Serves digest fun _ => False) w start marked
  stored : marked.stream? owner ns parts.stream = some doomed
  terminating : doomed.stream.metadata.isTerminating = true
  managed : doomed.stream.metadata.isManaged = true
  served : Leads (Serves digest fun _ => False) marked (trace.map (·.2)) w'
  pass : ∃ outcome, (syncTag fleet ns name).Run (start ++ share .pass trace) outcome
  retirement : ∃ outcome, (retire fleet owner doomed.stream).Run (share .retirement trace) outcome

namespace Encounter

variable {digest : Option String} {fleet : Fleet} {ns name : String} {parts : TagName}
  {owner : String} {doomed : StoredStream} {start : List Exchange}
  {trace : List (Party × Exchange)} {w marked w' : World}

/-- All exchanges, those of the start as well. -/
def whole (start : List Exchange) (trace : List (Party × Exchange)) : List (Party × Exchange) :=
  start.map (.pass, ·) ++ trace

theorem map_whole : (whole start trace).map (·.2) = start ++ trace.map (·.2) := by
  simp [whole]

theorem leads (h : Encounter digest fleet ns name parts owner doomed start trace w marked w') :
    Leads (Serves digest fun _ => False) w ((whole start trace).map (·.2)) w' := by
  rw [map_whole]
  exact leads_append_iff.mpr ⟨marked, h.started, h.served⟩

theorem named (h : Encounter digest fleet ns name parts owner doomed start trace w marked w')
    (sound : w.Sound) : doomed.IsNamed ns parts.stream :=
  h.started.sound sound h.stored

theorem not_isLive_owner
    (h : Encounter digest fleet ns name parts owner doomed start trace w marked w') :
    ¬ marked.IsLive owner ns parts.stream := by
  rintro ⟨stored, hs, hlive⟩
  obtain rfl := Option.some.inj (hs.symm.trans h.stored)
  cases hlive.symm.trans h.terminating

theorem isRetirement
    (h : Encounter digest fleet ns name parts owner doomed start trace w marked w')
    {e : Exchange} (he : (Party.retirement, e) ∈ whole start trace) :
    e.call.isRetirement = true := by
  obtain ⟨outcome, hrun⟩ := h.retirement
  refine retire_only _ _ _ hrun e (mem_share.mpr ?_)
  simpa [whole] using he

/-- The retirement takes the managed finalizer off on its owner only. -/
theorem not_leavesUnmanaged
    (h : Encounter digest fleet ns name parts owner doomed start trace w marked w')
    {e : Exchange} (he : (Party.retirement, e) ∈ whole start trace) (hne : e.cluster ≠ owner) :
    ¬ LeavesUnmanaged e := by
  intro hleaves
  obtain ⟨outcome, hrun⟩ := h.retirement
  have hmem : e ∈ share .retirement trace := mem_share.mpr (by simpa [whole] using he)
  rcases (Retiring.of_run hrun).asks e hmem with ⟨-, hcall⟩ | ⟨hcluster, -⟩ | ⟨_, _, -, hcluster, -⟩
  · have hmethod := hleaves.method_eq
    rw [Exchange.method, hcall] at hmethod
    cases hmethod
  · exact hne hcluster
  · exact hne hcluster

theorem exists_delete
    (h : Encounter digest fleet ns name parts owner doomed start trace w marked w')
    (sound : w.Sound) (owned : owner ∈ fleet.names) {c : String} (hc : c ∈ fleet.names)
    (hne : c ≠ owner) : ∃ e, (Party.retirement, e) ∈ trace ∧ e.cluster = c ∧
      e.call = .deleteStream ns parts.stream := by
  obtain ⟨outcome, hrun⟩ := h.retirement
  obtain ⟨e, he, hcluster, hcall⟩ := exists_delete_of_retire (h.named sound) owned hrun h.served
    (share_subset _ _) hc hne
  exact ⟨e, mem_share.mp he, hcluster, hcall⟩

/-- Where the pass creates nothing, the retirement leaves no live stream. -/
theorem not_isLive (h : Encounter digest fleet ns name parts owner doomed start trace w marked w')
    (sound : w.Sound) (owned : owner ∈ fleet.names)
    (hpass : ∀ e ∈ start ++ share .pass trace, CreatesNothing e) {c : String}
    (hc : c ∈ fleet.names) : ¬ w'.IsLive c ns parts.stream := by
  have hnothing : ∀ e ∈ trace.map (·.2), e.cluster = c → CreatesNothing e := by
    intro e he _
    obtain ⟨⟨party, e⟩, hmem, rfl⟩ := List.mem_map.mp he
    cases party with
    | pass => exact hpass e (List.mem_append_right _ (mem_share.mpr hmem))
    | retirement =>
        exact createsNothing_of_isRetirement (h.isRetirement (List.mem_append_right _ hmem))
  by_cases hne : c = owner
  · subst hne
    exact h.served.not_isLive hnothing h.not_isLive_owner
  · obtain ⟨e, he, hcluster, hcall⟩ := h.exists_delete sound owned hc hne
    exact h.served.not_isLive_of_deleted (List.mem_map_of_mem he) hcluster hcall hnothing

/-! ### Passes that copy -/

section Copying

variable {source : Source} {reads holding copies : List Exchange} {errors : List SyncError}

theorem share_whole : share .pass (whole start trace) = start ++ share .pass trace := by
  simp [whole]

/-- Where the pass copies, its source is live when it is read, and no stream is created before. -/
theorem source_read (h : Encounter digest fleet ns name parts owner doomed start trace w marked w')
    (found : Found fleet ns name parts source reads) {rest : List Exchange}
    (hpass : start ++ share .pass trace = reads ++ source.streamRead ns parts :: rest)
    (hlive : source.stream.metadata.isTerminating = false) :
    ∃ earlier later t, whole start trace = earlier ++ (.pass, source.streamRead ns parts) :: later ∧
      share .pass later = rest ∧ (∀ x ∈ earlier, CreatesNothing x.2) ∧
      Leads (Serves digest fun _ => False) w (earlier.map (·.2)) t ∧
      Leads (Serves digest fun _ => False) t (later.map (·.2)) w' ∧
      ∃ stored, t.stream? source.cluster ns parts.stream = some stored ∧
        stored.stream = source.stream ∧ t.IsLive source.cluster ns parts.stream := by
  obtain ⟨earlier, later, hsplit, hearlier, hlater⟩ :=
    exists_split_of_share (share_whole.trans hpass)
  have hleads := h.leads
  rw [hsplit, List.map_append, List.map_cons] at hleads
  -- The trace is cut at the read of the source, and the world is taken from there.
  obtain ⟨t, hbefore, hrest⟩ := leads_append_iff.mp hleads
  obtain ⟨u, hread, hafter⟩ := leads_cons_iff.mp hrest
  obtain ⟨rfl, stored, hs, hstream⟩ := Serves.stored_of_read hread
  refine ⟨earlier, later, u, hsplit, hlater, ?_, hbefore, hafter, stored, hs, hstream,
    stored, hs, hstream ▸ hlive⟩
  rintro ⟨party, e⟩ hmem
  cases party with
  | pass =>
      have he : e ∈ reads := hearlier ▸ mem_share.mpr hmem
      exact createsNothing_of_get (found.method_eq e (List.mem_append_left _ he))
  | retirement =>
      exact createsNothing_of_isRetirement
        (h.isRetirement (hsplit ▸ List.mem_append_left _ hmem))

/-- The source of a pass that copies is not on the owner's cluster: there the stream is not live
from some moment on, and live when it is read as the source. -/
theorem source_ne_owner
    (h : Encounter digest fleet ns name parts owner doomed start trace w marked w')
    (hcopying : Copying fleet ns name parts source reads holding copies errors)
    (hpass : start ++ share .pass trace =
      reads ++ source.streamRead ns parts :: (holding ++ copies)) : source.cluster ≠ owner := by
  rintro rfl
  obtain ⟨earlier, later, t, hsplit, -, hnothing, hbefore, hafter, stored, hs, hstream, hlive⟩ :=
    h.source_read hcopying.found hpass hcopying.live
  rcases List.append_eq_append_iff.mp hsplit with ⟨between, rfl, -⟩ | ⟨between, hstart, -⟩
  · -- The stream is read after it is marked, and nothing is created in between.
    rw [List.map_append, leads_append_iff] at hbefore
    obtain ⟨m, hstart, hbetween⟩ := hbefore
    obtain rfl : m = marked := Leads.unique hstart (by simpa using h.started)
    refine hbetween.not_isLive (fun e he _ => ?_) h.not_isLive_owner hlive
    obtain ⟨x, hx, rfl⟩ := List.mem_map.mp he
    exact hnothing x (List.mem_append_right _ hx)
  · -- It is read before it is marked, and nothing is deleted in between.
    have hstarted := h.started
    have hlist : start = earlier.map (·.2) ++ between.map (·.2) := by
      rw [← List.map_append, ← hstart]
      simp
    rw [hlist, leads_append_iff] at hstarted
    obtain ⟨m, hearlier, hbetween⟩ := hstarted
    obtain rfl : m = t := Leads.unique hearlier hbefore
    refine h.not_isLive_owner (hbetween.isLive (fun e he _ => ?_) hlive)
    refine hcopying.deletes_nothing e ?_ _ _
    rw [← hpass, hlist]
    exact List.mem_append_left _ (List.mem_append_right _ he)

/-- On the source's cluster nobody creates a stream, and nobody lets one go. -/
theorem idle_at_source
    (h : Encounter digest fleet ns name parts owner doomed start trace w marked w')
    (hcopying : Copying fleet ns name parts source reads holding copies errors)
    (hpass : start ++ share .pass trace =
      reads ++ source.streamRead ns parts :: (holding ++ copies)) :
    ∀ e ∈ (whole start trace).map (·.2), e.cluster = source.cluster →
      CreatesNothing e ∧ ¬ LeavesUnmanaged e := by
  intro e he hcluster
  obtain ⟨⟨party, e⟩, hmem, rfl⟩ := List.mem_map.mp he
  have hcluster : e.cluster = source.cluster := hcluster
  cases party with
  | pass =>
      have he : e ∈ reads ++ source.streamRead ns parts :: (holding ++ copies) := by
        rw [← hpass, ← share_whole]
        exact mem_share.mpr hmem
      exact ⟨hcopying.createsNothing_at_source e he hcluster, hcopying.not_leavesUnmanaged e he⟩
  | retirement =>
      -- The retirement creates nothing, and releases the stream on the owner only.
      have hne : e.cluster ≠ owner := hcluster ▸ h.source_ne_owner hcopying hpass
      exact ⟨createsNothing_of_isRetirement (h.isRetirement hmem), h.not_leavesUnmanaged hmem hne⟩

/-- In the end the source of a pass that copies is not live: the retirement deletes it, and not
before it is read. -/
theorem not_isLive_source
    (h : Encounter digest fleet ns name parts owner doomed start trace w marked w')
    (sound : w.Sound) (owned : owner ∈ fleet.names)
    (hcopying : Copying fleet ns name parts source reads holding copies errors)
    (hpass : start ++ share .pass trace =
      reads ++ source.streamRead ns parts :: (holding ++ copies)) :
    ¬ w'.IsLive source.cluster ns parts.stream := by
  have hidle := h.idle_at_source hcopying hpass
  obtain ⟨earlier, later, t, hsplit, -, hnothing, hbefore, hafter, -, -, -, hlive⟩ :=
    h.source_read hcopying.found hpass hcopying.live
  obtain ⟨e, he, hcluster, hcall⟩ := h.exists_delete sound owned hcopying.found.mem_names
    (h.source_ne_owner hcopying hpass)
  have hwhole : (Party.retirement, e) ∈ whole start trace := List.mem_append_right _ he
  rw [hsplit] at hwhole hidle
  -- The deletion comes before the read of the stream or after it.
  rcases List.mem_append.mp hwhole with hearly | hlate
  · -- A stream that was deleted would not be read live.
    refine absurd hlive (hbefore.not_isLive_of_deleted (List.mem_map_of_mem hearly) hcluster hcall
      fun x hx _ => ?_)
    obtain ⟨y, hy, rfl⟩ := List.mem_map.mp hx
    exact hnothing y hy
  · rcases List.mem_cons.mp hlate with heq | hlate
    · cases heq
    · refine hafter.not_isLive_of_deleted (List.mem_map_of_mem hlate) hcluster hcall
        fun x hx hx' => (hidle x ?_ hx').1
      rw [List.map_append, List.map_cons]
      exact List.mem_append_right _ (List.mem_cons_of_mem _ hx)

/-- But it is held: it was held when it was read, or the pass has put the finalizer on it. -/
theorem manages_source
    (h : Encounter digest fleet ns name parts owner doomed start trace w marked w')
    (sound : w.Sound)
    (hcopying : Copying fleet ns name parts source reads holding copies errors)
    (hpass : start ++ share .pass trace =
      reads ++ source.streamRead ns parts :: (holding ++ copies)) :
    w'.Manages source.cluster ns parts.stream := by
  have hidle := h.idle_at_source hcopying hpass
  obtain ⟨earlier, later, t, hsplit, hlater, -, hbefore, hafter, stored, hs, hstream, -⟩ :=
    h.source_read hcopying.found hpass hcopying.live
  -- After the read nobody takes the managed finalizer off.
  have hkeep : ∀ e ∈ later.map (·.2), e.cluster = source.cluster → ¬ LeavesUnmanaged e := by
    intro e he hcluster
    refine (hidle e ?_ hcluster).2
    rw [hsplit, List.map_append, List.map_cons]
    exact List.mem_append_right _ (List.mem_cons_of_mem _ he)
  cases HoldRun.of_run hcopying.held with
  | managed hm => exact hafter.manages hkeep ⟨stored, hs, hstream ▸ hm⟩
  | @confirmed answer hm hsendable =>
      have hnamed : stored.IsNamed ns parts.stream := hbefore.sound sound hs
      have hshare : share .pass later =
          [] ++ ⟨source.cluster, source.stream.holdCall, .ok answer⟩ :: copies := hlater
      obtain ⟨front, back, rfl, -, -⟩ := exists_split_of_share hshare
      rw [List.map_append, List.map_cons] at hafter hkeep
      obtain ⟨u, -, hrest⟩ := leads_append_iff.mp hafter
      obtain ⟨v, hconfirmed, hback⟩ := leads_cons_iff.mp hrest
      have hv : v.Manages source.cluster source.stream.namespaceName source.stream.name :=
        Serves.manages_of_finalizers hconfirmed (by simp)
      rw [← hstream, hnamed.namespaceName_eq, hnamed.anyName_eq] at hv
      exact hback.manages (fun e he => hkeep e
        (List.mem_append_right _ (List.mem_cons_of_mem _ he))) hv

end Copying

end Encounter

/-! ## Deletion passes -/

/-- Healthy clusters serve the deletion passes of their controllers, one request at a time: each
starts from a stream that is being deleted, and every cluster on which the stream is being deleted
at first has one for what it stores. -/
structure DeletionPasses {ι : Type} [DecidableEq ι] (digest : Option String) (fleet : Fleet)
    (filter : TagFilter) (ns stream : String) (watched : ι → String × ImageStream)
    (trace : List (ι × Exchange)) (w w' : World) : Prop where
  served : Leads (Serves digest fun _ => False) w (trace.map (·.2)) w'
  terminating : ∀ i, (watched i).2.metadata.isTerminating = true
  runs : ∀ i, ∃ outcome,
    (reactTo fleet filter (watched i).1 (watched i).2).Run (share i trace) outcome
  covers : ∀ cluster ∈ fleet.names, ∀ stored, w.stream? cluster ns stream = some stored →
    stored.stream.metadata.isTerminating = true → ∃ i, watched i = (cluster, stored.stream)

namespace DeletionPasses

variable {ι : Type} [DecidableEq ι] {digest : Option String} {fleet : Fleet} {filter : TagFilter}
  {ns stream : String} {watched : ι → String × ImageStream} {trace : List (ι × Exchange)}
  {w w' : World}

theorem createsNothing (h : DeletionPasses digest fleet filter ns stream watched trace w w') :
    ∀ e ∈ trace.map (·.2), CreatesNothing e := by
  intro e he
  obtain ⟨⟨i, e⟩, hmem, rfl⟩ := List.mem_map.mp he
  obtain ⟨outcome, hrun⟩ := h.runs i
  rw [reactTo, if_pos (h.terminating i)] at hrun
  split at hrun
  · exact createsNothing_of_isRetirement (retire_only _ _ _ hrun e (mem_share.mpr hmem))
  · obtain ⟨hnone, -⟩ := Job.run_pure_iff.mp hrun
    cases hnone ▸ mem_share.mpr hmem

theorem not_isLive (h : DeletionPasses digest fleet filter ns stream watched trace w w')
    {c : String} (hnot : ¬ w.IsLive c ns stream) : ¬ w'.IsLive c ns stream :=
  h.served.not_isLive (fun e he _ => h.createsNothing e he) hnot

/-- If the stream is being deleted and managed on one cluster, it is live nowhere afterwards. -/
theorem not_isLive_of_doomed
    (h : DeletionPasses digest fleet filter ns stream watched trace w w') (sound : w.Sound)
    {owner : String} (owned : owner ∈ fleet.names) (hnot : ¬ w.IsLive owner ns stream)
    (hmanaged : w.Manages owner ns stream) {c : String} (hc : c ∈ fleet.names) :
    ¬ w'.IsLive c ns stream := by
  obtain ⟨stored, hs, hm⟩ := hmanaged
  have hterm : stored.stream.metadata.isTerminating = true := by
    by_contra hlive
    exact hnot ⟨stored, hs, Bool.eq_false_iff.mpr hlive⟩
  -- The owner has a deletion pass of its own, which deletes on every other cluster.
  obtain ⟨i, hi⟩ := h.covers owner owned stored hs hterm
  obtain ⟨outcome, hrun⟩ := h.runs i
  rw [hi, reactTo, if_pos hterm, if_pos hm] at hrun
  by_cases hne : c = owner
  · exact hne ▸ h.not_isLive hnot
  · obtain ⟨e, he, hcluster, hcall⟩ := exists_delete_of_retire (sound hs) owned hrun h.served
      (share_subset _ _) hc hne
    exact h.served.not_isLive_of_deleted (share_subset _ _ he) hcluster hcall
      fun e he _ => h.createsNothing e he

end DeletionPasses

/-- **A propagated deletion is final.** Let a pass meet the retirement of a stream that is being
deleted and managed, request by request in any order, and let the deletion passes follow of all
clusters on which the stream is being deleted then, in any order as well. In the end no cluster has
a live copy of the stream. -/
theorem propagated_deletion_is_final {ι : Type} [DecidableEq ι] {digest : Option String}
    {fleet : Fleet} {filter : TagFilter} {ns name : String} {parts : TagName} {owner : String}
    {doomed : StoredStream} {start : List Exchange} {trace : List (Party × Exchange)}
    {watched : ι → String × ImageStream} {later : List (ι × Exchange)} {w marked w' w'' : World}
    (sound : w.Sound) (named : TagName.parse? name = some parts) (owned : owner ∈ fleet.names)
    (met : Encounter digest fleet ns name parts owner doomed start trace w marked w')
    (passes : DeletionPasses digest fleet filter ns parts.stream watched later w' w'') :
    ∀ cluster ∈ fleet.names, ¬ w''.IsLive cluster ns parts.stream := by
  intro cluster hc
  obtain ⟨outcome, hrun⟩ := met.pass
  -- A pass that creates nothing leaves it at what the retirement deletes. One that creates copies
  -- has a source that ends up being deleted and managed, and the deletion pass of that one follows.
  rcases (PassRun.of_run hrun).createsNothing_or_copying with
    hnothing | ⟨parts', source, reads, holding, copies, errors, hcopying, hpass⟩
  · exact passes.not_isLive (met.not_isLive sound owned hnothing hc)
  · obtain rfl : parts = parts' := Option.some.inj (named.symm.trans hcopying.found.named)
    have hnot := met.not_isLive_source sound owned hcopying hpass
    have hmanaged := met.manages_source sound hcopying hpass
    exact passes.not_isLive_of_doomed (met.leads.sound sound) hcopying.found.mem_names hnot
      hmanaged hc

/-! ### A deletion in the middle of a pass -/

/-- The stream of `builtStream` while it is being deleted. -/
def doomedTwin : StoredStream where
  stream := { heldStream with metadata := { heldStream.metadata with
    deletionTimestamp := some (.ofEpoch 0 0) } }

/-- The copies while `app.ci` has the stream with its tag and `api.ci` is about to delete it. -/
def twins : String → Option StoredStream
  | "app.ci" => some builtStream
  | "api.ci" => some doomedTwin
  | _ => none

def twinWorld : World := .ofCopies "ci" "app" twins

theorem sound_twinWorld : twinWorld.Sound := by
  refine World.sound_ofCopies fun c stored h => ?_
  rw [twins.eq_def] at h
  split at h
  · obtain rfl := Option.some.inj h
    exact ⟨by decide, by decide, rfl, rfl⟩
  · obtain rfl := Option.some.inj h
    exact ⟨by decide, by decide, rfl, rfl⟩
  · cases h

/-- A pass for the tag, and the retirement of the stream of `api.ci`. -/
def twinPlans : Party → Plan (Except SyncError Unit)
  | .pass => (syncTag twoClusters "ci" "app:latest").run
  | .retirement => (retire twoClusters "api.ci" doomedTwin.stream).run

/-- The whole retirement comes after the third request of the pass, which reads the source. -/
def twinTurns : List Party :=
  .replicate 3 .pass ++ .replicate 3 .retirement ++ .replicate 5 .pass

/-- Whether `api.ci` has a live stream while that of `app.ci` is being deleted. -/
def twinsParted (w : World) : Bool :=
  ((w.stream? "api.ci" "ci" "app").any fun stored => !stored.stream.metadata.isTerminating) &&
    (w.stream? "app.ci" "ci" "app").any fun stored => stored.stream.metadata.isTerminating

theorem encounter_twins : ∃ trace w', twinsParted w' = true ∧
    Encounter none twoClusters "ci" "app:latest" ⟨"app", "latest"⟩ "api.ci" doomedTwin [] trace
      twinWorld twinWorld w' := by
  have hend : turnsEnd (World.serve none) twinTurns twinPlans twinWorld [.pass, .retirement]
      twinsParted = true := by decide +kernel
  have hstep : ∀ (w : World) (cluster : String) (call : Call), Serves none (fun _ => False) w
      ⟨cluster, call, (w.serve none cluster call).1⟩ (w.serve none cluster call).2 :=
    fun _ _ _ => Or.inl rfl
  obtain ⟨trace, w', hserved, hruns, hparted⟩ := exists_of_turnsEnd hstep hend
  refine ⟨trace, w', hparted, .nil _, rfl, rfl, rfl, hserved, ?_, ?_⟩
  · exact hruns .pass (by simp)
  · exact hruns .retirement (by simp)

/-- The copy is taken back by the deletion pass of the source's cluster. -/
theorem late_copy_is_taken_back : ∃ trace w' source w'',
    Encounter none twoClusters "ci" "app:latest" ⟨"app", "latest"⟩ "api.ci" doomedTwin [] trace
      twinWorld twinWorld w' ∧
    w'.IsLive "api.ci" "ci" "app" ∧
    (∃ later, DeletionPasses none twoClusters default "ci" "app"
      (fun _ : Unit => ("app.ci", source)) later w' w'') ∧
    ∀ cluster ∈ twoClusters.names, ¬ w''.IsLive cluster "ci" "app" := by
  obtain ⟨trace, w', hparted, met⟩ := encounter_twins
  rw [twinsParted, Bool.and_eq_true, Option.any_eq_true, Option.any_eq_true] at hparted
  obtain ⟨⟨copy, hcopy, hlive⟩, stored, hs, hterm⟩ := hparted
  rw [Bool.not_eq_true'] at hlive
  let reaction := (reactTo twoClusters default "app.ci" stored.stream).run
  let later := (reaction.exchangesWith (World.serve none) w').map ((), ·)
  -- The copy on `api.ci` is live, so only `app.ci` still has a deletion to see through.
  have passes : DeletionPasses none twoClusters default "ci" "app"
      (fun _ : Unit => ("app.ci", stored.stream)) later w'
      (reaction.play (World.serve none) w').2 := by
    refine ⟨?_, fun _ => hterm, fun _ => ?_, ?_⟩
    · have hlater : later.map (·.2) = reaction.exchangesWith (World.serve none) w' := by
        simp [later]
      rw [hlater]
      exact leads_serve reaction w'
    · rw [share_map]
      exact ⟨_, Plan.run_play _ _ _⟩
    · intro cluster hc other hother hmarked
      have hnames : twoClusters.names = ["api.ci", "app.ci"] := rfl
      rw [hnames, List.mem_pair] at hc
      rcases hc with rfl | rfl
      · obtain rfl := Option.some.inj (hother.symm.trans hcopy)
        cases hmarked.symm.trans hlive
      · obtain rfl := Option.some.inj (hother.symm.trans hs)
        exact ⟨(), rfl⟩
  have hname : TagName.parse? "app:latest" = some ⟨"app", "latest"⟩ := rfl
  exact ⟨trace, w', stored.stream, _, met, ⟨copy, hcopy, hlive⟩, ⟨later, passes⟩,
    propagated_deletion_is_final sound_twinWorld hname (by decide) met passes⟩

end TagSync
