import TagSync.Proofs.Course

/-!
# Targets that do not affect each other

Each cluster has a server of its own, whose answers depend on what was asked of that cluster alone
(`together`). If the servers of two families are the same but for one target, and that target says
the same about the tag, then every other cluster is asked the same in both passes, and the passes
differ in the one copy to the target only (`targets_are_isolated`).
-/

set_option autoImplicit false

namespace TagSync

open Api
open Plan (Exchange)

/-! ## Plans one after the other against servers -/

section Servers

variable {σ α β : Type} (serve : σ → String → (call : Call) → call.Reply × σ)

@[simp] theorem Plan.exchangesWith_pure (a : α) (s : σ) :
    (pure a : Plan α).exchangesWith serve s = [] := rfl

@[simp] theorem Plan.play_pure (a : α) (s : σ) : (pure a : Plan α).play serve s = (a, s) := rfl

theorem Plan.play_bind (p : Plan α) (f : α → Plan β) (s : σ) :
    (p >>= f).play serve s = (f (p.play serve s).1).play serve (p.play serve s).2 := by
  induction p generalizing s with
  | done a => rfl
  | ask cluster call next ih => exact ih _ _

theorem Plan.exchangesWith_bind (p : Plan α) (f : α → Plan β) (s : σ) :
    (p >>= f).exchangesWith serve s =
      p.exchangesWith serve s ++ (f (p.play serve s).1).exchangesWith serve (p.play serve s).2 := by
  induction p generalizing s with
  | done a => rfl
  | ask cluster call next ih => exact congrArg (_ :: ·) (ih _ _)

/-! ## Attempts against servers -/

def attemptWith (job : String → Job Unit) (item : String) (s : σ) : Attempt :=
  ⟨item, (job item).run.exchangesWith serve s, ((job item).run.play serve s).1⟩

/-- Tasks as they are done with servers, one after the other. -/
def attemptsWith (job : String → Job Unit) : List String → σ → List Attempt
  | [], _ => []
  | item :: items, s =>
    attemptWith serve job item s :: attemptsWith job items ((job item).run.play serve s).2

theorem attempted_attemptsWith (job : String → Job Unit) (items : List String) (s : σ) :
    Attempted job items (attemptsWith serve job items s) := by
  induction items generalizing s with
  | nil => exact ⟨rfl, by simp [attemptsWith]⟩
  | cons item items ih =>
      obtain ⟨heach, hrun⟩ := ih ((job item).run.play serve s).2
      refine ⟨congrArg (item :: ·) heach, List.forall_mem_cons.mpr ⟨?_, hrun⟩⟩
      exact Plan.run_play serve (job item).run s

theorem attemptAll_with (job : String → Job Unit) (items : List String) (s : σ) :
    (attemptAll job items).exchangesWith serve s = exchangesOf (attemptsWith serve job items s) ∧
      ((attemptAll job items).play serve s).1 = failuresOf (attemptsWith serve job items s) := by
  induction items generalizing s with
  | nil => exact ⟨rfl, rfl⟩
  | cons item items ih =>
      obtain ⟨hexchanges, hresult⟩ := ih ((job item).run.play serve s).2
      rw [attemptAll, attemptsWith, exchangesOf_cons, failuresOf_cons, ← hexchanges, ← hresult]
      simp only [Plan.exchangesWith_bind, Plan.play_bind, attemptWith]
      cases ((job item).run.play serve s).1 with
      | ok done => exact ⟨by simp, rfl⟩
      | error e => exact ⟨by simp, rfl⟩

end Servers

/-! ## Servers that answer each for themselves -/

variable {τ : Type}

/-- The servers of the clusters as one: each answers by its own state and changes no other. -/
def together (servers : String → τ → (call : Call) → call.Reply × τ) :
    (String → τ) → String → (call : Call) → call.Reply × (String → τ)
  | s, cluster, call =>
    ((servers cluster (s cluster) call).1,
      fun c => if c = cluster then (servers cluster (s cluster) call).2 else s c)

/-- The states are the same but for one cluster. -/
def SameBut (target : String) (s s' : String → τ) : Prop :=
  ∀ c, c ≠ target → s c = s' c

/-- With either servers a plan has the same exchanges and the same result, and the states are then
the same but for one cluster. -/
structure GoesAlike {α : Type} (target : String)
    (servers servers' : String → τ → (call : Call) → call.Reply × τ) (p : Plan α)
    (s s' : String → τ) : Prop where
  exchanges : p.exchangesWith (together servers) s = p.exchangesWith (together servers') s'
  result : (p.play (together servers) s).1 = (p.play (together servers') s').1
  states : SameBut target (p.play (together servers) s).2 (p.play (together servers') s').2

section Families

variable {α : Type} {servers servers' : String → τ → (call : Call) → call.Reply × τ}
  {target : String} {s s' : String → τ}

theorem SameBut.step (h : SameBut target s s')
    (same : ∀ c, c ≠ target → servers c = servers' c) {cluster : String}
    (hne : cluster ≠ target) (call : Call) :
    (together servers s cluster call).1 = (together servers' s' cluster call).1 ∧
      SameBut target (together servers s cluster call).2 (together servers' s' cluster call).2 := by
  have hanswer : servers cluster (s cluster) call = servers' cluster (s' cluster) call := by
    rw [same cluster hne, h cluster hne]
  simp only [together]
  refine ⟨congrArg Prod.fst hanswer, fun c hc => ?_⟩
  simp only [hanswer, h c hc]

theorem SameBut.step_target (h : SameBut target s s') (call call' : Call) :
    SameBut target (together servers s target call).2 (together servers' s' target call').2 := by
  intro c hc
  simp only [together, if_neg hc]
  exact h c hc

/-- If the answers are the same, and what follows goes alike, then the whole does. -/
theorem GoesAlike.ask {cluster : String} {call : Call} {next : call.Reply → Plan α}
    (hanswer : (together servers s cluster call).1 = (together servers' s' cluster call).1)
    (h : GoesAlike target servers servers' (next (together servers s cluster call).1)
      (together servers s cluster call).2 (together servers' s' cluster call).2) :
    GoesAlike target servers servers' (.ask cluster call next) s s' := by
  obtain ⟨hexchanges, hresult, hstates⟩ := h
  have hplay : (Plan.ask cluster call next).play (together servers') s' =
      (next (together servers s cluster call).1).play (together servers')
        (together servers' s' cluster call).2 := by
    rw [hanswer]
    rfl
  refine ⟨?_, hplay ▸ hresult, hplay ▸ hstates⟩
  simp only [Plan.exchangesWith]
  rw [hexchanges, hanswer]

theorem GoesAlike.of_unasked (same : ∀ c, c ≠ target → servers c = servers' c) (p : Plan α)
    (h : SameBut target s s')
    (unasked : ∀ e ∈ p.exchangesWith (together servers) s, e.cluster ≠ target) :
    GoesAlike target servers servers' p s s' := by
  induction p generalizing s s' with
  | done a => exact ⟨rfl, rfl, h⟩
  | ask cluster call next ih =>
      obtain ⟨hhere, hlater⟩ := List.forall_mem_cons.mp unasked
      obtain ⟨hanswer, hstates⟩ := h.step same hhere call
      exact .ask hanswer (ih _ hstates hlater)

/-- Plans go alike that ask the target once, if the answer is the same. -/
theorem GoesAlike.of_asked_once (same : ∀ c, c ≠ target → servers c = servers' c) (p : Plan α)
    (h : SameBut target s s') {first : Call}
    (answer : (servers target (s target) first).1 = (servers' target (s' target) first).1)
    (once : ((p.exchangesWith (together servers) s).filter (·.cluster = target)).length ≤ 1)
    (only : ∀ e ∈ p.exchangesWith (together servers) s, e.cluster = target → e.call = first) :
    GoesAlike target servers servers' p s s' := by
  induction p generalizing s s' with
  | done a => exact ⟨rfl, rfl, h⟩
  | ask cluster call next ih =>
      obtain ⟨hhere, hlater⟩ := List.forall_mem_cons.mp only
      by_cases hc : cluster = target
      · subst hc
        obtain rfl : call = first := hhere rfl
        -- The one exchange with the cluster is this one.
        rw [Plan.exchangesWith, List.filter_cons_of_pos (by simp), List.length_cons] at once
        have hnone := List.length_eq_zero_iff.mp (Nat.le_zero.mp (Nat.le_of_succ_le_succ once))
        refine .ask answer (.of_unasked same _ (h.step_target call call) fun e he hcluster => ?_)
        exact List.filter_eq_nil_iff.mp hnone e he (by simpa using hcluster)
      · obtain ⟨hanswer, hstates⟩ := h.step same hc call
        refine .ask hanswer (ih _ hstates ?_ ?_ hlater)
        · simpa only [together, if_neg (Ne.symm hc)] using answer
        · rwa [Plan.exchangesWith, List.filter_cons_of_neg (by simpa using hc)] at once

theorem sameBut_play (p : Plan α) (s : String → τ)
    (own : ∀ e ∈ p.exchangesWith (together servers) s, e.cluster = target) :
    SameBut target (p.play (together servers) s).2 s := by
  induction p generalizing s with
  | done a => exact fun _ _ => rfl
  | ask cluster call next ih =>
      obtain ⟨hhere, hlater⟩ := List.forall_mem_cons.mp own
      obtain rfl : cluster = target := hhere
      intro c hc
      refine (ih _ _ hlater c hc).trans ?_
      simp only [together, if_neg hc]

/-! ## Attempts with the servers of two families -/

/-- Tasks that each ask their own cluster go alike but for the one of the target. -/
theorem attemptsWith_alike (same : ∀ c, c ≠ target → servers c = servers' c)
    {job : String → Job Unit} (own : ∀ item, Job.Only (fun c _ => c = item) (job item))
    {items : List String} (nodup : items.Nodup) (h : SameBut target s s') :
    attemptsWith (together servers) job items s = attemptsWith (together servers') job items s' ∨
      ∃ front mine mine' back, mine.item = target ∧ mine'.item = target ∧
        attemptsWith (together servers) job items s = front ++ mine :: back ∧
        attemptsWith (together servers') job items s' = front ++ mine' :: back := by
  induction items generalizing s s' with
  | nil => exact Or.inl rfl
  | cons item items ih =>
      obtain ⟨hnew, hnodup⟩ := List.nodup_cons.mp nodup
      have hown := own item (Plan.run_play (together servers) (job item).run s)
      by_cases hitem : item = target
      · subst hitem
        have hown' := own item (Plan.run_play (together servers') (job item).run s')
        -- The two attempts on the target may differ, but they leave the other clusters alike.
        have hstates : SameBut item ((job item).run.play (together servers) s).2
            ((job item).run.play (together servers') s').2 := fun c hc =>
          (sameBut_play _ _ hown c hc).trans ((h c hc).trans (sameBut_play _ _ hown' c hc).symm)
        rcases ih hnodup hstates with heq | ⟨front, mine, _, back, hmine, -, hsplit, -⟩
        · exact Or.inr ⟨[], _, _, _, rfl, rfl, rfl, congrArg (_ :: ·) heq.symm⟩
        · -- No later attempt is for the same cluster.
          have hmem : mine.item ∈ items := by
            rw [← (attempted_attemptsWith (together servers) job items _).each, hsplit]
            simp
          exact absurd (hmine ▸ hmem) hnew
      · have halike : GoesAlike target servers servers' (job item).run s s' :=
          .of_unasked same _ h fun e he hc => hitem ((hown e he).symm.trans hc)
        have hhead : attemptWith (together servers) job item s =
            attemptWith (together servers') job item s' := by
          rw [attemptWith, attemptWith, halike.exchanges, halike.result]
        rcases ih hnodup halike.states with heq |
          ⟨front, mine, mine', back, hmine, hmine', hsplit, hsplit'⟩
        · exact Or.inl (by rw [attemptsWith, attemptsWith, hhead, heq])
        · refine Or.inr ⟨attemptWith (together servers) job item s :: front, mine, mine', back,
            hmine, hmine', ?_, ?_⟩
          · rw [attemptsWith, hsplit]
            rfl
          · rw [attemptsWith, hsplit', hhead]
            rfl

end Families

/-! ## Passes with the servers of two families -/

section Passes

variable {σ : Type} (serve : σ → String → (call : Call) → call.Reply × σ)

/-- The copies of a pass with servers are attempts. -/
theorem copies_with (fleet : Fleet) (work : Work) (s : σ) :
    let made := attemptsWith serve (copyTo fleet.credentials work.source work.tag) work.targets s
    (copies fleet (some work)).run.exchangesWith serve s = exchangesOf made ∧
      ((copies fleet (some work)).run.play serve s).1 = SyncError.collect (failuresOf made) := by
  have hrun : (copies fleet (some work)).run =
      attemptAll (copyTo fleet.credentials work.source work.tag) work.targets >>= fun errors =>
        pure (SyncError.collect errors) := by
    have hlift : copies fleet (some work) = ExceptT.lift
        (attemptAll (copyTo fleet.credentials work.source work.tag) work.targets) >>= fun errors =>
          ExceptT.mk (pure (SyncError.collect errors)) := rfl
    rw [hlift, ExceptT.run_bind, ExceptT.run_lift]
    simp
  obtain ⟨hexchanges, hresult⟩ := attemptAll_with serve
    (copyTo fleet.credentials work.source work.tag) work.targets s
  simp only [hrun, Plan.exchangesWith_bind, Plan.play_bind, hexchanges, hresult,
    Plan.exchangesWith_pure, Plan.play_pure, List.append_nil, and_self]

/-- A pass with servers is its approach and then its copies, if there is anything to copy. -/
theorem syncTag_with (fleet : Fleet) (ns name : String) (s : σ) :
    let approached := (approach fleet ns name).run.play serve s
    let lead := (approach fleet ns name).run.exchangesWith serve s
    attemptWith serve (syncTag fleet ns) name s = match approached.1 with
      | .error e => ⟨name, lead, .error e⟩
      | .ok none => ⟨name, lead, .ok ()⟩
      | .ok (some work) =>
        let made := attemptsWith serve (copyTo fleet.credentials work.source work.tag) work.targets
          approached.2
        ⟨name, lead ++ exchangesOf made, SyncError.collect (failuresOf made)⟩ := by
  intro approached lead
  -- A pass is an approach and the copies of its work.
  have hrun : (syncTag fleet ns name).run = (approach fleet ns name).run >>= fun result =>
      match result with
      | .ok work => (copies fleet work).run
      | .error e => pure (.error e) := by
    rw [syncTag_eq, ExceptT.run_bind]
    refine congrArg _ (funext fun result => ?_)
    cases result with
    | ok work => rfl
    | error e => rfl
  simp only [attemptWith, hrun, Plan.exchangesWith_bind, Plan.play_bind]
  cases hresult : ((approach fleet ns name).run.play serve s).1 with
  | error e => simp [lead]
  | ok work =>
      cases work with
      | none => simp [lead, copies]
      | some work =>
          obtain ⟨hexchanges, houtcome⟩ :=
            copies_with serve fleet work ((approach fleet ns name).run.play serve s).2
          simp only [approached, lead, hexchanges, houtcome]

end Passes

theorem ActsOn.append {exchanges later : List Exchange} {owner : String} {stream : ImageStream}
    (h : ActsOn exchanges owner stream)
    (hlater : ∀ e ∈ later, ∀ ns name, e.call ≠ .getTag ns name) :
    ActsOn (exchanges ++ later) owner stream where
  newest := by
    rw [observed_append, observed_eq_nil hlater, List.append_nil]
    exact h.newest
  read := by
    rw [List.findSome?_append, h.read]
    rfl

/-- A cluster that does not have the newest copy is asked by an approach for the tag once at most,
as long as the stream that is acted on is not being deleted. -/
theorem ApproachRun.asks_once {fleet : Fleet} {ns name target : String}
    {exchanges : List Exchange} {result : Except SyncError (Option Work)}
    (h : ApproachRun fleet ns name exchanges result)
    (other : ∀ tag, newest? (observed exchanges) ≠ some (target, tag))
    (live : ∀ owner stream, ActsOn exchanges owner stream →
      stream.metadata.isTerminating = false) :
    (exchanges.filter (·.cluster = target)).length ≤ 1 ∧
      ∀ e ∈ exchanges, e.cluster = target → e.call = .getTag ns name := by
  obtain ⟨reads, rest, happroach, rfl⟩ := h.approaching
  -- Without a stream that is being deleted, nothing is deleted on the target.
  have keeps : ∀ e ∈ rest, e.cluster = target → e.method ≠ .delete := by
    intro e he hc hdelete
    rcases (happroach.acts e he).2 with ⟨tag, hnewest⟩ | ⟨-, owner, stream, hacts, hterm⟩
    · exact other tag (hc ▸ hnewest)
    · cases hterm.symm.trans (live owner stream hacts)
  obtain ⟨hfilter, hone⟩ := happroach.filter_eq other keeps
  refine ⟨hfilter ▸ hone, fun e he hc => ?_⟩
  have hmem : e ∈ (reads ++ rest).filter (·.cluster = target) :=
    List.mem_filter.mpr ⟨he, by simpa using hc⟩
  rw [hfilter] at hmem
  exact happroach.looks e (List.mem_filter.mp hmem).1

theorem exists_syncTag_with {σ : Type} (serve : σ → String → (call : Call) → call.Reply × σ)
    (fleet : Fleet) (ns name : String) (s : σ) :
    ∃ later, (attemptWith serve (syncTag fleet ns) name s).exchanges =
      (approach fleet ns name).run.exchangesWith serve s ++ later ∧
      ∀ e ∈ later, ∀ ns name, e.call ≠ .getTag ns name := by
  rw [syncTag_with]
  cases ((approach fleet ns name).run.play serve s).1 with
  | error e => exact ⟨[], by simp, by simp⟩
  | ok work =>
      cases work with
      | none => exact ⟨[], by simp, by simp⟩
      | some work => exact ⟨_, rfl, (attempted_attemptsWith serve _ _ _).not_getTag⟩

theorem filter_exchangesOf_middle {front back : List Attempt} {mine : Attempt} {cluster : String}
    (own : ∀ e ∈ mine.exchanges, e.cluster = mine.item) (hne : cluster ≠ mine.item) :
    (exchangesOf (front ++ mine :: back)).filter (·.cluster = cluster) =
      (exchangesOf (front ++ back)).filter (·.cluster = cluster) := by
  have hnone : (exchangesOf [mine]).filter (·.cluster = cluster) = [] :=
    filter_exchangesOf_eq_nil (List.forall_mem_singleton.mpr own)
      (List.forall_mem_singleton.mpr hne.symm)
  rw [exchangesOf_cons, exchangesOf_nil, List.append_nil] at hnone
  rw [exchangesOf_append, exchangesOf_append, exchangesOf_cons, List.filter_append,
    List.filter_append, List.filter_append, hnone, List.nil_append]

theorem failuresOf_middle (front back : List Attempt) (mine : Attempt) :
    failuresOf (front ++ mine :: back) =
      failuresOf front ++ (failure? mine.outcome).toList ++ failuresOf back := by
  rw [failuresOf_append, failuresOf_cons, List.append_assoc]

/-- **Targets do not affect each other.** If the servers of two families are the same but for one
target, which gives the same answer about the tag, and the stream that the pass acts on is live
and not the target's, then every other cluster is asked the same in both passes; and the passes
are the same, or differ in the one copy to the target and its failure. -/
theorem targets_are_isolated {fleet : Fleet} {ns name target : String}
    {servers servers' : String → τ → (call : Call) → call.Reply × τ} {s s' : String → τ}
    {pass pass' : Attempt} (hpass : pass = attemptWith (together servers) (syncTag fleet ns) name s)
    (hpass' : pass' = attemptWith (together servers') (syncTag fleet ns) name s')
    (same : ∀ c, c ≠ target → servers c = servers' c ∧ s c = s' c)
    (answer : (servers target (s target) (.getTag ns name)).1 =
      (servers' target (s' target) (.getTag ns name)).1)
    (other : ∀ tag, newest? (observed pass.exchanges) ≠ some (target, tag))
    (live : ∀ owner stream, ActsOn pass.exchanges owner stream →
      stream.metadata.isTerminating = false) :
    (∀ c, c ≠ target → pass.exchanges.filter (·.cluster = c) =
      pass'.exchanges.filter (·.cluster = c)) ∧
    (pass = pass' ∨ ∃ parts source front mine mine' back,
      mine.item = target ∧ mine'.item = target ∧
      Copied fleet ns parts source pass.exchanges (front ++ mine :: back) pass.outcome ∧
      Copied fleet ns parts source pass'.exchanges (front ++ mine' :: back) pass'.outcome ∧
      pass.outcome = SyncError.collect
        (failuresOf front ++ (failure? mine.outcome).toList ++ failuresOf back) ∧
      pass'.outcome = SyncError.collect
        (failuresOf front ++ (failure? mine'.outcome).toList ++ failuresOf back)) := by
  have hservers : ∀ c, c ≠ target → servers c = servers' c := fun c hc => (same c hc).1
  obtain ⟨later, hlater, hnot⟩ := exists_syncTag_with (together servers) fleet ns name s
  have hrun : ApproachRun fleet ns name _ _ :=
    .of_run (Plan.run_play (together servers) (approach fleet ns name).run s)
  rw [hpass, hlater] at other live
  rw [observed_append, observed_eq_nil hnot, List.append_nil] at other
  obtain ⟨once, only⟩ := hrun.asks_once other fun owner stream h => live owner stream (h.append hnot)
  -- The approach asks the target at most once, so it goes alike in both runs.
  have halike : GoesAlike target servers servers' (approach fleet ns name).run s s' :=
    .of_asked_once hservers _ (fun c hc => (same c hc).2) answer once only
  rw [syncTag_with] at hpass hpass'
  rw [← halike.exchanges, ← halike.result] at hpass'
  cases hresult : ((approach fleet ns name).run.play (together servers) s).1 with
  | error e =>
      rw [hresult] at hpass hpass'
      obtain rfl : pass = pass' := hpass.trans hpass'.symm
      exact ⟨fun c hc => rfl, Or.inl rfl⟩
  | ok work =>
      rw [hresult] at hpass hpass' hrun
      cases work with
      | none =>
          obtain rfl : pass = pass' := hpass.trans hpass'.symm
          exact ⟨fun c hc => rfl, Or.inl rfl⟩
      | some work =>
          -- From here on only the attempt on the target itself can differ.
          have nodup : work.targets.Nodup := by
            obtain ⟨_, _, _, -, -, -, -, -, htargets⟩ := hrun.exists_held
            rw [htargets]
            exact fleet.clusters.nodup_toList.filter _
          rcases attemptsWith_alike hservers (copyTo_own fleet.credentials work.source work.tag)
            nodup halike.states with heq | ⟨front, mine, mine', back, hmine, hmine', hsplit, hsplit'⟩
          · simp only [heq] at hpass
            obtain rfl : pass = pass' := hpass.trans hpass'.symm
            exact ⟨fun c hc => rfl, Or.inl rfl⟩
          · have hmade := attempted_attemptsWith (together servers)
              (copyTo fleet.credentials work.source work.tag) work.targets
              ((approach fleet ns name).run.play (together servers) s).2
            have hmade' := attempted_attemptsWith (together servers')
              (copyTo fleet.credentials work.source work.tag) work.targets
              ((approach fleet ns name).run.play (together servers') s').2
            rw [hsplit] at hmade
            rw [hsplit'] at hmade'
            simp only [hsplit] at hpass
            simp only [hsplit'] at hpass'
            have own := copyTo_own _ _ _ _ (hmade.run mine (by simp))
            have own' := copyTo_own _ _ _ _ (hmade'.run mine' (by simp))
            obtain ⟨parts, hparts, hcopied⟩ := Copied.of_work hrun hmade
            obtain ⟨parts', hparts', hcopied'⟩ := Copied.of_work hrun hmade'
            obtain rfl := Option.some.inj (hparts.symm.trans hparts')
            subst hpass hpass'
            refine ⟨fun c hc => ?_, Or.inr ⟨parts, work.source, front, mine, mine', back, hmine,
              hmine', hcopied, hcopied', ?_, ?_⟩⟩
            · simp only [List.filter_append]
              rw [filter_exchangesOf_middle own (hmine ▸ hc),
                filter_exchangesOf_middle own' (hmine' ▸ hc)]
            · rw [failuresOf_middle]
            · rw [failuresOf_middle]

/-! ### Two passes -/

/-- Servers of which two let the program write nothing or not all. -/
def willing : String → Unit → (call : Call) → call.Reply × Unit :=
  fun cluster u call => stoppingTargets u cluster call

/-- The same servers, but one of the two has nothing and lets nothing be written. -/
def unwilling : String → Unit → (call : Call) → call.Reply × Unit :=
  fun cluster u call => if cluster = "api.ci" then (.error notThere, ()) else willing cluster u call

def willingPass : Attempt :=
  ⟨"app:latest", stoppedExchanges, .error (.multiple [
    .write (.secret "ci" pullSecretName) "api.ci" forbidden,
    .namespaceStep .create "ci" "build01" notThere])⟩

def unwillingPass : Attempt :=
  ⟨"app:latest", [
    ⟨"api.ci", .getTag "ci" "app:latest", .error notThere⟩,
    ⟨"app.ci", .getTag "ci" "app:latest", .ok releasedTag⟩,
    ⟨"build01", .getTag "ci" "app:latest", .error notThere⟩,
    ⟨"app.ci", .getStream "ci" "app", .ok releaseStream⟩,
    ⟨"api.ci", .getNamespace "ci", .error notThere⟩,
    ⟨"api.ci", .createNamespace "ci", .error notThere⟩,
    ⟨"build01", .getNamespace "ci", .error notThere⟩,
    ⟨"build01", .createNamespace "ci", .error notThere⟩],
    .error (.multiple [
      .namespaceStep .create "ci" "api.ci" notThere,
      .namespaceStep .create "ci" "build01" notThere])⟩

theorem unwilling_target_is_isolated :
    willingPass = attemptWith (together willing) (syncTag threeClusters "ci") "app:latest"
        (fun _ => ()) ∧
      unwillingPass = attemptWith (together unwilling) (syncTag threeClusters "ci") "app:latest"
        (fun _ => ()) ∧
      ∀ c, c ≠ "api.ci" → willingPass.exchanges.filter (·.cluster = c) =
        unwillingPass.exchanges.filter (·.cluster = c) := by
  have hpass : willingPass = attemptWith (together willing) (syncTag threeClusters "ci")
      "app:latest" (fun _ => ()) := rfl
  have hpass' : unwillingPass = attemptWith (together unwilling) (syncTag threeClusters "ci")
      "app:latest" (fun _ => ()) := rfl
  have same : ∀ c, c ≠ "api.ci" → willing c = unwilling c ∧ () = () := by
    intro c hc
    refine ⟨?_, rfl⟩
    funext u call
    simp only [unwilling, if_neg hc]
  have newest : newest? (observed willingPass.exchanges) = some ("app.ci", releasedTag) := rfl
  have other : ∀ tag, newest? (observed willingPass.exchanges) ≠ some ("api.ci", tag) := by
    intro tag htag
    have hsame := (Prod.mk.inj (Option.some.inj (newest.symm.trans htag))).1
    exact absurd hsame (by decide)
  -- The one stream that is acted on is not being deleted.
  have live : ∀ owner stream, ActsOn willingPass.exchanges owner stream →
      stream.metadata.isTerminating = false := by
    intro owner stream h
    have hread : willingPass.exchanges.findSome? streamReading? =
        some ("app.ci", releaseStream) := rfl
    obtain ⟨-, rfl⟩ := Prod.mk.inj (Option.some.inj (hread.symm.trans h.read))
    rfl
  exact ⟨hpass, hpass', (targets_are_isolated hpass hpass' same rfl other live).1⟩

end TagSync
