import TagSync.Watch
import TagSync.Proofs.Runs

/-!
# One attempt after the other

The copies of a pass and the passes of a reaction go alike: there is a task for each item, the
tasks are done in turn whatever became of the ones before, and the failures are gathered.
`attemptAll` is that loop, `run_attemptAll_iff` takes its runs apart, and `copyToAll_eq` and
`syncTags_eq` say that the two are such loops.
-/

set_option autoImplicit false

namespace TagSync

open Api
open Plan (Exchange EachAfter)

/-! ## Attempts -/

/-- Does the task of each item in turn and gathers the failures. -/
def attemptAll (job : String → Job Unit) : List String → Plan (List SyncError)
  | [] => pure []
  | item :: items => do
    let outcome ← (job item).run
    let others ← attemptAll job items
    match outcome with
    | .ok () => pure others
    | .error e => pure (e :: others)

/-- A task as it was done: the item, the exchanges and how it ended. -/
structure Attempt where
  item : String
  exchanges : List Exchange
  outcome : Except SyncError Unit

def failure? : Except SyncError Unit → Option SyncError
  | .ok () => none
  | .error e => some e

def exchangesOf (attempts : List Attempt) : List Exchange :=
  attempts.flatMap (·.exchanges)

def failuresOf (attempts : List Attempt) : List SyncError :=
  attempts.filterMap (failure? ·.outcome)

@[simp] theorem exchangesOf_nil : exchangesOf [] = [] := rfl

@[simp] theorem exchangesOf_cons (a : Attempt) (attempts : List Attempt) :
    exchangesOf (a :: attempts) = a.exchanges ++ exchangesOf attempts :=
  List.flatMap_cons

theorem exchangesOf_append (first second : List Attempt) :
    exchangesOf (first ++ second) = exchangesOf first ++ exchangesOf second :=
  List.flatMap_append

@[simp] theorem failuresOf_nil : failuresOf [] = [] := rfl

theorem failuresOf_cons (a : Attempt) (attempts : List Attempt) :
    failuresOf (a :: attempts) = (failure? a.outcome).toList ++ failuresOf attempts := by
  cases h : failure? a.outcome with
  | none => simp [failuresOf, h]
  | some e => simp [failuresOf, h]

theorem failuresOf_append (first second : List Attempt) :
    failuresOf (first ++ second) = failuresOf first ++ failuresOf second :=
  List.filterMap_append

theorem mem_failuresOf {attempts : List Attempt} {e : SyncError} :
    e ∈ failuresOf attempts ↔ ∃ a ∈ attempts, a.outcome = .error e := by
  rw [failuresOf, List.mem_filterMap]
  refine exists_congr fun a => and_congr_right fun _ => ?_
  cases h : a.outcome with
  | ok done => simp [failure?]
  | error e' => simp [failure?]

theorem failuresOf_eq_nil_iff {attempts : List Attempt} :
    failuresOf attempts = [] ↔ ∀ a ∈ attempts, a.outcome = .ok () := by
  rw [List.eq_nil_iff_forall_not_mem]
  simp only [mem_failuresOf]
  constructor
  · intro h a ha
    cases houtcome : a.outcome with
    | ok done => rfl
    | error e => exact absurd ⟨a, ha, houtcome⟩ (h e)
  · rintro h e ⟨a, ha, houtcome⟩
    cases (h a ha).symm.trans houtcome

/-- There is one attempt for each item, in order, and each is a run of the item's task. -/
structure Attempted (job : String → Job Unit) (items : List String) (attempts : List Attempt) :
    Prop where
  each : attempts.map (·.item) = items
  run : ∀ a ∈ attempts, (job a.item).Run a.exchanges a.outcome

/-- Doing the tasks in turn is one attempt at each; nothing else is asked, and the failures are
those of the attempts. -/
theorem run_attemptAll_iff {job : String → Job Unit} {items : List String}
    {exchanges : List Exchange} {errors : List SyncError} :
    Plan.Run (attemptAll job items) exchanges errors ↔ ∃ attempts,
      Attempted job items attempts ∧ exchanges = exchangesOf attempts ∧
      errors = failuresOf attempts := by
  induction items generalizing exchanges errors with
  | nil =>
      rw [attemptAll, Plan.run_pure_iff]
      constructor
      · rintro ⟨rfl, rfl⟩
        exact ⟨[], ⟨rfl, by simp⟩, rfl, rfl⟩
      · rintro ⟨attempts, hattempted, rfl, rfl⟩
        obtain rfl := List.map_eq_nil_iff.mp hattempted.each
        exact ⟨rfl, rfl⟩
  | cons item items ih =>
      rw [attemptAll]
      simp only [Plan.run_bind_iff]
      constructor
      · rintro ⟨outcome, first, later, hfirst, ⟨others, second, last, hsecond, hlast, rfl⟩, rfl⟩
        obtain ⟨attempts, hattempted, rfl, rfl⟩ := ih.mp hsecond
        refine ⟨⟨item, first, outcome⟩ :: attempts, ⟨?_, ?_⟩, ?_⟩
        · rw [List.map_cons, hattempted.each]
        · exact List.forall_mem_cons.mpr ⟨hfirst, hattempted.run⟩
        · cases outcome with
          | ok done =>
              obtain ⟨rfl, rfl⟩ := Plan.run_pure_iff.mp hlast
              exact ⟨by simp, rfl⟩
          | error e =>
              obtain ⟨rfl, rfl⟩ := Plan.run_pure_iff.mp hlast
              exact ⟨by simp, rfl⟩
      · rintro ⟨attempts, ⟨heach, hrun⟩, rfl, rfl⟩
        obtain ⟨a, attempts, rfl, rfl, rfl⟩ := List.map_eq_cons_iff.mp heach
        obtain ⟨hfirst, hrest⟩ := List.forall_mem_cons.mp hrun
        refine ⟨a.outcome, a.exchanges, exchangesOf attempts, hfirst,
          ⟨_, exchangesOf attempts, [], ih.mpr ⟨attempts, ⟨rfl, hrest⟩, rfl, rfl⟩, ?_, by simp⟩,
          by simp⟩
        -- The own failure, if there is one, goes before the later ones.
        rw [failuresOf_cons]
        cases a.outcome with
        | ok done => exact Plan.run_pure_iff.mpr ⟨rfl, rfl⟩
        | error e => exact Plan.run_pure_iff.mpr ⟨rfl, rfl⟩

/-- What the exchanges of every attempt keep, whatever comes before them, those of all attempts
keep. -/
theorem eachAfter_exchangesOf {P : List Exchange → Exchange → Prop} {attempts : List Attempt}
    (prepend : ∀ {front earlier e}, P earlier e → P (front ++ earlier) e)
    (each : ∀ a ∈ attempts, EachAfter P a.exchanges) : EachAfter P (exchangesOf attempts) := by
  induction attempts with
  | nil => exact .of_forall (by simp)
  | cons a attempts ih =>
      obtain ⟨hfirst, hlater⟩ := List.forall_mem_cons.mp each
      exact hfirst.append ((ih hlater).mono prepend)

/-! ## Attempts that each keep to their own cluster -/

theorem filter_exchangesOf_eq_nil {attempts : List Attempt}
    (own : ∀ a ∈ attempts, ∀ e ∈ a.exchanges, e.cluster = a.item) {cluster : String}
    (others : ∀ a ∈ attempts, a.item ≠ cluster) :
    (exchangesOf attempts).filter (·.cluster = cluster) = [] := by
  refine List.filter_eq_nil_iff.mpr fun e he hc => ?_
  obtain ⟨a, ha, hea⟩ := List.mem_flatMap.mp he
  exact others a ha ((own a ha e hea).symm.trans (of_decide_eq_true hc))

/-- If no cluster has two attempts, then what a cluster is asked is what its attempt asks. -/
theorem filter_exchangesOf {attempts : List Attempt} (nodup : (attempts.map (·.item)).Nodup)
    (own : ∀ a ∈ attempts, ∀ e ∈ a.exchanges, e.cluster = a.item) {a : Attempt}
    (ha : a ∈ attempts) : (exchangesOf attempts).filter (·.cluster = a.item) = a.exchanges := by
  have all : a.exchanges.filter (·.cluster = a.item) = a.exchanges :=
    List.filter_eq_self.mpr fun e he => by simpa using own a ha e he
  obtain ⟨front, back, rfl⟩ := List.append_of_mem ha
  rw [List.map_append, List.map_cons, List.nodup_append, List.nodup_cons] at nodup
  obtain ⟨-, ⟨hback, -⟩, hfront⟩ := nodup
  have hnone : (exchangesOf front).filter (·.cluster = a.item) = [] := by
    refine filter_exchangesOf_eq_nil (fun b hb => own b (List.mem_append_left _ hb)) fun b hb => ?_
    exact hfront b.item (List.mem_map_of_mem hb) a.item List.mem_cons_self
  have hnone' : (exchangesOf back).filter (·.cluster = a.item) = [] :=
    filter_exchangesOf_eq_nil (fun b hb => own b (by simp [hb])) fun b hb heq =>
      hback (heq ▸ List.mem_map_of_mem hb)
  rw [exchangesOf_append, exchangesOf_cons, List.filter_append, List.filter_append, hnone, hnone',
    all, List.nil_append, List.append_nil]

/-! ## The loops of the program -/

/-- The copies to several clusters are attempts. -/
theorem copyToAll_eq (credentials : List UInt8) (source : Source) (tag : String)
    (clusters : List String) : copyToAll credentials source tag clusters =
      attemptAll (copyTo credentials source tag) clusters := by
  induction clusters with
  | nil => rfl
  | cons cluster clusters ih =>
      rw [copyToAll, ih]
      rfl

theorem run_copyToAll_iff {credentials : List UInt8} {source : Source} {tag : String}
    {clusters : List String} {exchanges : List Exchange} {errors : List SyncError} :
    Plan.Run (copyToAll credentials source tag clusters) exchanges errors ↔ ∃ made,
      Attempted (copyTo credentials source tag) clusters made ∧ exchanges = exchangesOf made ∧
      errors = failuresOf made := by
  rw [copyToAll_eq]
  exact run_attemptAll_iff

def tagPass (fleet : Fleet) (ns stream tag : String) : Job Unit :=
  syncTag fleet ns (TagName.mk stream tag).toName

def TagFilter.admitsTag (filter : TagFilter) (ns stream tag : String) : Bool :=
  filter.admits ns (TagName.mk stream tag).toName

/-- The passes for the chosen tags of a stream are attempts. -/
theorem syncTags_eq (fleet : Fleet) (filter : TagFilter) (ns stream : String)
    (tags : List String) : syncTags fleet filter ns stream tags =
      attemptAll (tagPass fleet ns stream) (tags.filter (filter.admitsTag ns stream)) := by
  induction tags with
  | nil => rfl
  | cons tag tags ih =>
      rw [syncTags, ih]
      by_cases h : filter.admitsTag ns stream tag = true
      · rw [List.filter_cons_of_pos h, attemptAll]
        exact if_pos h
      · rw [List.filter_cons_of_neg h]
        exact if_neg h

/-- The reaction to a stream that is not being deleted is one pass for each chosen tag, in turn. -/
theorem run_reactTo_live {fleet : Fleet} {filter : TagFilter} {cluster : String}
    {stream : ImageStream} {exchanges : List Exchange} {outcome : Except SyncError Unit}
    (live : stream.metadata.isTerminating = false)
    (run : (reactTo fleet filter cluster stream).Run exchanges outcome) :
    ∃ passes, Attempted (tagPass fleet stream.namespaceName stream.name)
        (stream.tagNames.filter (filter.admitsTag stream.namespaceName stream.name)) passes ∧
      exchanges = exchangesOf passes ∧ outcome = SyncError.collect (failuresOf passes) := by
  simp only [reactTo, live] at run
  obtain ⟨errors, passing, last, hpasses, hlast, rfl⟩ := Job.run_lift_bind_iff.mp run
  obtain ⟨rfl, houtcome⟩ := Plan.run_done_iff.mp hlast
  rw [syncTags_eq] at hpasses
  obtain ⟨passes, hattempted, rfl, rfl⟩ := run_attemptAll_iff.mp hpasses
  exact ⟨passes, hattempted, List.append_nil _, houtcome⟩

end TagSync
