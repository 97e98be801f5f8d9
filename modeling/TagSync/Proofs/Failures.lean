import Mathlib.Data.List.Forall2
import TagSync.Proofs.Course

/-!
# Every failure is reported

The reaction to a stream makes a pass for each chosen tag, whatever became of the ones before, and
so does a pass with its copies. What fails is put together twice on the way. The single failures
in the error that comes out are still all those of the passes, in order
(`reaction_reports_every_failure`), and its text is theirs.
-/

set_option autoImplicit false

namespace TagSync

open Api
open Plan (Exchange)

/-! ## Errors of several failures -/

namespace SyncError

/-- The failure of a step: a single one, and not that a name is no tag's. -/
def IsStep : SyncError → Prop
  | .invalidTagName _ _ | .multiple _ => False
  | _ => True

mutual

/-- Whether all that is put together in an error are two failures or more. -/
def isProper : SyncError → Bool
  | .multiple errors => decide (2 ≤ errors.length) && areProper errors
  | _ => true

def areProper : List SyncError → Bool
  | [] => true
  | e :: es => e.isProper && areProper es

end

theorem IsStep.leaves_eq {e : SyncError} (h : e.IsStep) : e.leaves = [e] := by
  cases e with
  | multiple errors => exact h.elim
  | _ => rfl

theorem IsStep.isProper {e : SyncError} (h : e.IsStep) : e.isProper = true := by
  cases e with
  | multiple errors => exact h.elim
  | _ => rfl

theorem leavesOf_eq_self {errors : List SyncError} (h : ∀ e ∈ errors, e.IsStep) :
    leavesOf errors = errors := by
  induction errors with
  | nil => rfl
  | cons e es ih =>
      obtain ⟨he, hes⟩ := List.forall_mem_cons.mp h
      rw [leavesOf, he.leaves_eq, ih hes]
      rfl

theorem leavesOf_append (first second : List SyncError) :
    leavesOf (first ++ second) = leavesOf first ++ leavesOf second := by
  induction first with
  | nil => rfl
  | cons e es ih => rw [List.cons_append, leavesOf, leavesOf, ih, List.append_assoc]

theorem areProper_iff {errors : List SyncError} :
    areProper errors = true ↔ ∀ e ∈ errors, e.isProper = true := by
  induction errors with
  | nil => simp [areProper]
  | cons e es ih => rw [areProper, Bool.and_eq_true, ih, List.forall_mem_cons]

theorem isProper_of_collect {errors : List SyncError} {e : SyncError}
    (h : collect errors = .error e) (hall : ∀ f ∈ errors, f.isProper = true) :
    e.isProper = true := by
  match errors with
  | [] => cases h
  | [f] =>
      obtain rfl := Except.error.inj h
      exact hall f (by simp)
  | f :: g :: es =>
      obtain rfl := Except.error.inj h
      rw [isProper, areProper_iff.mpr hall]
      rfl

mutual

/-- There is a single failure in a proper error, and its text is that of its single failures. -/
theorem message_eq_intercalate (e : SyncError) (h : e.isProper = true) :
    e.leaves ≠ [] ∧ e.message = "; ".intercalate (e.leaves.map message) := by
  match e with
  | .multiple errors =>
      rw [isProper, Bool.and_eq_true, decide_eq_true_iff] at h
      obtain ⟨hne, hmessages⟩ := messages_intercalate errors h.2
      have hsome : errors ≠ [] := by
        rintro rfl
        cases h.1
      exact ⟨hne hsome, hmessages⟩
  | .invalidTagName _ _ | .getTag _ _ _ _ | .getStream _ _ _ _ | .write _ _ _
  | .namespaceStep _ _ _ _ | .importFailed _ _ _ _ _ | .unknownCluster _
  | .missingReference _ _ _ _ =>
      exact ⟨by simp [leaves], by simp [leaves]⟩

/-- The same for several errors. -/
theorem messages_intercalate (errors : List SyncError) (h : areProper errors = true) :
    (errors ≠ [] → leavesOf errors ≠ []) ∧
      "; ".intercalate (messages errors) = "; ".intercalate ((leavesOf errors).map message) := by
  match errors with
  | [] => exact ⟨fun hne => absurd rfl hne, rfl⟩
  | e :: es =>
      rw [areProper, Bool.and_eq_true] at h
      obtain ⟨hleaves, hmessage⟩ := message_eq_intercalate e h.1
      obtain ⟨hne, hmessages⟩ := messages_intercalate es h.2
      refine ⟨fun _ => by simp [leavesOf, hleaves], ?_⟩
      rw [messages, leavesOf, List.map_append]
      cases es with
      | nil => simp [messages, leavesOf, hmessage]
      | cons f es =>
          -- Neither side is empty, so one separator goes in between.
          have hrest : messages (f :: es) ≠ [] := by simp [messages]
          have hlater : (leavesOf (f :: es)).map message ≠ [] := by simpa using hne (by simp)
          have hfirst : e.leaves.map message ≠ [] := by simpa using hleaves
          rw [String.intercalate_cons_of_ne_nil hrest,
            String.intercalate_append_of_ne_nil hfirst hlater, hmessage, hmessages]

end

end SyncError

/-! ## What tasks fail with -/

namespace Job

variable {α β : Type}

/-- However a task fails, this holds of the failure. -/
def FailsWith (P : SyncError → Prop) (job : Job α) : Prop :=
  ∀ ⦃exchanges : List Exchange⦄ ⦃e : SyncError⦄, job.Run exchanges (.error e) → P e

section FailsWith

variable {P : SyncError → Prop}

theorem FailsWith.pure (a : α) : FailsWith P (Pure.pure a : Job α) := by
  intro exchanges e run
  cases (run_pure_iff.mp run).2

theorem FailsWith.throw {e : SyncError} (h : P e) :
    FailsWith P (MonadExcept.throw e : Job α) := by
  intro exchanges e' run
  obtain rfl := Except.error.inj (run_throw_iff.mp run).2
  exact h

theorem FailsWith.bind {job : Job α} {f : α → Job β} (hjob : FailsWith P job)
    (hf : ∀ a, FailsWith P (f a)) : FailsWith P (job >>= f) := by
  intro exchanges e run
  rcases run_bind_iff.mp run with ⟨a, first, second, -, hsecond, -⟩ | ⟨e', h, heq⟩
  · exact hf a hsecond
  · obtain rfl := Except.error.inj heq
    exact hjob h

theorem FailsWith.send_bind {cluster : String} {call : Call} {f : call.Reply → Job β}
    (hf : ∀ reply, FailsWith P (f reply)) : FailsWith P (send cluster call >>= f) := by
  intro exchanges e run
  obtain ⟨reply, first, second, -, hsecond, -⟩ := run_send_bind_iff.mp run
  exact hf reply hsecond

theorem FailsWith.require {cluster : String} {call : Call} {failure : CallError → SyncError}
    (h : ∀ cause, P (failure cause)) : FailsWith P (Job.require cluster call failure) := by
  refine .send_bind fun reply => ?_
  cases reply with
  | ok result => exact .pure result
  | error cause => exact .throw (h cause)

theorem FailsWith.find? {cluster : String} {call : Call} {failure : CallError → SyncError}
    (h : ∀ cause, P (failure cause)) : FailsWith P (Job.find? cluster call failure) := by
  refine .send_bind fun reply => ?_
  cases reply with
  | ok result => exact .pure _
  | error cause =>
      show FailsWith P (if cause.saysAbsent then _ else _)
      split
      · exact .pure _
      · exact .throw (h cause)

end FailsWith

end Job

open SyncError (IsStep)

/-- The looks for a tag fail as steps. -/
theorem observe_fails (ns name : String) (clusters : List String) :
    Job.FailsWith IsStep (observe ns name clusters) := by
  induction clusters with
  | nil => exact .pure _
  | cons cluster clusters ih =>
      refine .send_bind fun reply => ?_
      cases reply with
      | ok tag => exact ih.bind fun others => .pure _
      | error cause =>
          show Job.FailsWith IsStep (if cause.isNotFound then _ else _)
          split
          · exact ih
          · exact .throw trivial

theorem writeFinalizers_fails (cluster : String) (stream : ImageStream)
    (finalizers : List String) :
    Job.FailsWith IsStep (writeFinalizers cluster stream finalizers) :=
  .bind (.require fun _ => trivial) fun _ => .pure _

theorem hold_fails (cluster : String) (stream : ImageStream) :
    Job.FailsWith IsStep (hold cluster stream) := by
  rw [hold]
  split
  · exact .pure _
  · exact writeFinalizers_fails _ _ _

theorem release_fails (cluster : String) (stream : ImageStream) :
    Job.FailsWith IsStep (release cluster stream) := by
  refine .bind (.find? fun _ => trivial) fun current => ?_
  cases current with
  | none => exact .pure _
  | some current =>
      dsimp only
      split
      · exact .pure _
      · exact writeFinalizers_fails _ _ _

theorem deleteOn_fails (ns name : String) (clusters : List String) :
    Job.FailsWith IsStep (deleteOn ns name clusters) := by
  induction clusters with
  | nil => exact .pure _
  | cons cluster clusters ih =>
      refine .send_bind fun reply => ?_
      cases reply with
      | ok result => exact ih
      | error cause =>
          show Job.FailsWith IsStep (if cause.isNotFound then _ else _)
          split
          · exact ih
          · exact .throw trivial

theorem retire_fails (fleet : Fleet) (owner : String) (stream : ImageStream) :
    Job.FailsWith IsStep (retire fleet owner stream) := by
  refine (deleteOn_fails _ _ _).bind fun _ => ?_
  split
  · exact release_fails _ _
  · exact .pure _

/-- An approach for the name of a tag fails as a step. -/
theorem approach_fails (fleet : Fleet) (ns : String) {name : String} {parts : TagName}
    (hparts : TagName.parse? name = some parts) :
    Job.FailsWith IsStep (approach fleet ns name) := by
  simp only [approach, hparts]
  refine (observe_fails _ _ _).bind fun observations => ?_
  cases newest? observations with
  | none => exact .pure _
  | some origin =>
      refine .bind (.require fun _ => trivial) fun stream => ?_
      split
      · split
        · exact (retire_fails _ _ _).bind fun _ => .pure _
        · exact .pure _
      · exact (hold_fails _ _).bind fun _ => .pure _

theorem provideNamespace_fails (cluster name : String) :
    Job.FailsWith IsStep (provideNamespace cluster name) := by
  refine .send_bind fun reply => ?_
  cases reply with
  | ok found => exact .pure _
  | error cause =>
      show Job.FailsWith IsStep (if cause.isNotFound then _ else _)
      split
      · exact .bind (.require fun _ => trivial) fun _ => .pure _
      · exact .throw trivial

theorem provideStream_fails (cluster : String) (source : ImageStream) :
    Job.FailsWith IsStep (provideStream cluster source) := by
  refine .bind (.find? fun _ => trivial) fun existing => ?_
  cases existing with
  | none => exact .bind (.require fun _ => trivial) fun _ => .pure _
  | some existing =>
      show Job.FailsWith IsStep (if (existing.missingAnnotations source).isEmpty then _ else _)
      split
      · exact .pure _
      · exact .bind (.require fun _ => trivial) fun _ => .pure _

theorem importImage_fails (cluster ns stream tag reference : String) :
    Job.FailsWith IsStep (importImage cluster ns stream tag reference) := by
  refine .bind (.require fun _ => trivial) fun answer => ?_
  cases answer.check with
  | ok done => exact .pure _
  | error fault => exact .throw trivial

theorem copyTo_fails (credentials : List UInt8) (source : Source) (tag cluster : String) :
    Job.FailsWith IsStep (copyTo credentials source tag cluster) := by
  rw [copyTo]
  cases href : source.reference tag with
  | error e =>
      refine .throw ?_
      -- There is no reference either for want of hosts or for want of an image reference.
      rw [Source.reference] at href
      split at href
      · obtain rfl := Except.error.inj href
        trivial
      · split at href
        · obtain rfl := Except.error.inj href
          trivial
        · cases href
  | ok reference =>
      exact (provideNamespace_fails _ _).bind fun _ => (provideStream_fails _ _).bind fun _ =>
        .bind (.bind (.require fun _ => trivial) fun _ => .pure _) fun _ =>
          importImage_fails _ _ _ _ _

/-! ## Failures of passes -/

/-- The failures of a pass for a tag of a stream, in order: it fails before its copies, or with
those of its copies, which go to the targets in name order. -/
inductive PassFailures (fleet : Fleet) (ns stream : String) (pass : Attempt) :
    List SyncError → Prop
  | early : (∀ source, ¬ UnderWay source pass.exchanges) →
      PassFailures fleet ns stream pass (failure? pass.outcome).toList
  | copying {source : Source} {made : List Attempt} :
      Copied fleet ns ⟨stream, pass.item⟩ source pass.exchanges made pass.outcome →
      (made.map (·.item)).Pairwise (· < ·) →
      PassFailures fleet ns stream pass (failuresOf made)

theorem PassFailures.outcome_eq {fleet : Fleet} {ns stream : String} {pass : Attempt}
    {failures : List SyncError} (h : PassFailures fleet ns stream pass failures) :
    pass.outcome = SyncError.collect failures := by
  cases h with
  | early hearly =>
      cases pass.outcome with
      | ok done => rfl
      | error e => rfl
  | copying hcopied => exact hcopied.outcome_eq

/-- A pass for the name of a tag has such failures, and they are failures of steps. -/
theorem exists_passFailures {fleet : Fleet} {ns stream : String} {pass : Attempt}
    (hparts : TagName.parse? (TagName.mk stream pass.item).toName = some ⟨stream, pass.item⟩)
    (run : (tagPass fleet ns stream pass.item).Run pass.exchanges pass.outcome) :
    ∃ failures, PassFailures fleet ns stream pass failures ∧ ∀ e ∈ failures, e.IsStep := by
  by_cases hunder : ∃ source, UnderWay source pass.exchanges
  · obtain ⟨source, under⟩ := hunder
    obtain ⟨parts, made, hparts', hcopied⟩ := Copied.of_underWay run under
    obtain rfl := Option.some.inj (hparts'.symm.trans hparts)
    -- The failures are collected in the order of the clusters.
    have ordered : (made.map (·.item)).Pairwise (· < ·) := by
      rw [hcopied.attempted.each]
      exact fleet.clusters.pairwise_toList.filter _
    refine ⟨failuresOf made, .copying hcopied ordered, fun e he => ?_⟩
    obtain ⟨a, ha, houtcome⟩ := mem_failuresOf.mp he
    exact copyTo_fails _ _ _ _ (houtcome ▸ hcopied.attempted.run a ha)
  · refine ⟨_, .early fun source under => hunder ⟨source, under⟩, fun e he => ?_⟩
    -- Without a source under way the pass ends early, with one failure at most.
    rcases run_syncTag_cases run with ⟨e', happroach, houtcome⟩ | ⟨-, houtcome⟩ |
      ⟨work, lead, made, happroach, hmade, hexchanges, -⟩
    · rw [houtcome] at he
      obtain rfl := List.mem_singleton.mp he
      exact approach_fails fleet ns hparts happroach
    · rw [houtcome] at he
      cases he
    · obtain ⟨parts, -, hcopied⟩ := Copied.of_work (.of_run happroach) hmade
      exact absurd ⟨work.source, hexchanges ▸ hcopied.under⟩ hunder

/-- The single failures of passes that fail with failures of steps are these failures. -/
theorem leavesOf_failuresOf {fleet : Fleet} {ns stream : String} {passes : List Attempt}
    {failures : List (List SyncError)}
    (h : List.Forall₂ (PassFailures fleet ns stream) passes failures)
    (steps : ∀ e ∈ failures.flatten, e.IsStep) :
    SyncError.leavesOf (failuresOf passes) = failures.flatten ∧
      ∀ e ∈ failuresOf passes, e.isProper = true := by
  induction h with
  | nil => exact ⟨rfl, by simp⟩
  | @cons pass own passes failures hpass hrest ih =>
      rw [List.flatten_cons] at steps ⊢
      obtain ⟨hown, hothers⟩ := List.forall_mem_append.mp steps
      obtain ⟨hleaves, hproper⟩ := ih hothers
      rw [failuresOf_cons, SyncError.leavesOf_append, hleaves, List.forall_mem_append]
      have houtcome := hpass.outcome_eq
      cases hresult : pass.outcome with
      | ok done =>
          rw [hresult] at houtcome
          obtain rfl := SyncError.collect_eq_ok_iff.mp houtcome.symm
          exact ⟨rfl, by simp [failure?], hproper⟩
      | error e =>
          rw [hresult] at houtcome
          -- Collecting the own failures and taking them apart again gives them back.
          have hsingle : SyncError.leavesOf [e] = own := by
            rw [SyncError.leavesOf, SyncError.leavesOf, List.append_nil,
              SyncError.leaves_of_collect houtcome.symm, SyncError.leavesOf_eq_self hown]
          refine ⟨congrArg (· ++ failures.flatten) hsingle, ?_, hproper⟩
          refine List.forall_mem_singleton.mpr ?_
          exact SyncError.isProper_of_collect houtcome.symm fun f hf => (hown f hf).isProper

/-! ## Failures of reactions -/

/-- Parts without a colon are found again, and no others. -/
theorem TagName.eq_of_parse?_toName {n parts : TagName} (h : parse? n.toName = some parts) :
    parts = n := by
  obtain ⟨heq, -, -, hstream, htag⟩ := parse?_eq_some_iff.mp h
  obtain ⟨stream, tag⟩ := n
  obtain ⟨stream', tag'⟩ := parts
  have hchars : stream.toList ++ ':' :: tag.toList = stream'.toList ++ ':' :: tag'.toList := by
    simpa [toName] using congrArg String.toList heq
  -- Where one side goes on, it goes on with the colon of the other.
  rcases List.append_eq_append_iff.mp hchars with ⟨between, hleft, hright⟩ |
    ⟨between, hleft, hright⟩
  · cases between with
    | nil =>
        rw [List.append_nil] at hleft
        rw [String.toList_inj.mp hleft, String.toList_inj.mp (List.cons.inj hright).2]
    | cons c between =>
        obtain ⟨rfl, -⟩ := List.cons.inj hright
        exact absurd (hleft ▸ List.mem_append_right _ List.mem_cons_self) hstream
  · cases between with
    | nil =>
        rw [List.append_nil] at hleft
        rw [String.toList_inj.mp hleft, String.toList_inj.mp (List.cons.inj hright).2]
    | cons c between =>
        obtain ⟨rfl, hrest⟩ := List.cons.inj hright
        exact absurd (hrest ▸ List.mem_append_right _ List.mem_cons_self) htag

theorem TagFilter.parse?_of_admitsTag {filter : TagFilter} {ns stream tag : String}
    (h : filter.admitsTag ns stream tag = true) :
    TagName.parse? (TagName.mk stream tag).toName = some ⟨stream, tag⟩ := by
  rw [admitsTag, admits] at h
  cases hparts : TagName.parse? (TagName.mk stream tag).toName with
  | none =>
      rw [hparts] at h
      cases h
  | some parts => rw [TagName.eq_of_parse?_toName hparts]

/-- If each pass has its failures, these are all its list of failures. -/
theorem exists_failures {fleet : Fleet} {ns stream : String} {passes : List Attempt}
    (h : ∀ pass ∈ passes, ∃ failures, PassFailures fleet ns stream pass failures ∧
      ∀ e ∈ failures, e.IsStep) :
    ∃ failures, List.Forall₂ (PassFailures fleet ns stream) passes failures ∧
      ∀ e ∈ failures.flatten, e.IsStep := by
  induction passes with
  | nil => exact ⟨[], .nil, by simp⟩
  | cons pass passes ih =>
      obtain ⟨⟨own, hpass, hown⟩, hpasses⟩ := List.forall_mem_cons.mp h
      obtain ⟨failures, hrest, hothers⟩ := ih hpasses
      refine ⟨own :: failures, .cons hpass hrest, ?_⟩
      rw [List.flatten_cons]
      exact List.forall_mem_append.mpr ⟨hown, hothers⟩

/-- The entries of a stream are the tags of its state, or the wanted ones if it has none. -/
theorem ImageStream.tagNames_cases (stream : ImageStream) :
    (∀ status, stream.status = some status → status.tags ≠ [] →
      stream.tagNames = status.tags.map (·.tag)) ∧
    ((∀ status, stream.status = some status → status.tags = []) →
      stream.tagNames = stream.spec.tags.map (·.name)) := by
  rw [tagNames]
  cases stream.status with
  | none => exact ⟨nofun, fun _ => rfl⟩
  | some status =>
      cases htags : status.tags with
      | nil =>
          constructor
          · rintro _ ⟨⟩ hne
            exact absurd htags hne
          · intro _
            simp [htags]
      | cons first rest =>
          constructor
          · rintro _ ⟨⟩ -
            simp [htags]
          · intro hnone
            cases htags.symm.trans (hnone status rfl)

/-- **Every chosen tag gets its pass, and every failure is reported.** The reaction to a stream
that is not being deleted makes one pass for each entry that the filter lets in, in order, and asks
for nothing else. It succeeds if all of them do. Otherwise the single failures in its error are
those of the passes, in order, and so is its text. -/
theorem reaction_reports_every_failure {fleet : Fleet} {filter : TagFilter} {cluster : String}
    {stream : ImageStream} {exchanges : List Exchange} {outcome : Except SyncError Unit}
    (live : stream.metadata.isTerminating = false)
    (run : (reactTo fleet filter cluster stream).Run exchanges outcome) :
    (∀ status, stream.status = some status → status.tags ≠ [] →
      stream.tagNames = status.tags.map (·.tag)) ∧
    ((∀ status, stream.status = some status → status.tags = []) →
      stream.tagNames = stream.spec.tags.map (·.name)) ∧
    ∃ passes failures,
      Attempted (tagPass fleet stream.namespaceName stream.name)
        (stream.tagNames.filter (filter.admitsTag stream.namespaceName stream.name)) passes ∧
      exchanges = exchangesOf passes ∧
      (outcome = .ok () ↔ ∀ pass ∈ passes, pass.outcome = .ok ()) ∧
      List.Forall₂ (PassFailures fleet stream.namespaceName stream.name) passes failures ∧
      (∀ leaf ∈ failures.flatten, leaf.IsStep) ∧
      ∀ e, outcome = .error e → e.leaves = failures.flatten ∧ e.isProper = true ∧
        e.message = "; ".intercalate (failures.flatten.map SyncError.message) := by
  refine ⟨stream.tagNames_cases.1, stream.tagNames_cases.2, ?_⟩
  simp only [reactTo, live] at run
  obtain ⟨errors, passing, last, hpasses, hlast, rfl⟩ := Job.run_lift_bind_iff.mp run
  obtain ⟨rfl, houtcome⟩ := Plan.run_done_iff.mp hlast
  replace houtcome : outcome = SyncError.collect errors := houtcome
  rw [syncTags_eq] at hpasses
  obtain ⟨passes, hattempted, rfl, rfl⟩ := run_attemptAll_iff.mp hpasses
  -- The filter admits only names that can be taken apart.
  have hchosen : ∀ pass ∈ passes, filter.admitsTag stream.namespaceName stream.name pass.item := by
    intro pass hpass
    have hmem : pass.item ∈ passes.map (·.item) := List.mem_map_of_mem hpass
    rw [hattempted.each] at hmem
    exact (List.mem_filter.mp hmem).2
  obtain ⟨failures, hfailures, steps⟩ := exists_failures fun pass hpass =>
    exists_passFailures (TagFilter.parse?_of_admitsTag (hchosen pass hpass))
      (hattempted.run pass hpass)
  obtain ⟨hleaves, hproper⟩ := leavesOf_failuresOf hfailures steps
  refine ⟨passes, failures, hattempted, List.append_nil _, ?_, hfailures, steps, fun e he => ?_⟩
  · rw [houtcome, SyncError.collect_eq_ok_iff, failuresOf_eq_nil_iff]
  · rw [houtcome] at he
    have hown := SyncError.isProper_of_collect he hproper
    have hleaves' : e.leaves = failures.flatten := (SyncError.leaves_of_collect he).trans hleaves
    exact ⟨hleaves', hown, hleaves' ▸ (SyncError.message_eq_intercalate e hown).2⟩

/-! ### A reaction -/

def threeTags : ImageStream where
  metadata := { name := some "app", «namespace» := some "ci" }
  spec := { tags := [{ name := "latest" }, { name := "nightly" }, { name := "stable" }] }

def twoOfThree : TagFilter where
  tags := .ofList ["ci/app:latest", "ci/app:stable"]

/-- Servers that do not let the program write all it wants, and of which one breaks the connection
when it is asked for one of the tags. -/
def failingServers : Unit → String → (call : Call) → call.Reply × Unit
  | _, "build01", .getTag _ "app:stable" => (.error brokenConnection, ())
  | u, cluster, call => stoppingTargets u cluster call

/-- The exchanges of the pass that ends with its reading. -/
def brokenPassExchanges : List Exchange := [
  ⟨"api.ci", .getTag "ci" "app:stable", .error notThere⟩,
  ⟨"app.ci", .getTag "ci" "app:stable", .ok releasedTag⟩,
  ⟨"build01", .getTag "ci" "app:stable", .error brokenConnection⟩]

def reactionFailures : List SyncError := [
  .write (.secret "ci" pullSecretName) "api.ci" forbidden,
  .namespaceStep .create "ci" "build01" notThere,
  .getTag "ci" "app:stable" "build01" brokenConnection]

def reactionError : SyncError := .multiple [
  .multiple [
    .write (.secret "ci" pullSecretName) "api.ci" forbidden,
    .namespaceStep .create "ci" "build01" notThere],
  .getTag "ci" "app:stable" "build01" brokenConnection]

theorem reaction_reports_three_failures :
    (reactTo threeClusters twoOfThree "app.ci" threeTags).Run
        (stoppedExchanges ++ brokenPassExchanges) (.error reactionError) ∧
      reactionError.message = "; ".intercalate (reactionFailures.map SyncError.message) := by
  have run : (reactTo threeClusters twoOfThree "app.ci" threeTags).Run
      (stoppedExchanges ++ brokenPassExchanges) (.error reactionError) :=
    Plan.run_play failingServers _ ()
  obtain ⟨-, -, passes, failures, -, -, -, -, -, herror⟩ := reaction_reports_every_failure rfl run
  obtain ⟨hleaves, -, hmessage⟩ := herror reactionError rfl
  have hfailures : reactionError.leaves = reactionFailures := rfl
  rw [← hleaves, hfailures] at hmessage
  exact ⟨run, hmessage⟩

end TagSync
