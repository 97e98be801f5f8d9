import TagSync.Proofs.Sequels
import TagSync.Proofs.Synced
import TagSync.Watch

/-!
# Deleting with a cause

A run acts on one stream: a pass on the stream of the newest copy, the reaction to a stream that is
being deleted on that stream. Only if that stream is being deleted and managed does the run delete
anything, and then it neither creates nor copies (`deletes_only_with_cause`).
-/

set_option autoImplicit false

namespace TagSync

open Api
open Plan (Exchange)

/-! ## Writes because of a stream -/

/-- What a run that acts on a stream may write. -/
structure WritesWithCause (owner : String) (stream : ImageStream) (exchanges : List Exchange)
    (outcome : Except SyncError Unit) : Prop where
  /-- What is deleted is this stream, on other clusters, and it is being deleted and managed. -/
  cause : ∀ e ∈ exchanges, e.method = .delete → stream.metadata.isTerminating = true ∧
    stream.metadata.isManaged = true ∧ DeletesElsewhere owner stream e
  /-- Because of a stream that is being deleted nothing is created, and nothing is changed but
  its finalizers, once at most. -/
  unmixed : stream.metadata.isTerminating = true →
    (∀ e ∈ exchanges, e.method ≠ .post) ∧
    (exchanges.filter (·.method = .patch)).length ≤ 1 ∧
    ∀ e ∈ exchanges, e.method = .patch → ∃ current, TakesFinalizerOff owner current e
  /-- Because of one that is not managed nothing is written. -/
  spared : stream.metadata.isTerminating = true → stream.metadata.isManaged = false →
    (∀ e ∈ exchanges, e.method = .get) ∧ outcome = .ok ()

theorem length_patches_eq_zero {exchanges : List Exchange}
    (h : ∀ e ∈ exchanges, e.method ≠ .patch) :
    (exchanges.filter (·.method = .patch)).length = 0 := by
  rw [List.length_eq_zero_iff, List.filter_eq_nil_iff]
  exact fun e he => by simpa using h e he

namespace WritesWithCause

variable {owner : String} {stream : ImageStream} {looks exchanges : List Exchange}
  {outcome : Except SyncError Unit}

/-- What is only read does not matter. -/
theorem append_reads (h : WritesWithCause owner stream exchanges outcome)
    (hlooks : ∀ e ∈ looks, e.method = .get) :
    WritesWithCause owner stream (looks ++ exchanges) outcome where
  cause := by
    intro e he hdelete
    rcases List.mem_append.mp he with he | he
    · cases (hlooks e he).symm.trans hdelete
    · exact h.cause e he hdelete
  unmixed := by
    intro hterm
    obtain ⟨hpost, hcount, hpatch⟩ := h.unmixed hterm
    -- Reads add nothing to the writes that are counted.
    have hnone : (looks.filter (·.method = .patch)).length = 0 :=
      length_patches_eq_zero fun e he => by simp [hlooks e he]
    refine ⟨List.forall_mem_append.mpr ⟨fun e he => by simp [hlooks e he], hpost⟩, ?_, ?_⟩
    · rwa [List.filter_append, List.length_append, hnone, Nat.zero_add]
    · intro e he hmethod
      rcases List.mem_append.mp he with he | he
      · cases (hlooks e he).symm.trans hmethod
      · exact hpatch e he hmethod
  spared := by
    intro hterm hm
    obtain ⟨hreads, hok⟩ := h.spared hterm hm
    exact ⟨List.forall_mem_append.mpr ⟨hlooks, hreads⟩, hok⟩

theorem of_live (hlive : stream.metadata.isTerminating = false)
    (h : ∀ e ∈ exchanges, e.method ≠ .delete) : WritesWithCause owner stream exchanges outcome where
  cause := fun e he hdelete => absurd hdelete (h e he)
  unmixed := fun hterm => by cases hlive.symm.trans hterm
  spared := fun hterm => by cases hlive.symm.trans hterm

theorem nothing : WritesWithCause owner stream [] (.ok ()) where
  cause := by simp
  unmixed := by simp
  spared := by simp

end WritesWithCause

/-! ## Writes of a retirement -/

/-- What the exchanges of a retirement do: they delete elsewhere, they read, or they take the
managed finalizer off. -/
theorem Retiring.method_cases {owner : String} {stream : ImageStream} {exchanges : List Exchange}
    (h : Retiring owner stream exchanges) : ∀ e ∈ exchanges,
      (e.method = .delete ∧ DeletesElsewhere owner stream e) ∨ e.method = .get ∨
      (e.method = .patch ∧ ∃ current, TakesFinalizerOff owner current e) := by
  intro e he
  rcases h.asks e he with hdelete | ⟨-, hread⟩ | ⟨current, htakes⟩
  · refine Or.inl ⟨?_, hdelete⟩
    rw [Exchange.method, hdelete.2]
    rfl
  · refine Or.inr (Or.inl ?_)
    rw [Exchange.method, hread]
    rfl
  · exact Or.inr (Or.inr ⟨htakes.leavesUnmanaged.method_eq, current, htakes⟩)

/-- A retirement changes one object at most. -/
theorem Retiring.length_patches_le {owner : String} {stream : ImageStream}
    {exchanges : List Exchange} (h : Retiring owner stream exchanges) :
    (exchanges.filter (·.method = .patch)).length ≤ 1 := by
  obtain @⟨deletions, releasing, hdeletions, hreleasing⟩ := h
  have hdelete : ∀ e ∈ deletions, e.method ≠ .patch := by
    intro e he hmethod
    rw [Exchange.method, (hdeletions e he).2] at hmethod
    cases hmethod
  rw [List.filter_append, List.length_append, length_patches_eq_zero hdelete, Nat.zero_add]
  cases hreleasing with
  | reading hall =>
      have hread : ∀ e ∈ releasing, e.method ≠ .patch := by
        intro e he hmethod
        rw [Exchange.method, (hall e he).2] at hmethod
        cases hmethod
      rw [length_patches_eq_zero hread]
      exact Nat.zero_le 1
  | @writing current e htakes =>
      -- The first of the two exchanges is a reading.
      have hread : (⟨owner, .getStream stream.namespaceName stream.name, .ok current⟩ :
          Exchange).method = .get := rfl
      rw [List.filter_cons_of_neg (by simp [hread])]
      exact List.length_filter_le _ _

/-- A stream that is being deleted and managed is cause enough for its retirement. -/
theorem Retiring.writesWithCause {owner : String} {stream : ImageStream}
    {exchanges : List Exchange} {outcome : Except SyncError Unit}
    (hterm : stream.metadata.isTerminating = true) (hm : stream.metadata.isManaged = true)
    (h : Retiring owner stream exchanges) : WritesWithCause owner stream exchanges outcome where
  cause := by
    intro e he hmethod
    rcases h.method_cases e he with ⟨-, hdelete⟩ | hget | ⟨hpatch, -⟩
    · exact ⟨hterm, hm, hdelete⟩
    · cases hget.symm.trans hmethod
    · cases hpatch.symm.trans hmethod
  unmixed := by
    refine fun _ => ⟨fun e he hmethod => ?_, h.length_patches_le, fun e he hmethod => ?_⟩
    · rcases h.method_cases e he with ⟨hdelete, -⟩ | hget | ⟨hpatch, -⟩
      · cases hdelete.symm.trans hmethod
      · cases hget.symm.trans hmethod
      · cases hpatch.symm.trans hmethod
    · rcases h.method_cases e he with ⟨hdelete, -⟩ | hget | ⟨-, htakes⟩
      · cases hdelete.symm.trans hmethod
      · cases hget.symm.trans hmethod
      · exact htakes
  spared := fun _ hunmanaged => by cases hm.symm.trans hunmanaged

/-! ## Writes of a pass -/

theorem Prepares.method_ne {target : String} {e : Exchange}
    (h : Prepares target e.cluster e.call) : e.method ≠ .delete := by
  obtain ⟨cluster, call, reply⟩ := e
  obtain ⟨-, hprep⟩ := h
  intro hmethod
  cases call with
  | deleteStream => cases hprep
  | getTag | getStream | createStream | setFinalizers | setAnnotations | getNamespace
  | createNamespace | applyPullSecret | importImages | listGroups | listResources => cases hmethod

/-- Whatever follows the reading of a stream has its cause in that stream. -/
theorem Sequel.writesWithCause {fleet : Fleet} {ns name : String} {parts : TagName}
    {source : Source} {reads rest : List Exchange} {outcome : Except SyncError Unit}
    (h : Sequel fleet ns name parts source reads rest outcome) :
    WritesWithCause source.cluster source.stream rest outcome := by
  -- Holding only ever patches.
  have holding_ne : ∀ {es : List Exchange} {result : Except SyncError Unit},
      (hold source.cluster source.stream).Run es result → ∀ e ∈ es, e.method ≠ .delete := by
    intro es result hhold e he hmethod
    rw [Exchange.method, (hold_asks _ _ hhold e he).2] at hmethod
    cases hmethod
  cases h with
  | idle => exact .nothing
  | retiring hterm hm hretiring => exact hretiring.writesWithCause hterm hm
  | unheld hlive hhold => exact .of_live hlive (holding_ne hhold)
  | copying hcopying =>
      refine .of_live hcopying.live (List.forall_mem_append.mpr ⟨holding_ne hcopying.held, ?_⟩)
      intro e he hmethod
      obtain ⟨cluster, -, hprep | ⟨reference, -, -, himport⟩⟩ := hcopying.belongs e he
      · exact hprep.method_ne hmethod
      · rw [Exchange.method, himport] at hmethod
        cases hmethod

/-! ## Runs -/

/-- **Nothing is deleted without a cause.** A pass that deletes acts on a stream, and a pass that
acts on a stream has its cause in it; the reaction to a stream that is being deleted has its cause
in that stream. -/
theorem deletes_only_with_cause (fleet : Fleet) :
    (∀ ns name exchanges outcome, (syncTag fleet ns name).Run exchanges outcome →
      (∀ e ∈ exchanges, e.method = .delete → ∃ owner stream, ActsOn exchanges owner stream) ∧
      ∀ owner stream, ActsOn exchanges owner stream →
        WritesWithCause owner stream exchanges outcome) ∧
    ∀ filter cluster stream exchanges outcome,
      (reactTo fleet filter cluster stream).Run exchanges outcome →
      stream.metadata.isTerminating = true → WritesWithCause cluster stream exchanges outcome := by
  constructor
  · intro ns name exchanges outcome run
    have hpass := PassRun.of_run run
    refine ⟨fun e he hdelete => hpass.exists_actsOn he (by simp [hdelete]), ?_⟩
    intro owner stream acts
    -- A pass that has read a stream goes on with its sequel.
    obtain ⟨parts, tag, reads, rest, found, hsequel, rfl⟩ := hpass.sequel acts
    exact hsequel.writesWithCause.append_reads found.method_eq
  · intro filter cluster stream exchanges outcome run hterm
    rw [reactTo, if_pos hterm] at run
    split at run
    · next hm => exact (Retiring.of_run run).writesWithCause hterm hm
    · obtain ⟨rfl, rfl⟩ := Job.run_pure_iff.mp run
      exact .nothing

/-! ### A pass and a reaction -/

/-- Servers of which one has the newest copy of a tag, whose stream is being deleted. -/
def dyingSource : Unit → String → (call : Call) → call.Reply × Unit
  | _, "app.ci", .getTag _ _ => (.ok importedTag, ())
  | _, "app.ci", .getStream _ _ => (.ok doomedStream, ())
  | _, "app.ci", .setFinalizers _ _ _ _ => (.ok doomedStream, ())
  | _, "build01", .deleteStream _ _ => (.ok (), ())
  | _, _, _ => (.error notThere, ())

def dyingPassExchanges : List Exchange := [
  ⟨"api.ci", .getTag "ci" "applyconfig:latest", .error notThere⟩,
  ⟨"app.ci", .getTag "ci" "applyconfig:latest", .ok importedTag⟩,
  ⟨"build01", .getTag "ci" "applyconfig:latest", .error notThere⟩,
  ⟨"app.ci", .getStream "ci" "applyconfig", .ok doomedStream⟩] ++ retirementExchanges

theorem deletes_dying_stream :
    (syncTag threeClusters "ci" "applyconfig:latest").Run dyingPassExchanges (.ok ()) ∧
      ActsOn dyingPassExchanges "app.ci" doomedStream ∧
      WritesWithCause "app.ci" doomedStream dyingPassExchanges (.ok ()) ∧
      (reactTo threeClusters default "app.ci" doomedStream).Run retirementExchanges (.ok ()) ∧
      WritesWithCause "app.ci" doomedStream retirementExchanges (.ok ()) := by
  obtain ⟨hpass, hreaction⟩ := deletes_only_with_cause threeClusters
  have run : (syncTag threeClusters "ci" "applyconfig:latest").Run dyingPassExchanges (.ok ()) :=
    Plan.run_play dyingSource _ ()
  have acts : ActsOn dyingPassExchanges "app.ci" doomedStream := ⟨⟨importedTag, rfl⟩, rfl⟩
  have reaction : (reactTo threeClusters default "app.ci" doomedStream).Run
      retirementExchanges (.ok ()) := Plan.run_play dyingSource _ ()
  exact ⟨run, acts, (hpass _ _ _ _ run).2 _ _ acts, reaction, hreaction _ _ _ _ _ reaction rfl⟩

end TagSync
