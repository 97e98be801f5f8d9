import TagSync.Proofs.Deletion
import TagSync.Proofs.Passes

/-!
# What follows the reading of the source's stream

A pass that has read the stream of the newest copy acts on it (`ActsOn`): it leaves the stream
alone, retires it, fails to hold it, or copies its image (`Sequel`). Every other pass only reads
(`PassRun.cases_source`). Streams are taken as the servers name them here: `run_release` and
`run_retire` in `Proofs/Deletion` need names that fit into a request, `Releasing.of_run` and
`Retiring.of_run` do not.
-/

set_option autoImplicit false

namespace TagSync

open Api
open Plan (Exchange)

def Plan.Exchange.method (e : Exchange) : Method := e.call.draft.method

/-! ## Releases and retirements of streams of any name -/

/-- How a release may go: it only reads, or it reads the stream and then takes the managed
finalizer off the version it has read. -/
inductive Releasing (owner : String) (stream : ImageStream) : List Exchange → Prop
  | reading {exchanges : List Exchange} :
      (∀ e ∈ exchanges, e.cluster = owner ∧
        e.call = .getStream stream.namespaceName stream.name) →
      Releasing owner stream exchanges
  | writing {current : ImageStream} {e : Exchange} : TakesFinalizerOff owner current e →
      Releasing owner stream
        [⟨owner, .getStream stream.namespaceName stream.name, .ok current⟩, e]

/-- Every release goes like that. -/
theorem Releasing.of_run {owner : String} {stream : ImageStream} {exchanges : List Exchange}
    {outcome : Except SyncError Unit} (run : (release owner stream).Run exchanges outcome) :
    Releasing owner stream exchanges := by
  -- A name that does not fit into a request leaves no exchange at all.
  have only : ∀ {es : List Exchange} {reply : Except CallError ImageStream},
      Plan.Run (Plan.send owner (.getStream stream.namespaceName stream.name)) es reply →
      ∀ e ∈ es, e.cluster = owner ∧ e.call = .getStream stream.namespaceName stream.name :=
    fun h => Plan.Only.send (P := fun c call =>
      c = owner ∧ call = .getStream stream.namespaceName stream.name) ⟨rfl, rfl⟩ h
  rcases Job.run_bind_iff.mp run with ⟨result, first, second, hfirst, hsecond, rfl⟩ | ⟨e, h, rfl⟩
  · obtain ⟨reply, hsend, hreply⟩ := Job.run_find?_iff.mp hfirst
    cases result with
    | none =>
        obtain ⟨rfl, -⟩ := Job.run_pure_iff.mp hsecond
        rw [List.append_nil]
        exact .reading (only hsend)
    | some current =>
        obtain rfl := Job.found_eq_some_iff.mp hreply.symm
        dsimp only at hsecond
        split at hsecond
        · obtain ⟨rfl, -⟩ := Job.run_pure_iff.mp hsecond
          rw [List.append_nil]
          exact .reading (only hsend)
        · next finalizers hf =>
          obtain ⟨hlen, hall⟩ := run_writeFinalizers hsecond
          match second with
          | [] =>
              rw [List.append_nil]
              exact .reading (only hsend)
          | [e] =>
              obtain rfl := Plan.run_send_ok hsend
              exact .writing ⟨finalizers, hf, hall e (by simp)⟩
          | _ :: _ :: _ => simp at hlen
  · obtain ⟨reply, hsend, -⟩ := Job.run_find?_iff.mp h
    exact .reading (only hsend)

theorem Releasing.asks {owner : String} {stream : ImageStream} {exchanges : List Exchange}
    (h : Releasing owner stream exchanges) : ∀ e ∈ exchanges,
      (e.cluster = owner ∧ e.call = .getStream stream.namespaceName stream.name) ∨
      ∃ current, TakesFinalizerOff owner current e := by
  cases h with
  | reading hall => exact fun e he => Or.inl (hall e he)
  | writing htakes =>
      intro e he
      rcases List.mem_cons.mp he with rfl | he
      · exact Or.inl ⟨rfl, rfl⟩
      · obtain rfl := List.mem_singleton.mp he
        exact Or.inr ⟨_, htakes⟩

/-- Deletions go to these clusters and ask for nothing else. -/
theorem deleteOn_asks (ns name : String) (clusters : List String) :
    Job.Only (fun c call => c ∈ clusters ∧ call = .deleteStream ns name)
      (deleteOn ns name clusters) := by
  induction clusters with
  | nil => exact Job.Only.pure _ _
  | cons cluster clusters ih =>
      have later : Job.Only (fun c call => c ∈ cluster :: clusters ∧ call = .deleteStream ns name)
          (deleteOn ns name clusters) := ih.mono fun h => ⟨List.mem_cons_of_mem cluster h.1, h.2⟩
      refine (Job.Only.send ⟨List.mem_cons_self, rfl⟩).bind fun reply => ?_
      cases reply with
      | ok result => exact later
      | error cause =>
          show Job.Only _ (if cause.isNotFound then _ else _)
          split
          · exact later
          · exact Job.Only.throw _ _

/-- The exchange asks another cluster than the owner to delete the stream. -/
def DeletesElsewhere (owner : String) (stream : ImageStream) (e : Exchange) : Prop :=
  e.cluster ≠ owner ∧ e.call = .deleteStream stream.namespaceName stream.name

/-- How a retirement may go: deletions on other clusters, and then a release. -/
inductive Retiring (owner : String) (stream : ImageStream) : List Exchange → Prop
  | intro {deletions releasing : List Exchange} :
      (∀ e ∈ deletions, DeletesElsewhere owner stream e) → Releasing owner stream releasing →
      Retiring owner stream (deletions ++ releasing)

/-- Every retirement goes like that. -/
theorem Retiring.of_run {fleet : Fleet} {owner : String} {stream : ImageStream}
    {exchanges : List Exchange} {outcome : Except SyncError Unit}
    (run : (retire fleet owner stream).Run exchanges outcome) :
    Retiring owner stream exchanges := by
  -- The deletions go to the other clusters.
  have elsewhere : ∀ {es : List Exchange} {result : Except SyncError Unit},
      (deleteOn stream.namespaceName stream.name (fleet.names.filter (· != owner))).Run es result →
      ∀ e ∈ es, DeletesElsewhere owner stream e := by
    intro es result hrun e he
    obtain ⟨hmem, hcall⟩ := deleteOn_asks _ _ _ hrun e he
    exact ⟨by simpa using (List.mem_filter.mp hmem).2, hcall⟩
  rcases Job.run_bind_iff.mp run with ⟨done, first, second, hfirst, hsecond, rfl⟩ | ⟨e, h, -⟩
  · refine .intro (elsewhere hfirst) ?_
    split at hsecond
    · exact .of_run hsecond
    · obtain ⟨rfl, -⟩ := Job.run_pure_iff.mp hsecond
      exact .reading (by simp)
  · rw [← List.append_nil exchanges]
    exact .intro (elsewhere h) (.reading (by simp))

theorem Retiring.asks {owner : String} {stream : ImageStream} {exchanges : List Exchange}
    (h : Retiring owner stream exchanges) : ∀ e ∈ exchanges, DeletesElsewhere owner stream e ∨
      (e.cluster = owner ∧ e.call = .getStream stream.namespaceName stream.name) ∨
      ∃ current, TakesFinalizerOff owner current e := by
  obtain ⟨hdeletions, hreleasing⟩ := h
  exact List.forall_mem_append.mpr
    ⟨fun e he => Or.inl (hdeletions e he), fun e he => Or.inr (hreleasing.asks e he)⟩

/-! ## Holding a stream -/

/-- The call that puts the managed finalizer on a version of a stream that lacks it. -/
def ImageStream.holdCall (stream : ImageStream) : Call :=
  .setFinalizers stream.namespaceName stream.name
    (stream.metadata.finalizerList ++ [managedFinalizer]) stream.metadata.resourceVersion

theorem hold_asks (cluster : String) (stream : ImageStream) :
    Job.Only (fun c call => c = cluster ∧ call = stream.holdCall) (hold cluster stream) := by
  intro exchanges outcome run e he
  rcases run_hold run with ⟨-, rfl, -⟩ | ⟨-, reply, hsend, -⟩
  · cases he
  · exact Plan.Only.send (P := fun c call => c = cluster ∧ call = stream.holdCall) ⟨rfl, rfl⟩
      hsend e he

/-- The exchange leaves a stream without the managed finalizer. -/
def LeavesUnmanaged (e : Exchange) : Prop :=
  ∃ ns name finalizers version,
    e.call = .setFinalizers ns name finalizers version ∧ managedFinalizer ∉ finalizers

theorem LeavesUnmanaged.method_eq {e : Exchange} (h : LeavesUnmanaged e) : e.method = .patch := by
  obtain ⟨_, _, _, _, hcall, -⟩ := h
  rw [Exchange.method, hcall]
  rfl

theorem not_leavesUnmanaged_hold {stream : ImageStream} {e : Exchange}
    (h : e.call = stream.holdCall) : ¬ LeavesUnmanaged e := by
  rintro ⟨ns, name, finalizers, version, hcall, hnot⟩
  obtain ⟨-, -, rfl, -⟩ := Call.setFinalizers.inj (h.symm.trans hcall)
  exact hnot (by simp)

theorem TakesFinalizerOff.leavesUnmanaged {owner : String} {current : ImageStream} {e : Exchange}
    (h : TakesFinalizerOff owner current e) : LeavesUnmanaged e := by
  obtain ⟨finalizers, hwithout, -, hcall⟩ := h
  refine ⟨_, _, finalizers, _, hcall, ?_⟩
  rw [withoutFinalizer?] at hwithout
  split at hwithout
  · obtain rfl := Option.some.inj hwithout
    simp
  · cases hwithout

/-! ## Sequels -/

/-- What may follow once a pass has read the stream of the newest copy. -/
inductive Sequel (fleet : Fleet) (ns name : String) (parts : TagName) (source : Source)
    (reads : List Exchange) : List Exchange → Except SyncError Unit → Prop
  /-- The stream is being deleted and is none of this program's. -/
  | idle : source.stream.metadata.isTerminating = true →
      source.stream.metadata.isManaged = false →
      Sequel fleet ns name parts source reads [] (.ok ())
  /-- The stream is being deleted and is retired. -/
  | retiring {rest : List Exchange} {outcome : Except SyncError Unit} :
      source.stream.metadata.isTerminating = true → source.stream.metadata.isManaged = true →
      Retiring source.cluster source.stream rest →
      Sequel fleet ns name parts source reads rest outcome
  /-- The stream cannot be held. -/
  | unheld {holding : List Exchange} {e : SyncError} :
      source.stream.metadata.isTerminating = false →
      (hold source.cluster source.stream).Run holding (.error e) →
      Sequel fleet ns name parts source reads holding (.error e)
  /-- The stream is held and its image is copied. -/
  | copying {holding copies : List Exchange} {errors : List SyncError} :
      Copying fleet ns name parts source reads holding copies errors →
      Sequel fleet ns name parts source reads (holding ++ copies) (SyncError.collect errors)

/-- A pass reads no stream, and then it only reads, or it goes on from the stream of the newest
copy. -/
theorem PassRun.cases_source {fleet : Fleet} {ns name : String} {exchanges : List Exchange}
    {outcome : Except SyncError Unit} (h : PassRun fleet ns name exchanges outcome) :
    ((∀ e ∈ exchanges, e.method = .get) ∧ exchanges.findSome? streamReading? = none) ∨
      ∃ parts source reads rest, Found fleet ns name parts source reads ∧
        Sequel fleet ns name parts source reads rest outcome ∧
        exchanges = reads ++ source.streamRead ns parts :: rest := by
  -- Looking for the tag reads no stream.
  have looking : ∀ {es : List Exchange}, (∀ e ∈ es, e.call = .getTag ns name) →
      (∀ e ∈ es, e.method = .get) ∧ es.findSome? streamReading? = none := by
    intro es hes
    refine ⟨fun e he => by rw [Exchange.method, hes e he]; rfl, ?_⟩
    exact List.findSome?_eq_none_iff.mpr fun e he => streamReading?_eq_none (hes e he)
  cases h with
  | misnamed hname => exact Or.inl (looking (by simp))
  | unread hlook => exact Or.inl (looking (observe_only _ _ _ hlook))
  | absent hlook => exact Or.inl (looking (observe_only _ _ _ hlook))
  | streamless found hasking =>
      obtain ⟨hread, hnone⟩ := looking fun e he => (found.looks e he).call_eq
      refine Or.inl ⟨List.forall_mem_append.mpr ⟨hread, fun e he => ?_⟩, ?_⟩
      · obtain ⟨cause, rfl⟩ := hasking e he
        rfl
      · rw [List.findSome?_append, hnone, Option.none_or, List.findSome?_eq_none_iff]
        intro e he
        obtain ⟨cause, rfl⟩ := hasking e he
        rfl
  | unmanaged found hterm hm => exact Or.inr ⟨_, _, _, _, found, .idle hterm hm, rfl⟩
  | retiring found hterm hm hretire =>
      exact Or.inr ⟨_, _, _, _, found, .retiring hterm hm (.of_run hretire), rfl⟩
  | unheld found hlive hhold => exact Or.inr ⟨_, _, _, _, found, .unheld hlive hhold, rfl⟩
  | copying hcopying => exact Or.inr ⟨_, _, _, _, hcopying.found, .copying hcopying, rfl⟩

namespace Sequel

variable {fleet : Fleet} {ns name : String} {parts : TagName} {source : Source}
  {reads rest : List Exchange} {outcome : Except SyncError Unit}

/-- After the stream no tag is read. -/
theorem later_call (h : Sequel fleet ns name parts source reads rest outcome) :
    ∀ e ∈ rest, ∀ ns' name', e.call ≠ .getTag ns' name' := by
  intro e he ns' name' hcall
  cases h with
  | idle => cases he
  | retiring _ _ hretiring =>
      rcases hretiring.asks e he with ⟨-, hdelete⟩ | ⟨-, hread⟩ | ⟨_, _, -, -, hset⟩
      · cases hcall.symm.trans hdelete
      · cases hcall.symm.trans hread
      · cases hcall.symm.trans hset
  | unheld _ hhold =>
      obtain ⟨-, _, _, _, _, hset⟩ := hold_only _ _ hhold e he
      cases hcall.symm.trans hset
  | copying hcopying => exact hcopying.later_call e (List.mem_cons_of_mem _ he) ns' name' hcall

end Sequel

/-! ## The stream that a pass acts on -/

/-- Going by its exchanges, a pass acts on this stream: it has read the stream from the cluster
with the newest copy of the tag. -/
structure ActsOn (exchanges : List Exchange) (owner : String) (stream : ImageStream) : Prop where
  newest : ∃ tag, newest? (observed exchanges) = some (owner, tag)
  read : exchanges.findSome? streamReading? = some (owner, stream)

theorem Sequel.actsOn {fleet : Fleet} {ns name : String} {parts : TagName} {source : Source}
    {reads rest : List Exchange} {outcome : Except SyncError Unit}
    (h : Sequel fleet ns name parts source reads rest outcome)
    (found : Found fleet ns name parts source reads) :
    ActsOn (reads ++ source.streamRead ns parts :: rest) source.cluster source.stream where
  newest := by
    have later : ∀ e ∈ source.streamRead ns parts :: rest, ∀ ns' name',
        e.call ≠ .getTag ns' name' := List.forall_mem_cons.mpr ⟨nofun, h.later_call⟩
    rw [observed_append, observed_eq_nil later, List.append_nil]
    exact ⟨source.tag, found.newest⟩
  read := found.first_stream rest

theorem ActsOn.eq_source {fleet : Fleet} {ns name : String} {parts : TagName} {source : Source}
    {reads rest : List Exchange} {owner : String} {stream : ImageStream}
    (h : ActsOn (reads ++ source.streamRead ns parts :: rest) owner stream)
    (found : Found fleet ns name parts source reads) :
    source.cluster = owner ∧ source.stream = stream :=
  Prod.mk.inj (Option.some.inj ((found.first_stream rest).symm.trans h.read))

theorem PassRun.exists_actsOn {fleet : Fleet} {ns name : String} {exchanges : List Exchange}
    {outcome : Except SyncError Unit} (h : PassRun fleet ns name exchanges outcome) {e : Exchange}
    (he : e ∈ exchanges) (hwrite : e.method ≠ .get) :
    ∃ owner stream, ActsOn exchanges owner stream := by
  rcases h.cases_source with ⟨hread, -⟩ | ⟨parts, source, reads, rest, found, hsequel, rfl⟩
  · exact absurd (hread e he) hwrite
  · exact ⟨_, _, hsequel.actsOn found⟩

theorem Found.method_eq {fleet : Fleet} {ns name : String} {parts : TagName} {source : Source}
    {reads : List Exchange} (h : Found fleet ns name parts source reads) :
    ∀ e ∈ reads ++ [source.streamRead ns parts], e.method = .get := by
  intro e he
  rcases List.mem_append.mp he with he | he
  · rw [Exchange.method, (h.looks e he).call_eq]
    rfl
  · obtain rfl := List.mem_singleton.mp he
    rfl

theorem PassRun.sequel {fleet : Fleet} {ns name : String} {exchanges : List Exchange}
    {outcome : Except SyncError Unit} (h : PassRun fleet ns name exchanges outcome)
    {owner : String} {stream : ImageStream} (acts : ActsOn exchanges owner stream) :
    ∃ parts tag reads rest,
      Found fleet ns name parts ⟨owner, tag, stream⟩ reads ∧
      Sequel fleet ns name parts ⟨owner, tag, stream⟩ reads rest outcome ∧
      exchanges = (reads ++ [⟨owner, .getStream ns parts.stream, .ok stream⟩]) ++ rest := by
  rcases h.cases_source with ⟨-, hnone⟩ | ⟨parts, source, reads, rest, found, hsequel, rfl⟩
  · cases hnone.symm.trans acts.read
  · obtain ⟨rfl, rfl⟩ := acts.eq_source found
    exact ⟨parts, source.tag, reads, rest, found, hsequel, List.append_cons _ _ _⟩

end TagSync
