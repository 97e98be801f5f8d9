import TagSync.Proofs.Attempts
import TagSync.Proofs.Observing

/-!
# The approach of a pass

A pass is its approach, which gives what is to be copied, and then its copies (`syncTag_eq`).
`ApproachRun` says how an approach may go, and `run_syncTag_cases` puts the runs of a pass together
from an approach and attempts to copy.
-/

set_option autoImplicit false

namespace TagSync

open Api
open Plan (Exchange)

/-! ## Passes in two parts -/

/-- What is to be copied: the image of a source, as which tag, and to which clusters. -/
structure Work where
  source : Source
  tag : String
  targets : List String

/-- All that a pass does before it copies; it gives what is to be copied, if anything is. -/
def approach (fleet : Fleet) (ns name : String) : Job (Option Work) := do
  match TagName.parse? name with
  | none => throw (.invalidTagName ns name)
  | some parts =>
    let observations ← observe ns name fleet.names
    match newest? observations with
    | none => pure none
    | some (cluster, tag) =>
      let stream ← Job.require cluster (.getStream ns parts.stream)
        (.getStream ns parts.stream cluster)
      if stream.metadata.isTerminating then
        if stream.metadata.isManaged then
          retire fleet cluster stream
          pure none
        else pure none
      else
        hold cluster stream
        let source : Source := ⟨cluster, tag, stream⟩
        pure (some ⟨source, parts.tag, fleet.targets source observations⟩)

def copies (fleet : Fleet) : Option Work → Job Unit
  | none => pure ()
  | some work => do
    let errors ← attemptAll (copyTo fleet.credentials work.source work.tag) work.targets
    SyncError.collect errors

/-- A pass is its approach and its copies. -/
theorem syncTag_eq (fleet : Fleet) (ns name : String) :
    syncTag fleet ns name = approach fleet ns name >>= copies fleet := by
  rw [syncTag, approach]
  cases TagName.parse? name with
  | none => rfl
  | some parts =>
      simp only [bind_assoc]
      refine congrArg _ (funext fun observations => ?_)
      cases newest? observations with
      | none => rfl
      | some origin =>
          simp only [bind_assoc]
          refine congrArg _ (funext fun stream => ?_)
          -- A stream that is being deleted gives no work, whether it is retired or left alone.
          by_cases hterm : stream.metadata.isTerminating = true
          · rw [if_pos hterm, if_pos hterm]
            by_cases hm : stream.metadata.isManaged = true
            · rw [if_pos hm, if_pos hm]
              simp [copies]
            · rw [if_neg hm, if_neg hm]
              rfl
          · rw [if_neg hterm, if_neg hterm]
            simp only [copyToAll_eq, bind_assoc]
            rfl

/-! ## Holding the source -/

/-- The exchange puts finalizers on a stream of a cluster, and the cluster confirms it. -/
def ConfirmsFinalizers (cluster : String) (e : Exchange) : Prop :=
  ∃ ns name finalizers version stream,
    e = ⟨cluster, .setFinalizers ns name finalizers version, .ok stream⟩

theorem ConfirmsFinalizers.call_eq {cluster : String} {e : Exchange}
    (h : ConfirmsFinalizers cluster e) : ∃ ns name finalizers version,
      e.call = .setFinalizers ns name finalizers version := by
  obtain ⟨ns, name, finalizers, version, stream, rfl⟩ := h
  exact ⟨ns, name, finalizers, version, rfl⟩

/-- A managed stream is held already; any other one is written to once. -/
theorem run_hold {cluster : String} {stream : ImageStream} {exchanges : List Exchange}
    {outcome : Except SyncError Unit} (run : (hold cluster stream).Run exchanges outcome) :
    stream.metadata.isManaged = true ∧ exchanges = [] ∧ outcome = .ok () ∨
      stream.metadata.isManaged = false ∧
        ∃ reply, Plan.Run (Plan.send cluster (.setFinalizers stream.namespaceName stream.name
            (stream.metadata.finalizerList ++ [managedFinalizer])
            stream.metadata.resourceVersion)) exchanges reply ∧
          outcome = (reply.mapError (.write (.finalizers stream.namespaceName stream.name)
            cluster)).map fun _ => () := by
  cases hm : stream.metadata.isManaged with
  | true =>
      -- The managed finalizer is new, so it is appended.
      have hadd : withFinalizer? stream.metadata.finalizerList managedFinalizer = none := if_pos hm
      simp only [hold, hadd] at run
      obtain ⟨rfl, rfl⟩ := Job.run_pure_iff.mp run
      exact Or.inl ⟨rfl, rfl, rfl⟩
  | false =>
      have hadd : withFinalizer? stream.metadata.finalizerList managedFinalizer =
          some (stream.metadata.finalizerList ++ [managedFinalizer]) :=
        if_neg (Bool.eq_false_iff.mp hm)
      simp only [hold, hadd] at run
      exact Or.inr ⟨rfl, Job.run_require_done_iff.mp run⟩

theorem hold_only (cluster : String) (stream : ImageStream) :
    Job.Only (fun c call => c = cluster ∧ ∃ ns name finalizers version,
      call = .setFinalizers ns name finalizers version) (hold cluster stream) := by
  rw [hold]
  split
  · exact Job.Only.pure _ _
  · exact (Job.Only.require ⟨rfl, _, _, _, _, rfl⟩).bind fun _ => Job.Only.pure _ _

theorem run_hold_error {cluster : String} {stream : ImageStream} {exchanges : List Exchange}
    {e : SyncError} (run : (hold cluster stream).Run exchanges (.error e)) :
    stream.metadata.isManaged = false ∧ ∀ x ∈ exchanges, ¬ ConfirmsFinalizers cluster x := by
  rcases run_hold run with ⟨-, -, h⟩ | ⟨hm, reply, hsend, hreply⟩
  · cases h
  · refine ⟨hm, ?_⟩
    rintro x hx ⟨ns, name, finalizers, version, stored, rfl⟩
    rcases Plan.run_send_cases hsend with rfl | ⟨rfl, -⟩
    · cases reply with
      | ok result => cases hreply
      | error cause => cases List.mem_singleton.mp hx
    · cases hx

/-! ## Runs of an approach -/

/-- How an approach may go. -/
inductive ApproachRun (fleet : Fleet) (ns name : String) :
    List Exchange → Except SyncError (Option Work) → Prop
  /-- The name is no name of a tag. -/
  | misnamed : TagName.parse? name = none →
      ApproachRun fleet ns name [] (.error (.invalidTagName ns name))
  /-- A cluster cannot say whether it has the tag. -/
  | unread {parts : TagName} {reads : List Exchange} {e : SyncError} :
      TagName.parse? name = some parts → (observe ns name fleet.names).Run reads (.error e) →
      ApproachRun fleet ns name reads (.error e)
  /-- No cluster has the tag. -/
  | absent {parts : TagName} {reads : List Exchange} :
      TagName.parse? name = some parts → (observe ns name fleet.names).Run reads (.ok []) →
      ApproachRun fleet ns name reads (.ok none)
  /-- The stream of the newest copy cannot be read. -/
  | streamless {parts : TagName} {source : Source} {reads asking : List Exchange}
      {cause : CallError} : Found fleet ns name parts source reads →
      Plan.Run (Plan.send source.cluster (.getStream ns parts.stream)) asking (.error cause) →
      ApproachRun fleet ns name (reads ++ asking)
        (.error (.getStream ns parts.stream source.cluster cause))
  /-- The stream is being deleted and is none of this program's. -/
  | unmanaged {parts : TagName} {source : Source} {reads : List Exchange} :
      Found fleet ns name parts source reads → source.stream.metadata.isTerminating = true →
      source.stream.metadata.isManaged = false →
      ApproachRun fleet ns name (reads ++ [source.streamRead ns parts]) (.ok none)
  /-- The stream is being deleted and is retired. -/
  | retiring {parts : TagName} {source : Source} {reads rest : List Exchange}
      {outcome : Except SyncError Unit} {result : Except SyncError (Option Work)} :
      Found fleet ns name parts source reads → source.stream.metadata.isTerminating = true →
      source.stream.metadata.isManaged = true →
      (retire fleet source.cluster source.stream).Run rest outcome →
      result = outcome.map (fun _ => none) →
      ApproachRun fleet ns name (reads ++ source.streamRead ns parts :: rest) result
  /-- The stream cannot be held. -/
  | unheld {parts : TagName} {source : Source} {reads holding : List Exchange} {e : SyncError} :
      Found fleet ns name parts source reads → source.stream.metadata.isTerminating = false →
      (hold source.cluster source.stream).Run holding (.error e) →
      ApproachRun fleet ns name (reads ++ source.streamRead ns parts :: holding) (.error e)
  /-- The stream is held, and its image can be copied. -/
  | held {parts : TagName} {source : Source} {reads holding : List Exchange} :
      Found fleet ns name parts source reads → source.stream.metadata.isTerminating = false →
      (hold source.cluster source.stream).Run holding (.ok ()) →
      ApproachRun fleet ns name (reads ++ source.streamRead ns parts :: holding)
        (.ok (some ⟨source, parts.tag, fleet.targets source (observed reads)⟩))

/-- How an approach may go on once the stream of the newest copy is read. -/
theorem ApproachRun.of_stream {fleet : Fleet} {ns name : String} {parts : TagName}
    {source : Source} {reads exchanges : List Exchange}
    {outcome : Except SyncError (Option Work)} (found : Found fleet ns name parts source reads)
    (run : Job.Run (do
      if source.stream.metadata.isTerminating then
        if source.stream.metadata.isManaged then
          retire fleet source.cluster source.stream
          pure none
        else pure none
      else
        hold source.cluster source.stream
        pure (some ⟨source, parts.tag, fleet.targets source (observed reads)⟩))
      exchanges outcome) :
    ApproachRun fleet ns name (reads ++ source.streamRead ns parts :: exchanges) outcome := by
  cases hterm : source.stream.metadata.isTerminating with
  | true =>
      simp only [hterm, if_true] at run
      cases hm : source.stream.metadata.isManaged with
      | true =>
          simp only [hm, if_true] at run
          -- Whether the retirement succeeds or not, there is no work behind it.
          rcases Job.run_bind_iff.mp run with ⟨done, rest, last, hretire, hlast, rfl⟩ |
            ⟨e, hretire, rfl⟩
          · obtain ⟨rfl, rfl⟩ := Job.run_pure_iff.mp hlast
            rw [List.append_nil]
            exact .retiring found hterm hm hretire rfl
          · exact .retiring found hterm hm hretire rfl
      | false =>
          simp only [hm] at run
          obtain ⟨rfl, rfl⟩ := Job.run_pure_iff.mp run
          exact .unmanaged found hterm hm
  | false =>
      simp only [hterm] at run
      rcases Job.run_bind_iff.mp run with ⟨done, holding, last, hhold, hlast, rfl⟩ |
        ⟨e, hhold, rfl⟩
      · obtain ⟨rfl, rfl⟩ := Job.run_pure_iff.mp hlast
        rw [List.append_nil]
        exact .held found hterm hhold
      · exact .unheld found hterm hhold

/-- Every approach goes like that. -/
theorem ApproachRun.of_run {fleet : Fleet} {ns name : String} {exchanges : List Exchange}
    {outcome : Except SyncError (Option Work)}
    (run : (approach fleet ns name).Run exchanges outcome) :
    ApproachRun fleet ns name exchanges outcome := by
  rw [approach] at run
  cases hparts : TagName.parse? name with
  | none =>
      simp only [hparts] at run
      obtain ⟨rfl, rfl⟩ := Job.run_throw_iff.mp run
      exact .misnamed hparts
  | some parts =>
      simp only [hparts] at run
      rcases Job.run_bind_iff.mp run with ⟨observations, reads, rest, hlook, hrest, rfl⟩ |
        ⟨e, hlook, rfl⟩
      · obtain rfl := (run_observe hlook).2.1
        cases hnewest : newest? (observed reads) with
        | none =>
            simp only [hnewest] at hrest
            obtain ⟨rfl, rfl⟩ := Job.run_pure_iff.mp hrest
            rw [newest?_eq_none_iff.mp hnewest] at hlook
            rw [List.append_nil]
            exact .absent hparts hlook
        | some origin =>
            obtain ⟨cluster, tag⟩ := origin
            simp only [hnewest] at hrest
            have found (stream : ImageStream) :
                Found fleet ns name parts ⟨cluster, tag, stream⟩ reads :=
              ⟨hparts, hlook, hnewest⟩
            rcases Job.run_bind_iff.mp hrest with ⟨stream, asking, later, hask, hlater, rfl⟩ |
              ⟨e, hask, rfl⟩
            · obtain ⟨reply, hsend, hreply⟩ := Job.run_require_iff.mp hask
              cases reply with
              | error cause => cases hreply
              | ok read =>
                  obtain rfl := Except.ok.inj hreply
                  obtain rfl := Plan.run_send_ok hsend
                  exact .of_stream (found stream) hlater
            · obtain ⟨reply, hsend, hreply⟩ := Job.run_require_iff.mp hask
              cases reply with
              | ok read => cases hreply
              | error cause =>
                  obtain rfl := Except.error.inj hreply
                  -- The stream was not read, so any will do for the source.
                  exact .streamless (found default) hsend
      · exact .unread hparts hlook

/-- An approach that gives something to copy has found and held its source. -/
theorem ApproachRun.exists_held {fleet : Fleet} {ns name : String} {lead : List Exchange}
    {work : Work} (h : ApproachRun fleet ns name lead (.ok (some work))) :
    ∃ parts reads holding, Found fleet ns name parts work.source reads ∧
      work.source.stream.metadata.isTerminating = false ∧
      (hold work.source.cluster work.source.stream).Run holding (.ok ()) ∧
      lead = reads ++ work.source.streamRead ns parts :: holding ∧ work.tag = parts.tag ∧
      work.targets = fleet.targets work.source (observed reads) := by
  cases h with
  | @retiring _ _ _ _ outcome _ _ _ _ _ hresult =>
      -- A retirement leaves nothing to copy.
      cases outcome with
      | ok done => cases hresult
      | error e => cases hresult
  | held found hlive hhold => exact ⟨_, _, _, found, hlive, hhold, rfl, rfl, rfl⟩

/-! ## Approaches and copies -/

/-- The approach of a pass fails, or it gives nothing to copy, or the image is copied to each
target in turn. -/
theorem run_syncTag_cases {fleet : Fleet} {ns name : String} {exchanges : List Exchange}
    {outcome : Except SyncError Unit} (run : (syncTag fleet ns name).Run exchanges outcome) :
    (∃ e, (approach fleet ns name).Run exchanges (.error e) ∧ outcome = .error e) ∨
    ((approach fleet ns name).Run exchanges (.ok none) ∧ outcome = .ok ()) ∨
    ∃ work lead made, (approach fleet ns name).Run lead (.ok (some work)) ∧
      Attempted (copyTo fleet.credentials work.source work.tag) work.targets made ∧
      exchanges = lead ++ exchangesOf made ∧ outcome = SyncError.collect (failuresOf made) := by
  rw [syncTag_eq] at run
  rcases Job.run_bind_iff.mp run with ⟨work, lead, rest, hlead, hrest, rfl⟩ | ⟨e, hlead, rfl⟩
  · cases work with
    | none =>
        obtain ⟨rfl, rfl⟩ := Job.run_pure_iff.mp hrest
        rw [List.append_nil]
        exact Or.inr (Or.inl ⟨hlead, rfl⟩)
    | some work =>
        -- The copies are attempted one after the other, whatever comes of each.
        obtain ⟨errors, copying, last, hcopies, hlast, rfl⟩ := Job.run_lift_bind_iff.mp hrest
        obtain ⟨rfl, rfl⟩ := Plan.run_done_iff.mp hlast
        obtain ⟨made, hmade, rfl, rfl⟩ := run_attemptAll_iff.mp hcopies
        rw [List.append_nil]
        exact Or.inr (Or.inr ⟨work, lead, made, hlead, hmade, rfl, rfl⟩)
  · exact Or.inl ⟨e, hlead, rfl⟩

end TagSync
