import TagSync.Proofs.Approach
import TagSync.Proofs.Copying

/-!
# Runs of a pass

A pass looks for the tag on every cluster, reads the stream of the newest copy, and then retires
that stream or holds it and copies its image. `PassRun` says how a pass may go, `PassRun.of_run`
that every pass goes like that. `UnderWay` tells from the exchanges alone that a pass has reached
its copies.
-/

set_option autoImplicit false

namespace TagSync

open Api
open Plan (Exchange)

/-! ## Passes -/

/-- A pass that has reached its copies: what it asks before them, the copies, and how they end. -/
structure Copying (fleet : Fleet) (ns name : String) (parts : TagName) (source : Source)
    (reads holding copies : List Exchange) (errors : List SyncError) : Prop where
  found : Found fleet ns name parts source reads
  live : source.stream.metadata.isTerminating = false
  held : (hold source.cluster source.stream).Run holding (.ok ())
  copied : Plan.Run (copyToAll fleet.credentials source parts.tag
    (fleet.targets source (observed reads))) copies errors

theorem Copying.of_work {fleet : Fleet} {ns name : String} {work : Work} {lead : List Exchange}
    {made : List Attempt} (happroach : ApproachRun fleet ns name lead (.ok (some work)))
    (hmade : Attempted (copyTo fleet.credentials work.source work.tag) work.targets made) :
    ∃ parts reads holding, Copying fleet ns name parts work.source reads holding
        (exchangesOf made) (failuresOf made) ∧
      lead = reads ++ work.source.streamRead ns parts :: holding ∧ work.tag = parts.tag ∧
      work.targets = fleet.targets work.source (observed reads) := by
  obtain ⟨parts, reads, holding, found, hlive, hhold, rfl, htag, htargets⟩ :=
    happroach.exists_held
  refine ⟨parts, reads, holding, ⟨found, hlive, hhold, ?_⟩, rfl, htag, htargets⟩
  rw [← htag, ← htargets]
  exact run_copyToAll_iff.mpr ⟨made, hmade, rfl, rfl⟩

/-- How a pass may go. -/
inductive PassRun (fleet : Fleet) (ns name : String) :
    List Exchange → Except SyncError Unit → Prop
  /-- The name is no name of a tag. -/
  | misnamed : TagName.parse? name = none →
      PassRun fleet ns name [] (.error (.invalidTagName ns name))
  /-- A cluster cannot say whether it has the tag. -/
  | unread {reads : List Exchange} {e : SyncError} :
      (observe ns name fleet.names).Run reads (.error e) → PassRun fleet ns name reads (.error e)
  /-- No cluster has the tag. -/
  | absent {reads : List Exchange} :
      (observe ns name fleet.names).Run reads (.ok []) → PassRun fleet ns name reads (.ok ())
  /-- The newest copy has no stream that can be read. -/
  | streamless {parts : TagName} {source : Source} {reads asking : List Exchange}
      {e : SyncError} : Found fleet ns name parts source reads →
      (∀ x ∈ asking, ∃ cause, x = ⟨source.cluster, .getStream ns parts.stream, .error cause⟩) →
      PassRun fleet ns name (reads ++ asking) (.error e)
  /-- The stream is being deleted and is none of this program's. -/
  | unmanaged {parts : TagName} {source : Source} {reads : List Exchange} :
      Found fleet ns name parts source reads → source.stream.metadata.isTerminating = true →
      source.stream.metadata.isManaged = false →
      PassRun fleet ns name (reads ++ [source.streamRead ns parts]) (.ok ())
  /-- The stream is being deleted and is retired. -/
  | retiring {parts : TagName} {source : Source} {reads rest : List Exchange}
      {outcome : Except SyncError Unit} :
      Found fleet ns name parts source reads → source.stream.metadata.isTerminating = true →
      source.stream.metadata.isManaged = true →
      (retire fleet source.cluster source.stream).Run rest outcome →
      PassRun fleet ns name (reads ++ source.streamRead ns parts :: rest) outcome
  /-- The stream cannot be held. -/
  | unheld {parts : TagName} {source : Source} {reads holding : List Exchange} {e : SyncError} :
      Found fleet ns name parts source reads → source.stream.metadata.isTerminating = false →
      (hold source.cluster source.stream).Run holding (.error e) →
      PassRun fleet ns name (reads ++ source.streamRead ns parts :: holding) (.error e)
  /-- The stream is held and its image is copied. -/
  | copying {parts : TagName} {source : Source} {reads holding copies : List Exchange}
      {errors : List SyncError} :
      Copying fleet ns name parts source reads holding copies errors →
      PassRun fleet ns name (reads ++ source.streamRead ns parts :: (holding ++ copies))
        (SyncError.collect errors)

/-- Every pass goes like that. -/
theorem PassRun.of_run {fleet : Fleet} {ns name : String} {exchanges : List Exchange}
    {outcome : Except SyncError Unit} (run : (syncTag fleet ns name).Run exchanges outcome) :
    PassRun fleet ns name exchanges outcome := by
  rcases run_syncTag_cases run with ⟨e, happroach, rfl⟩ | ⟨happroach, rfl⟩ |
    ⟨work, lead, made, happroach, hmade, rfl, rfl⟩
  · cases ApproachRun.of_run happroach with
    | misnamed hname => exact .misnamed hname
    | unread _ hlook => exact .unread hlook
    | @streamless parts source reads asking cause found hasking =>
        refine .streamless found fun x hx => ?_
        rcases Plan.run_send_cases hasking with rfl | ⟨rfl, -⟩
        · exact ⟨cause, List.mem_singleton.mp hx⟩
        · cases hx
    | @retiring _ _ _ _ ending _ found hterm hm hretire hresult =>
        cases ending with
        | ok done => cases hresult
        | error e' =>
            obtain rfl := Except.error.inj hresult
            exact .retiring found hterm hm hretire
    | unheld found hlive hhold => exact .unheld found hlive hhold
  · cases ApproachRun.of_run happroach with
    | absent _ hlook => exact .absent hlook
    | unmanaged found hterm hm => exact .unmanaged found hterm hm
    | @retiring _ _ _ _ ending _ found hterm hm hretire hresult =>
        cases ending with
        | ok done => exact .retiring found hterm hm hretire
        | error e => cases hresult
  · obtain ⟨parts, reads, holding, hcopying, rfl, -, -⟩ :=
      Copying.of_work (ApproachRun.of_run happroach) hmade
    rw [List.append_assoc, List.cons_append]
    exact .copying hcopying

/-! ## Passes that copy -/

/-- The stream that an exchange has read, with the cluster that has it. -/
def streamReading? : Exchange → Option (String × ImageStream)
  | ⟨cluster, .getStream _ _, .ok stream⟩ => some (cluster, stream)
  | _ => none

/-- Going by its exchanges, a pass has reached its copies: the newest copy of the tag is the
source's, the first stream that was read is the source's and is not being deleted, and it is
managed or the cluster has confirmed its finalizers. -/
structure UnderWay (source : Source) (exchanges : List Exchange) : Prop where
  newest : newest? (observed exchanges) = some (source.cluster, source.tag)
  read : exchanges.findSome? streamReading? = some (source.cluster, source.stream)
  live : source.stream.metadata.isTerminating = false
  held : source.stream.metadata.isManaged = true ∨
    ∃ e ∈ exchanges, ConfirmsFinalizers source.cluster e

theorem UnderWay.eq {source other : Source} {exchanges : List Exchange}
    (h : UnderWay source exchanges) (h' : UnderWay other exchanges) : source = other := by
  obtain ⟨hcluster, htag⟩ := Prod.mk.inj (Option.some.inj (h.newest.symm.trans h'.newest))
  obtain ⟨-, hstream⟩ := Prod.mk.inj (Option.some.inj (h.read.symm.trans h'.read))
  obtain ⟨cluster, tag, stream⟩ := source
  obtain ⟨cluster', tag', stream'⟩ := other
  simp only at hcluster htag hstream
  rw [hcluster, htag, hstream]

namespace Copying

variable {fleet : Fleet} {ns name : String} {parts : TagName} {source : Source}
  {reads holding copies : List Exchange} {errors : List SyncError}

theorem holding_call (h : Copying fleet ns name parts source reads holding copies errors) :
    ∀ e ∈ holding, e.cluster = source.cluster ∧ ∃ ns name finalizers version,
      e.call = .setFinalizers ns name finalizers version :=
  hold_only _ _ h.held

theorem belongs (h : Copying fleet ns name parts source reads holding copies errors) :
    ∀ e ∈ copies, ∃ cluster ∈ fleet.targets source (observed reads),
      BelongsToCopy source parts.tag cluster e := by
  obtain ⟨made, hmade, rfl, -⟩ := run_copyToAll_iff.mp h.copied
  exact hmade.belongs

theorem later_call (h : Copying fleet ns name parts source reads holding copies errors) :
    ∀ e ∈ source.streamRead ns parts :: (holding ++ copies), ∀ ns' name',
      e.call ≠ .getTag ns' name' := by
  intro e he ns' name' hcall
  rcases List.mem_cons.mp he with rfl | he
  · cases hcall
  rcases List.mem_append.mp he with he | he
  · obtain ⟨-, _, _, _, _, h⟩ := h.holding_call e he
    cases h.symm.trans hcall
  · obtain ⟨cluster, -, hbelongs⟩ := h.belongs e he
    exact hbelongs.not_getTag ns' name' hcall

theorem observed_eq (h : Copying fleet ns name parts source reads holding copies errors) :
    observed (reads ++ source.streamRead ns parts :: (holding ++ copies)) = observed reads := by
  rw [observed_append, observed_eq_nil h.later_call, List.append_nil]

end Copying

theorem streamReading?_eq_none {e : Exchange} {ns name : String} (h : e.call = .getTag ns name) :
    streamReading? e = none := by
  obtain ⟨cluster, call, reply⟩ := e
  obtain rfl : call = .getTag ns name := h
  rfl

theorem Found.first_stream {fleet : Fleet} {ns name : String} {parts : TagName} {source : Source}
    {reads : List Exchange} (h : Found fleet ns name parts source reads) (rest : List Exchange) :
    (reads ++ source.streamRead ns parts :: rest).findSome? streamReading? =
      some (source.cluster, source.stream) := by
  have hnone : reads.findSome? streamReading? = none :=
    List.findSome?_eq_none_iff.mpr fun e he => streamReading?_eq_none (h.looks e he).call_eq
  rw [List.findSome?_append, hnone]
  rfl

/-- The exchanges of a pass that copies show that it is under way. -/
theorem Copying.underWay {fleet : Fleet} {ns name : String} {parts : TagName} {source : Source}
    {reads holding copies : List Exchange} {errors : List SyncError}
    (h : Copying fleet ns name parts source reads holding copies errors) :
    UnderWay source (reads ++ source.streamRead ns parts :: (holding ++ copies)) where
  newest := h.observed_eq.symm ▸ h.found.newest
  read := h.found.first_stream _
  live := h.live
  held := by
    rcases run_hold h.held with ⟨hm, -, -⟩ | ⟨-, reply, hsend, hreply⟩
    · exact Or.inl hm
    · cases reply with
      | error cause => cases hreply
      | ok stored =>
          obtain rfl := Plan.run_send_ok hsend
          exact Or.inr ⟨_, by simp, _, _, _, _, stored, rfl⟩

/-- A pass that is under way, going by its exchanges, is one that copies. -/
theorem PassRun.copying_of_underWay {fleet : Fleet} {ns name : String}
    {exchanges : List Exchange} {outcome : Except SyncError Unit} {source : Source}
    (h : PassRun fleet ns name exchanges outcome) (under : UnderWay source exchanges) :
    ∃ parts reads holding copies errors,
      Copying fleet ns name parts source reads holding copies errors ∧
      exchanges = reads ++ source.streamRead ns parts :: (holding ++ copies) ∧
      outcome = SyncError.collect errors := by
  -- Something is under way only once a stream was read.
  have noStream : ∀ {es : List Exchange}, (∀ e ∈ es, streamReading? e = none) →
      es.findSome? streamReading? ≠ some (source.cluster, source.stream) := by
    intro es hes
    rw [List.findSome?_eq_none_iff.mpr hes]
    nofun
  cases h with
  | misnamed hname => exact absurd under.read (noStream (by simp))
  | unread hlook =>
      exact absurd under.read
        (noStream fun e he => streamReading?_eq_none (observe_only _ _ _ hlook e he))
  | absent hlook =>
      exact absurd under.read
        (noStream fun e he => streamReading?_eq_none (observe_only _ _ _ hlook e he))
  | streamless found hasking =>
      refine absurd under.read (noStream (List.forall_mem_append.mpr ⟨?_, ?_⟩))
      · exact fun e he => streamReading?_eq_none (found.looks e he).call_eq
      · intro e he
        obtain ⟨cause, rfl⟩ := hasking e he
        rfl
  | unmanaged found hterm hm =>
      obtain ⟨-, hstream⟩ := Prod.mk.inj
        (Option.some.inj ((found.first_stream []).symm.trans under.read))
      rw [hstream, under.live] at hterm
      cases hterm
  | @retiring parts source' reads rest outcome found hterm hm hretire =>
      obtain ⟨-, hstream⟩ := Prod.mk.inj
        (Option.some.inj ((found.first_stream rest).symm.trans under.read))
      rw [hstream, under.live] at hterm
      cases hterm
  | @unheld parts source' reads holding e found hlive hhold =>
      obtain ⟨hcluster, hstream⟩ := Prod.mk.inj
        (Option.some.inj ((found.first_stream holding).symm.trans under.read))
      obtain ⟨hunmanaged, hunconfirmed⟩ := run_hold_error hhold
      rcases under.held with hm | ⟨x, hx, hconfirm⟩
      · rw [← hstream, hunmanaged] at hm
        cases hm
      · rcases List.mem_append.mp hx with hx | hx
        · obtain ⟨_, _, _, _, hcall⟩ := hconfirm.call_eq
          cases hcall.symm.trans (found.looks x hx).call_eq
        · rcases List.mem_cons.mp hx with rfl | hx
          · obtain ⟨_, _, _, _, hcall⟩ := hconfirm.call_eq
            cases hcall
          · exact absurd (hcluster ▸ hconfirm) (hunconfirmed x hx)
  | @copying parts source' reads holding copies errors hcopying =>
      obtain rfl := hcopying.underWay.eq under
      exact ⟨parts, reads, holding, copies, errors, hcopying, rfl, rfl⟩

end TagSync
