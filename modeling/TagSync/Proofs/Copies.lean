import TagSync.Proofs.Sequels

/-!
# The two parts of a pass

An approach asks every cluster for the tag in turn and then acts on the cluster with the newest copy
(`Approaching`). A pass that copies ends with an attempt at each target (`Copied`).
`run_syncTag_parts` says that every pass is an approach and then copies, if there are any.
-/

set_option autoImplicit false

namespace TagSync

open Api
open Plan (Exchange)

/-! ## What an approach asks -/

/-- The exchange does not look for a tag. It goes to the cluster with the newest copy, or it deletes
because the stream there is being deleted. -/
def ActsElsewhere (exchanges : List Exchange) (e : Exchange) : Prop :=
  (∀ ns name, e.call ≠ .getTag ns name) ∧
    ((∃ tag, newest? (observed exchanges) = some (e.cluster, tag)) ∨
      e.method = .delete ∧ ∃ owner stream, ActsOn exchanges owner stream ∧
        stream.metadata.isTerminating = true)

/-- What an approach asks: it looks for the tag, and then it acts elsewhere. -/
structure Approaching (fleet : Fleet) (ns name : String) (reads rest : List Exchange) : Prop where
  inOrder : reads.map (·.cluster) <+: fleet.names
  looks : ∀ e ∈ reads, e.call = .getTag ns name
  acts : ∀ e ∈ rest, ActsElsewhere (reads ++ rest) e

/-- Once the newest copy is found, an approach acts on its cluster. -/
theorem Found.approaching {fleet : Fleet} {ns name : String} {parts : TagName} {source : Source}
    {reads rest : List Exchange} (found : Found fleet ns name parts source reads)
    (hcall : ∀ e ∈ rest, ∀ ns name, e.call ≠ .getTag ns name)
    (hwhere : ∀ e ∈ rest, e.cluster = source.cluster ∨ e.method = .delete ∧
      ∃ owner stream, ActsOn (reads ++ rest) owner stream ∧
        stream.metadata.isTerminating = true) :
    Approaching fleet ns name reads rest where
  inOrder := found.map_cluster ▸ List.prefix_rfl
  looks e he := (found.looks e he).call_eq
  acts e he := by
    refine ⟨hcall e he, (hwhere e he).imp_left fun hc => ⟨source.tag, ?_⟩⟩
    rw [observed_append, observed_eq_nil hcall, List.append_nil, hc]
    exact found.newest

theorem Found.approaching_of_hold {fleet : Fleet} {ns name : String} {parts : TagName}
    {source : Source} {reads holding : List Exchange} {outcome : Except SyncError Unit}
    (found : Found fleet ns name parts source reads)
    (hhold : (hold source.cluster source.stream).Run holding outcome) :
    Approaching fleet ns name reads (source.streamRead ns parts :: holding) := by
  have hasks := hold_asks _ _ hhold
  refine found.approaching (List.forall_mem_cons.mpr ⟨nofun, fun e he ns' name' hget => ?_⟩)
    (List.forall_mem_cons.mpr ⟨Or.inl rfl, fun e he => Or.inl (hasks e he).1⟩)
  cases hget.symm.trans (hasks e he).2

/-- A stream that is retired is acted on, and deleted elsewhere because it is being deleted. -/
theorem Found.approaching_of_retire {fleet : Fleet} {ns name : String} {parts : TagName}
    {source : Source} {reads rest : List Exchange}
    (found : Found fleet ns name parts source reads)
    (hterm : source.stream.metadata.isTerminating = true)
    (hm : source.stream.metadata.isManaged = true)
    (hretiring : Retiring source.cluster source.stream rest) :
    Approaching fleet ns name reads (source.streamRead ns parts :: rest) := by
  have hsequel : Sequel fleet ns name parts source reads rest (.ok ()) :=
    .retiring hterm hm hretiring
  refine found.approaching (List.forall_mem_cons.mpr ⟨nofun, hsequel.later_call⟩)
    (List.forall_mem_cons.mpr ⟨Or.inl rfl, fun e he => ?_⟩)
  rcases hretiring.asks e he with ⟨-, hdelete⟩ | ⟨hc, -⟩ | ⟨_, _, -, hc, -⟩
  · refine Or.inr ⟨?_, _, _, hsequel.actsOn found, hterm⟩
    rw [Exchange.method, hdelete]
    rfl
  · exact Or.inl hc
  · exact Or.inl hc

/-- Every approach goes like that. -/
theorem ApproachRun.approaching {fleet : Fleet} {ns name : String} {exchanges : List Exchange}
    {result : Except SyncError (Option Work)}
    (h : ApproachRun fleet ns name exchanges result) :
    ∃ reads rest, Approaching fleet ns name reads rest ∧ exchanges = reads ++ rest := by
  cases h with
  | misnamed => exact ⟨[], [], ⟨List.nil_prefix, by simp, by simp⟩, rfl⟩
  | unread _ hlook =>
      have hasks := (LooksInVain.of_run hlook).asks
      exact ⟨exchanges, [], ⟨hasks.1, hasks.2, by simp⟩, by simp⟩
  | absent _ hlook =>
      have hclusters := (run_observe hlook).1
      exact ⟨exchanges, [], ⟨hclusters ▸ List.prefix_rfl, observe_only _ _ _ hlook, by simp⟩,
        by simp⟩
  | streamless found hasking =>
      rcases Plan.run_send_cases hasking with rfl | ⟨rfl, -⟩
      · refine ⟨_, _, found.approaching ?_ ?_, rfl⟩
        · exact List.forall_mem_singleton.mpr nofun
        · exact List.forall_mem_singleton.mpr (Or.inl rfl)
      · exact ⟨_, _, found.approaching (List.forall_mem_nil _) (List.forall_mem_nil _), rfl⟩
  | unmanaged found =>
      refine ⟨_, _, found.approaching ?_ ?_, rfl⟩
      · exact List.forall_mem_singleton.mpr nofun
      · exact List.forall_mem_singleton.mpr (Or.inl rfl)
  | retiring found hterm hm hretire =>
      exact ⟨_, _, found.approaching_of_retire hterm hm (.of_run hretire), rfl⟩
  | unheld found _ hhold => exact ⟨_, _, found.approaching_of_hold hhold, rfl⟩
  | held found _ hhold => exact ⟨_, _, found.approaching_of_hold hhold, rfl⟩

namespace Approaching

variable {fleet : Fleet} {ns name : String} {reads rest : List Exchange}

theorem observed_eq (h : Approaching fleet ns name reads rest) :
    observed (reads ++ rest) = observed reads := by
  rw [observed_append, observed_eq_nil fun e he => (h.acts e he).1, List.append_nil]

/-- A cluster that does not have the newest copy and is not asked to delete is asked for the tag
once at most, and for nothing else. -/
theorem filter_eq (h : Approaching fleet ns name reads rest) {cluster : String}
    (other : ∀ tag, newest? (observed (reads ++ rest)) ≠ some (cluster, tag))
    (keeps : ∀ e ∈ rest, e.cluster = cluster → e.method ≠ .delete) :
    (reads ++ rest).filter (·.cluster = cluster) = reads.filter (·.cluster = cluster) ∧
      (reads.filter (·.cluster = cluster)).length ≤ 1 := by
  constructor
  · have hnone : rest.filter (·.cluster = cluster) = [] := by
      refine List.filter_eq_nil_iff.mpr fun e he hc => ?_
      obtain rfl := of_decide_eq_true hc
      rcases (h.acts e he).2 with ⟨tag, hnewest⟩ | ⟨hdelete, -⟩
      · exact other tag hnewest
      · exact keeps e he rfl hdelete
    rw [List.filter_append, hnone, List.append_nil]
  · have nodup : (reads.map (·.cluster)).Nodup :=
      fleet.clusters.nodup_toList.sublist h.inOrder.sublist
    by_cases hasked : ∃ e ∈ reads, e.cluster = cluster
    · obtain ⟨e, he, rfl⟩ := hasked
      rw [filter_eq_singleton_of_nodup_map nodup he]
      exact Nat.le_refl 1
    · have hnone : reads.filter (·.cluster = cluster) = [] :=
        List.filter_eq_nil_iff.mpr fun e he hc => hasked ⟨e, he, of_decide_eq_true hc⟩
      rw [hnone]
      exact Nat.zero_le 1

end Approaching

/-! ## Copies -/

/-- What a pass that copies shows: it is under way, and it ends with an attempt at each target,
whose failures are its own. -/
structure Copied (fleet : Fleet) (ns : String) (parts : TagName) (source : Source)
    (exchanges : List Exchange) (made : List Attempt) (outcome : Except SyncError Unit) :
    Prop where
  under : UnderWay source exchanges
  read : source.streamRead ns parts ∈ exchanges
  attempted : Attempted (copyTo fleet.credentials source parts.tag)
    (fleet.targets source (observed exchanges)) made
  last : exchangesOf made <:+ exchanges
  outcome_eq : outcome = SyncError.collect (failuresOf made)

theorem Copied.nodup {fleet : Fleet} {ns : String} {parts : TagName} {source : Source}
    {exchanges : List Exchange} {made : List Attempt} {outcome : Except SyncError Unit}
    (h : Copied fleet ns parts source exchanges made outcome) : (made.map (·.item)).Nodup := by
  rw [h.attempted.each]
  exact fleet.clusters.nodup_toList.filter _

/-- What follows once the source is held. -/
theorem Copied.of_copying {fleet : Fleet} {ns name : String} {parts : TagName} {source : Source}
    {reads holding : List Exchange} {made : List Attempt}
    (h : Copying fleet ns name parts source reads holding (exchangesOf made) (failuresOf made))
    (hmade : Attempted (copyTo fleet.credentials source parts.tag)
      (fleet.targets source (observed reads)) made) :
    Copied fleet ns parts source
      (reads ++ source.streamRead ns parts :: (holding ++ exchangesOf made)) made
      (SyncError.collect (failuresOf made)) where
  under := h.underWay
  read := by simp
  attempted := h.observed_eq ▸ hmade
  last := ⟨reads ++ source.streamRead ns parts :: holding, by simp⟩
  outcome_eq := rfl

theorem Copied.of_underWay {fleet : Fleet} {ns name : String} {source : Source}
    {exchanges : List Exchange} {outcome : Except SyncError Unit}
    (run : (syncTag fleet ns name).Run exchanges outcome) (under : UnderWay source exchanges) :
    ∃ parts made, TagName.parse? name = some parts ∧
      Copied fleet ns parts source exchanges made outcome := by
  obtain ⟨parts, reads, holding, copies, errors, h, rfl, rfl⟩ :=
    (PassRun.of_run run).copying_of_underWay under
  obtain ⟨made, hmade, rfl, rfl⟩ := run_copyToAll_iff.mp h.copied
  exact ⟨parts, made, h.found.named, .of_copying h hmade⟩

theorem Copied.of_work {fleet : Fleet} {ns name : String} {work : Work} {lead : List Exchange}
    {made : List Attempt} (happroach : ApproachRun fleet ns name lead (.ok (some work)))
    (hmade : Attempted (copyTo fleet.credentials work.source work.tag) work.targets made) :
    ∃ parts, TagName.parse? name = some parts ∧ Copied fleet ns parts work.source
      (lead ++ exchangesOf made) made (SyncError.collect (failuresOf made)) := by
  obtain ⟨parts, reads, holding, hcopying, rfl, htag, htargets⟩ :=
    Copying.of_work happroach hmade
  rw [htag, htargets] at hmade
  refine ⟨parts, hcopying.found.named, ?_⟩
  rw [List.append_assoc, List.cons_append]
  exact .of_copying hcopying hmade

/-- Every pass approaches and then copies, if it does, once every cluster was asked. -/
theorem run_syncTag_parts {fleet : Fleet} {ns name : String} {exchanges : List Exchange}
    {outcome : Except SyncError Unit} (run : (syncTag fleet ns name).Run exchanges outcome) :
    ∃ reads rest made, Approaching fleet ns name reads rest ∧
      exchanges = (reads ++ rest) ++ exchangesOf made ∧
      observed exchanges = observed (reads ++ rest) ∧
      (made = [] ∨ reads.map (·.cluster) = fleet.names ∧ ∃ parts source,
        TagName.parse? name = some parts ∧
        Copied fleet ns parts source exchanges made outcome) := by
  rcases run_syncTag_cases run with ⟨e, happroach, rfl⟩ | ⟨happroach, rfl⟩ |
    ⟨work, lead, made, happroach, hmade, rfl, rfl⟩
  · obtain ⟨reads, rest, h, rfl⟩ := (ApproachRun.of_run happroach).approaching
    exact ⟨reads, rest, [], h, by simp, rfl, Or.inl rfl⟩
  · obtain ⟨reads, rest, h, rfl⟩ := (ApproachRun.of_run happroach).approaching
    exact ⟨reads, rest, [], h, by simp, rfl, Or.inl rfl⟩
  · have hrun := ApproachRun.of_run happroach
    obtain ⟨parts, hparts, hcopied⟩ := Copied.of_work hrun hmade
    obtain ⟨_, reads, holding, found, -, hhold, rfl, -, -⟩ := hrun.exists_held
    refine ⟨reads, _, made, found.approaching_of_hold hhold, rfl, ?_,
      Or.inr ⟨found.map_cluster, parts, work.source, hparts, hcopied⟩⟩
    -- Copies look for no tag, so they add nothing to what is observed.
    rw [observed_append, observed_eq_nil hmade.not_getTag, List.append_nil]

end TagSync
