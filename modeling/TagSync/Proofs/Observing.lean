import TagSync.Pass
import TagSync.Proofs.Runs
import TagSync.Proofs.Selection

/-!
# Looking for a tag

A pass asks every cluster for the tag. The looks are all answered (`run_observe`) or end at the
first cluster that cannot say whether it has the tag (`LooksInVain`). `Found` says that the newest
copy is known.
-/

set_option autoImplicit false

namespace TagSync

open Api
open Plan (Exchange)

/-! ## Lists without repetitions -/

/-- Where no two members have the same image, the members with the image of one are that one. -/
theorem filter_eq_singleton_of_nodup_map {α β : Type} [DecidableEq β] {f : α → β} {l : List α}
    (h : (l.map f).Nodup) {a : α} (ha : a ∈ l) : l.filter (f · = f a) = [a] := by
  induction l with
  | nil => cases ha
  | cons b l ih =>
      obtain ⟨hb, hl⟩ := List.nodup_cons.mp h
      rcases List.mem_cons.mp ha with rfl | ha
      · have hnone : l.filter (f · = f a) = [] := by
          refine List.filter_eq_nil_iff.mpr fun c hc heq => hb ?_
          exact (of_decide_eq_true heq) ▸ List.mem_map_of_mem hc
        rw [List.filter_cons_of_pos (by simp), hnone]
      · have hne : f b ≠ f a := fun heq => hb (heq ▸ List.mem_map_of_mem ha)
        rw [List.filter_cons_of_neg (by simpa using hne), ih hl ha]

/-! ## Observations -/

/-- The tag that an exchange has read, with the cluster that has it. -/
def observation? : Exchange → Option (String × ImageStreamTag)
  | ⟨cluster, .getTag _ _, .ok tag⟩ => some (cluster, tag)
  | _ => none

def observed (exchanges : List Exchange) : List (String × ImageStreamTag) :=
  exchanges.filterMap observation?

/-- The exchange looks for a tag and has an answer, be it that the tag is not there. -/
def LooksForTag (ns name : String) (e : Exchange) : Prop :=
  ∃ (cluster : String) (reply : Except CallError ImageStreamTag),
    e = ⟨cluster, .getTag ns name, reply⟩ ∧ ∀ cause, reply = .error cause → cause.isNotFound = true

theorem LooksForTag.call_eq {ns name : String} {e : Exchange} (h : LooksForTag ns name e) :
    e.call = .getTag ns name := by
  obtain ⟨cluster, reply, rfl, -⟩ := h
  rfl

/-- What was observed was read from that cluster. -/
theorem mem_observed {exchanges : List Exchange} {cluster : String} {tag : ImageStreamTag} :
    (cluster, tag) ∈ observed exchanges ↔
      ∃ ns name, ⟨cluster, .getTag ns name, .ok tag⟩ ∈ exchanges := by
  rw [observed, List.mem_filterMap]
  constructor
  · rintro ⟨e, he, h⟩
    rw [observation?.eq_def] at h
    split at h
    · next ns name tag' =>
      obtain ⟨rfl, rfl⟩ := Prod.mk.inj (Option.some.inj h)
      exact ⟨ns, name, he⟩
    · cases h
  · rintro ⟨ns, name, he⟩
    exact ⟨_, he, rfl⟩

theorem observed_eq_nil {exchanges : List Exchange}
    (h : ∀ e ∈ exchanges, ∀ ns name, e.call ≠ .getTag ns name) : observed exchanges = [] := by
  refine List.eq_nil_iff_forall_not_mem.mpr ?_
  rintro ⟨cluster, tag⟩ hmem
  obtain ⟨ns, name, he⟩ := mem_observed.mp hmem
  exact h _ he ns name rfl

theorem observed_append (first second : List Exchange) :
    observed (first ++ second) = observed first ++ observed second :=
  List.filterMap_append

/-- No cluster is observed that was not asked. -/
theorem map_fst_observed_sublist (exchanges : List Exchange) :
    ((observed exchanges).map (·.1)).Sublist (exchanges.map (·.cluster)) := by
  induction exchanges with
  | nil => exact List.Sublist.refl _
  | cons e exchanges ih =>
      cases ho : observation? e with
      | none =>
          rw [observed, List.filterMap_cons_none ho]
          exact ih.cons _
      | some o =>
          have hfst : o.1 = e.cluster := by
            rw [observation?.eq_def] at ho
            split at ho
            · exact congrArg Prod.fst (Option.some.inj ho).symm
            · cases ho
          rw [observed, List.filterMap_cons_some ho, List.map_cons, List.map_cons, hfst]
          exact ih.cons_cons _

/-- Looking for a tag everywhere is one exchange with each cluster, in order. -/
theorem run_observe {ns name : String} {clusters : List String} {reads : List Exchange}
    {observations : List (String × ImageStreamTag)}
    (run : (observe ns name clusters).Run reads (.ok observations)) :
    reads.map (·.cluster) = clusters ∧ observations = observed reads ∧
      ∀ e ∈ reads, LooksForTag ns name e := by
  induction clusters generalizing reads observations with
  | nil =>
      obtain ⟨rfl, h⟩ := Job.run_pure_iff.mp run
      obtain rfl := Except.ok.inj h
      exact ⟨rfl, rfl, by simp⟩
  | cons cluster clusters ih =>
      obtain ⟨reply, first, second, hsend, hrest, rfl⟩ := Job.run_send_bind_iff.mp run
      cases reply with
      | ok tag =>
          obtain rfl := Plan.run_send_ok hsend
          rcases Job.run_bind_iff.mp hrest with ⟨others, rest, last, hothers, hlast, rfl⟩ |
            ⟨e, -, h⟩
          · obtain ⟨rfl, h⟩ := Job.run_pure_iff.mp hlast
            obtain rfl := Except.ok.inj h
            obtain ⟨hmap, rfl, hall⟩ := ih hothers
            rw [List.append_nil]
            refine ⟨congrArg (cluster :: ·) hmap, rfl, List.forall_mem_cons.mpr ⟨?_, hall⟩⟩
            exact ⟨cluster, .ok tag, rfl, by simp⟩
          · cases h
      | error cause =>
          -- A cluster without the tag is passed over; any other failure ends the looking.
          cases hc : cause.isNotFound with
          | true =>
              obtain rfl := Plan.run_send_missing hsend (Or.inl hc)
              simp only [hc, if_true] at hrest
              obtain ⟨hmap, rfl, hall⟩ := ih hrest
              refine ⟨congrArg (cluster :: ·) hmap, rfl, List.forall_mem_cons.mpr ⟨?_, hall⟩⟩
              exact ⟨cluster, .error cause, rfl, by simp [hc]⟩
          | false =>
              simp only [hc] at hrest
              cases (Job.run_throw_iff.mp hrest).2

/-- Whoever has looked for a tag could send the call. -/
theorem sendable_of_observe {ns name : String} {clusters : List String} {reads : List Exchange}
    {observations : List (String × ImageStreamTag)} (asked : clusters ≠ [])
    (run : (observe ns name clusters).Run reads (.ok observations)) :
    (Call.getTag ns name).Sendable := by
  cases clusters with
  | nil => exact absurd rfl asked
  | cons cluster clusters =>
      obtain ⟨reply, first, second, hsend, hrest, rfl⟩ := Job.run_send_bind_iff.mp run
      cases hrequest : (Call.getTag ns name).request with
      | ok request => exact ⟨request, hrequest⟩
      | error fault =>
          -- A fault of the request is no "not found", so the looking would have failed.
          simp only [Plan.send, hrequest] at hsend
          obtain ⟨-, rfl⟩ := Plan.run_done_iff.mp hsend
          simp only [(Call.says_nothing_of_request hrequest).1] at hrest
          cases (Job.run_throw_iff.mp hrest).2

/-- Looking for a tag asks for nothing else. -/
theorem observe_only (ns name : String) (clusters : List String) :
    Job.Only (fun _ call => call = .getTag ns name) (observe ns name clusters) := by
  induction clusters with
  | nil => exact Job.Only.pure _ _
  | cons cluster clusters ih =>
      refine (Job.Only.send rfl).bind fun reply => ?_
      cases reply with
      | ok tag => exact ih.bind fun others => Job.Only.pure _ _
      | error cause =>
          show Job.Only _ (if cause.isNotFound then _ else _)
          split
          · exact ih
          · exact Job.Only.throw _ _

/-! ## Looks that fail -/

/-- The looks for a tag end at the first cluster that cannot say whether it has the tag: all
before it have said so, and it fails for another reason than that the tag is not there. -/
inductive LooksInVain (ns name : String) (clusters : List String) :
    List Exchange → SyncError → Prop
  | intro {reads asking : List Exchange} {cluster : String} {later : List String}
      {cause : CallError} :
      clusters = reads.map (·.cluster) ++ cluster :: later →
      (∀ e ∈ reads, LooksForTag ns name e) →
      Plan.Run (Plan.send cluster (.getTag ns name)) asking (.error cause) →
      cause.isNotFound = false →
      LooksInVain ns name clusters (reads ++ asking) (.getTag ns name cluster cause)

theorem LooksInVain.cons {ns name : String} {clusters : List String} {exchanges : List Exchange}
    {failure : SyncError} {e : Exchange} (here : LooksForTag ns name e)
    (h : LooksInVain ns name clusters exchanges failure) :
    LooksInVain ns name (e.cluster :: clusters) (e :: exchanges) failure := by
  obtain @⟨reads, asking, cluster, later, cause, hsplit, hall, hasking, hc⟩ := h
  have hsplit' : e.cluster :: clusters = (e :: reads).map (·.cluster) ++ cluster :: later := by
    rw [hsplit]
    rfl
  exact .intro hsplit' (List.forall_mem_cons.mpr ⟨here, hall⟩) hasking hc

/-- Looks that fail go like that. -/
theorem LooksInVain.of_run {ns name : String} {clusters : List String}
    {exchanges : List Exchange} {failure : SyncError}
    (run : (observe ns name clusters).Run exchanges (.error failure)) :
    LooksInVain ns name clusters exchanges failure := by
  induction clusters generalizing exchanges with
  | nil => cases (Job.run_pure_iff.mp run).2
  | cons cluster clusters ih =>
      obtain ⟨reply, first, second, hsend, hrest, rfl⟩ := Job.run_send_bind_iff.mp run
      cases reply with
      | ok tag =>
          obtain rfl := Plan.run_send_ok hsend
          rcases Job.run_bind_iff.mp hrest with ⟨others, rest, last, -, hlast, rfl⟩ |
            ⟨e, hothers, h⟩
          · cases (Job.run_pure_iff.mp hlast).2
          · obtain rfl := Except.error.inj h
            exact .cons ⟨cluster, .ok tag, rfl, by simp⟩ (ih hothers)
      | error cause =>
          -- Looking goes on unless this is the failure.
          cases hc : cause.isNotFound with
          | true =>
              obtain rfl := Plan.run_send_missing hsend (Or.inl hc)
              simp only [hc, if_true] at hrest
              exact .cons ⟨cluster, .error cause, rfl, by simp [hc]⟩ (ih hrest)
          | false =>
              simp only [hc] at hrest
              obtain ⟨rfl, h⟩ := Job.run_throw_iff.mp hrest
              obtain rfl := Except.error.inj h
              have hsplit : cluster :: clusters =
                  ([] : List Exchange).map (·.cluster) ++ cluster :: clusters := rfl
              rw [List.append_nil]
              exact .intro hsplit (List.forall_mem_nil _) hsend hc

theorem LooksInVain.asks {ns name : String} {clusters : List String} {exchanges : List Exchange}
    {e : SyncError} (h : LooksInVain ns name clusters exchanges e) :
    exchanges.map (·.cluster) <+: clusters ∧ ∀ x ∈ exchanges, x.call = .getTag ns name := by
  obtain ⟨rfl, hall, hasking, hc⟩ := h
  rcases Plan.run_send_cases hasking with rfl | ⟨rfl, -⟩
  · refine ⟨by simp, List.forall_mem_append.mpr ⟨fun x hx => (hall x hx).call_eq, by simp⟩⟩
  · refine ⟨by simp, ?_⟩
    rw [List.append_nil]
    exact fun x hx => (hall x hx).call_eq

/-! ## The newest copy -/

def Fleet.targets (fleet : Fleet) (source : Source)
    (observations : List (String × ImageStreamTag)) : List String :=
  fleet.names.filter fun c => c != source.cluster && source.isNeededOn observations c

/-- A pass has looked for the tag everywhere, and this is the newest copy. -/
structure Found (fleet : Fleet) (ns name : String) (parts : TagName) (source : Source)
    (reads : List Exchange) : Prop where
  named : TagName.parse? name = some parts
  looked : (observe ns name fleet.names).Run reads (.ok (observed reads))
  newest : newest? (observed reads) = some (source.cluster, source.tag)

def Source.streamRead (source : Source) (ns : String) (parts : TagName) : Exchange :=
  ⟨source.cluster, .getStream ns parts.stream, .ok source.stream⟩

namespace Found

variable {fleet : Fleet} {ns name : String} {parts : TagName} {source : Source}
  {reads : List Exchange}

theorem map_cluster (h : Found fleet ns name parts source reads) :
    reads.map (·.cluster) = fleet.names :=
  (run_observe h.looked).1

theorem looks (h : Found fleet ns name parts source reads) : ∀ e ∈ reads, LooksForTag ns name e :=
  (run_observe h.looked).2.2

theorem nodup (h : Found fleet ns name parts source reads) : (reads.map (·.cluster)).Nodup := by
  rw [h.map_cluster]
  exact fleet.clusters.nodup_toList

theorem read_source (h : Found fleet ns name parts source reads) :
    ⟨source.cluster, .getTag ns name, .ok source.tag⟩ ∈ reads := by
  obtain ⟨ns', name', he⟩ := mem_observed.mp (mem_of_newest? h.newest)
  obtain ⟨rfl, rfl⟩ := Call.getTag.inj (h.looks _ he).call_eq
  exact he

theorem mem_names (h : Found fleet ns name parts source reads) : source.cluster ∈ fleet.names := by
  rw [← h.map_cluster]
  exact List.mem_map_of_mem h.read_source

theorem filter_eq (h : Found fleet ns name parts source reads) {cluster : String}
    (hc : cluster ∈ fleet.names) :
    ∃ reply, reads.filter (·.cluster = cluster) = [⟨cluster, .getTag ns name, reply⟩] := by
  rw [← h.map_cluster] at hc
  obtain ⟨e, he, rfl⟩ := List.mem_map.mp hc
  obtain ⟨cluster, reply, rfl, -⟩ := h.looks e he
  exact ⟨reply, filter_eq_singleton_of_nodup_map h.nodup he⟩

theorem lookup_eq_some_iff (h : Found fleet ns name parts source reads) {cluster : String}
    {tag : ImageStreamTag} : (observed reads).lookup cluster = some tag ↔
      ⟨cluster, .getTag ns name, .ok tag⟩ ∈ reads := by
  rw [lookup_eq_some_iff_mem (h.nodup.sublist (map_fst_observed_sublist reads)), mem_observed]
  constructor
  · rintro ⟨ns', name', he⟩
    obtain ⟨rfl, rfl⟩ := Call.getTag.inj (h.looks _ he).call_eq
    exact he
  · exact fun he => ⟨ns, name, he⟩

end Found

end TagSync
