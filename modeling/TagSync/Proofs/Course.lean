import TagSync.Proofs.Reading
import TagSync.Proofs.References
import TagSync.Proofs.Synced

/-!
# The course of a copy

A copy asks its cluster one call after the other, in a fixed order: first about the namespace, then
about the stream, then the credentials are written and the image is imported (`copyCalls`). Which
calls there are depends on what the cluster says about the namespace and the stream. The first
call that fails is the last one (`GoesThrough`), save that a namespace or a stream that is not
there may be created. `copies_follow_one_order` says so of every cluster that a pass copies to.
-/

set_option autoImplicit false

namespace TagSync

open Api
open Plan (Exchange)

/-! ## One call after the other -/

/-- Whether a copy goes on after this failure of a call: what it has looked for is not there. -/
def Api.Call.tolerates : Call → CallError → Bool
  | .getNamespace _, cause => cause.isNotFound
  | .getStream _ _, cause => cause.saysAbsent
  | _, _ => false

/-- The call has succeeded, or its failure is one to go on after. -/
def GoesOn (e : Exchange) : Prop :=
  ∀ cause, e.reply = .error cause → e.call.tolerates cause = true

theorem goesOn_ok {cluster : String} {call : Call} {result : call.Result} :
    GoesOn ⟨cluster, call, .ok result⟩ := by
  intro cause h
  cases h

theorem goesOn_error_iff {cluster : String} {call : Call} {cause : CallError} :
    GoesOn ⟨cluster, call, .error cause⟩ ↔ call.tolerates cause = true := by
  constructor
  · exact fun h => h cause rfl
  · intro h cause' heq
    cases heq
    exact h

/-- The exchanges ask a cluster these calls in order, up to the first one that they do not go on
after. -/
structure GoesThrough (cluster : String) (calls : List Call) (exchanges : List Exchange) :
    Prop where
  own : ∀ e ∈ exchanges, e.cluster = cluster
  inOrder : exchanges.map (·.call) <+: calls
  onlyAfter : Plan.EachAfter (fun earlier _ => ∀ e ∈ earlier, GoesOn e) exchanges
  complete : (∀ e ∈ exchanges, GoesOn e) → exchanges.map (·.call) = calls

namespace GoesThrough

variable {cluster : String} {calls later : List Call} {first second : List Exchange}

theorem nil : GoesThrough cluster [] [] :=
  ⟨by simp, List.prefix_rfl, .of_forall (by simp), fun _ => rfl⟩

theorem send {call : Call} (sendable : call.Sendable) {exchanges : List Exchange}
    {reply : call.Reply} (run : Plan.Run (Plan.send cluster call) exchanges reply) :
    GoesThrough cluster [call] exchanges := by
  obtain rfl := (Plan.run_send_iff sendable).mp run
  refine ⟨by simp, List.prefix_rfl, ?_, fun _ => rfl⟩
  intro earlier e later hsplit
  -- Nothing comes before the only exchange.
  obtain ⟨rfl, -⟩ | ⟨-, hnil⟩ := List.append_eq_singleton_iff.mp hsplit.symm
  · simp
  · cases hnil

theorem append (h : GoesThrough cluster calls first) (hall : ∀ e ∈ first, GoesOn e)
    (h' : GoesThrough cluster later second) :
    GoesThrough cluster (calls ++ later) (first ++ second) where
  own := List.forall_mem_append.mpr ⟨h.own, h'.own⟩
  inOrder := by
    rw [List.map_append, h.complete hall]
    exact (List.prefix_append_right_inj calls).mpr h'.inOrder
  onlyAfter := h.onlyAfter.append
    (h'.onlyAfter.mono fun hgoes => List.forall_mem_append.mpr ⟨hall, hgoes⟩)
  complete hboth := by
    rw [List.map_append, h.complete hall,
      h'.complete fun e he => hboth e (List.mem_append_right _ he)]

theorem stop (h : GoesThrough cluster calls first) (hnot : ¬ ∀ e ∈ first, GoesOn e) :
    GoesThrough cluster (calls ++ later) first where
  own := h.own
  inOrder := h.inOrder.trans (List.prefix_append calls later)
  onlyAfter := h.onlyAfter
  complete hall := absurd hall hnot

end GoesThrough

theorem GoesThrough.call_mem {cluster : String} {calls : List Call} {exchanges : List Exchange}
    (h : GoesThrough cluster calls exchanges) {e : Exchange} (he : e ∈ exchanges) :
    e.call ∈ calls :=
  h.inOrder.subset (List.mem_map_of_mem he)

/-! ## The calls of a copy -/

def namespaceReply? : Exchange → Option (Except CallError Namespace)
  | ⟨_, .getNamespace _, reply⟩ => some reply
  | _ => none

def streamReply? : Exchange → Option (Except CallError ImageStream)
  | ⟨_, .getStream _ _, reply⟩ => some reply
  | _ => none

/-- A namespace is created if it is said not to be there. -/
def namespaceWrites (ns : String) : Option (Except CallError Namespace) → List Call
  | some (.error cause) => if cause.isNotFound then [.createNamespace ns] else []
  | _ => []

/-- A stream is created if it is said not to be there; one that is there gets the release
annotations that it lacks. -/
def streamWrites (stream : ImageStream) : Option (Except CallError ImageStream) → List Call
  | some (.error cause) =>
    if cause.saysAbsent then [.createStream stream.namespaceName stream.copy] else []
  | some (.ok existing) =>
    if (existing.missingAnnotations stream).isEmpty then []
    else [.setAnnotations stream.namespaceName stream.name (existing.missingAnnotations stream)]
  | none => []

def namespaceCalls (ns : String) (exchanges : List Exchange) : List Call :=
  .getNamespace ns :: namespaceWrites ns (exchanges.findSome? namespaceReply?)

def streamCalls (stream : ImageStream) (exchanges : List Exchange) : List Call :=
  .getStream stream.namespaceName stream.name ::
    streamWrites stream (exchanges.findSome? streamReply?)

/-- The calls of a copy, by what the cluster has said about the namespace and the stream. -/
def copyCalls (credentials : List UInt8) (stream : ImageStream) (tag reference : String)
    (exchanges : List Exchange) : List Call :=
  namespaceCalls stream.namespaceName exchanges ++ (streamCalls stream exchanges ++
    [.applyPullSecret stream.namespaceName credentials, .importImages stream.namespaceName
      (.importTo stream.namespaceName stream.name tag reference)])

theorem mem_namespaceCalls {ns : String} {exchanges : List Exchange} {call : Call}
    (h : call ∈ namespaceCalls ns exchanges) :
    call = .getNamespace ns ∨ call = .createNamespace ns := by
  rcases List.mem_cons.mp h with rfl | h
  · exact Or.inl rfl
  · rw [namespaceWrites.eq_def] at h
    split at h
    · split at h
      · exact Or.inr (List.mem_singleton.mp h)
      · cases h
    · cases h

theorem mem_streamCalls {stream : ImageStream} {exchanges : List Exchange} {call : Call}
    (h : call ∈ streamCalls stream exchanges) :
    call = .getStream stream.namespaceName stream.name ∨
      call = .createStream stream.namespaceName stream.copy ∨
      ∃ annotations, call = .setAnnotations stream.namespaceName stream.name annotations := by
  rcases List.mem_cons.mp h with rfl | h
  · exact Or.inl rfl
  · rw [streamWrites.eq_def] at h
    split at h
    · split at h
      · exact Or.inr (Or.inl (List.mem_singleton.mp h))
      · cases h
    · split at h
      · cases h
      · exact Or.inr (Or.inr ⟨_, List.mem_singleton.mp h⟩)
    · cases h

/-- The calls of a copy stay with the stream and its namespace. -/
theorem concerns_of_mem_copyCalls {credentials : List UInt8} {stream : ImageStream}
    {tag reference : String} {exchanges : List Exchange} {call : Call}
    (h : call ∈ copyCalls credentials stream tag reference exchanges) :
    call.Concerns stream.namespaceName stream.name := by
  rcases List.mem_append.mp h with h | h
  · rcases mem_namespaceCalls h with rfl | rfl
    · exact .getNamespace
    · exact .createNamespace
  rcases List.mem_append.mp h with h | h
  · rcases mem_streamCalls h with rfl | rfl | ⟨annotations, rfl⟩
    · exact .getStream
    · exact .createStream _
    · exact .setAnnotations _
  rcases List.mem_cons.mp h with rfl | h
  · exact .applyPullSecret _
  · obtain rfl := List.mem_singleton.mp h
    exact .importImages _

/-- There are at most six of them. -/
theorem length_copyCalls_le (credentials : List UInt8) (stream : ImageStream)
    (tag reference : String) (exchanges : List Exchange) :
    (copyCalls credentials stream tag reference exchanges).length ≤ 6 := by
  have hnamespace : ∀ said, (namespaceWrites stream.namespaceName said).length ≤ 1 := by
    intro said
    rw [namespaceWrites.eq_def]
    split
    · split
      · exact Nat.le_refl 1
      · exact Nat.zero_le 1
    · exact Nat.zero_le 1
  have hstream : ∀ said, (streamWrites stream said).length ≤ 1 := by
    intro said
    rw [streamWrites.eq_def]
    split
    · split
      · exact Nat.le_refl 1
      · exact Nat.zero_le 1
    · split
      · exact Nat.zero_le 1
      · exact Nat.le_refl 1
    · exact Nat.zero_le 1
  -- One read and at most one write each for the namespace and for the stream.
  have hn := hnamespace (exchanges.findSome? namespaceReply?)
  have hs := hstream (exchanges.findSome? streamReply?)
  simp only [copyCalls, namespaceCalls, streamCalls, List.length_append, List.length_cons,
    List.length_nil]
  omega

/-! ### What is written -/

/-- An object that a call writes. -/
inductive WrittenObject where
  | ofNamespace (name : String)
  | ofStream (ns name : String)
  | ofSecret (ns name : String)
  /-- An import into a stream. -/
  | ofImport (ns stream : String)
  deriving DecidableEq, Repr

/-- The object that a call writes. -/
def Api.Call.written? : Call → Option WrittenObject
  | .createNamespace name => some (.ofNamespace name)
  | .createStream ns stream => some (.ofStream ns stream.name)
  | .setFinalizers ns name _ _ | .setAnnotations ns name _ | .deleteStream ns name =>
    some (.ofStream ns name)
  | .applyPullSecret ns _ => some (.ofSecret ns pullSecretName)
  | .importImages ns request => some (.ofImport ns request.metadata.anyName)
  | .getTag _ _ | .getStream _ _ | .getNamespace _ | .listGroups | .listResources _ => none

/-- No two calls of a copy write the same object. -/
theorem nodup_written_copyCalls (credentials : List UInt8) (stream : ImageStream)
    (tag reference : String) (exchanges : List Exchange) :
    ((copyCalls credentials stream tag reference exchanges).filterMap Call.written?).Nodup := by
  have hnamespace : ∀ said, (namespaceWrites stream.namespaceName said).filterMap Call.written? =
      [] ∨ (namespaceWrites stream.namespaceName said).filterMap Call.written? =
        [.ofNamespace stream.namespaceName] := by
    intro said
    rw [namespaceWrites.eq_def]
    split
    · split
      · exact Or.inr rfl
      · exact Or.inl rfl
    · exact Or.inl rfl
  have hstream : ∀ said, (streamWrites stream said).filterMap Call.written? = [] ∨
      ∃ name, (streamWrites stream said).filterMap Call.written? =
        [.ofStream stream.namespaceName name] := by
    intro said
    rw [streamWrites.eq_def]
    split
    · split
      · exact Or.inr ⟨_, rfl⟩
      · exact Or.inl rfl
    · split
      · exact Or.inl rfl
      · exact Or.inr ⟨_, rfl⟩
    · exact Or.inl rfl
  -- A namespace, a stream, the secret and the import differ in kind.
  simp only [copyCalls, namespaceCalls, streamCalls, List.filterMap_append, List.filterMap_cons,
    List.filterMap_nil, Call.written?]
  rcases hnamespace (exchanges.findSome? namespaceReply?) with hn | hn <;>
    rcases hstream (exchanges.findSome? streamReply?) with hs | ⟨name, hs⟩ <;>
    simp [hn, hs]

/-! ## The steps of a copy -/

/-- A step asks these calls in order, and it succeeds exactly if it goes on after all of them. -/
structure Stepped (cluster : String) (calls : List Call) (exchanges : List Exchange)
    (outcome : Except SyncError Unit) : Prop where
  through : GoesThrough cluster calls exchanges
  ok_iff : outcome = .ok () ↔ ∀ e ∈ exchanges, GoesOn e

theorem Stepped.of_send {cluster : String} {call : Call} (sendable : call.Sendable)
    {exchanges : List Exchange} {reply : call.Reply} {outcome : Except SyncError Unit}
    (run : Plan.Run (Plan.send cluster call) exchanges reply)
    (hok : outcome = .ok () ↔ GoesOn ⟨cluster, call, reply⟩) :
    Stepped cluster [call] exchanges outcome := by
  refine ⟨.send sendable run, ?_⟩
  obtain rfl := (Plan.run_send_iff sendable).mp run
  rw [List.forall_mem_singleton]
  exact hok

theorem Stepped.of_require {cluster : String} {call : Call} {failure : CallError → SyncError}
    (sendable : call.Sendable) (strict : ∀ cause, call.tolerates cause = false)
    {exchanges : List Exchange} {outcome : Except SyncError Unit}
    (run : Job.Run (do let _ ← Job.require cluster call failure; pure ()) exchanges outcome) :
    Stepped cluster [call] exchanges outcome := by
  obtain ⟨reply, hsend, rfl⟩ := Job.run_require_done_iff.mp run
  refine .of_send sendable hsend ?_
  cases reply with
  | ok result => exact ⟨fun _ => goesOn_ok, fun _ => rfl⟩
  | error cause =>
      rw [goesOn_error_iff, strict cause]
      exact ⟨nofun, nofun⟩

theorem Stepped.after {cluster : String} {calls later : List Call} {first second : List Exchange}
    {outcome : Except SyncError Unit} (h : Stepped cluster later second outcome)
    (hfirst : GoesThrough cluster calls first) (hall : ∀ e ∈ first, GoesOn e) :
    Stepped cluster (calls ++ later) (first ++ second) outcome where
  through := hfirst.append hall h.through
  ok_iff := by
    rw [h.ok_iff, List.forall_mem_append]
    exact ⟨fun hsecond => ⟨hall, hsecond⟩, And.right⟩

section Steps

variable {cluster ns : String} {stream : ImageStream} {exchanges : List Exchange}
  {outcome : Except SyncError Unit}

/-- The first step is about the namespace. -/
theorem Stepped.of_provideNamespace (hns : FitsTarget ns)
    (run : (provideNamespace cluster ns).Run exchanges outcome) :
    Stepped cluster (namespaceCalls ns exchanges) exchanges outcome := by
  have sendable {call : Call} (h : call.Concerns ns ns) := h.sendable_of_fits hns hns
  obtain ⟨reply, first, second, hsend, hrest, rfl⟩ := Job.run_send_bind_iff.mp run
  obtain rfl := (Plan.run_send_iff (sendable .getNamespace)).mp hsend
  -- What is written depends on the reply to the first call alone.
  have hcalls : namespaceCalls ns ([⟨cluster, .getNamespace ns, reply⟩] ++ second) =
      [.getNamespace ns] ++ namespaceWrites ns (some reply) := rfl
  rw [hcalls]
  cases reply with
  | ok found =>
      obtain ⟨rfl, rfl⟩ := Job.run_pure_iff.mp hrest
      have hnone : namespaceWrites ns (some (.ok found)) = [] := rfl
      rw [List.append_nil, hnone, List.append_nil]
      exact .of_send (sendable .getNamespace) hsend ⟨fun _ => goesOn_ok, fun _ => rfl⟩
  | error cause =>
      rw [namespaceWrites]
      cases hc : cause.isNotFound with
      | true =>
          simp only [hc, if_true] at hrest
          have hsecond := Stepped.of_require (sendable .createNamespace) (fun _ => rfl) hrest
          refine hsecond.after (.send (sendable .getNamespace) hsend) ?_
          exact List.forall_mem_singleton.mpr (goesOn_error_iff.mpr hc)
      | false =>
          simp only [hc] at hrest
          obtain ⟨rfl, rfl⟩ := Job.run_throw_iff.mp hrest
          rw [List.append_nil]
          refine .of_send (sendable .getNamespace) hsend ?_
          rw [goesOn_error_iff, Call.tolerates, hc]
          exact ⟨nofun, nofun⟩

/-- The second step is about the stream. -/
theorem Stepped.of_provideStream (hns : FitsTarget stream.namespaceName)
    (hname : FitsTarget stream.name)
    (run : (provideStream cluster stream).Run exchanges outcome) :
    Stepped cluster (streamCalls stream exchanges) exchanges outcome := by
  have sendable {call : Call} (h : call.Concerns stream.namespaceName stream.name) :=
    h.sendable_of_fits hns hname
  rw [provideStream, Job.find?_eq, bind_assoc] at run
  obtain ⟨reply, first, second, hsend, hrest, rfl⟩ := Job.run_send_bind_iff.mp run
  obtain rfl := (Plan.run_send_iff (sendable .getStream)).mp hsend
  -- As for the namespace, the reply to the first call decides.
  have hcalls : streamCalls stream
      ([⟨cluster, .getStream stream.namespaceName stream.name, reply⟩] ++ second) =
        [.getStream stream.namespaceName stream.name] ++ streamWrites stream (some reply) := rfl
  rw [hcalls]
  cases reply with
  | ok existing =>
      rw [streamWrites]
      replace hrest : Job.Run (if (existing.missingAnnotations stream).isEmpty then pure ()
        else do
          let _ ← Job.require cluster (.setAnnotations stream.namespaceName stream.name
            (existing.missingAnnotations stream)) (.write (.annotations _ _) cluster)
          pure ()) second outcome := hrest
      cases hmissing : (existing.missingAnnotations stream).isEmpty with
      | true =>
          simp only [hmissing, if_true] at hrest
          obtain ⟨rfl, rfl⟩ := Job.run_pure_iff.mp hrest
          rw [List.append_nil, if_pos rfl, List.append_nil]
          exact .of_send (sendable .getStream) hsend ⟨fun _ => goesOn_ok, fun _ => rfl⟩
      | false =>
          simp only [hmissing] at hrest
          have hsecond := Stepped.of_require (sendable (.setAnnotations _)) (fun _ => rfl) hrest
          refine hsecond.after (.send (sendable .getStream) hsend) ?_
          exact List.forall_mem_singleton.mpr goesOn_ok
  | error cause =>
      rw [streamWrites]
      cases hc : cause.saysAbsent with
      | true =>
          have hfound : Job.found (.getStream stream.namespaceName stream.name cluster)
              (.error cause : Except CallError ImageStream) = .ok none := if_pos hc
          rw [hfound] at hrest
          have hsecond := Stepped.of_require (sendable (.createStream _)) (fun _ => rfl) hrest
          refine hsecond.after (.send (sendable .getStream) hsend) ?_
          exact List.forall_mem_singleton.mpr (goesOn_error_iff.mpr hc)
      | false =>
          have hfound : Job.found (.getStream stream.namespaceName stream.name cluster)
              (.error cause : Except CallError ImageStream) =
                .error (.getStream stream.namespaceName stream.name cluster cause) :=
            if_neg (Bool.eq_false_iff.mp hc)
          rw [hfound] at hrest
          obtain ⟨rfl, rfl⟩ := Job.run_throw_iff.mp hrest
          rw [List.append_nil, if_neg Bool.false_ne_true, List.append_nil]
          refine .of_send (sendable .getStream) hsend ?_
          rw [goesOn_error_iff, Call.tolerates, hc]
          exact ⟨nofun, nofun⟩

end Steps

/-! ## The whole copy -/

theorem GoesThrough.namespaceReply?_eq_none {cluster : String} {calls : List Call}
    {exchanges : List Exchange} (h : GoesThrough cluster calls exchanges)
    (hcalls : ∀ call ∈ calls, ∀ n, call ≠ .getNamespace n) :
    exchanges.findSome? namespaceReply? = none := by
  refine List.findSome?_eq_none_iff.mpr fun e he => ?_
  have hcall := hcalls _ (h.call_mem he)
  rw [namespaceReply?.eq_def]
  split
  · exact absurd rfl (hcall _)
  · rfl

theorem GoesThrough.streamReply?_eq_none {cluster : String} {calls : List Call}
    {exchanges : List Exchange} (h : GoesThrough cluster calls exchanges)
    (hcalls : ∀ call ∈ calls, ∀ n s, call ≠ .getStream n s) :
    exchanges.findSome? streamReply? = none := by
  refine List.findSome?_eq_none_iff.mpr fun e he => ?_
  have hcall := hcalls _ (h.call_mem he)
  rw [streamReply?.eq_def]
  split
  · exact absurd rfl (hcall _ _)
  · rfl

/-- A run that goes through the calls of a step and then through others, where neither depend on
what the others have learnt. -/
theorem GoesThrough.of_bind {cluster : String} {step rest : Job Unit}
    {calls later : List Exchange → List Call}
    (hstep : ∀ {es : List Exchange} {result : Except SyncError Unit},
      step.Run es result → Stepped cluster (calls es) es result)
    (hrest : ∀ {es : List Exchange} {result : Except SyncError Unit},
      rest.Run es result → GoesThrough cluster (later es) es)
    (hcalls : ∀ {first second}, GoesThrough cluster (later second) second →
      calls (first ++ second) = calls first)
    (hlater : ∀ {first second}, GoesThrough cluster (calls first) first →
      later (first ++ second) = later second)
    {exchanges : List Exchange} {outcome : Except SyncError Unit}
    (run : (do step; rest : Job Unit).Run exchanges outcome) :
    GoesThrough cluster (calls exchanges ++ later exchanges) exchanges := by
  rcases Job.run_bind_iff.mp run with ⟨done, first, second, hfirst, hsecond, rfl⟩ |
    ⟨e, hfirst, rfl⟩
  · have hthrough := (hstep hfirst).through
    rw [hcalls (hrest hsecond), hlater hthrough]
    exact hthrough.append ((hstep hfirst).ok_iff.mp rfl) (hrest hsecond)
  · exact (hstep hfirst).through.stop fun hall => nomatch (hstep hfirst).ok_iff.mpr hall

/-- A copy goes through its calls. -/
theorem GoesThrough.of_copyTo {credentials : List UInt8} {source : Source}
    {tag reference cluster : String} {exchanges : List Exchange}
    {outcome : Except SyncError Unit} (hns : FitsTarget source.stream.namespaceName)
    (hname : FitsTarget source.stream.name) (href : source.reference tag = .ok reference)
    (run : (copyTo credentials source tag cluster).Run exchanges outcome) :
    GoesThrough cluster (copyCalls credentials source.stream tag reference exchanges)
      exchanges := by
  have sendable {call : Call}
      (h : call.Concerns source.stream.namespaceName source.stream.name) :=
    h.sendable_of_fits hns hname
  -- The copy is put together from its end, since a step that fails cuts off what is behind it.
  have ending {es : List Exchange} {result : Except SyncError Unit}
      (run : Job.Run (do
        providePullSecret cluster source.stream.namespaceName credentials
        importImage cluster source.stream.namespaceName source.stream.name tag reference)
        es result) :
      GoesThrough cluster ([.applyPullSecret source.stream.namespaceName credentials] ++
        [.importImages source.stream.namespaceName (.importTo source.stream.namespaceName
          source.stream.name tag reference)]) es := by
    refine @GoesThrough.of_bind _ _ _ (fun _ => [_]) (fun _ => [_])
      (.of_require (sendable (.applyPullSecret _)) fun _ => rfl) (fun run => ?_)
      (fun _ => rfl) (fun _ => rfl) _ _ run
    obtain ⟨reply, hsend, -⟩ := run_importImage_iff.mp run
    exact .send (sendable (.importImages _)) hsend
  have contents {es : List Exchange} {result : Except SyncError Unit}
      (run : Job.Run (do
        provideStream cluster source.stream
        providePullSecret cluster source.stream.namespaceName credentials
        importImage cluster source.stream.namespaceName source.stream.name tag reference)
        es result) :
      GoesThrough cluster (streamCalls source.stream es ++
        [.applyPullSecret source.stream.namespaceName credentials,
          .importImages source.stream.namespaceName (.importTo source.stream.namespaceName
            source.stream.name tag reference)]) es := by
    refine .of_bind (.of_provideStream hns hname) ending (fun h => ?_) (fun _ => rfl) run
    rw [streamCalls, List.findSome?_append, h.streamReply?_eq_none (by simp), Option.or_none,
      streamCalls]
  simp only [copyTo, href] at run
  refine .of_bind (.of_provideNamespace hns) contents (fun h => ?_) (fun h => ?_) run
  · have hnone := h.namespaceReply?_eq_none fun call hcall n => ?_
    · rw [namespaceCalls, List.findSome?_append, hnone, Option.or_none, namespaceCalls]
    · rintro rfl
      rcases List.mem_append.mp hcall with hcall | hcall
      · rcases mem_streamCalls hcall with h | h | ⟨annotations, h⟩ <;> cases h
      · simp at hcall
  · have hnone := h.streamReply?_eq_none fun call hcall n s => ?_
    · rw [streamCalls, List.findSome?_append, hnone, Option.none_or, streamCalls]
    · rintro rfl
      rcases mem_namespaceCalls hcall with h | h <;> cases h

/-! ## Copies in a pass -/

/-- How a cluster that is not the source is asked in a pass. -/
structure AskedInOrder (fleet : Fleet) (ns name : String) (parts : TagName)
    (exchanges : List Exchange) (cluster : String) : Prop where
  /-- It is asked for the tag at most once, and then for the calls of a copy. -/
  inOrder : ∃ looks copy, exchanges.filter (·.cluster = cluster) = looks ++ copy ∧
    looks.length ≤ 1 ∧ (∀ e ∈ looks, e.call = .getTag ns name) ∧
    (copy = [] ∨ looks ≠ [] ∧ ∃ source reference, UnderWay source exchanges ∧
      source.stream.namespaceName = ns ∧ source.stream.name = parts.stream ∧
      source.reference parts.tag = .ok reference ∧
      GoesThrough cluster
        (copyCalls fleet.credentials source.stream parts.tag reference copy) copy)
  bounded : (exchanges.filter (·.cluster = cluster)).length ≤ 7
  inside : ∀ e ∈ exchanges, e.cluster = cluster →
    e.call = .getTag ns name ∨ e.call.Concerns ns parts.stream
  once : ((exchanges.filter (·.cluster = cluster)).filterMap (·.call.written?)).Nodup

/-- What goes through the calls of a copy is bounded, stays with the stream and writes nothing
twice. -/
theorem AskedInOrder.of_course {fleet : Fleet} {ns name cluster : String} {parts : TagName}
    {exchanges looks copy : List Exchange}
    (hsplit : exchanges.filter (·.cluster = cluster) = looks ++ copy) (hone : looks.length ≤ 1)
    (hlooks : ∀ e ∈ looks, e.call = .getTag ns name)
    (hcopy : copy = [] ∨ looks ≠ [] ∧ ∃ source reference, UnderWay source exchanges ∧
      source.stream.namespaceName = ns ∧ source.stream.name = parts.stream ∧
      source.reference parts.tag = .ok reference ∧
      GoesThrough cluster
        (copyCalls fleet.credentials source.stream parts.tag reference copy) copy) :
    AskedInOrder fleet ns name parts exchanges cluster := by
  have calls : copy.length ≤ 6 ∧ (∀ e ∈ copy, e.call.Concerns ns parts.stream) ∧
      (copy.filterMap (·.call.written?)).Nodup := by
    rcases hcopy with rfl | ⟨-, source, reference, -, rfl, hname, -, hthrough⟩
    · simp
    refine ⟨?_, fun e he => hname ▸ concerns_of_mem_copyCalls (hthrough.call_mem he), ?_⟩
    · rw [← List.length_map (·.call)]
      exact hthrough.inOrder.length_le.trans (length_copyCalls_le _ _ _ _ _)
    · have hmap : copy.filterMap (·.call.written?) =
          (copy.map (·.call)).filterMap Call.written? := by
        rw [List.filterMap_map]
        rfl
      rw [hmap]
      exact (nodup_written_copyCalls _ _ _ _ _).sublist (hthrough.inOrder.sublist.filterMap _)
  refine ⟨⟨looks, copy, hsplit, hone, hlooks, hcopy⟩, ?_, fun e he hc => ?_, ?_⟩
  · rw [hsplit, List.length_append]
    omega
  · have hmem : e ∈ looks ++ copy := hsplit ▸ List.mem_filter.mpr ⟨he, by simpa using hc⟩
    exact (List.mem_append.mp hmem).imp (hlooks e) (calls.2.1 e)
  · have hnone : looks.filterMap (·.call.written?) = [] := by
      refine List.filterMap_eq_nil_iff.mpr fun e he => ?_
      rw [hlooks e he, Call.written?]
    rw [hsplit, List.filterMap_append, hnone, List.nil_append]
    exact calls.2.2

theorem Source.exists_reference_error {source : Source}
    (h : source.tag.image.dockerImageReference = none ∨ RegistryHosts.of? source.cluster = none)
    (tag : String) : ∃ e, source.reference tag = .error e := by
  cases href : source.reference tag with
  | error e => exact ⟨e, rfl⟩
  | ok reference =>
      obtain ⟨hosts, own, hhosts, hown, -⟩ := Source.reference_eq_ok_iff.mp href
      rcases h with h | h
      · cases h.symm.trans hown
      · cases h.symm.trans hhosts

/-- In a pass that deletes nothing, the copies keep to their order. -/
theorem AskedInOrder.of_run {fleet : Fleet} {ns name cluster : String} {parts : TagName}
    {exchanges : List Exchange} {outcome : Except SyncError Unit} (hns : FitsTarget ns)
    (hname : TagName.parse? name = some parts) (hstream : FitsTarget parts.stream)
    (answered : ∀ cluster n s stream, ⟨cluster, .getStream n s, .ok stream⟩ ∈ exchanges →
      stream.namespaceName = n ∧ stream.name = s)
    (run : (syncTag fleet ns name).Run exchanges outcome)
    (keeps : ∀ e ∈ exchanges, e.method ≠ .delete)
    (other : ∀ tag, newest? (observed exchanges) ≠ some (cluster, tag)) :
    AskedInOrder fleet ns name parts exchanges cluster := by
  obtain ⟨reads, rest, made, happroach, hsplit, hobserved, hmade⟩ := run_syncTag_parts run
  rw [hobserved] at other
  have keeps' : ∀ e ∈ rest, e.cluster = cluster → e.method ≠ .delete := by
    intro e he _
    exact keeps e (by rw [hsplit]; simp [he])
  obtain ⟨hfilter, hone⟩ := happroach.filter_eq other keeps'
  have hlooks : ∀ e ∈ reads.filter (·.cluster = cluster), e.call = .getTag ns name :=
    fun e he => happroach.looks e (List.mem_filter.mp he).1
  have hfilter' : exchanges.filter (·.cluster = cluster) =
      reads.filter (·.cluster = cluster) ++ (exchangesOf made).filter (·.cluster = cluster) := by
    rw [hsplit, List.filter_append, hfilter]
  refine .of_course hfilter' hone hlooks ?_
  rcases hmade with rfl | ⟨heverywhere, parts', source, hparts, hcopied⟩
  · exact Or.inl rfl
  obtain rfl := Option.some.inj (hparts.symm.trans hname)
  obtain ⟨rfl, hsourceName⟩ := answered _ _ _ _ hcopied.read
  -- A cluster that is no target is asked for the tag only.
  by_cases htarget : ∃ a ∈ made, a.item = cluster
  · obtain ⟨a, ha, rfl⟩ := htarget
    rw [filter_exchangesOf hcopied.nodup hcopied.attempted.own ha]
    have hrun := hcopied.attempted.run a ha
    cases href : source.reference parts'.tag with
    | error e =>
        simp only [copyTo, href] at hrun
        exact Or.inl (Job.run_throw_iff.mp hrun).1
    | ok reference =>
        have hasked : a.item ∈ reads.map (·.cluster) := by
          have hitem : a.item ∈ made.map (·.item) := List.mem_map_of_mem ha
          rw [hcopied.attempted.each] at hitem
          rw [heverywhere]
          exact (List.mem_filter.mp hitem).1
        obtain ⟨look, hlook, hcluster⟩ := List.mem_map.mp hasked
        have hmem : look ∈ reads.filter (·.cluster = a.item) :=
          List.mem_filter.mpr ⟨hlook, by simpa using hcluster⟩
        exact Or.inr ⟨List.ne_nil_of_mem hmem, source, reference, hcopied.under, rfl, hsourceName,
          href, .of_copyTo hns (hsourceName ▸ hstream) href hrun⟩
  · exact Or.inl (filter_exchangesOf_eq_nil hcopied.attempted.own fun a ha hitem =>
      htarget ⟨a, ha, hitem⟩)

/-- **The requests to a target follow one order.** -/
theorem copies_follow_one_order {fleet : Fleet} {ns name : String} {parts : TagName}
    {exchanges : List Exchange} {outcome : Except SyncError Unit} (hns : FitsTarget ns)
    (hname : parts.Names name) (hstream : FitsTarget parts.stream)
    (answered : ∀ cluster n s stream, ⟨cluster, .getStream n s, .ok stream⟩ ∈ exchanges →
      stream.namespaceName = n ∧ stream.name = s)
    (run : (syncTag fleet ns name).Run exchanges outcome)
    (keeps : ∀ e ∈ exchanges, e.method ≠ .delete) :
    (∀ cluster, (∀ tag, newest? (observed exchanges) ≠ some (cluster, tag)) →
      AskedInOrder fleet ns name parts exchanges cluster) ∧
    ∀ owner tag, newest? (observed exchanges) = some (owner, tag) →
      tag.image.dockerImageReference = none ∨ RegistryHosts.of? owner = none →
      (∀ e ∈ exchanges, e.cluster ≠ owner → e.call = .getTag ns name) ∧
      ∀ source, UnderWay source exchanges → ∃ e, source.reference parts.tag = .error e ∧
        outcome = SyncError.collect
          (List.replicate (fleet.targets source (observed exchanges)).length e) := by
  refine ⟨fun cluster other => .of_run hns hname.parse? hstream answered run keeps other, ?_⟩
  intro owner tag hnewest hmissing
  obtain ⟨reads, rest, made, happroach, hsplit, hobserved, hmade⟩ := run_syncTag_parts run
  constructor
  · -- If there are copies, they ask nothing, for want of a reference.
    have hnone : exchangesOf made = [] := by
      rcases hmade with rfl | ⟨-, parts', source, -, hcopied⟩
      · rfl
      obtain ⟨rfl, rfl⟩ :=
        Prod.mk.inj (Option.some.inj (hcopied.under.newest.symm.trans hnewest))
      obtain ⟨e, href⟩ := source.exists_reference_error hmissing parts'.tag
      exact (hcopied.attempted.unreferenced href).1
    rw [hsplit, hnone, List.append_nil] at keeps ⊢
    intro e he hother
    rcases List.mem_append.mp he with he' | he'
    · exact happroach.looks e he'
    · rcases (happroach.acts e he').2 with ⟨tag', hnewest'⟩ | ⟨hdelete, -⟩
      · rw [← hobserved, hnewest] at hnewest'
        exact absurd (Prod.mk.inj (Option.some.inj hnewest')).1.symm hother
      · exact absurd hdelete (keeps e he)
  · intro source under
    obtain ⟨rfl, rfl⟩ := Prod.mk.inj (Option.some.inj (under.newest.symm.trans hnewest))
    obtain ⟨e, href⟩ := source.exists_reference_error hmissing parts.tag
    refine ⟨e, href, ?_⟩
    obtain ⟨parts', made', hparts, hcopied⟩ := Copied.of_underWay run under
    obtain rfl := Option.some.inj (hparts.symm.trans hname.parse?)
    rw [hcopied.outcome_eq, (hcopied.attempted.unreferenced href).2]

/-! ### A pass -/

def releaseStream : ImageStream where
  metadata := {
    name := some "app"
    «namespace» := some "ci"
    annotations := some (.ofList [("release.openshift.io/name", "4.6")])
    finalizers := some [managedFinalizer] }

def releasedTag : ImageStreamTag where
  image := {
    metadata := { name := some "sha256:1" }
    dockerImageReference := some "image-registry.openshift-image-registry.svc:5000/ci/app" }

/-- The error of a server that does not let the program write. -/
def forbidden : CallError := refusal "Forbidden" 403

/-- Servers of which one lacks the namespace and refuses the credentials; another one does not let
the namespace be created. -/
def stoppingTargets : Unit → String → (call : Call) → call.Reply × Unit
  | _, "app.ci", .getTag _ _ => (.ok releasedTag, ())
  | _, "app.ci", .getStream _ _ => (.ok releaseStream, ())
  | _, "api.ci", .createNamespace name => (.ok (requestedNamespace name), ())
  | _, "api.ci", .getStream _ _ => (.ok heldStream, ())
  | _, "api.ci", .setAnnotations _ _ _ => (.ok releaseStream, ())
  | _, "api.ci", .applyPullSecret _ _ => (.error forbidden, ())
  | _, _, _ => (.error notThere, ())

/-- The exchanges of a pass whose copies both stop early. -/
def stoppedExchanges : List Exchange := [
  ⟨"api.ci", .getTag "ci" "app:latest", .error notThere⟩,
  ⟨"app.ci", .getTag "ci" "app:latest", .ok releasedTag⟩,
  ⟨"build01", .getTag "ci" "app:latest", .error notThere⟩,
  ⟨"app.ci", .getStream "ci" "app", .ok releaseStream⟩,
  ⟨"api.ci", .getNamespace "ci", .error notThere⟩,
  ⟨"api.ci", .createNamespace "ci", .ok (requestedNamespace "ci")⟩,
  ⟨"api.ci", .getStream "ci" "app", .ok heldStream⟩,
  ⟨"api.ci", .setAnnotations "ci" "app" (.ofList [("release.openshift.io/name", "4.6")]),
    .ok releaseStream⟩,
  ⟨"api.ci", .applyPullSecret "ci" [], .error forbidden⟩,
  ⟨"build01", .getNamespace "ci", .error notThere⟩,
  ⟨"build01", .createNamespace "ci", .error notThere⟩]

theorem copies_stop_early :
    (syncTag threeClusters "ci" "app:latest").Run stoppedExchanges (.error (.multiple [
        .write (.secret "ci" pullSecretName) "api.ci" forbidden,
        .namespaceStep .create "ci" "build01" notThere])) ∧
      AskedInOrder threeClusters "ci" "app:latest" ⟨"app", "latest"⟩ stoppedExchanges "api.ci" ∧
      AskedInOrder threeClusters "ci" "app:latest" ⟨"app", "latest"⟩ stoppedExchanges "build01" := by
  have run : (syncTag threeClusters "ci" "app:latest").Run stoppedExchanges (.error (.multiple [
      .write (.secret "ci" pullSecretName) "api.ci" forbidden,
      .namespaceStep .create "ci" "build01" notThere])) :=
    Plan.run_play stoppingTargets _ ()
  have names : TagName.Names ⟨"app", "latest"⟩ "app:latest" :=
    ⟨rfl, by decide, by decide, by decide, by decide⟩
  have answered : ∀ cluster n s stream, ⟨cluster, .getStream n s, .ok stream⟩ ∈ stoppedExchanges →
      stream.namespaceName = n ∧ stream.name = s := by
    intro cluster n s stream hmem
    simp only [stoppedExchanges, List.mem_cons, List.not_mem_nil, or_false] at hmem
    rcases hmem with h | h | h | h | h | h | h | h | h | h | h <;> cases h <;> exact ⟨rfl, rfl⟩
  have keeps : ∀ e ∈ stoppedExchanges, e.method ≠ .delete := by decide
  have newest : newest? (observed stoppedExchanges) = some ("app.ci", releasedTag) := rfl
  -- The newest copy is on `app.ci`, so both other clusters count.
  have other {cluster : String} (hc : "app.ci" ≠ cluster) :
      ∀ tag, newest? (observed stoppedExchanges) ≠ some (cluster, tag) := by
    intro tag htag
    exact hc (Prod.mk.inj (Option.some.inj (newest.symm.trans htag))).1
  have hall := (copies_follow_one_order (by decide) names (by decide) answered run keeps).1
  exact ⟨run, hall "api.ci" (other (by decide)), hall "build01" (other (by decide))⟩

end TagSync
