import TagSync.Proofs.Copies
import TagSync.Proofs.Requests
import TagSync.Proofs.Sequels
import TagSync.Proofs.Service

/-!
# Reading before writing

A pass reads the tag from the clusters in name order and then the stream of the newest copy. The
first read that fails is the end of the pass, and until then nothing was written
(`unread_pass_writes_nothing`). Of the reads of a tag only "not found" is no failure; the read of
the stream has to succeed.
-/

set_option autoImplicit false

namespace TagSync

open Api
open Plan (Exchange)

/-! ## How the reading may go -/

/-- How the reading of a pass may go: a cluster cannot say whether it has the tag, none has it, the
stream of the newest copy cannot be read, or it is read and no tag is read after it. -/
inductive ReadingRun (fleet : Fleet) (ns name : String) (parts : TagName) :
    List Exchange → Except SyncError Unit → Prop
  | unread {exchanges : List Exchange} {e : SyncError} :
      LooksInVain ns name fleet.names exchanges e →
      ReadingRun fleet ns name parts exchanges (.error e)
  | absent {exchanges : List Exchange} : (observe ns name fleet.names).Run exchanges (.ok []) →
      ReadingRun fleet ns name parts exchanges (.ok ())
  | streamless {source : Source} {reads : List Exchange} {cause : CallError} :
      Found fleet ns name parts source reads →
      ReadingRun fleet ns name parts
        (reads ++ [⟨source.cluster, .getStream ns parts.stream, .error cause⟩])
        (.error (.getStream ns parts.stream source.cluster cause))
  | complete {source : Source} {reads rest : List Exchange} {outcome : Except SyncError Unit} :
      Found fleet ns name parts source reads →
      (∀ e ∈ rest, ∀ ns' name', e.call ≠ .getTag ns' name') →
      ReadingRun fleet ns name parts (reads ++ source.streamRead ns parts :: rest) outcome

/-- Once the tag was read, the stream can be asked for. -/
theorem Found.sendable {fleet : Fleet} {ns name : String} {parts : TagName} {source : Source}
    {reads : List Exchange} (h : Found fleet ns name parts source reads) :
    (Call.getStream ns parts.stream).Sendable :=
  Call.sendable_getStream h.named
    (sendable_of_observe (List.ne_nil_of_mem h.mem_names) h.looked)

/-- A pass that reads no stream has not read all that it needs. -/
theorem ReadingRun.of_streamless {fleet : Fleet} {ns name : String} {parts : TagName}
    {exchanges : List Exchange} {outcome : Except SyncError Unit}
    (hparts : TagName.parse? name = some parts)
    (run : (syncTag fleet ns name).Run exchanges outcome)
    (hnone : exchanges.findSome? streamReading? = none) :
    ReadingRun fleet ns name parts exchanges outcome := by
  -- An approach that has read the stream of a source is none that reads no stream.
  have absurd_read {parts' : TagName} {source : Source} {reads rest : List Exchange}
      (found : Found fleet ns name parts' source reads)
      (h : (reads ++ source.streamRead ns parts' :: rest).findSome? streamReading? = none) :
      False := by
    cases h.symm.trans (found.first_stream rest)
  rcases run_syncTag_cases run with ⟨e, happroach, rfl⟩ | ⟨happroach, rfl⟩ |
    ⟨work, lead, made, happroach, -, rfl, rfl⟩
  · cases ApproachRun.of_run happroach with
    | misnamed hname => cases hname.symm.trans hparts
    | unread _ hlook => exact .unread (.of_run hlook)
    | streamless found hasking =>
        obtain rfl := Option.some.inj (found.named.symm.trans hparts)
        obtain rfl := (Plan.run_send_iff found.sendable).mp hasking
        exact .streamless found
    | retiring found => exact (absurd_read found hnone).elim
    | unheld found => exact (absurd_read found hnone).elim
  · cases ApproachRun.of_run happroach with
    | absent _ hlook => exact .absent hlook
    | unmanaged found => exact (absurd_read found hnone).elim
    | retiring found => exact (absurd_read found hnone).elim
  · obtain ⟨_, _, _, found, -, -, rfl, -⟩ := (ApproachRun.of_run happroach).exists_held
    rw [List.append_assoc, List.cons_append] at hnone
    exact (absurd_read found hnone).elim

/-- Every pass for a well-formed name reads like that. -/
theorem ReadingRun.of_run {fleet : Fleet} {ns name : String} {parts : TagName}
    {exchanges : List Exchange} {outcome : Except SyncError Unit}
    (hparts : TagName.parse? name = some parts)
    (run : (syncTag fleet ns name).Run exchanges outcome) :
    ReadingRun fleet ns name parts exchanges outcome := by
  rcases (PassRun.of_run run).cases_source with ⟨-, hnone⟩ |
    ⟨parts', source, reads, rest, found, hsequel, rfl⟩
  · exact .of_streamless hparts run hnone
  · obtain rfl := Option.some.inj (found.named.symm.trans hparts)
    exact .complete found hsequel.later_call

/-! ## Reads that fail -/

namespace LooksInVain

variable {ns name : String} {clusters : List String} {exchanges : List Exchange} {e : SyncError}

/-- The one look that fails is the last. -/
theorem of_mem (h : LooksInVain ns name clusters exchanges e) {cluster : String}
    {cause : CallError} (hmem : ⟨cluster, .getTag ns name, .error cause⟩ ∈ exchanges)
    (hc : cause.isNotFound = false) :
    e = .getTag ns name cluster cause ∧ ∃ reads later,
      clusters = reads.map (·.cluster) ++ cluster :: later ∧
      exchanges = reads ++ [⟨cluster, .getTag ns name, .error cause⟩] ∧
      ∀ x ∈ reads, LooksForTag ns name x := by
  obtain @⟨reads, asking, last, later, cause', hsplit, hall, hasking, hc'⟩ := h
  rcases List.mem_append.mp hmem with hread | hlast
  · obtain ⟨_, reply, heq, hfound⟩ := hall _ hread
    cases heq
    rw [hfound cause rfl] at hc
    cases hc
  · rcases Plan.run_send_cases hasking with rfl | ⟨rfl, -⟩
    · cases List.mem_singleton.mp hlast
      exact ⟨rfl, reads, later, hsplit, rfl, hall⟩
    · cases hlast

theorem not_absent (h : LooksInVain ns name clusters exchanges e) (nodup : clusters.Nodup)
    (absent : ∀ cluster ∈ clusters, ∃ cause,
      ⟨cluster, .getTag ns name, .error cause⟩ ∈ exchanges ∧ cause.isNotFound = true) : False := by
  obtain @⟨reads, asking, cluster, later, cause, rfl, hall, hasking, hc⟩ := h
  obtain ⟨cause', hmem, hc'⟩ := absent cluster (by simp)
  rcases List.mem_append.mp hmem with hread | hlast
  · rw [List.nodup_append] at nodup
    exact nodup.2.2 cluster (List.mem_map_of_mem hread) cluster List.mem_cons_self rfl
  · rcases Plan.run_send_cases hasking with rfl | ⟨rfl, -⟩
    · cases List.mem_singleton.mp hlast
      cases hc.symm.trans hc'
    · cases hlast

end LooksInVain

theorem run_observe_unsendable {ns name first : String} {later : List String} {fault : CallError}
    (hfault : (Call.getTag ns name).request = .error fault) {exchanges : List Exchange}
    {outcome : Except SyncError (List (String × ImageStreamTag))}
    (run : (observe ns name (first :: later)).Run exchanges outcome) :
    exchanges = [] ∧ outcome = .error (.getTag ns name first fault) := by
  obtain ⟨reply, asking, rest, hsend, hrest, rfl⟩ := Job.run_send_bind_iff.mp run
  simp only [Plan.send, hfault] at hsend
  obtain ⟨rfl, rfl⟩ := Plan.run_done_iff.mp hsend
  simp only [(Call.says_nothing_of_request hfault).1] at hrest
  exact Job.run_throw_iff.mp hrest

/-- The cluster of a source did not say that it does not have the tag. -/
theorem Found.not_absent {fleet : Fleet} {ns name : String} {parts : TagName} {source : Source}
    {reads : List Exchange} (h : Found fleet ns name parts source reads) (cause : CallError) :
    ⟨source.cluster, .getTag ns name, .error cause⟩ ∉ reads := by
  intro hmem
  obtain ⟨reply, hfilter⟩ := h.filter_eq h.mem_names
  have only : ∀ reply', ⟨source.cluster, .getTag ns name, reply'⟩ ∈ reads → reply' = reply := by
    intro reply' hmem'
    have hsame : (⟨source.cluster, .getTag ns name, reply'⟩ : Exchange) ∈
        reads.filter (·.cluster = source.cluster) := List.mem_filter.mpr ⟨hmem', by simp⟩
    rw [hfilter] at hsame
    cases List.mem_singleton.mp hsame
    rfl
  cases (only _ hmem).trans (only _ h.read_source).symm

/-! ## What is asked first besides the tag -/

/-- The first exchange that asks for something else than a tag. -/
def firstOther? (exchanges : List Exchange) : Option Exchange :=
  exchanges.find? fun e => !e.call.readsTag

theorem firstOther?_append {ns name : String} {reads : List Exchange}
    (h : ∀ e ∈ reads, e.call = .getTag ns name) (rest : List Exchange) :
    firstOther? (reads ++ rest) = firstOther? rest := by
  have hnone : reads.find? (fun e => !e.call.readsTag) = none := by
    refine List.find?_eq_none.mpr fun e he => ?_
    rw [h e he]
    simp [Call.readsTag]
  rw [firstOther?, List.find?_append, hnone, Option.none_or, firstOther?]

theorem firstOther?_eq_none {ns name : String} {reads : List Exchange}
    (h : ∀ e ∈ reads, e.call = .getTag ns name) : firstOther? reads = none := by
  rw [← List.append_nil reads, firstOther?_append h]
  rfl

/-! ## Reading before writing -/

/-- The run writes nothing. -/
def OnlyReads (exchanges : List Exchange) : Prop :=
  ∀ e ∈ exchanges, e.method = .get

theorem OnlyReads.of_calls {ns name : String} {reads : List Exchange}
    (h : ∀ e ∈ reads, e.call = .getTag ns name) : OnlyReads reads := by
  intro e he
  rw [Exchange.method, h e he]
  rfl

/-- What a pass for the tag of a stream keeps to when it reads. -/
structure ReadsFirst (fleet : Fleet) (ns name : String) (parts : TagName)
    (exchanges : List Exchange) (outcome : Except SyncError Unit) : Prop where
  /-- It asks the clusters for the tag in name order, and then for no tag any more. -/
  inOrder : ∃ reads rest, exchanges = reads ++ rest ∧
    reads.map (·.cluster) <+: fleet.names ∧ (∀ e ∈ reads, e.call = .getTag ns name) ∧
    ∀ e ∈ rest, ∀ ns' name', e.call ≠ .getTag ns' name'
  /-- The first cluster that fails otherwise than with "not found" is the last one asked. -/
  unread : ∀ cluster cause, ⟨cluster, .getTag ns name, .error cause⟩ ∈ exchanges →
    cause.isNotFound = false → outcome = .error (.getTag ns name cluster cause) ∧
    OnlyReads exchanges ∧ ∃ reads later, fleet.names = reads.map (·.cluster) ++ cluster :: later ∧
      exchanges = reads ++ [⟨cluster, .getTag ns name, .error cause⟩] ∧
      ∀ e ∈ reads, LooksForTag ns name e
  /-- If the tag cannot be asked for, the first cluster is the one that fails. -/
  unsent : ∀ fault, (Call.getTag ns name).request = .error fault → ∀ first later,
    fleet.names = first :: later →
    outcome = .error (.getTag ns name first fault) ∧ exchanges = []
  /-- If no cluster has the tag, that is all. -/
  absent : (∀ cluster ∈ fleet.names, ∃ cause,
      ⟨cluster, .getTag ns name, .error cause⟩ ∈ exchanges ∧ cause.isNotFound = true) →
    outcome = .ok () ∧ OnlyReads exchanges ∧ exchanges.map (·.cluster) = fleet.names ∧
      ∀ e ∈ exchanges, e.call = .getTag ns name
  /-- If no look has failed and one has found the tag, the stream of the newest copy is read. -/
  selected : ∀ cluster tag, newest? (observed exchanges) = some (cluster, tag) →
    (∀ e ∈ exchanges, e.call = .getTag ns name → LooksForTag ns name e) →
    ∃ reply, firstOther? exchanges = some ⟨cluster, .getStream ns parts.stream, reply⟩
  /-- If that fails in any way, it was the last request, and every cluster was asked before. -/
  streamless : ∀ cluster cause,
    firstOther? exchanges = some ⟨cluster, .getStream ns parts.stream, .error cause⟩ →
    outcome = .error (.getStream ns parts.stream cluster cause) ∧ OnlyReads exchanges ∧
    (∃ tag, newest? (observed exchanges) = some (cluster, tag)) ∧
    ∃ reads, exchanges = reads ++ [⟨cluster, .getStream ns parts.stream, .error cause⟩] ∧
      reads.map (·.cluster) = fleet.names ∧ ∀ e ∈ reads, LooksForTag ns name e

namespace ReadingRun

variable {fleet : Fleet} {ns name : String} {parts : TagName} {exchanges : List Exchange}
  {outcome : Except SyncError Unit}

theorem not_getTag_of_stream {cluster : String} {reply : Except CallError ImageStream}
    {rest : List Exchange} (h : ∀ e ∈ rest, ∀ ns' name', e.call ≠ .getTag ns' name') :
    ∀ e ∈ ⟨cluster, .getStream ns parts.stream, reply⟩ :: rest, ∀ ns' name',
      e.call ≠ .getTag ns' name' :=
  List.forall_mem_cons.mpr ⟨nofun, h⟩

theorem inOrder (h : ReadingRun fleet ns name parts exchanges outcome) :
    ∃ reads rest, exchanges = reads ++ rest ∧
      reads.map (·.cluster) <+: fleet.names ∧ (∀ e ∈ reads, e.call = .getTag ns name) ∧
      ∀ e ∈ rest, ∀ ns' name', e.call ≠ .getTag ns' name' := by
  cases h with
  | unread hlook =>
      obtain ⟨hclusters, hcalls⟩ := hlook.asks
      exact ⟨exchanges, [], by simp, hclusters, hcalls, by simp⟩
  | absent hlook =>
      have hclusters := (run_observe hlook).1
      exact ⟨exchanges, [], by simp, hclusters ▸ List.prefix_rfl, observe_only _ _ _ hlook, by simp⟩
  | @streamless source reads cause found =>
      exact ⟨reads, _, rfl, found.map_cluster ▸ List.prefix_rfl,
        fun e he => (found.looks e he).call_eq, not_getTag_of_stream (by simp)⟩
  | @complete source reads rest outcome found hlater =>
      exact ⟨reads, _, rfl, found.map_cluster ▸ List.prefix_rfl,
        fun e he => (found.looks e he).call_eq, not_getTag_of_stream hlater⟩

theorem looks_of_found {source : Source} {reads rest : List Exchange}
    (found : Found fleet ns name parts source reads)
    (hlater : ∀ e ∈ rest, ∀ ns' name', e.call ≠ .getTag ns' name') {e : Exchange}
    (he : e ∈ reads ++ rest) (hcall : e.call = .getTag ns name) : LooksForTag ns name e := by
  rcases List.mem_append.mp he with he | he
  · exact found.looks e he
  · exact absurd hcall (hlater e he ns name)

theorem not_looks {cluster : String} {cause : CallError} (hc : cause.isNotFound = false) :
    ¬ LooksForTag ns name ⟨cluster, .getTag ns name, .error cause⟩ := by
  rintro ⟨_, reply, heq, hfound⟩
  cases heq
  cases (hfound cause rfl).symm.trans hc

theorem unread_last (h : ReadingRun fleet ns name parts exchanges outcome) {cluster : String}
    {cause : CallError} (hmem : ⟨cluster, .getTag ns name, .error cause⟩ ∈ exchanges)
    (hc : cause.isNotFound = false) :
    outcome = .error (.getTag ns name cluster cause) ∧ OnlyReads exchanges ∧
    ∃ reads later, fleet.names = reads.map (·.cluster) ++ cluster :: later ∧
      exchanges = reads ++ [⟨cluster, .getTag ns name, .error cause⟩] ∧
      ∀ e ∈ reads, LooksForTag ns name e := by
  cases h with
  | unread hlook =>
      obtain ⟨rfl, hlast⟩ := hlook.of_mem hmem hc
      exact ⟨rfl, .of_calls hlook.asks.2, hlast⟩
  | absent hlook => exact absurd ((run_observe hlook).2.2 _ hmem) (not_looks hc)
  | streamless found =>
      exact absurd (looks_of_found found (not_getTag_of_stream (by simp)) hmem rfl) (not_looks hc)
  | complete found hlater =>
      exact absurd (looks_of_found found (not_getTag_of_stream hlater) hmem rfl) (not_looks hc)

theorem ok_of_absent (h : ReadingRun fleet ns name parts exchanges outcome)
    (absent : ∀ cluster ∈ fleet.names, ∃ cause,
      ⟨cluster, .getTag ns name, .error cause⟩ ∈ exchanges ∧ cause.isNotFound = true) :
    outcome = .ok () ∧ OnlyReads exchanges ∧ exchanges.map (·.cluster) = fleet.names ∧
      ∀ e ∈ exchanges, e.call = .getTag ns name := by
  -- The cluster of a source has the tag, and no look for a tag comes after the others.
  have absurd_found {source : Source} {reads rest : List Exchange}
      (found : Found fleet ns name parts source reads)
      (hlater : ∀ e ∈ rest, ∀ ns' name', e.call ≠ .getTag ns' name')
      (absent : ∀ cluster ∈ fleet.names, ∃ cause,
        ⟨cluster, .getTag ns name, .error cause⟩ ∈ reads ++ rest ∧ cause.isNotFound = true) :
      False := by
    obtain ⟨cause, hmem, -⟩ := absent source.cluster found.mem_names
    rcases List.mem_append.mp hmem with hmem | hmem
    · exact found.not_absent cause hmem
    · exact hlater _ hmem ns name rfl
  cases h with
  | unread hlook => exact (hlook.not_absent fleet.clusters.nodup_toList absent).elim
  | absent hlook =>
      have hcalls := observe_only _ _ _ hlook
      exact ⟨rfl, .of_calls hcalls, (run_observe hlook).1, hcalls⟩
  | streamless found => exact (absurd_found found (not_getTag_of_stream (by simp)) absent).elim
  | complete found hlater => exact (absurd_found found (not_getTag_of_stream hlater) absent).elim

theorem newest_of_found {source : Source} {reads rest : List Exchange}
    (found : Found fleet ns name parts source reads)
    (hlater : ∀ e ∈ rest, ∀ ns' name', e.call ≠ .getTag ns' name') :
    newest? (observed (reads ++ rest)) = some (source.cluster, source.tag) := by
  rw [observed_append, observed_eq_nil hlater, List.append_nil]
  exact found.newest

theorem firstOther?_of_found {source : Source} {reads : List Exchange}
    (found : Found fleet ns name parts source reads) (reply : Except CallError ImageStream)
    (rest : List Exchange) :
    firstOther? (reads ++ ⟨source.cluster, .getStream ns parts.stream, reply⟩ :: rest) =
      some ⟨source.cluster, .getStream ns parts.stream, reply⟩ := by
  rw [firstOther?_append fun e he => (found.looks e he).call_eq]
  rfl

theorem exists_stream (h : ReadingRun fleet ns name parts exchanges outcome)
    (sendable : (Call.getTag ns name).Sendable) {cluster : String} {tag : ImageStreamTag}
    (hnewest : newest? (observed exchanges) = some (cluster, tag))
    (hlooks : ∀ e ∈ exchanges, e.call = .getTag ns name → LooksForTag ns name e) :
    ∃ reply, firstOther? exchanges = some ⟨cluster, .getStream ns parts.stream, reply⟩ := by
  cases h with
  | unread hlook =>
      obtain ⟨-, -, hasking, hc⟩ := hlook
      obtain rfl := (Plan.run_send_iff sendable).mp hasking
      -- A failed look is no look that goes on.
      have hlast := hlooks _ (List.mem_append_right _ List.mem_cons_self) rfl
      exact absurd hlast (not_looks hc)
  | absent hlook =>
      rw [← (run_observe hlook).2.1] at hnewest
      cases hnewest
  | streamless found =>
      rw [newest_of_found found (not_getTag_of_stream (by simp))] at hnewest
      cases hnewest
      exact ⟨_, firstOther?_of_found found _ _⟩
  | complete found hlater =>
      rw [Source.streamRead, newest_of_found found (not_getTag_of_stream hlater)] at hnewest
      cases hnewest
      exact ⟨_, firstOther?_of_found found _ _⟩

theorem streamless_last (h : ReadingRun fleet ns name parts exchanges outcome) {cluster : String}
    {cause : CallError}
    (hfirst : firstOther? exchanges = some ⟨cluster, .getStream ns parts.stream, .error cause⟩) :
    outcome = .error (.getStream ns parts.stream cluster cause) ∧ OnlyReads exchanges ∧
    (∃ tag, newest? (observed exchanges) = some (cluster, tag)) ∧
    ∃ reads, exchanges = reads ++ [⟨cluster, .getStream ns parts.stream, .error cause⟩] ∧
      reads.map (·.cluster) = fleet.names ∧ ∀ e ∈ reads, LooksForTag ns name e := by
  cases h with
  | unread hlook => cases (firstOther?_eq_none hlook.asks.2).symm.trans hfirst
  | absent hlook => cases (firstOther?_eq_none (observe_only _ _ _ hlook)).symm.trans hfirst
  | @streamless source reads cause' found =>
      rw [firstOther?_of_found found] at hfirst
      cases hfirst
      have hreads : OnlyReads reads := .of_calls fun e he => (found.looks e he).call_eq
      refine ⟨rfl, List.forall_mem_append.mpr ⟨hreads, by simp [Exchange.method]; rfl⟩,
        ⟨source.tag, newest_of_found found (not_getTag_of_stream (by simp))⟩, reads, rfl,
        found.map_cluster, found.looks⟩
  | complete found hlater =>
      rw [Source.streamRead, firstOther?_of_found found] at hfirst
      cases hfirst

end ReadingRun

/-- Every pass for the tag of a stream keeps to it. -/
theorem ReadsFirst.of_run {fleet : Fleet} {ns name : String} {parts : TagName}
    {exchanges : List Exchange} {outcome : Except SyncError Unit}
    (hparts : TagName.parse? name = some parts)
    (run : (syncTag fleet ns name).Run exchanges outcome) :
    ReadsFirst fleet ns name parts exchanges outcome := by
  have reading := ReadingRun.of_run hparts run
  have unsent : ∀ fault, (Call.getTag ns name).request = .error fault → ∀ first later,
      fleet.names = first :: later →
      outcome = .error (.getTag ns name first fault) ∧ exchanges = [] := by
    intro fault hfault first later hnames
    rw [syncTag] at run
    simp only [hparts, hnames] at run
    rcases Job.run_bind_iff.mp run with ⟨_, reads, rest, hlook, -, rfl⟩ | ⟨e, hlook, rfl⟩
    · cases (run_observe_unsendable hfault hlook).2
    · obtain ⟨rfl, he⟩ := run_observe_unsendable hfault hlook
      exact ⟨congrArg _ (Except.error.inj he), rfl⟩
  refine ⟨reading.inOrder, fun _ _ => reading.unread_last, unsent, reading.ok_of_absent, ?_,
    fun _ _ => reading.streamless_last⟩
  intro cluster tag hnewest hlooks
  cases hrequest : (Call.getTag ns name).request with
  | ok request => exact reading.exists_stream ⟨request, hrequest⟩ hnewest hlooks
  | error fault =>
      -- If the tag cannot be asked for, nothing is observed.
      cases hnames : fleet.names with
      | nil =>
          obtain ⟨reads, rest, rfl, hclusters, -, hlater⟩ := reading.inOrder
          rw [hnames, List.prefix_nil, List.map_eq_nil_iff] at hclusters
          rw [hclusters, List.nil_append, observed_eq_nil hlater] at hnewest
          cases hnewest
      | cons first later =>
          rw [(unsent fault hrequest first later hnames).2] at hnewest
          cases hnewest

/-- **A pass that cannot read everything it needs writes nothing.** Under a name that is not that
of a stream and a tag it asks for nothing; otherwise the clusters are asked for the tag in order,
then the one with the newest copy for the stream, and the first read that fails is the last
request. -/
theorem unread_pass_writes_nothing {fleet : Fleet} {ns name : String}
    {exchanges : List Exchange} {outcome : Except SyncError Unit}
    (run : (syncTag fleet ns name).Run exchanges outcome) :
    ((∀ parts : TagName, ¬ parts.Names name) →
      outcome = .error (.invalidTagName ns name) ∧ exchanges = []) ∧
    ∀ parts : TagName, parts.Names name → ReadsFirst fleet ns name parts exchanges outcome := by
  refine ⟨fun hnone => ?_, fun parts hnames => .of_run hnames.parse? run⟩
  rw [syncTag] at run
  simp only [TagName.parse?_eq_none hnone] at run
  exact (Job.run_throw_iff.mp run).symm

/-! ### Two passes -/

def brokenConnection : CallError := .connection "connection reset"

def brokenReader : Unit → String → (call : Call) → call.Reply × Unit
  | _, "app.ci", _ => (.error brokenConnection, ())
  | _, _, _ => (.error notThere, ())

/-- Servers of which one has the tag but does not give away its stream. -/
def streamlessHolder : Unit → String → (call : Call) → call.Reply × Unit
  | _, "api.ci", .getTag _ _ => (.ok default, ())
  | _, _, _ => (.error notThere, ())

def brokenExchanges : List Exchange := [
  ⟨"api.ci", .getTag "ci" "app:latest", .error notThere⟩,
  ⟨"app.ci", .getTag "ci" "app:latest", .error brokenConnection⟩]

/-- The exchanges of a pass that finds the tag but not its stream. -/
def streamlessExchanges : List Exchange := [
  ⟨"api.ci", .getTag "ci" "app:latest", .ok default⟩,
  ⟨"app.ci", .getTag "ci" "app:latest", .error notThere⟩,
  ⟨"build01", .getTag "ci" "app:latest", .error notThere⟩,
  ⟨"api.ci", .getStream "ci" "app", .error notThere⟩]

theorem unread_passes_write_nothing :
    (syncTag threeClusters "ci" "app:latest").Run brokenExchanges
        (.error (.getTag "ci" "app:latest" "app.ci" brokenConnection)) ∧
      OnlyReads brokenExchanges ∧
      (syncTag threeClusters "ci" "app:latest").Run streamlessExchanges
        (.error (.getStream "ci" "app" "api.ci" notThere)) ∧
      OnlyReads streamlessExchanges := by
  have names : TagName.Names ⟨"app", "latest"⟩ "app:latest" :=
    ⟨rfl, by decide, by decide, by decide, by decide⟩
  have broken : (syncTag threeClusters "ci" "app:latest").Run brokenExchanges
      (.error (.getTag "ci" "app:latest" "app.ci" brokenConnection)) :=
    Plan.run_play brokenReader _ ()
  have streamless : (syncTag threeClusters "ci" "app:latest").Run streamlessExchanges
      (.error (.getStream "ci" "app" "api.ci" notThere)) :=
    Plan.run_play streamlessHolder _ ()
  -- Each of the two passes falls under one case of the theorem.
  have hbroken := ((unread_pass_writes_nothing broken).2 _ names).unread "app.ci"
    brokenConnection (by simp [brokenExchanges]) rfl
  have hstreamless := ((unread_pass_writes_nothing streamless).2 _ names).streamless "api.ci"
    notThere rfl
  exact ⟨broken, hbroken.2.1, streamless, hstreamless.2.1⟩

end TagSync
