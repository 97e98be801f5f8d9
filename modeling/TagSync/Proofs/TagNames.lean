import TagSync.Proofs.Failures
import TagSync.Proofs.FilterEntries

/-!
# Which tag a name stands for

The name of a tag is put together from its stream and the tag where a stream is reported, and taken
apart again by the filter and by the pass. It comes apart into what it was put together from, or
nowhere at all (`TagName.parse?_toName_cases`). So the filter decides on the tag that the name came
from (`TagFilter.admits_toName_iff`), and a pass keeps to it (`KeepsTo.of_run`): what it asks for
is that tag, its stream, and what the servers have answered under this stream's name.
-/

set_option autoImplicit false

namespace TagSync

open Api
open Plan (Exchange EachAfter)

/-! ## Names put together and taken apart -/

namespace TagName

variable {n parts : TagName} {name : String}

theorem Names.eq (h : parts.Names n.toName) : parts = n :=
  eq_of_parse?_toName h.parse?

/-- A name that was put together is taken apart into the same parts, or not at all. -/
theorem parse?_toName_cases (n : TagName) : parse? n.toName = some n ∨ parse? n.toName = none := by
  cases h : parse? n.toName with
  | none => exact Or.inr rfl
  | some parts => exact Or.inl (congrArg some (eq_of_parse?_toName h))

end TagName

/-! ## The filter -/

namespace TagFilter

variable {f : TagFilter} {ns name : String} {n : TagName}

theorem exists_parse?_of_admits (h : f.admits ns name = true) :
    ∃ n, TagName.parse? name = some n := by
  obtain ⟨n, hn, -⟩ := admits_iff.mp h
  exact ⟨n, hn.parse?⟩

/-- The filter decides on the tag that the name was put together from. -/
theorem admits_toName_iff : f.admits ns n.toName = true ↔ n.Names n.toName ∧
    (f.Picks ns n ∨
      f.namespaces.contains ns = true ∧ f.denied.contains (qualified ns n.stream) = false) := by
  rw [admits_iff]
  constructor
  · rintro ⟨parts, hparts, hlet⟩
    obtain rfl := hparts.eq
    exact ⟨hparts, hlet⟩
  · rintro ⟨hn, hlet⟩
    exact ⟨n, hn, hlet⟩

theorem admits_eq_false (h : TagName.parse? name = none) : f.admits ns name = false := by
  rw [← Bool.not_eq_true]
  intro hadmits
  obtain ⟨n, hn⟩ := exists_parse?_of_admits hadmits
  cases h.symm.trans hn

end TagFilter

/-! ## Calls for a tag -/

namespace Api

/-- The call is for a tag of a stream: it looks for the tag, or it is about the stream or its
namespace. What it creates is no stream of another name, and what it imports becomes this tag. -/
inductive Call.ServesTag (ns stream tag : String) : Call → Prop
  | getTag : ServesTag ns stream tag (.getTag ns (TagName.mk stream tag).toName)
  | getStream : ServesTag ns stream tag (.getStream ns stream)
  | createStream {created : ImageStream} :
      (∀ x, created.metadata.namespace = some x → x = ns) →
      (∀ x, created.metadata.name = some x → x = stream) →
      ServesTag ns stream tag (.createStream ns created)
  | setFinalizers (finalizers : List String) (version : Option String) :
      ServesTag ns stream tag (.setFinalizers ns stream finalizers version)
  | setAnnotations (annotations : NameMap String) :
      ServesTag ns stream tag (.setAnnotations ns stream annotations)
  | deleteStream : ServesTag ns stream tag (.deleteStream ns stream)
  | getNamespace : ServesTag ns stream tag (.getNamespace ns)
  | createNamespace : ServesTag ns stream tag (.createNamespace ns)
  | applyPullSecret (credentials : List UInt8) :
      ServesTag ns stream tag (.applyPullSecret ns credentials)
  | importImages (reference : String) :
      ServesTag ns stream tag (.importImages ns (.importTo ns stream tag reference))

theorem Call.ServesTag.createCopy (source : ImageStream) (tag : String) :
    ServesTag source.namespaceName source.name tag
      (.createStream source.namespaceName source.copy) := by
  refine .createStream (fun x hx => ?_) fun x hx => ?_
  · have hns : source.metadata.namespace = some x := hx
    simp [ImageStream.namespaceName, ObjectMeta.namespaceOrEmpty, hns]
  · have hname : source.metadata.name = some x := hx
    simp [ImageStream.name, ObjectMeta.anyName, hname]

end Api

/-- A copy asks for nothing but what is for the tag of its source's stream. -/
theorem copyTo_asks (credentials : List UInt8) (source : Source) (tag cluster : String) :
    Job.Only (fun _ call => call.ServesTag source.stream.namespaceName source.stream.name tag)
      (copyTo credentials source tag cluster) := by
  rw [copyTo]
  cases source.reference tag with
  | error e => exact Job.Only.throw _ _
  | ok reference =>
      refine ((provideNamespace_asks _ _).mono ?_).bind fun _ =>
        ((provideStream_asks _ _).mono ?_).bind fun _ => Job.Only.bind ?_ fun _ => ?_
      · rintro _ _ ⟨-, rfl | rfl⟩
        · exact .getNamespace
        · exact .createNamespace
      · rintro _ _ ⟨-, rfl | rfl | ⟨annotations, rfl⟩⟩
        · exact .getStream
        · exact .createCopy _ _
        · exact .setAnnotations _
      · exact (Job.Only.require (.applyPullSecret _)).bind fun _ => Job.Only.pure _ _
      · intro exchanges outcome run e he
        rw [((run_importImage run).1 e he).2]
        exact .importImages _

/-! ## Passes -/

/-- The names by which a run knows a stream: those that it asks for first, and those in the
streams that it was answered under a name that it knew. -/
inductive KnownAs (ns stream : String) (earlier : List Exchange) : String → String → Prop
  | asked : KnownAs ns stream earlier ns stream
  | answered {ns' stream' cluster : String} {found : ImageStream} :
      KnownAs ns stream earlier ns' stream' →
      ⟨cluster, .getStream ns' stream', .ok found⟩ ∈ earlier →
      KnownAs ns stream earlier found.namespaceName found.name

/-- The servers answer with the streams that they are asked for. -/
def AnswersAsAsked (exchanges : List Exchange) : Prop :=
  ∀ cluster ns name stream, ⟨cluster, .getStream ns name, .ok stream⟩ ∈ exchanges →
    stream.namespaceName = ns ∧ stream.name = name

namespace KnownAs

variable {ns stream ns' stream' : String} {earlier exchanges : List Exchange}

theorem mono (h : KnownAs ns stream earlier ns' stream') (hsub : earlier ⊆ exchanges) :
    KnownAs ns stream exchanges ns' stream' := by
  induction h with
  | asked => exact .asked
  | answered _ hmem ih => exact .answered ih (hsub hmem)

theorem eq_asked (h : KnownAs ns stream exchanges ns' stream') (as : AnswersAsAsked exchanges) :
    ns' = ns ∧ stream' = stream := by
  induction h with
  | asked => exact ⟨rfl, rfl⟩
  | answered _ hmem ih =>
      obtain ⟨hns, hname⟩ := as _ _ _ _ hmem
      exact ⟨hns.trans ih.1, hname.trans ih.2⟩

end KnownAs

/-- The exchange is for a tag, under a name by which its stream is known. -/
def WorksOn (ns : String) (n : TagName) (earlier : List Exchange) (e : Exchange) : Prop :=
  ∃ ns' stream, KnownAs ns n.stream earlier ns' stream ∧ e.call.ServesTag ns' stream n.tag

/-- Exchanges keep to a tag. -/
structure KeepsTo (ns : String) (n : TagName) (exchanges : List Exchange) : Prop where
  /-- Each is for the tag, as far as the servers have told before. -/
  each : EachAfter (WorksOn ns n) exchanges
  /-- Servers that answer with what they are asked for are asked for nothing else at all. -/
  only : AnswersAsAsked exchanges → ∀ e ∈ exchanges, e.call.ServesTag ns n.stream n.tag

section

variable {ns : String} {n : TagName} {fleet : Fleet} {source : Source}
  {reads rest exchanges : List Exchange} {outcome : Except SyncError Unit}

theorem KeepsTo.of_each (h : EachAfter (WorksOn ns n) exchanges) : KeepsTo ns n exchanges where
  each := h
  only as e he := by
    obtain ⟨earlier, later, hsplit⟩ := List.append_of_mem he
    obtain ⟨ns', stream, hknown, hserves⟩ := h hsplit
    have hsub : earlier ⊆ exchanges := by simp [hsplit]
    obtain ⟨rfl, rfl⟩ := (hknown.mono hsub).eq_asked as
    exact hserves

theorem eachAfter_looks (h : ∀ e ∈ exchanges, e.call = .getTag ns n.toName) :
    EachAfter (WorksOn ns n) exchanges :=
  .of_forall fun e he _ => ⟨ns, n.stream, .asked, h e he ▸ .getTag⟩

theorem eachAfter_streamRead (hreads : ∀ e ∈ reads, e.call = .getTag ns n.toName) :
    EachAfter (WorksOn ns n) (reads ++ [source.streamRead ns n]) := by
  refine (eachAfter_looks hreads).append (.of_forall fun e he _ => ?_)
  obtain rfl := List.mem_singleton.mp he
  exact ⟨ns, n.stream, .asked, .getStream⟩

theorem KnownAs.of_streamRead (source : Source) {earlier : List Exchange}
    (h : source.streamRead ns n ∈ earlier) :
    KnownAs ns n.stream earlier source.stream.namespaceName source.stream.name :=
  .answered .asked h

/-- The exchange that reads the stream of a source once more. -/
def Source.streamReread (source : Source) (current : ImageStream) : Exchange :=
  ⟨source.cluster, .getStream source.stream.namespaceName source.stream.name, .ok current⟩

theorem KnownAs.of_streamReread (source : Source) (current : ImageStream)
    {earlier : List Exchange} (h : source.streamRead ns n ∈ earlier)
    (h' : source.streamReread current ∈ earlier) :
    KnownAs ns n.stream earlier current.namespaceName current.name :=
  .answered (.of_streamRead source h) h'

theorem eachAfter_serving (hreads : ∀ e ∈ reads, e.call = .getTag ns n.toName)
    (hrest : ∀ e ∈ rest,
      e.call.ServesTag source.stream.namespaceName source.stream.name n.tag) :
    EachAfter (WorksOn ns n) (reads ++ source.streamRead ns n :: rest) := by
  rw [List.append_cons]
  refine (eachAfter_streamRead hreads).append (.of_forall fun e he _ => ?_)
  exact ⟨_, _, .of_streamRead source (by simp), hrest e he⟩

/-- A retirement may follow: it goes on from the stream that was read, and in the end from its
version that is read once more. -/
theorem eachAfter_retiring (hreads : ∀ e ∈ reads, e.call = .getTag ns n.toName)
    (h : Retiring source.cluster source.stream rest) :
    EachAfter (WorksOn ns n) (reads ++ source.streamRead ns n :: rest) := by
  obtain @⟨deletions, releasing, hdeletions, hreleasing⟩ := h
  have deleting : ∀ e ∈ deletions,
      e.call.ServesTag source.stream.namespaceName source.stream.name n.tag :=
    fun e he => (hdeletions e he).2 ▸ .deleteStream
  cases hreleasing with
  | reading hall =>
      refine eachAfter_serving hreads (List.forall_mem_append.mpr ⟨deleting, fun e he => ?_⟩)
      exact (hall e he).2 ▸ .getStream
  | @writing current e htakes =>
      obtain ⟨finalizers, -, -, hcall⟩ := htakes
      have reading : ∀ x ∈ deletions ++ [source.streamReread current],
          x.call.ServesTag source.stream.namespaceName source.stream.name n.tag := by
        refine List.forall_mem_append.mpr ⟨deleting, fun x hx => ?_⟩
        obtain rfl := List.mem_singleton.mp hx
        exact .getStream
      have writing : ∀ x ∈ [e], ∀ earlier, WorksOn ns n ((reads ++ source.streamRead ns n ::
          (deletions ++ [source.streamReread current])) ++ earlier) x := by
        intro x hx earlier
        obtain rfl := List.mem_singleton.mp hx
        exact ⟨_, _, .of_streamReread source current (by simp) (by simp), hcall ▸ .setFinalizers _ _⟩
      -- The write comes after the second read, so it is about what was read there.
      have both := (eachAfter_serving hreads reading).append (.of_forall writing)
      have hsplit : (reads ++ source.streamRead ns n ::
            (deletions ++ [source.streamReread current])) ++ [e] =
          reads ++ source.streamRead ns n ::
            (deletions ++ [source.streamReread current, e]) := by simp
      exact hsplit ▸ both

section

variable {parts : TagName}

theorem Found.parts_eq (h : Found fleet ns n.toName parts source reads) : parts = n :=
  TagName.eq_of_parse?_toName h.named

theorem Found.looks_call (h : Found fleet ns n.toName parts source reads) :
    ∀ e ∈ reads, e.call = .getTag ns n.toName :=
  fun e he => (h.looks e he).call_eq

end

/-- A pass keeps to the tag whose name it is for. -/
theorem KeepsTo.of_run (run : (syncTag fleet ns n.toName).Run exchanges outcome) :
    KeepsTo ns n exchanges := by
  refine .of_each ?_
  -- Whatever the pass comes to, each call is about the tag or about a stream that was read.
  cases PassRun.of_run run with
  | misnamed hname => exact eachAfter_looks (by simp)
  | unread hlook => exact eachAfter_looks (observe_only _ _ _ hlook)
  | absent hlook => exact eachAfter_looks (observe_only _ _ _ hlook)
  | streamless found hasking =>
      obtain rfl := found.parts_eq
      refine (eachAfter_looks found.looks_call).append (.of_forall fun e he _ => ?_)
      obtain ⟨cause, rfl⟩ := hasking e he
      exact ⟨_, _, .asked, .getStream⟩
  | unmanaged found hterm hm =>
      obtain rfl := found.parts_eq
      exact eachAfter_streamRead found.looks_call
  | retiring found hterm hm hretire =>
      obtain rfl := found.parts_eq
      exact eachAfter_retiring found.looks_call (.of_run hretire)
  | unheld found hlive hhold =>
      obtain rfl := found.parts_eq
      exact eachAfter_serving found.looks_call fun e he =>
        (hold_asks _ _ hhold e he).2 ▸ .setFinalizers _ _
  | @copying parts source reads holding copies errors hcopying =>
      obtain rfl := hcopying.found.parts_eq
      obtain ⟨made, hmade, rfl, -⟩ := run_copyToAll_iff.mp hcopying.copied
      refine eachAfter_serving hcopying.found.looks_call (List.forall_mem_append.mpr ⟨?_, ?_⟩)
      · exact fun e he => (hold_asks _ _ hcopying.held e he).2 ▸ .setFinalizers _ _
      · intro e he
        obtain ⟨a, ha, hea⟩ := List.mem_flatMap.mp he
        exact copyTo_asks _ _ _ _ (hmade.run a ha) e hea

/-- A pass for the name of a tag does not fail because of the name. -/
theorem run_syncTag_ne_invalidTagName {name : String} (hparts : TagName.parse? name = some n)
    (run : (syncTag fleet ns name).Run exchanges outcome) (ns' name' : String) :
    outcome ≠ .error (.invalidTagName ns' name') := by
  rintro rfl
  rcases run_syncTag_cases run with ⟨e, happroach, h⟩ | ⟨-, h⟩ |
    ⟨work, lead, made, -, hmade, -, h⟩
  · obtain rfl := Except.error.inj h
    exact approach_fails fleet ns hparts happroach
  · cases h
  · have steps : ∀ e ∈ failuresOf made, e.IsStep := by
      intro e he
      obtain ⟨a, ha, houtcome⟩ := mem_failuresOf.mp he
      exact copyTo_fails _ _ _ _ (houtcome ▸ hmade.run a ha)
    -- The error would be the only failure of the copies.
    have hleaves := SyncError.leaves_of_collect h.symm
    rw [SyncError.leavesOf_eq_self steps, SyncError.leaves] at hleaves
    · exact steps _ (hleaves ▸ List.mem_singleton_self _)
    · nofun

theorem run_syncTag_iff_of_misnamed {name : String} (h : TagName.parse? name = none) :
    (syncTag fleet ns name).Run exchanges outcome ↔
      exchanges = [] ∧ outcome = .error (.invalidTagName ns name) := by
  simp only [syncTag, h]
  exact Job.run_throw_iff

end

/-! ## What becomes of a name -/

/-- The name that was put together for a tag stands for that tag: it comes apart into the same
parts, the filter decides on that tag, and a pass keeps to it. -/
structure TagName.StandsForTag (n : TagName) : Prop where
  parsed : TagName.parse? n.toName = some n
  decided : ∀ (filter : TagFilter) (ns : String), filter.admits ns n.toName = true ↔
    filter.Picks ns n ∨
      filter.namespaces.contains ns = true ∧
        filter.denied.contains (qualified ns n.stream) = false
  synced : ∀ (fleet : Fleet) (ns : String) (exchanges : List Exchange)
    (outcome : Except SyncError Unit), (syncTag fleet ns n.toName).Run exchanges outcome →
      KeepsTo ns n exchanges ∧ ∀ ns' name, outcome ≠ .error (.invalidTagName ns' name)

/-- The name that was put together stands for nothing: it does not come apart, the filter turns it
away, and a pass asks nothing and says what is wrong. -/
structure TagName.StandsForNothing (n : TagName) : Prop where
  parsed : TagName.parse? n.toName = none
  decided : ∀ (filter : TagFilter) (ns : String), filter.admits ns n.toName = false
  synced : ∀ (fleet : Fleet) (ns : String) (exchanges : List Exchange)
    (outcome : Except SyncError Unit), (syncTag fleet ns n.toName).Run exchanges outcome ↔
      exchanges = [] ∧ outcome = .error (.invalidTagName ns n.toName)

/-- **Names of tags are unambiguous.** A name comes apart into a stream and a tag exactly if it is
these two with a colon between them, neither empty and neither with a colon of its own. What the
filter lets in comes apart. Whatever stream and tag a name is put together from, it stands for just
them or for nothing. So the reaction to a stream is a pass for each chosen tag that keeps to this
tag of this stream. -/
theorem tag_names_are_unambiguous :
    (∀ (name : String) (n : TagName), TagName.parse? name = some n ↔
      name = n.stream ++ ":" ++ n.tag ∧ n.stream ≠ "" ∧ n.tag ≠ "" ∧
        ':' ∉ n.stream.toList ∧ ':' ∉ n.tag.toList) ∧
    (∀ (filter : TagFilter) (ns name : String), filter.admits ns name = true →
      ∃ n, TagName.parse? name = some n) ∧
    (∀ n : TagName, n.StandsForTag ∨ n.StandsForNothing) ∧
    ∀ (fleet : Fleet) (filter : TagFilter) (cluster : String) (stream : ImageStream)
      (exchanges : List Exchange) (outcome : Except SyncError Unit),
      stream.metadata.isTerminating = false →
      (reactTo fleet filter cluster stream).Run exchanges outcome →
      ∃ passes,
        Attempted (tagPass fleet stream.namespaceName stream.name)
          (stream.tagNames.filter (filter.admitsTag stream.namespaceName stream.name)) passes ∧
        exchanges = exchangesOf passes ∧
        ∀ pass ∈ passes, (TagName.mk stream.name pass.item).StandsForTag ∧
          KeepsTo stream.namespaceName ⟨stream.name, pass.item⟩ pass.exchanges := by
  have stands : ∀ n : TagName, n.StandsForTag ∨ n.StandsForNothing := by
    intro n
    rcases n.parse?_toName_cases with h | h
    · have hn : n.Names n.toName := TagName.parse?_eq_some_iff.mp h
      refine Or.inl ⟨h, fun filter ns => ?_, fun fleet ns exchanges outcome run => ?_⟩
      · rw [TagFilter.admits_toName_iff, and_iff_right hn]
      · exact ⟨.of_run run, run_syncTag_ne_invalidTagName h run⟩
    · exact Or.inr ⟨h, fun filter ns => TagFilter.admits_eq_false h,
        fun fleet ns exchanges outcome => run_syncTag_iff_of_misnamed h⟩
  refine ⟨fun name n => TagName.parse?_eq_some_iff, fun filter ns name h =>
    TagFilter.exists_parse?_of_admits h, stands, ?_⟩
  intro fleet filter cluster stream exchanges outcome live run
  obtain ⟨passes, hattempted, rfl, -⟩ := run_reactTo_live live run
  refine ⟨passes, hattempted, rfl, fun pass hpass => ⟨?_, .of_run (hattempted.run pass hpass)⟩⟩
  refine (stands _).resolve_right fun hnothing => ?_
  -- A tag that got a pass was admitted, so its name can be taken apart.
  have hmem : pass.item ∈ passes.map (·.item) := List.mem_map_of_mem hpass
  rw [hattempted.each] at hmem
  have hadmits : filter.admitsTag stream.namespaceName stream.name pass.item = true :=
    (List.mem_filter.mp hmem).2
  rw [TagFilter.admitsTag, hnothing.decided] at hadmits
  cases hadmits

/-! ### Tags with odd names -/

/-- A stream with a tag and with two entries that are no tags. -/
def oddTags : ImageStream where
  metadata := { name := some "app", «namespace» := some "ci" }
  spec := { tags := [{ name := "latest:old" }, { name := "latest" }, { name := "" }] }

def wholeNamespace : TagFilter where
  namespaces := .ofList ["ci"]

def stoppedError : SyncError := .multiple [
  .write (.secret "ci" pullSecretName) "api.ci" forbidden,
  .namespaceStep .create "ci" "build01" notThere]

theorem odd_tags_get_no_pass :
    (reactTo threeClusters wholeNamespace "app.ci" oddTags).Run stoppedExchanges
        (.error stoppedError) ∧
      (TagName.mk "app" "latest:old").StandsForNothing ∧
      (TagName.mk "app" "").StandsForNothing ∧
      ∀ e ∈ stoppedExchanges, e.call.ServesTag "ci" "app" "latest" := by
  have run : (reactTo threeClusters wholeNamespace "app.ci" oddTags).Run stoppedExchanges
      (.error stoppedError) := Plan.run_play stoppingTargets _ ()
  obtain ⟨-, -, hstands, hreaction⟩ := tag_names_are_unambiguous
  obtain ⟨passes, hattempted, hexchanges, hpasses⟩ := hreaction _ _ _ _ _ _ rfl run
  have nothing : ∀ n : TagName, TagName.parse? n.toName = none → n.StandsForNothing :=
    fun n h => (hstands n).resolve_left fun htag => by cases h.symm.trans htag.parsed
  refine ⟨run, nothing _ (by decide), nothing _ (by decide), fun e he => ?_⟩
  rw [hexchanges] at he
  obtain ⟨pass, hpass, hepass⟩ := List.mem_flatMap.mp he
  -- Of the three tags only one has a name that can be taken apart.
  have hitem : pass.item ∈ ["latest"] := by
    have hmem : pass.item ∈ passes.map (·.item) := List.mem_map_of_mem hpass
    rw [hattempted.each] at hmem
    exact hmem
  have hkeeps := (hpasses pass hpass).2
  rw [List.mem_singleton.mp hitem] at hkeeps
  refine hkeeps.only ?_ e hepass
  intro cluster ns name stream hmem
  have hmem' : ⟨cluster, .getStream ns name, .ok stream⟩ ∈ stoppedExchanges :=
    hexchanges ▸ List.mem_flatMap.mpr ⟨pass, hpass, hmem⟩
  simp only [stoppedExchanges, List.mem_cons, List.not_mem_nil, or_false] at hmem'
  rcases hmem' with h | h | h | h | h | h | h | h | h | h | h <;> cases h <;> exact ⟨rfl, rfl⟩

end TagSync
