import Mathlib.Data.List.Perm.Subperm
import TagSync.Proofs.Healthy

/-!
# Passes over a world

What a pass does to a world whose clusters are healthy, but for some that may fail: it copies the
newest tag to clusters that need it (`ensures_syncTag`). `World.pass` is the pass with healthy
clusters only, `World.passWithFaults` the one in which a cluster may refuse any call after the
reads of the tag.
-/

set_option autoImplicit false

namespace TagSync

open Api
open Plan (Exchange)

/-- A part of a list without repetitions is what a condition leaves of it. -/
theorem eq_filter_of_sublist {α : Type} {part l : List α} (h : part.Sublist l) (nodup : l.Nodup)
    {p : α → Bool} (hp : ∀ a ∈ l, a ∈ part ↔ p a = true) : part = l.filter p := by
  induction h with
  | slnil => rfl
  | @cons part l a hsub ih =>
      obtain ⟨hnew, hnodup⟩ := List.nodup_cons.mp nodup
      have ha : ¬ p a = true := fun h => hnew (hsub.subset ((hp a List.mem_cons_self).mpr h))
      rw [List.filter_cons_of_neg ha]
      exact ih hnodup fun b hb => hp b (List.mem_cons_of_mem _ hb)
  | @cons_cons part l a hsub ih =>
      obtain ⟨hnew, hnodup⟩ := List.nodup_cons.mp nodup
      rw [List.filter_cons_of_pos ((hp a List.mem_cons_self).mp List.mem_cons_self)]
      refine congrArg (a :: ·) (ih hnodup fun b hb => ?_)
      -- The rest has no second `a`, so membership in it is that in the whole.
      have hne : b ≠ a := fun heq => hnew (heq ▸ hb)
      rw [← hp b (List.mem_cons_of_mem _ hb), List.mem_cons]
      simp [hne]

/-! ## Sources and targets -/

namespace World

/-- The source of a pass: the newest tag, with the stream that it stands beside. -/
def source? (w : World) (fleet : Fleet) (ns name : String) : Option Source :=
  (TagName.parse? name).bind fun parts =>
    (newest? (w.observations ns name fleet.names)).bind fun (cluster, tag) =>
      (w.stream? cluster ns parts.stream).map fun stored => ⟨cluster, tag, stored.stream⟩

def targets (w : World) (fleet : Fleet) (ns name : String) : List String :=
  (w.source? fleet ns name).elim [] fun source =>
    fleet.targets source (w.observations ns name fleet.names)

/-- What the source of a pass is made of. -/
theorem source?_eq_some_iff {w : World} {fleet : Fleet} {ns name : String} {parts : TagName}
    (hparts : TagName.parse? name = some parts) {source : Source} :
    w.source? fleet ns name = some source ↔
      newest? (w.observations ns name fleet.names) = some (source.cluster, source.tag) ∧
        ∃ stored, w.stream? source.cluster ns parts.stream = some stored ∧
          source.stream = stored.stream := by
  rw [source?, hparts, Option.bind_some]
  constructor
  · intro h
    obtain ⟨⟨cluster, tag⟩, hnewest, h⟩ := Option.bind_eq_some_iff.mp h
    obtain ⟨stored, hstored, rfl⟩ := Option.map_eq_some_iff.mp h
    exact ⟨hnewest, stored, hstored, rfl⟩
  · rintro ⟨hnewest, stored, hstored, hstream⟩
    rw [hnewest, Option.bind_some]
    refine Option.map_eq_some_iff.mpr ⟨stored, hstored, ?_⟩
    rw [← hstream]

theorem observations_eq {w : World} {ns name : String} {parts : TagName}
    (hparts : TagName.parse? name = some parts) (clusters : List String) :
    w.observations ns name clusters =
      (w.shelf ns parts.stream parts.tag).observations clusters := by
  have hlook : ∀ c, w.look? c ns name = w.tag? c ns parts.stream parts.tag := fun c => by
    rw [look?, hparts]
    rfl
  simp only [observations, hlook]
  rfl

theorem exists_source_of_newest {w : World} {fleet : Fleet} {ns name cluster : String}
    {parts : TagName} {tag : ImageStreamTag} (hparts : TagName.parse? name = some parts)
    (hnewest : newest? ((w.shelf ns parts.stream parts.tag).observations fleet.names) =
      some (cluster, tag)) :
    ∃ stream, w.source? fleet ns name = some ⟨cluster, tag, stream⟩ := by
  have htag : w.tag? cluster ns parts.stream parts.tag = some tag :=
    (Shelf.mem_observations.mp (mem_of_newest? hnewest)).2
  obtain ⟨stored, hstored, -⟩ := Option.bind_eq_some_iff.mp htag
  refine ⟨stored.stream, (source?_eq_some_iff hparts).mpr ⟨?_, stored, hstored, rfl⟩⟩
  rw [observations_eq hparts]
  exact hnewest

theorem tag?_source {w : World} {fleet : Fleet} {ns name : String} {parts : TagName}
    {source : Source} (hparts : TagName.parse? name = some parts)
    (hsource : w.source? fleet ns name = some source) :
    source.cluster ∈ fleet.names ∧
      w.tag? source.cluster ns parts.stream parts.tag = some source.tag := by
  obtain ⟨hnewest, -⟩ := (source?_eq_some_iff hparts).mp hsource
  rw [observations_eq hparts] at hnewest
  exact Shelf.mem_observations.mp (mem_of_newest? hnewest)

theorem targets_eq {w : World} {fleet : Fleet} {ns name : String} {source : Source}
    (hsource : w.source? fleet ns name = some source) :
    w.targets fleet ns name = fleet.targets source (w.observations ns name fleet.names) := by
  rw [targets, hsource]
  rfl

/-- The targets of a pass are the other clusters from which the image does not come and which do
not have it. -/
theorem mem_targets_iff {w : World} {fleet : Fleet} {ns name : String} {parts : TagName}
    {source : Source} (hparts : TagName.parse? name = some parts)
    (hsource : w.source? fleet ns name = some source) {cluster : String} :
    cluster ∈ w.targets fleet ns name ↔ cluster ∈ fleet.names ∧ cluster ≠ source.cluster ∧
      ¬ source.tag.comesFrom cluster = true ∧
      ¬ ∃ own digest, w.tag? cluster ns parts.stream parts.tag = some own ∧
        own.image.digest = some digest ∧ source.tag.image.digest = some digest := by
  rw [targets_eq hsource, Fleet.targets, List.mem_filter]
  refine and_congr_right fun hc => ?_
  have hlookup : (w.observations ns name fleet.names).lookup cluster =
      w.tag? cluster ns parts.stream parts.tag := by
    rw [observations_eq hparts, Shelf.lookup_observations _ hc]
    rfl
  -- Two images are the same if both have a digest and the digests agree.
  have hsame : (w.tag? cluster ns parts.stream parts.tag).any (·.sameImage source.tag) = true ↔
      ∃ own digest, w.tag? cluster ns parts.stream parts.tag = some own ∧
        own.image.digest = some digest ∧ source.tag.image.digest = some digest := by
    simp only [Option.any_eq_true, ImageStreamTag.sameImage_iff]
    constructor
    · rintro ⟨own, hown, digest, hdigests⟩
      exact ⟨own, digest, hown, hdigests⟩
    · rintro ⟨own, digest, hown, hdigests⟩
      exact ⟨own, hown, digest, hdigests⟩
  rw [Source.isNeededOn, hlookup, ← hsame]
  simp

theorem nodup_targets (w : World) (fleet : Fleet) (ns name : String) :
    (w.targets fleet ns name).Nodup := by
  rw [targets]
  cases w.source? fleet ns name with
  | none => exact List.nodup_nil
  | some source => exact fleet.clusters.nodup_toList.filter _

theorem exists_source_of_mem_targets {w : World} {fleet : Fleet} {ns name cluster : String}
    (h : cluster ∈ w.targets fleet ns name) : ∃ parts source,
      TagName.parse? name = some parts ∧ w.source? fleet ns name = some source := by
  cases hsource : w.source? fleet ns name with
  | none =>
      rw [targets, hsource] at h
      cases h
  | some source =>
      obtain ⟨parts, hparts, -⟩ := Option.bind_eq_some_iff.mp hsource
      exact ⟨parts, source, hparts, rfl⟩

end World

section

variable {digest : Option String} {flaky : String → Prop} {w : World}

/-! ## Holding the source -/

/-- A healthy cluster lets a stream that it stores be held. -/
theorem ensures_hold_ok {cluster ns name : String} {stored : StoredStream}
    (named : stored.IsNamed ns name) (healthy : ¬ flaky cluster)
    (hs : w.stream? cluster ns name = some stored) :
    Job.Ensures (Serves digest flaky) (hold cluster stored.stream) w fun outcome _ =>
      outcome = .ok () := by
  rw [hold]
  split
  · exact Job.Ensures.pure rfl
  · next finalizers hadd =>
    have hset := (@Call.Concerns.setFinalizers ns name finalizers
      stored.stream.metadata.resourceVersion).sendable named.properNamespace named.properName
    rw [writeFinalizers, named.namespaceName_eq, named.anyName_eq]
    refine Job.Ensures.bind (Job.Ensures.require healthy hset ?_)
    obtain ⟨stream, hok⟩ := World.change_ok hs (Or.inr rfl) fun m =>
      { m with finalizers := some finalizers }
    simp only [World.serve, hok]
    exact ⟨_, rfl, Job.Ensures.pure rfl⟩

theorem ensures_hold {cluster ns name : String} {stored : StoredStream} (sound : w.Sound)
    (live : w.Live) (healthy : ¬ flaky cluster)
    (hs : w.stream? cluster ns name = some stored) :
    Job.Ensures (Serves digest flaky) (hold cluster stored.stream) w fun outcome w' =>
      outcome = .ok () ∧ World.Extends w w' ∧ World.KeepsTags w w' := by
  refine Job.Ensures.keeping live ((hold_only cluster stored.stream).mono ?_)
    (ensures_hold_ok (sound hs) healthy hs)
  rintro c call ⟨-, _, _, _, _, rfl⟩
  rfl

/-! ## Copies -/

/-- Copies of an image were put on clusters one after the other, and otherwise the tag is as it
was. -/
def World.Copied (w w' : World) (ns : String) (parts : TagName) (digest : Option String)
    (reference : String) (copied : List String) : Prop :=
  w'.shelf ns parts.stream parts.tag = (w.shelf ns parts.stream parts.tag).putAll
    (World.copyTag digest parts.tag reference) copied

section Copied

variable {w' : World} {ns reference cluster : String} {parts : TagName} {copied : List String}

theorem World.Copied.exists_tag? (h : w.Copied w' ns parts digest reference copied)
    (hc : cluster ∈ copied) : ∃ time, w'.tag? cluster ns parts.stream parts.tag =
      some (World.copyTag digest parts.tag reference time) := by
  obtain ⟨time, htag⟩ := Shelf.exists_tag?_putAll hc
  exact ⟨time, (congrFun (congrArg Shelf.tag? h) cluster).trans htag⟩

theorem World.Copied.tag?_eq (h : w.Copied w' ns parts digest reference copied)
    (hc : cluster ∉ copied) :
    w'.tag? cluster ns parts.stream parts.tag = w.tag? cluster ns parts.stream parts.tag :=
  (congrFun (congrArg Shelf.tag? h) cluster).trans (Shelf.tag?_putAll_of_not_mem hc)

theorem World.Copied.has_digest_iff {d : String}
    (h : w.Copied w' ns parts digest reference copied) (hdigest : digest = some d) :
    (∃ own, w'.tag? cluster ns parts.stream parts.tag = some own ∧ own.image.digest = some d) ↔
      cluster ∈ copied ∨
        ∃ own, w.tag? cluster ns parts.stream parts.tag = some own ∧ own.image.digest = some d := by
  by_cases hcopied : cluster ∈ copied
  · obtain ⟨time, hcopy⟩ := h.exists_tag? hcopied
    exact iff_of_true ⟨_, hcopy, hdigest⟩ (Or.inl hcopied)
  · rw [h.tag?_eq hcopied]
    exact (or_iff_right hcopied).symm

end Copied

/-! ## Passes -/

/-- What a pass comes to: without a reference of the source it succeeds only if there is nothing
to do; with one it copies in order to a part of its targets, among them all healthy ones, and
succeeds exactly if it copies to all of them. -/
structure PassEffect (digest : Option String) (flaky : String → Prop) (w : World) (ns : String)
    (parts : TagName) (source : Source) (targets : List String) (outcome : Except SyncError Unit)
    (w' : World) : Prop where
  extends_ : World.Extends w w'
  unreferenced : ∀ e, source.reference parts.tag = .error e → (outcome = .ok () ↔ targets = []) ∧
    w'.shelf ns parts.stream parts.tag = w.shelf ns parts.stream parts.tag
  referenced : ∀ reference, source.reference parts.tag = .ok reference →
    ∃ copied, copied.Sublist targets ∧ (∀ c ∈ targets, ¬ flaky c → c ∈ copied) ∧
      (outcome = .ok () ↔ copied = targets) ∧ w.Copied w' ns parts digest reference copied

/-- A pass over a world whose source is healthy. -/
theorem ensures_syncTag {fleet : Fleet} {ns name : String} {parts : TagName} {source : Source}
    (sound : w.Sound) (live : w.Live) (sendable : (Call.getTag ns name).Sendable)
    (hparts : TagName.parse? name = some parts)
    (hsource : w.source? fleet ns name = some source) (healthy : ¬ flaky source.cluster) :
    Job.Ensures (Serves digest flaky) (syncTag fleet ns name) w
      (PassEffect digest flaky w ns parts source (w.targets fleet ns name)) := by
  obtain ⟨hnewest, stored, hstored, hstream⟩ := (World.source?_eq_some_iff hparts).mp hsource
  obtain ⟨cluster, tag, stream⟩ := source
  dsimp only at hnewest hstored hstream healthy
  subst hstream
  have named := sound hstored
  simp only [syncTag, hparts]
  refine Job.Ensures.bind ((ensures_observe sendable fleet.names).mono ?_)
  rintro outcome w₁ ⟨rfl, rfl⟩
  refine ⟨_, rfl, ?_⟩
  simp only [hnewest]
  refine Job.Ensures.bind (Job.Ensures.require healthy
    (Call.Concerns.getStream.sendable named.properNamespace named.properName) ?_)
  simp only [World.serve, hstored]
  refine ⟨stored.stream, rfl, ?_⟩
  simp only [live hstored]
  refine Job.Ensures.bind ((ensures_hold sound live healthy hstored).mono ?_)
  rintro outcome w₂ ⟨rfl, hext, hkept⟩
  refine ⟨(), rfl, ?_⟩
  intro exchanges outcome w' hrun hleads
  obtain ⟨errors, copies, last, hcopies, hlast, rfl⟩ := Job.run_lift_bind_iff.mp hrun
  obtain ⟨rfl, rfl⟩ := Plan.run_done_iff.mp hlast
  rw [List.append_nil] at hleads
  -- Holding the source changes no tag, so the copies are put on the shelf that was read.
  have hshelf := hkept.shelf_eq ns parts.stream parts.tag
  rw [World.targets_eq hsource]
  cases href : Source.reference ⟨cluster, tag, stored.stream⟩ parts.tag with
  | error e =>
      obtain ⟨made, hmade, rfl, rfl⟩ := run_copyToAll_iff.mp hcopies
      obtain ⟨hnone, hall⟩ := hmade.unreferenced href
      obtain rfl := leads_nil_iff.mp (hnone ▸ hleads)
      refine ⟨hext, fun e' he' => ⟨?_, hshelf⟩, fun reference h => ?_⟩
      · refine SyncError.collect_eq_ok_iff.trans ?_
        rw [hall, List.replicate_eq_nil_iff]
        exact List.length_eq_zero_iff
      · cases h.symm.trans href
  | ok reference =>
      obtain ⟨hext', copied, hsub, hhealthy, hok, hput⟩ :=
        copyToAll_effect (hext.live live) named.isProper href hcopies hleads
      simp only [named.namespaceName_eq, named.anyName_eq, hshelf] at hput
      refine ⟨hext.trans hext', fun e h => ?_, fun reference' h => ?_⟩
      · cases h.symm.trans href
      · obtain rfl := Except.ok.inj (href.symm.trans h)
        exact ⟨copied, hsub, hhealthy, SyncError.collect_eq_ok_iff.trans hok, hput⟩

/-- After a pass that succeeds, a target has the image. -/
theorem PassEffect.exists_tag? {ns : String} {parts : TagName} {source : Source}
    {targets : List String} {w' : World}
    (h : PassEffect digest flaky w ns parts source targets (.ok ()) w') {cluster : String}
    (hc : cluster ∈ targets) : ∃ own, w'.tag? cluster ns parts.stream parts.tag = some own ∧
      own.image.digest = digest := by
  cases href : source.reference parts.tag with
  | error e =>
      rw [(h.unreferenced e href).1.mp rfl] at hc
      cases hc
  | ok reference =>
      obtain ⟨copied, -, -, hok, hcopied⟩ := h.referenced reference href
      obtain ⟨time, htag⟩ := hcopied.exists_tag? (hok.mp rfl ▸ hc)
      exact ⟨_, htag, rfl⟩

theorem PassEffect.tag?_eq {ns : String} {parts : TagName} {source : Source}
    {targets : List String} {outcome : Except SyncError Unit} {w' : World}
    (h : PassEffect digest flaky w ns parts source targets outcome w') {cluster : String}
    (hc : cluster ∉ targets) :
    w'.tag? cluster ns parts.stream parts.tag = w.tag? cluster ns parts.stream parts.tag := by
  cases href : source.reference parts.tag with
  | error e => exact congrFun (congrArg Shelf.tag? (h.unreferenced e href).2) cluster
  | ok reference =>
      obtain ⟨copied, hsub, -, -, hcopied⟩ := h.referenced reference href
      exact hcopied.tag?_eq fun hmem => hc (hsub.subset hmem)

/-- A pass without faults succeeds exactly if its source has a reference or nothing is to do. -/
theorem PassEffect.eq_ok_iff {ns : String} {parts : TagName} {source : Source}
    {targets : List String} {outcome : Except SyncError Unit} {w' : World} (nodup : targets.Nodup)
    (h : PassEffect digest (fun _ => False) w ns parts source targets outcome w') :
    outcome = .ok () ↔
      (∃ reference, source.reference parts.tag = .ok reference) ∨ targets = [] := by
  cases href : source.reference parts.tag with
  | error e =>
      rw [(h.unreferenced e href).1]
      simp
  | ok reference =>
      obtain ⟨copied, hsub, hall, hok, -⟩ := h.referenced reference href
      have hevery : targets ⊆ copied := fun c hc => hall c hc id
      have hcopied : copied = targets := hsub.eq_of_length_le (nodup.subperm hevery).length_le
      rw [hok]
      simp [hcopied]

end

/-! ## Passes with given servers -/

namespace World

def digest? (w : World) (fleet : Fleet) (ns name : String) : Option String :=
  (w.source? fleet ns name).bind fun source => source.tag.image.digest

theorem digest?_eq {w : World} {fleet : Fleet} {ns name : String} {source : Source}
    (hsource : w.source? fleet ns name = some source) :
    w.digest? fleet ns name = source.tag.image.digest := by
  rw [digest?, hsource, Option.bind_some]

/-- A pass with healthy clusters: its outcome, and the world afterwards. -/
def pass (w : World) (fleet : Fleet) (ns name : String) : Except SyncError Unit × World :=
  (syncTag fleet ns name).run.play (serve (w.digest? fleet ns name)) w

/-- How clusters serve of which one may refuse calls that read no tag. It counts these calls, and
`fault` says which of them it refuses, and why. -/
def serveWithFaults (digest : Option String) (target : String) (fault : Nat → Option CallError)
    (s : World × Nat) (cluster : String) (call : Call) : call.Reply × (World × Nat) :=
  let answer := s.1.serve digest cluster call
  if cluster = target ∧ call.readsTag = false then
    match fault s.2 with
    | some cause => (.error cause, s.1, s.2 + 1)
    | none => (answer.1, answer.2, s.2 + 1)
  else (answer.1, answer.2, s.2)

/-- A pass in which one cluster may refuse calls. -/
def passWithFaults (w : World) (fleet : Fleet) (ns name target : String)
    (fault : Nat → Option CallError) : Except SyncError Unit × World :=
  let played := (syncTag fleet ns name).run.play
    (serveWithFaults (w.digest? fleet ns name) target fault) (w, 0)
  (played.1, played.2.1)

theorem ensures_pass {w : World} {fleet : Fleet} {ns name : String}
    {Q : Except SyncError Unit → World → Prop}
    (h : Job.Ensures (Serves (w.digest? fleet ns name) fun _ => False) (syncTag fleet ns name) w
      Q) :
    Q (w.pass fleet ns name).1 (w.pass fleet ns name).2 := by
  have hstep : ∀ (t : World) (cluster : String) (call : Call),
      Serves (w.digest? fleet ns name) (fun _ => False) t
        ⟨cluster, call, (t.serve (w.digest? fleet ns name) cluster call).1⟩
        (t.serve (w.digest? fleet ns name) cluster call).2 := fun _ _ _ => Or.inl rfl
  exact h (Plan.run_play _ _ w) (leads_play id hstep _ w)

/-- With faults on one cluster, every step is a serving as well. -/
theorem ensures_passWithFaults {w : World} {fleet : Fleet} {ns name target : String}
    {fault : Nat → Option CallError} {Q : Except SyncError Unit → World → Prop}
    (h : Job.Ensures (Serves (w.digest? fleet ns name) (· = target)) (syncTag fleet ns name) w Q) :
    Q (w.passWithFaults fleet ns name target fault).1
      (w.passWithFaults fleet ns name target fault).2 := by
  -- A faulty answer refuses the call and leaves the world as it is.
  have hstep : ∀ (t : World × Nat) (cluster : String) (call : Call),
      let answer := serveWithFaults (w.digest? fleet ns name) target fault t cluster call
      Serves (w.digest? fleet ns name) (· = target) t.1 ⟨cluster, call, answer.1⟩ answer.2.1 := by
    intro t cluster call
    dsimp only
    rw [serveWithFaults]
    split
    · next hfaulty =>
      split
      · next cause _ => exact Or.inr ⟨hfaulty.1, hfaulty.2, ⟨cause, rfl⟩, rfl⟩
      · exact Or.inl rfl
    · exact Or.inl rfl
  exact h (Plan.run_play _ _ (w, 0)) (leads_play Prod.fst hstep _ (w, 0))

section

variable {w : World} {fleet : Fleet} {ns name : String} {parts : TagName}

theorem sendable_of_pass (hparts : TagName.parse? name = some parts)
    (asked : fleet.names ≠ []) (ok : (w.pass fleet ns name).1 = .ok ()) :
    (Call.getTag ns name).Sendable := by
  have run : (syncTag fleet ns name).Run _ (w.pass fleet ns name).1 := Plan.run_play _ _ w
  rw [ok] at run
  simp only [syncTag, hparts] at run
  rcases Job.run_bind_iff.mp run with ⟨observations, reads, rest, hreads, -, -⟩ | ⟨e, -, h⟩
  · exact sendable_of_observe asked hreads
  · cases h

theorem pass_effect {source : Source} (sound : w.Sound) (live : w.Live)
    (sendable : (Call.getTag ns name).Sendable) (hparts : TagName.parse? name = some parts)
    (hsource : w.source? fleet ns name = some source) :
    PassEffect source.tag.image.digest (fun _ => False) w ns parts source
      (w.targets fleet ns name) (w.pass fleet ns name).1 (w.pass fleet ns name).2 := by
  rw [← digest?_eq hsource]
  exact ensures_pass (ensures_syncTag sound live sendable hparts hsource id)

theorem passWithFaults_effect {source : Source} {target : String}
    {fault : Nat → Option CallError} (sound : w.Sound) (live : w.Live)
    (sendable : (Call.getTag ns name).Sendable) (hparts : TagName.parse? name = some parts)
    (hsource : w.source? fleet ns name = some source) (hne : source.cluster ≠ target) :
    PassEffect source.tag.image.digest (· = target) w ns parts source (w.targets fleet ns name)
      (w.passWithFaults fleet ns name target fault).1
      (w.passWithFaults fleet ns name target fault).2 := by
  rw [← digest?_eq hsource]
  exact ensures_passWithFaults (ensures_syncTag sound live sendable hparts hsource hne)

end

end World

end TagSync
