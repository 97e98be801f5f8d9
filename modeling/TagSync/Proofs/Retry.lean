import TagSync.Proofs.Deletion
import TagSync.Proofs.Rounds
import TagSync.Proofs.Synced

/-!
# Repeating a failed pass

A pass in which one cluster refuses calls leaves the other targets with copies, and the newest
one of these is the source when the pass is repeated. The repeated pass succeeds exactly if the
registry of that source is known or nothing is left to copy (`retry_succeeds_iff`); a cluster
whose registry is not known can stand in its way (`retry_fails_behind_unknown_registry`).
-/

set_option autoImplicit false

namespace TagSync

open Api
open Plan (Exchange)

/-! ## Sources that are copies -/

/-- A reference is at the public registry of a cluster. -/
def IsPublicOn (cluster reference : String) : Prop :=
  ∃ hosts, RegistryHosts.of? cluster = some hosts ∧ IsAt hosts.outer reference

theorem comesFrom_copyTag_iff {digest : Option String} {tag reference cluster : String}
    {time : Instant} : (World.copyTag digest tag reference time).comesFrom cluster = true ↔
      IsPublicOn cluster reference := by
  have hfrom : (World.copyTag digest tag reference time).importedFrom = some reference := rfl
  rw [ImageStreamTag.comesFrom_iff]
  constructor
  · rintro ⟨hosts, own, hhosts, hown, hat⟩
    obtain rfl := Option.some.inj (hfrom.symm.trans hown)
    exact ⟨hosts, hhosts, hat⟩
  · rintro ⟨hosts, hhosts, hat⟩
    exact ⟨hosts, reference, hhosts, hfrom, hat⟩

theorem exists_reference_copyTag_iff {digest : Option String} {tag reference cluster : String}
    {time : Instant} {stream : ImageStream} :
    (∃ r, Source.reference ⟨cluster, World.copyTag digest tag reference time, stream⟩ tag = .ok r) ↔
      (RegistryHosts.of? cluster).isSome = true := by
  simp only [Source.reference_eq_ok_iff, Option.isSome_iff_exists]
  constructor
  · rintro ⟨r, hosts, own, hhosts, -, -⟩
    exact ⟨hosts, hhosts⟩
  · rintro ⟨hosts, hhosts⟩
    exact ⟨_, hosts, reference, hhosts, rfl, rfl⟩

/-! ## What one pass leaves to the next -/

section

variable {w w' : World} {fleet : Fleet} {ns name : String} {parts : TagName}

/-- The clusters that are copied to in a pass in which one target may fail: all of the targets,
or all other ones. -/
def copiedTargets (targets : List String) (target : String) : Except SyncError Unit → List String
  | .ok () => targets
  | .error _ => targets.filter (· != target)

theorem mem_of_mem_copiedTargets {targets : List String} {target cluster : String}
    {outcome : Except SyncError Unit} (h : cluster ∈ copiedTargets targets target outcome) :
    cluster ∈ targets := by
  cases outcome with
  | ok => exact h
  | error e => exact List.mem_of_mem_filter h

/-- What such a pass copies. -/
theorem PassEffect.copied {digest : Option String} {source : Source} {targets : List String}
    {target reference : String} {outcome : Except SyncError Unit}
    (h : PassEffect digest (· = target) w ns parts source targets outcome w')
    (nodup : targets.Nodup) (href : source.reference parts.tag = .ok reference) :
    w.Copied w' ns parts digest reference (copiedTargets targets target outcome) := by
  obtain ⟨copied, hsub, hall, hok, hcopied⟩ := h.referenced reference href
  suffices hpart : copied = copiedTargets targets target outcome from hpart ▸ hcopied
  cases outcome with
  | ok => exact hok.mp rfl
  | error e =>
      -- If the faulty cluster had got its copy, all would have, and the pass would have succeeded.
      have hmissing : target ∉ copied := by
        intro hmem
        have hevery : targets ⊆ copied := by
          intro c hc
          by_cases hct : c = target
          · exact hct ▸ hmem
          · exact hall c hc hct
        cases hok.mpr (hsub.eq_of_length_le (nodup.subperm hevery).length_le)
      refine eq_filter_of_sublist hsub nodup fun c hc => ?_
      rw [bne_iff_ne]
      constructor
      · rintro hmem rfl
        exact hmissing hmem
      · exact hall c hc

/-! ## The pass after one that copied nothing -/

theorem World.unchanged_source {source : Source} (hparts : TagName.parse? name = some parts)
    (hsource : w.source? fleet ns name = some source)
    (hshelf : w'.shelf ns parts.stream parts.tag = w.shelf ns parts.stream parts.tag) :
    (∃ stream, w'.source? fleet ns name = some ⟨source.cluster, source.tag, stream⟩) ∧
      ∀ cluster, cluster ∈ w'.targets fleet ns name ↔ cluster ∈ w.targets fleet ns name := by
  have hnewest := ((World.source?_eq_some_iff hparts).mp hsource).1
  rw [World.observations_eq hparts, ← hshelf] at hnewest
  obtain ⟨stream, hsource'⟩ := World.exists_source_of_newest hparts hnewest
  refine ⟨⟨stream, hsource'⟩, fun cluster => ?_⟩
  have htag : w'.tag? cluster ns parts.stream parts.tag = w.tag? cluster ns parts.stream parts.tag :=
    congrFun (congrArg Shelf.tag? hshelf) cluster
  rw [World.mem_targets_iff hparts hsource', World.mem_targets_iff hparts hsource, htag]

/-! ## The pass after copies -/

variable {digest : Option String} {reference last : String} {copied : List String}

/-- Every other cluster than the one that was copied to last has the image, or it is from the
registry of that cluster that the copies came. -/
def World.NothingLeft (w : World) (fleet : Fleet) (ns : String) (parts : TagName)
    (digest : Option String) (reference : String) (copied : List String) (last : String) : Prop :=
  ∀ cluster ∈ fleet.names, cluster ≠ last → IsPublicOn cluster reference ∨
    ∃ d, digest = some d ∧ (cluster ∈ copied ∨
      ∃ own, w.tag? cluster ns parts.stream parts.tag = some own ∧ own.image.digest = some d)

/-- After copies the source is the last one. -/
theorem World.Copied.source? (h : w.Copied w' ns parts digest reference copied)
    (hparts : TagName.parse? name = some parts)
    (timely : (w.shelf ns parts.stream parts.tag).Timely)
    (hlast : copied.getLast? = some last) (hmem : last ∈ fleet.names) :
    ∃ time stream,
      w'.source? fleet ns name =
        some ⟨last, World.copyTag digest parts.tag reference time, stream⟩ ∧
      w'.tag? last ns parts.stream parts.tag =
        some (World.copyTag digest parts.tag reference time) := by
  have hshelf : w'.shelf ns parts.stream parts.tag = (w.shelf ns parts.stream parts.tag).putAll
      (World.copyTag digest parts.tag reference) copied := h
  have hmake : ∀ time, (World.copyTag digest parts.tag reference time).image.created =
      some time := fun _ => rfl
  obtain ⟨time, htag, hnewest⟩ := Shelf.newest?_putAll timely hmake hlast hmem
  rw [← hshelf] at htag hnewest
  obtain ⟨stream, hsource⟩ := World.exists_source_of_newest hparts hnewest
  exact ⟨time, stream, hsource, htag⟩

/-- After copies the targets are the clusters without the image from whose registry it did not
come. -/
theorem World.Copied.mem_targets_iff {cluster : String} {time : Instant} {stream : ImageStream}
    (h : w.Copied w' ns parts digest reference copied) (hparts : TagName.parse? name = some parts)
    (hsource : w'.source? fleet ns name =
      some ⟨last, World.copyTag digest parts.tag reference time, stream⟩) :
    cluster ∈ w'.targets fleet ns name ↔ cluster ∈ fleet.names ∧ cluster ≠ last ∧
      ¬ IsPublicOn cluster reference ∧ ¬ ∃ d, digest = some d ∧ (cluster ∈ copied ∨
        ∃ own, w.tag? cluster ns parts.stream parts.tag = some own ∧
          own.image.digest = some d) := by
  -- A cluster carries the image if it got a copy or had the image before.
  have hsame : (∃ own d, w'.tag? cluster ns parts.stream parts.tag = some own ∧
      own.image.digest = some d ∧
      (World.copyTag digest parts.tag reference time).image.digest = some d) ↔
      ∃ d, digest = some d ∧ (cluster ∈ copied ∨
        ∃ own, w.tag? cluster ns parts.stream parts.tag = some own ∧
          own.image.digest = some d) := by
    constructor
    · rintro ⟨own, d, hown, hhas, hdigest⟩
      exact ⟨d, hdigest, (h.has_digest_iff hdigest).mp ⟨own, hown, hhas⟩⟩
    · rintro ⟨d, hdigest, hhad⟩
      obtain ⟨own, hown, hhas⟩ := (h.has_digest_iff hdigest).mpr hhad
      exact ⟨own, d, hown, hhas, hdigest⟩
  rw [World.mem_targets_iff hparts hsource, comesFrom_copyTag_iff, hsame]

/-- After copies there are no targets exactly if nothing is left. -/
theorem World.Copied.targets_eq_nil_iff {time : Instant} {stream : ImageStream}
    (h : w.Copied w' ns parts digest reference copied) (hparts : TagName.parse? name = some parts)
    (hsource : w'.source? fleet ns name =
      some ⟨last, World.copyTag digest parts.tag reference time, stream⟩) :
    w'.targets fleet ns name = [] ↔ w.NothingLeft fleet ns parts digest reference copied last := by
  rw [List.eq_nil_iff_forall_not_mem]
  refine forall_congr' fun cluster => ?_
  rw [h.mem_targets_iff hparts hsource]
  constructor
  · intro hspared hc hne
    by_contra hleft
    exact hspared ⟨hc, hne, not_or.mp hleft⟩
  · rintro hnothing ⟨hc, hne, hpublic, hhas⟩
    exact (hnothing hc hne).elim hpublic hhas

/-! ## The repeated pass -/

/-- A pass after one that changed no tag succeeds, and then its targets have the image. -/
theorem World.pass_after_nothing {source : Source} {target : String} (sound : w'.Sound)
    (live : w'.Live) (sendable : (Call.getTag ns name).Sendable)
    (hparts : TagName.parse? name = some parts)
    (hsource : w.source? fleet ns name = some source)
    (href : source.reference parts.tag = .ok reference)
    (hshelf : w'.shelf ns parts.stream parts.tag = w.shelf ns parts.stream parts.tag)
    (htarget : target ∈ w.targets fleet ns name) :
    (w'.pass fleet ns name).1 = .ok () ∧
      ∃ own, (w'.pass fleet ns name).2.tag? target ns parts.stream parts.tag = some own ∧
        own.image.digest = source.tag.image.digest := by
  obtain ⟨⟨stream, hsource'⟩, htargets⟩ := World.unchanged_source hparts hsource hshelf
  have heffect := World.pass_effect sound live sendable hparts hsource'
  -- The reference does not depend on the stream, which may have changed.
  have href' : Source.reference ⟨source.cluster, source.tag, stream⟩ parts.tag = .ok reference := by
    rw [Source.reference_eq_ok_iff] at href ⊢
    exact href
  have hok : (w'.pass fleet ns name).1 = .ok () :=
    (heffect.eq_ok_iff (World.nodup_targets w' fleet ns name)).mpr (Or.inl ⟨reference, href'⟩)
  rw [hok] at heffect
  exact ⟨hok, heffect.exists_tag? ((htargets target).mpr htarget)⟩

/-- A pass after copies succeeds exactly if the registry of the last copy is known or nothing is
left. Then every cluster has the image, but for those from whose registry the copies came. -/
theorem World.Copied.pass {target : String} (h : w.Copied w' ns parts digest reference copied)
    (sound : w'.Sound) (live : w'.Live) (sendable : (Call.getTag ns name).Sendable)
    (hparts : TagName.parse? name = some parts)
    (timely : (w.shelf ns parts.stream parts.tag).Timely)
    (hlast : copied.getLast? = some last) (hmem : last ∈ fleet.names)
    (htarget : target ∈ fleet.names) :
    ((w'.pass fleet ns name).1 = .ok () ↔ (RegistryHosts.of? last).isSome = true ∨
      w.NothingLeft fleet ns parts digest reference copied last) ∧
    ((w'.pass fleet ns name).1 = .ok () → IsPublicOn target reference ∨
      ∃ own, (w'.pass fleet ns name).2.tag? target ns parts.stream parts.tag = some own ∧
        own.image.digest = digest) := by
  obtain ⟨time, stream, hsource, hcopy⟩ := h.source? hparts timely hlast hmem
  have heffect := World.pass_effect sound live sendable hparts hsource
  refine ⟨?_, fun hok => ?_⟩
  · rw [heffect.eq_ok_iff (World.nodup_targets w' fleet ns name), exists_reference_copyTag_iff,
      h.targets_eq_nil_iff hparts hsource]
  · rw [hok] at heffect
    -- A cluster that this pass spares is the source, or it has the image from the first pass or
    -- from before, or the source came from its registry.
    by_cases hneeded : target ∈ w'.targets fleet ns name
    · exact Or.inr (heffect.exists_tag? hneeded)
    · rw [heffect.tag?_eq hneeded]
      rw [h.mem_targets_iff hparts hsource] at hneeded
      by_cases hne : target = last
      · subst hne
        exact Or.inr ⟨_, hcopy, rfl⟩
      by_cases hpublic : IsPublicOn target reference
      · exact Or.inl hpublic
      by_contra hmissing
      refine hneeded ⟨htarget, hne, hpublic, ?_⟩
      rintro ⟨d, hdigest, hhad⟩
      obtain ⟨own, hown, hhas⟩ := (h.has_digest_iff hdigest).mpr hhad
      exact hmissing (Or.inr ⟨own, hown, hhas.trans hdigest.symm⟩)

end

/-- No image of a world is as new as those to come, and these come one after the other. -/
def World.Timely (w : World) : Prop :=
  ∀ ns stream tag : String, (w.shelf ns stream tag).Timely

/-- **A failed pass and its repetition.** Where a pass succeeds with healthy clusters, let a target
refuse any of its calls instead, and repeat the pass with healthy clusters. The repetition succeeds
exactly if nothing was copied, the registry of the cluster that was copied to last is known, or
nothing is left to copy from there; then the target has the image, unless the copies came from
its own registry. -/
theorem retry_succeeds_iff {w : World} {fleet : Fleet} {ns name target : String} (sound : w.Sound)
    (live : w.Live) (timely : w.Timely) (ok : (w.pass fleet ns name).1 = .ok ())
    (htarget : target ∈ w.targets fleet ns name) (fault : Nat → Option CallError) :
    ∃ parts source reference, TagName.parse? name = some parts ∧
      w.source? fleet ns name = some source ∧ source.reference parts.tag = .ok reference ∧
      let first := w.passWithFaults fleet ns name target fault
      let second := first.2.pass fleet ns name
      let copied := copiedTargets (w.targets fleet ns name) target first.1
      (second.1 = .ok () ↔ ∀ last, copied.getLast? = some last →
        (RegistryHosts.of? last).isSome = true ∨
          w.NothingLeft fleet ns parts source.tag.image.digest reference copied last) ∧
      (second.1 = .ok () → IsPublicOn target reference ∨
        ∃ own, second.2.tag? target ns parts.stream parts.tag = some own ∧
          own.image.digest = source.tag.image.digest) := by
  obtain ⟨parts, source, hparts, hsource⟩ := World.exists_source_of_mem_targets htarget
  obtain ⟨hc, hne, -, -⟩ := (World.mem_targets_iff hparts hsource).mp htarget
  have sendable := World.sendable_of_pass hparts (List.ne_nil_of_mem hc) ok
  have hnodup := World.nodup_targets w fleet ns name
  -- The healthy pass has something to copy, so its source has a reference.
  have hhealthy := World.pass_effect sound live sendable hparts hsource
  obtain ⟨reference, href⟩ : ∃ reference, source.reference parts.tag = .ok reference := by
    rcases (hhealthy.eq_ok_iff hnodup).mp ok with href | hnone
    · exact href
    · exact absurd htarget (hnone ▸ List.not_mem_nil)
  refine ⟨parts, source, reference, hparts, hsource, href, ?_⟩
  intro first second copied
  have hfirst : PassEffect source.tag.image.digest (· = target) w ns parts source
      (w.targets fleet ns name) first.1 first.2 :=
    World.passWithFaults_effect sound live sendable hparts hsource hne.symm
  have hsound := hfirst.extends_.sound sound
  have hlive := hfirst.extends_.live live
  have hcopied := hfirst.copied hnodup href
  have hmem : ∀ cluster ∈ copied, cluster ∈ fleet.names := fun cluster h =>
    ((World.mem_targets_iff hparts hsource).mp (mem_of_mem_copiedTargets h)).1
  cases hlast : copied.getLast? with
  | none =>
      have hnothing : copied = [] := List.getLast?_eq_none_iff.mp hlast
      have hsame : first.2.shelf ns parts.stream parts.tag = w.shelf ns parts.stream parts.tag :=
        Eq.trans hcopied (congrArg (Shelf.putAll _ _) hnothing)
      obtain ⟨hok, hhas⟩ := World.pass_after_nothing hsound hlive sendable hparts hsource href
        hsame htarget
      exact ⟨iff_of_true hok nofun, fun _ => Or.inr hhas⟩
  | some last =>
      have hlastMem := hmem last (List.mem_of_getLast? hlast)
      obtain ⟨hiff, hhas⟩ := hcopied.pass hsound hlive sendable hparts
        (timely ns parts.stream parts.tag) hlast hlastMem hc
      refine ⟨hiff.trans ⟨?_, fun h => h last rfl⟩, hhas⟩
      rintro h _ ⟨⟩
      exact h

/-! ### A world with one holder -/

/-- A tag whose image was built on `app.ci`. -/
def builtTag : ImageStreamTag where
  image := {
    metadata := { name := some "sha256:1", creationTimestamp := some (.ofEpoch 60 0) }
    dockerImageReference := some "image-registry.openshift-image-registry.svc:5000/ci/app" }

def builtStream : StoredStream where
  stream := heldStream
  tags := fun tag => if tag = "latest" then some builtTag else none

/-- A world in which only `app.ci` has anything, with an image each year from 2026. -/
def oneHolder : World where
  stores := fun c =>
    if c = "app.ci" then
      { streams := fun ns name => if ns = "ci" ∧ name = "app" then some builtStream else none }
    else {}
  times := fun n => ⟨⟨2026 + n, 1, 1⟩, 0, 0⟩
  versions := fun n => toString n

def firstFault : Nat → Option CallError
  | 0 => some (refusal "InternalError" 500)
  | _ => none

theorem stream?_oneHolder {cluster ns name : String} {stored : StoredStream}
    (h : oneHolder.stream? cluster ns name = some stored) :
    ns = "ci" ∧ name = "app" ∧ stored = builtStream := by
  by_cases hc : cluster = "app.ci"
  · simp only [World.stream?, oneHolder, if_pos hc] at h
    split at h
    · next hname => exact ⟨hname.1, hname.2, (Option.some.inj h).symm⟩
    · cases h
  · simp only [World.stream?, oneHolder, if_neg hc] at h
    cases h

theorem sound_oneHolder : oneHolder.Sound := by
  intro cluster ns name stored h
  obtain ⟨rfl, rfl, rfl⟩ := stream?_oneHolder h
  exact ⟨by decide, by decide, rfl, rfl⟩

theorem live_oneHolder : oneHolder.Live := by
  intro cluster ns name stored h
  obtain ⟨-, -, rfl⟩ := stream?_oneHolder h
  rfl

theorem timely_oneHolder : oneHolder.Timely := by
  refine fun ns stream tag => ⟨fun n => ?_, fun cluster built h => ?_⟩
  · show ((oneHolder.times n).tick : WithBot ℤ) < (oneHolder.times (n + 1)).tick
    rw [WithBot.coe_lt_coe]
    simp only [oneHolder, Instant.tick, Day.ordinal]
    omega
  · obtain ⟨stored, hstored, htag⟩ := Option.bind_eq_some_iff.mp h
    obtain ⟨-, -, rfl⟩ := stream?_oneHolder hstored
    simp only [builtStream] at htag
    split at htag
    · obtain rfl := Option.some.inj htag
      have hlater : isLater (some (oneHolder.times 0)) builtTag.image.created = true := by decide
      exact isLater_iff.mp hlater
    · cases htag

/-- Where `build01` failed, the copy on `api.ci` is the source of the second pass. -/
theorem retry_succeeds_from_known_registry :
    oneHolder.Sound ∧ oneHolder.Live ∧ oneHolder.Timely ∧
      (oneHolder.pass threeClusters "ci" "app:latest").1 = .ok () ∧
      "build01" ∈ oneHolder.targets threeClusters "ci" "app:latest" ∧
      let first := oneHolder.passWithFaults threeClusters "ci" "app:latest" "build01" firstFault
      let second := first.2.pass threeClusters "ci" "app:latest"
      first.1 ≠ .ok () ∧ second.1 = .ok () ∧
        ∃ own, second.2.tag? "build01" "ci" "app" "latest" = some own ∧
          own.image.digest = some "sha256:1" := by
  have ok : (oneHolder.pass threeClusters "ci" "app:latest").1 = .ok () := rfl
  have htarget : "build01" ∈ oneHolder.targets threeClusters "ci" "app:latest" :=
    List.mem_cons_of_mem "api.ci" List.mem_cons_self
  obtain ⟨parts, source, reference, hparts, hsource, -, hiff, hhas⟩ := retry_succeeds_iff
    sound_oneHolder live_oneHolder timely_oneHolder ok htarget firstFault
  obtain rfl : parts = ⟨"app", "latest"⟩ := Option.some.inj (hparts.symm.trans rfl)
  obtain rfl : source = ⟨"app.ci", builtTag, heldStream⟩ :=
    Option.some.inj (hsource.symm.trans rfl)
  -- The last target is `api.ci`, whose registry is known.
  have hok := hiff.mpr fun last hlast => by
    obtain rfl : last = "api.ci" := Option.some.inj (hlast.symm.trans rfl)
    exact Or.inl rfl
  refine ⟨sound_oneHolder, live_oneHolder, timely_oneHolder, ok, htarget, nofun, hok, ?_⟩
  rcases hhas hok with ⟨hosts, hhosts, -⟩ | hown
  · cases hhosts
  · exact hown

/-- Where `api.ci` failed, the copy on `build01` is the newest one, and there is no host name by
which to pull it from there. -/
theorem retry_fails_behind_unknown_registry :
    oneHolder.Sound ∧ oneHolder.Live ∧ oneHolder.Timely ∧
      (oneHolder.pass threeClusters "ci" "app:latest").1 = .ok () ∧
      "api.ci" ∈ oneHolder.targets threeClusters "ci" "app:latest" ∧
      let first := oneHolder.passWithFaults threeClusters "ci" "app:latest" "api.ci" firstFault
      let second := first.2.pass threeClusters "ci" "app:latest"
      second.1 = .error (.unknownCluster "build01") ∧
        second.2.tag? "api.ci" "ci" "app" "latest" = none :=
  ⟨sound_oneHolder, live_oneHolder, timely_oneHolder, rfl, List.mem_cons_self, rfl, rfl⟩

end TagSync
