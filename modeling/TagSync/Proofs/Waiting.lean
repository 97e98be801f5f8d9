import Mathlib.Data.List.Iterate
import TagSync.Proofs.Discovery
import TagSync.Proofs.Isolation

/-!
# Waiting for the image API

Waiting is one check after the other, with a pause after each that does not pass (`Waits.of_run`).
A check passes if the image streams are among the types of the version that the image group
recommends. Where that is the first version, the wait ends with the first check of a server that
serves image streams in this version (`ready_at_first_pass`); a server that serves them but
recommends another version is waited for in vain (`newer_version_is_waited_for_in_vain`).
-/

set_option autoImplicit false

namespace TagSync

open Api
open Plan (Exchange)

/-! ## Checks and pauses -/

/-- What is logged about a discovery, with the pause that follows. -/
def noteOf (outcome : Except CallError (Option FoundGroup)) (pause : Nat) : ReadinessNote :=
  match verdict outcome with
  | .ok true => .available
  | .ok false => .waiting pause
  | .error cause => .failed cause pause

theorem awaitImageApi_succ (cluster : String) (bound pause : Nat) :
    awaitImageApi cluster (bound + 1) pause = discover cluster >>= fun outcome =>
      if verdict outcome = .ok true then pure ⟨true, 0, [.available]⟩
      else awaitImageApi cluster bound (nextPause pause) >>= fun later =>
        pure (later.behind (noteOf outcome pause) pause) := by
  rw [awaitImageApi, imageApiServed_eq, bind_assoc]
  congr 1
  funext outcome
  rw [pure_bind, noteOf]
  cases verdict outcome with
  | error cause => rfl
  | ok passed => cases passed <;> rfl

/-- A check: its exchanges, and what its discovery comes to. -/
structure Check where
  exchanges : List Exchange
  /-- The image group, if one is found, or why there is no answer. -/
  outcome : Except CallError (Option FoundGroup)

namespace Check

/-- The discovery succeeds, and the image group recommends a version that has image streams. -/
def Passes (check : Check) : Prop :=
  ∃ found version types, check.outcome = .ok (some found) ∧ found.Recommends version types ∧
    ("ImageStream", "v1") ∈ types.served

/-- What is logged about the check; a pause follows unless it passes. -/
def note (check : Check) (pause : Nat) : ReadinessNote := noteOf check.outcome pause

theorem passes_iff {check : Check} : check.Passes ↔ verdict check.outcome = .ok true := by
  unfold Passes verdict
  cases check.outcome with
  | error cause => exact iff_of_false (by simp) nofun
  | ok found =>
      -- Without the group there is nothing to recommend.
      cases found with
      | none => exact iff_of_false (by simp) nofun
      | some found =>
          constructor
          · rintro ⟨other, version, types, heq, hrecommended, hserved⟩
            obtain rfl : found = other := Option.some.inj (Except.ok.inj heq)
            have hshows := FoundGroup.showsImageStreams_iff.mpr
              ⟨version, types, hrecommended, hserved⟩
            exact congrArg Except.ok hshows
          · intro h
            obtain ⟨version, types, hrecommended, hserved⟩ :=
              FoundGroup.showsImageStreams_iff.mp (Except.ok.inj h)
            exact ⟨found, version, types, rfl, hrecommended, hserved⟩

/-- Where the group recommends the first version, the check passes exactly if image streams are
served in this version. -/
theorem passes_iff_serves {check : Check} {found : FoundGroup} {types : ResourceList}
    (hfound : check.outcome = .ok (some found)) (h : found.Recommends "v1" types) :
    check.Passes ↔ found.Serves "v1" "ImageStream" := by
  rw [passes_iff, hfound, ← FoundGroup.showsImageStreams_iff_serves h]
  exact ⟨Except.ok.inj, congrArg Except.ok⟩

end Check

def ReadinessNote.pause : ReadinessNote → Nat
  | .available => 0
  | .waiting pause => pause
  | .failed _ pause => pause

def pausesFrom (pause count : Nat) : List Nat := List.iterate nextPause pause count

theorem nextPause_bounds {pause : Nat} (h : firstPause ≤ pause ∧ pause ≤ longestPause) :
    firstPause ≤ nextPause pause ∧ nextPause pause ≤ longestPause := by
  simp only [firstPause, longestPause, nextPause] at h ⊢
  omega

theorem pausesFrom_bounds {pause : Nat} (h : firstPause ≤ pause ∧ pause ≤ longestPause)
    (count : Nat) :
    ∀ later ∈ pausesFrom pause count, firstPause ≤ later ∧ later ≤ longestPause := by
  induction count generalizing pause with
  | zero => exact nofun
  | succ count ih => exact List.forall_mem_cons.mpr ⟨h, ih (nextPause_bounds h)⟩

/-! ## Runs -/

/-- Checks of a cluster come to a readiness, within a bound on their number and with pauses from a
first one on: no check but the last one passes, and the last one does unless the bound is reached;
every check is noted, with the pause behind it. -/
structure Waits (cluster : String) (bound pause : Nat) (checks : List Check)
    (readiness : Readiness) : Prop where
  ran : ∀ check ∈ checks, Plan.Run (discover cluster) check.exchanges check.outcome
  earlier : ∀ check ∈ checks.dropLast, ¬ check.Passes
  ready : readiness.ready = true ↔ ∃ check ∈ checks, check.Passes
  bounded : checks.length ≤ bound
  exhausted : readiness.ready = false → checks.length = bound
  notes : readiness.notes = List.zipWith Check.note checks (pausesFrom pause checks.length)
  waited : readiness.waited = (readiness.notes.map ReadinessNote.pause).sum

namespace Waits

variable {cluster : String} {bound pause : Nat} {checks : List Check} {readiness : Readiness}

/-- Without a check nothing is known. -/
theorem none : Waits cluster 0 pause [] ⟨false, 0, []⟩ where
  ran := nofun
  earlier := nofun
  ready := by simp
  bounded := Nat.le_refl 0
  exhausted _ := rfl
  notes := rfl
  waited := rfl

theorem last {check : Check} (hrun : Plan.Run (discover cluster) check.exchanges check.outcome)
    (hpasses : check.Passes) : Waits cluster (bound + 1) pause [check] ⟨true, 0, [.available]⟩ where
  ran := List.forall_mem_singleton.mpr hrun
  earlier := nofun
  ready := iff_of_true rfl ⟨check, List.mem_singleton_self check, hpasses⟩
  bounded := Nat.le_add_left 1 bound
  exhausted := nofun
  notes := by
    have hnote : check.note pause = .available := by
      rw [Check.note, noteOf, Check.passes_iff.mp hpasses]
    exact congrArg ([·]) hnote.symm
  waited := rfl

/-- A check that does not pass is followed by the others. -/
theorem behind {check : Check} (hrun : Plan.Run (discover cluster) check.exchanges check.outcome)
    (hfails : ¬ check.Passes) (h : Waits cluster bound (nextPause pause) checks readiness) :
    Waits cluster (bound + 1) pause (check :: checks)
      (readiness.behind (check.note pause) pause) where
  ran := List.forall_mem_cons.mpr ⟨hrun, h.ran⟩
  earlier := by
    cases checks with
    | nil => exact nofun
    | cons next later => exact List.forall_mem_cons.mpr ⟨hfails, h.earlier⟩
  ready := by
    rw [List.exists_mem_cons_iff, or_iff_right hfails, ← h.ready]
    rfl
  bounded := Nat.succ_le_succ h.bounded
  exhausted hready := congrArg (· + 1) (h.exhausted hready)
  notes := congrArg (check.note pause :: ·) h.notes
  waited := by
    -- A check that does not pass notes its pause.
    have hpause : (check.note pause).pause = pause := by
      unfold Check.note noteOf
      cases hverdict : verdict check.outcome with
      | error cause => rfl
      | ok passed =>
          cases passed with
          | false => rfl
          | true => exact absurd (Check.passes_iff.mpr hverdict) hfails
    show pause + readiness.waited = _
    simp [Readiness.behind, h.waited, hpause]

/-- Every wait is made of checks. -/
theorem of_run {exchanges : List Exchange}
    (run : Plan.Run (awaitImageApi cluster bound pause) exchanges readiness) :
    ∃ checks, exchanges = checks.flatMap (·.exchanges) ∧
      Waits cluster bound pause checks readiness := by
  induction bound generalizing pause exchanges readiness with
  | zero =>
      obtain ⟨rfl, rfl⟩ := Plan.run_pure_iff.mp run
      exact ⟨[], rfl, none⟩
  | succ bound ih =>
      rw [awaitImageApi_succ] at run
      obtain ⟨outcome, first, second, hdiscover, hrest, rfl⟩ := Plan.run_bind_iff.mp run
      -- The verdict on the discovery decides whether more waiting follows.
      have hpasses := @Check.passes_iff ⟨first, outcome⟩
      by_cases hverdict : verdict outcome = .ok true
      · rw [if_pos hverdict] at hrest
        obtain ⟨rfl, rfl⟩ := Plan.run_pure_iff.mp hrest
        exact ⟨[⟨first, outcome⟩], by simp, last hdiscover (hpasses.mpr hverdict)⟩
      · rw [if_neg hverdict] at hrest
        obtain ⟨later, third, rest, hlater, hlast, rfl⟩ := Plan.run_bind_iff.mp hrest
        obtain ⟨rfl, rfl⟩ := Plan.run_pure_iff.mp hlast
        obtain ⟨checks, rfl, hwaits⟩ := ih hlater
        exact ⟨⟨first, outcome⟩ :: checks, by simp, hwaits.behind hdiscover (hverdict ∘ hpasses.mp)⟩

end Waits

/-- Waiting is ready exactly if a check passes, and no check follows one that passes. Before each
further check there is a pause of at least 10 and at most 60 seconds. A check passes if the image
streams are among the types of the version that the image group recommends; where that is the first
version, this means that the group serves image streams in the first version. -/
theorem ready_at_first_pass {cluster : String} {bound : Nat} {exchanges : List Exchange}
    {readiness : Readiness}
    (run : Plan.Run (awaitImageApi cluster bound firstPause) exchanges readiness) :
    ∃ checks : List Check, exchanges = checks.flatMap (·.exchanges) ∧
      Waits cluster bound firstPause checks readiness ∧
      (∀ pause ∈ pausesFrom firstPause checks.length, 10 ≤ pause ∧ pause ≤ 60) ∧
      ∀ check ∈ checks, ∀ found, check.outcome = .ok found →
        Discovered cluster check.exchanges found ∧
        ∀ group ∈ found, ∀ types, group.Recommends "v1" types →
          (check.Passes ↔ group.Serves "v1" "ImageStream") := by
  obtain ⟨checks, hexchanges, hwaits⟩ := Waits.of_run run
  have hfirst : firstPause ≤ firstPause ∧ firstPause ≤ longestPause := by decide
  have hpauses := pausesFrom_bounds hfirst checks.length
  refine ⟨checks, hexchanges, hwaits, hpauses, fun check hcheck found hfound => ?_⟩
  have hran := hwaits.ran check hcheck
  rw [hfound] at hran
  refine ⟨discovered_of_run hran, fun group hgroup types hrecommends => ?_⟩
  obtain rfl : found = some group := hgroup
  exact Check.passes_iff_serves hfound hrecommends

/-! ## A group with two versions -/

def imageVersion (version : String) : GroupVersion := ⟨imageGroup ++ "/" ++ version, version⟩

/-- The image group with two versions, one of which is preferred. -/
def twoVersions (preferred : String) : Group where
  name := imageGroup
  preferredVersion := some (imageVersion preferred)
  versions := [imageVersion "v2", imageVersion "v1"]

def imageStreamsOnly (groupVersion : String) : ResourceList where
  groupVersion := groupVersion
  resources := [{ name := "imagestreams", kind := "ImageStream" }]

/-- A server of the image group with two versions, both of which have image streams. -/
def twoVersionServer (preferred : String) : Unit → String → (call : Call) → call.Reply × Unit
  | _, _, .listGroups => (.ok { groups := [twoVersions preferred] }, ())
  | _, _, .listResources groupVersion => (.ok (imageStreamsOnly groupVersion), ())
  | _, _, _ => (.error notThere, ())

def foundTwoVersions (preferred : String) : FoundGroup where
  group := twoVersions preferred
  versions := ["v2", "v1"].map fun version =>
    (version, imageStreamsOnly (imageVersion version).groupVersion)

theorem discover_twoVersions (preferred : String) :
    (discover "app.ci").play (twoVersionServer preferred) () =
      (.ok (some (foundTwoVersions preferred)), ()) := rfl

theorem serves_twoVersions (preferred : String) :
    (foundTwoVersions preferred).Serves "v1" "ImageStream" :=
  ⟨_, rfl, by decide⟩

theorem recommends_twoVersions {preferred : String} (h : preferred ∈ ["v2", "v1"]) :
    (foundTwoVersions preferred).Recommends preferred
      (imageStreamsOnly (imageVersion preferred).groupVersion) := by
  rcases List.mem_pair.mp h with rfl | rfl
  · exact ⟨rfl, rfl⟩
  · exact ⟨rfl, rfl⟩

theorem showsImageStreams_twoVersions {preferred : String} (h : preferred ∈ ["v2", "v1"]) :
    (foundTwoVersions preferred).showsImageStreams = true ↔ preferred = "v1" := by
  have hrecommends := recommends_twoVersions h
  rw [FoundGroup.showsImageStreams_iff]
  constructor
  · rintro ⟨version, types, hother, hserved⟩
    obtain ⟨rfl, rfl⟩ := hrecommends.unique hother
    rcases List.mem_pair.mp h with rfl | rfl
    · exact absurd hserved (by decide)
    · rfl
  · rintro rfl
    exact ⟨"v1", _, hrecommends, by decide⟩

/-- A server that prefers the first version is ready with the first check, which passes as image
streams are served in this version. -/
theorem preferred_first_version_is_ready :
    ((awaitImageApi "app.ci" 3 firstPause).play (twoVersionServer "v1") ()).1 =
        ⟨true, 0, [.available]⟩ ∧
      ∃ check : Check,
        (awaitImageApi "app.ci" 3 firstPause).exchangesWith (twoVersionServer "v1") () =
          check.exchanges ∧
        Waits "app.ci" 3 firstPause [check] ⟨true, 0, [.available]⟩ ∧
        (∀ pause ∈ pausesFrom firstPause 1, 10 ≤ pause ∧ pause ≤ 60) ∧
        Discovered "app.ci" check.exchanges (some (foundTwoVersions "v1")) ∧
        (foundTwoVersions "v1").Recommends "v1"
          (imageStreamsOnly (imageVersion "v1").groupVersion) ∧
        (foundTwoVersions "v1").Serves "v1" "ImageStream" ∧ check.Passes := by
  have hshows : (foundTwoVersions "v1").showsImageStreams = true :=
    (showsImageStreams_twoVersions (by decide)).mpr rfl
  have hverdict : verdict (.ok (some (foundTwoVersions "v1"))) = .ok true :=
    congrArg Except.ok hshows
  have hplay : ((awaitImageApi "app.ci" 3 firstPause).play (twoVersionServer "v1") ()).1 =
      ⟨true, 0, [.available]⟩ := by
    rw [awaitImageApi_succ, Plan.play_bind, discover_twoVersions, if_pos hverdict]
    rfl
  have hrun := Plan.run_play (twoVersionServer "v1") (awaitImageApi "app.ci" 3 firstPause) ()
  rw [hplay] at hrun
  obtain ⟨checks, hexchanges, hwaits, hpauses, hchecks⟩ := ready_at_first_pass hrun
  -- There is one note, so there is one check.
  obtain ⟨check, rfl⟩ : ∃ check, checks = [check] := by
    have hlength := congrArg List.length hwaits.notes
    simp only [List.length_zipWith, pausesFrom, List.length_iterate, min_self] at hlength
    exact List.length_eq_one_iff.mp hlength.symm
  rw [List.flatMap_singleton] at hexchanges
  have hmem : check ∈ [check] := List.mem_singleton_self check
  -- Its exchanges are those of the discovery.
  have hfound : check.outcome = .ok (some (foundTwoVersions "v1")) := by
    have hdiscover := Plan.run_play (twoVersionServer "v1") (discover "app.ci") ()
    rw [awaitImageApi_succ, Plan.exchangesWith_bind, discover_twoVersions, if_pos hverdict,
      Plan.exchangesWith_pure, List.append_nil] at hexchanges
    rw [discover_twoVersions, hexchanges] at hdiscover
    exact (hwaits.ran check hmem).unique hdiscover
  obtain ⟨hdiscovered, hpasses⟩ := hchecks check hmem _ hfound
  have hrecommends := @recommends_twoVersions "v1" (by decide)
  exact ⟨hplay, check, hexchanges, hwaits, hpauses, hdiscovered, hrecommends,
    serves_twoVersions "v1", (hpasses _ rfl _ hrecommends).mpr (serves_twoVersions "v1")⟩

/-- A server that prefers the second version serves image streams in the first one too, but no
number of checks makes it ready. -/
theorem newer_version_is_waited_for_in_vain :
    ((discover "app.ci").play (twoVersionServer "v2") ()).1 =
        .ok (some (foundTwoVersions "v2")) ∧
      (foundTwoVersions "v2").Serves "v1" "ImageStream" ∧
      ∀ bound, ((awaitImageApi "app.ci" bound firstPause).play
        (twoVersionServer "v2") ()).1.ready = false := by
  refine ⟨rfl, serves_twoVersions "v2", fun bound => ?_⟩
  have hverdict : ¬ verdict (.ok (some (foundTwoVersions "v2"))) = .ok true := by
    intro h
    have hshows : (foundTwoVersions "v2").showsImageStreams = true := Except.ok.inj h
    exact absurd ((showsImageStreams_twoVersions (by decide)).mp hshows) (by decide)
  -- The induction needs it for every first pause, as the pause changes.
  generalize firstPause = pause
  induction bound generalizing pause with
  | zero => rfl
  | succ bound ih =>
      rw [awaitImageApi_succ, Plan.play_bind, discover_twoVersions, if_neg hverdict,
        Plan.play_bind]
      exact ih (nextPause pause)

end TagSync
