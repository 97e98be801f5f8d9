import Mathlib.Logic.Relation
import TagSync.Proofs.Healthy
import TagSync.Proofs.Holding
import TagSync.Proofs.Rewrites

/-!
# No finalizer of another party is lost

Other parties write to streams as well, also between the reading of a stream and the write of its
finalizers. A write replaces the whole list, but it is meant for the version that was read, and
every write makes a new version. So it takes effect only on what was read, and adds or takes off the
managed finalizer and nothing else (`no_foreign_finalizer_lost`).
-/

set_option autoImplicit false

namespace TagSync

open Api
open Plan (Exchange)
open Relation (ReflTransGen)

namespace World

/-! ## Writes of other parties -/

/-- What another party may write: any stream under its own name, in a new version, or that the
stream is gone, or a namespace. Time passes as it likes. -/
inductive WrittenByOthers : World → World → Prop
  | stream {w : World} {cluster ns name : String} {stored : Option StoredStream}
      {times : Nat → Instant} : (∀ s, stored = some s → s.IsNamed ns name) →
      WrittenByOthers w { w.put cluster ns name
        (stored.map fun s => { s with stream := w.stamp s.stream }) with times }
  | «namespace» {w : World} {cluster name : String} {object : Namespace} :
      WrittenByOthers w (w.putNamespace cluster name object)

/-- Other parties write as often as they like. -/
def Meanwhile : World → World → Prop := ReflTransGen WrittenByOthers

/-- Every stream has a version, and none of these is used again. -/
structure Versioned (w : World) : Prop where
  injective : Function.Injective w.versions
  versioned : ∀ ⦃cluster ns name : String⦄ ⦃stored : StoredStream⦄,
    w.stream? cluster ns name = some stored → ∃ version,
      stored.stream.metadata.resourceVersion = some version ∧ ∀ n, w.versions n ≠ version

/-- So many versions later every stream is the one that was there, or a later one. -/
structure Since (k : Nat) (w t : World) : Prop where
  versions : ∀ n, t.versions n = w.versions (n + k)
  streams : ∀ cluster ns name, t.stream? cluster ns name = w.stream? cluster ns name ∨
    ∀ stored, t.stream? cluster ns name = some stored → stored.IsNamed ns name ∧
      ∃ i < k, stored.stream.metadata.resourceVersion = some (w.versions i)

section

variable {w t u : World} {k l : Nat} {cluster ns name : String}

theorem Since.trans (h : Since k w t) (h' : Since l t u) : Since (l + k) w u where
  versions := fun n => by rw [h'.versions, h.versions, Nat.add_assoc]
  streams := by
    intro cluster ns name
    rcases h'.streams cluster ns name with heq | hnew
    · rcases h.streams cluster ns name with heq' | hold
      · exact Or.inl (heq.trans heq')
      · refine Or.inr fun stored hs => ?_
        obtain ⟨named, i, hi, hversion⟩ := hold stored (heq ▸ hs)
        exact ⟨named, i, by omega, hversion⟩
    · refine Or.inr fun stored hs => ?_
      obtain ⟨named, i, hi, hversion⟩ := hnew stored hs
      exact ⟨named, i + k, by omega, hversion.trans (congrArg some (h.versions i))⟩

/-- A write makes one version, or none. -/
theorem WrittenByOthers.since (h : WrittenByOthers w t) : ∃ k, Since k w t := by
  cases h with
  | @stream cluster ns name stored times named =>
      refine ⟨1, fun n => rfl, fun c n s => ?_⟩
      have hput : World.stream? { w.put cluster ns name (stored.map fun s =>
          { s with stream := w.stamp s.stream }) with times } c n s =
          if c = cluster ∧ n = ns ∧ s = name then
            stored.map fun s => { s with stream := w.stamp s.stream }
          else w.stream? c n s := stream?_put w cluster ns name _ c n s
      rw [hput]
      split
      · next heq =>
        obtain ⟨rfl, rfl, rfl⟩ := heq
        refine Or.inr fun kept hkept => ?_
        -- A stream that was written has the version that was just made.
        obtain ⟨written, hwritten, rfl⟩ := Option.map_eq_some_iff.mp hkept
        obtain ⟨hns, hname, hns', hname'⟩ := named written hwritten
        exact ⟨⟨hns, hname, hns', hname'⟩, 0, Nat.one_pos, rfl⟩
      · exact Or.inl rfl
  | «namespace» => exact ⟨0, fun n => rfl, fun _ _ _ => Or.inl (stream?_putNamespace _ _ _ _ _ _ _)⟩

theorem Meanwhile.since (h : Meanwhile w t) : ∃ k, Since k w t := by
  induction h with
  | refl => exact ⟨0, fun n => rfl, fun _ _ _ => Or.inl rfl⟩
  | tail _ hwrite ih =>
      obtain ⟨k, hk⟩ := ih
      obtain ⟨l, hl⟩ := hwrite.since
      exact ⟨l + k, hk.trans hl⟩

theorem Since.sound (h : Since k w t) (sound : w.Sound) : t.Sound := by
  intro cluster ns name stored hs
  rcases h.streams cluster ns name with heq | hnew
  · exact sound (heq ▸ hs)
  · exact (hnew stored hs).1

theorem Since.versioned (h : Since k w t) (versioned : w.Versioned) : t.Versioned where
  injective := by
    intro m n hmn
    rw [h.versions, h.versions] at hmn
    exact Nat.add_right_cancel (versioned.injective hmn)
  versioned := by
    intro cluster ns name stored hs
    simp only [h.versions]
    rcases h.streams cluster ns name with heq | hnew
    · obtain ⟨version, hversion, hfresh⟩ := versioned.versioned (heq ▸ hs)
      exact ⟨version, hversion, fun n => hfresh (n + k)⟩
    · obtain ⟨-, i, hi, hversion⟩ := hnew stored hs
      exact ⟨_, hversion, fun n hn => by have := versioned.injective hn; omega⟩

theorem Since.eq_of_version (h : Since k w t) (versioned : w.Versioned)
    {read stored : StoredStream} (hread : w.stream? cluster ns name = some read)
    (hs : t.stream? cluster ns name = some stored)
    (hversion : read.stream.metadata.resourceVersion = stored.stream.metadata.resourceVersion) :
    stored = read := by
  rcases h.streams cluster ns name with heq | hnew
  · exact Option.some.inj (hs.symm.trans (heq.trans hread))
  · obtain ⟨-, i, -, hnewer⟩ := hnew stored hs
    obtain ⟨version, hold, hfresh⟩ := versioned.versioned hread
    rw [hold, hnewer] at hversion
    exact absurd (Option.some.inj hversion).symm (hfresh i)

end

end World

/-! ## Runs amid other writes -/

/-- A step of this program: an exchange, with the world that its request came to and the world that
it left. -/
structure OwnStep where
  exchange : Exchange
  before : World
  after : World

/-- A run of this program amid writes of other parties. Before each of its steps, and after the last
one, the others write what they like; a step itself is what the cluster makes of the call or, if
the cluster may fail, its refusal. -/
inductive Amid (digest : Option String) (flaky : String → Prop) :
    World → List OwnStep → World → Prop
  | done {w w' : World} : World.Meanwhile w w' → Amid digest flaky w [] w'
  | step {w w' : World} {s : OwnStep} {steps : List OwnStep} : World.Meanwhile w s.before →
      Serves digest flaky s.before s.exchange s.after → Amid digest flaky s.after steps w' →
      Amid digest flaky w (s :: steps) w'

/-- What the steps of a run do that changes the finalizers of a stream. If the run succeeds, each
write changes the finalizers that were stored right before it and nothing else. A step that writes
nothing, and every step of a run that fails, leaves the world as it came to it. -/
structure Guarded (owner ns name : String) (change : List String → List String)
    (steps : List OwnStep) (outcome : Except SyncError Unit) : Prop where
  written : outcome = .ok () → ∀ s ∈ steps, s.exchange.method = .patch →
    ∃ stored, s.before.stream? owner ns name = some stored ∧
      s.after = s.before.put owner ns name (s.before.amend stored fun m =>
        { m with finalizers := some (change m.finalizerList) }).settled
  untouched : ∀ s ∈ steps, outcome ≠ .ok () ∨ s.exchange.method ≠ .patch → s.after = s.before

section

variable {digest : Option String} {flaky : String → Prop} {w w' : World} {owner ns name : String}
  {change : List String → List String} {steps : List OwnStep} {exchanges : List Exchange}
  {outcome : Except SyncError Unit}

theorem amid_cons_iff {s : OwnStep} : Amid digest flaky w (s :: steps) w' ↔
    World.Meanwhile w s.before ∧ Serves digest flaky s.before s.exchange s.after ∧
      Amid digest flaky s.after steps w' := by
  constructor
  · intro h
    cases h with
    | step hmeanwhile hserves hrest => exact ⟨hmeanwhile, hserves, hrest⟩
  · rintro ⟨hmeanwhile, hserves, hrest⟩
    exact .step hmeanwhile hserves hrest

/-- There may be no steps at all. -/
theorem Guarded.of_no_exchange (hnone : steps.map (·.exchange) = []) :
    Guarded owner ns name change steps outcome := by
  obtain rfl := List.map_eq_nil_iff.mp hnone
  constructor
  · intro _ s hs
    cases hs
  · intro s hs
    cases hs

/-- A step that reads may come first. -/
theorem Guarded.cons_read {s : OwnStep} (hget : s.exchange.method = .get)
    (hsame : s.after = s.before) (h : Guarded owner ns name change steps outcome) :
    Guarded owner ns name change (s :: steps) outcome where
  written := by
    intro hok x hx hpatch
    rcases List.mem_cons.mp hx with rfl | hx
    · rw [hget] at hpatch
      cases hpatch
    · exact h.written hok x hx hpatch
  untouched := by
    intro x hx hcase
    rcases List.mem_cons.mp hx with rfl | hx
    · exact hsame
    · exact h.untouched x hx hcase

/-- A write of finalizers that were made from what was read. -/
theorem guarded_writeFinalizers (sound : w.Sound) (versioned : w.Versioned) {read : StoredStream}
    (hread : w.stream? owner ns name = some read)
    (run : (writeFinalizers owner read.stream (change read.stream.metadata.finalizerList)).Run
      (steps.map (·.exchange)) outcome)
    (amid : Amid digest flaky w steps w') : Guarded owner ns name change steps outcome := by
  have named := sound hread
  obtain ⟨reply, hsend, rfl⟩ := Job.run_require_done_iff.mp run
  rw [named.namespaceName_eq, named.anyName_eq] at hsend
  rcases Plan.run_send_cases hsend with hone | ⟨hnone, -⟩
  · obtain ⟨s, rfl, hexchange⟩ := List.map_eq_singleton_iff.mp hone
    obtain ⟨hmeanwhile, hserves, -⟩ := amid_cons_iff.mp amid
    rw [hexchange] at hserves
    have hpatch : s.exchange.method = .patch := by
      rw [hexchange]
      rfl
    rcases hserves.finalizers_cases with
      ⟨⟨cause, rfl⟩, hsame⟩ | ⟨written, before, rfl, hbefore, hversion, hafter⟩
    · -- The write is refused, so the run fails.
      constructor
      · intro hok
        cases hok
      · intro x hx _
        obtain rfl := List.mem_singleton.mp hx
        exact hsame
    · -- What was read has a version, so what was written to is what the list was made from.
      have hequal : read.stream.metadata.resourceVersion =
          before.stream.metadata.resourceVersion := by
        obtain ⟨version, hv, -⟩ := versioned.versioned hread
        rcases hversion with hunversioned | hequal
        · rw [hv] at hunversioned
          cases hunversioned
        · exact hequal
      obtain ⟨k, hsince⟩ := hmeanwhile.since
      have hsame : before = read := hsince.eq_of_version versioned hread hbefore hequal
      subst hsame
      constructor
      · intro _ x hx _
        obtain rfl := List.mem_singleton.mp hx
        exact ⟨before, hbefore, hafter⟩
      · intro x hx hcase
        obtain rfl := List.mem_singleton.mp hx
        rcases hcase with hfail | hother
        · exact absurd rfl hfail
        · exact absurd hpatch hother
  · exact .of_no_exchange hnone

/-- Holding a stream that was read appends the managed finalizer to the list. -/
theorem guarded_hold (sound : w.Sound) (versioned : w.Versioned) {read : StoredStream}
    (hread : w.stream? owner ns name = some read)
    (run : (hold owner read.stream).Run (steps.map (·.exchange)) outcome)
    (amid : Amid digest flaky w steps w') :
    Guarded owner ns name (· ++ [managedFinalizer]) steps outcome := by
  simp only [hold, withFinalizer?] at run
  split at run
  · exact .of_no_exchange (Job.run_pure_iff.mp run).1
  · next finalizers hadd =>
    split at hadd
    · cases hadd
    · obtain rfl := Option.some.inj hadd
      exact guarded_writeFinalizers sound versioned hread run amid

theorem serves_look {reply : Except CallError ImageStream} {t : World}
    (h : Serves digest flaky w ⟨owner, .getStream ns name, reply⟩ t) : t = w ∧
      ∀ current, reply = .ok current →
        ∃ stored, w.stream? owner ns name = some stored ∧ stored.stream = current := by
  have hsame : t = w := by
    rcases h with hserve | ⟨-, -, -, rfl⟩
    · exact (congrArg Prod.snd hserve).symm
    · rfl
  refine ⟨hsame, ?_⟩
  rintro current rfl
  exact h.stored_of_read.2

/-- A release looks for the stream, and if it finds it managed, it writes the other finalizers. -/
theorem run_release_cases {stream : ImageStream} (run : (release owner stream).Run exchanges outcome) :
    ∃ (reply : Except CallError ImageStream) (reads writes : List Exchange),
      Plan.Run (Plan.send owner (.getStream stream.namespaceName stream.name)) reads reply ∧
      exchanges = reads ++ writes ∧
      (writes = [] ∨ ∃ current, reply = .ok current ∧
        (writeFinalizers owner current (foreignFinalizers current.metadata.finalizerList)).Run
          writes outcome) := by
  rcases Job.run_bind_iff.mp run with ⟨current, first, second, hfirst, hsecond, rfl⟩ | ⟨e, h, -⟩
  · obtain ⟨reply, hsend, hreply⟩ := Job.run_find?_iff.mp hfirst
    refine ⟨reply, first, second, hsend, rfl, ?_⟩
    cases current with
    | none =>
        obtain ⟨hnone, -⟩ := Job.run_pure_iff.mp hsecond
        exact Or.inl hnone
    | some current =>
        -- What the write is made from is what the look has found.
        have hfound : reply = .ok current := Job.found_eq_some_iff.mp hreply.symm
        dsimp only at hsecond
        rw [withoutFinalizer?_eq] at hsecond
        by_cases hm : current.metadata.isManaged = true
        · rw [if_pos hm] at hsecond
          exact Or.inr ⟨current, hfound, hsecond⟩
        · rw [if_neg hm] at hsecond
          obtain ⟨hnone, -⟩ := Job.run_pure_iff.mp hsecond
          exact Or.inl hnone
  · obtain ⟨reply, hsend, -⟩ := Job.run_find?_iff.mp h
    exact ⟨reply, exchanges, [], hsend, by simp, Or.inl rfl⟩

/-- Releasing a stream takes all occurrences of the managed finalizer off the list. -/
theorem guarded_release {stream : ImageStream} (sound : w.Sound) (versioned : w.Versioned)
    (run : (release owner stream).Run (steps.map (·.exchange)) outcome)
    (amid : Amid digest flaky w steps w') :
    Guarded owner stream.namespaceName stream.name foreignFinalizers steps outcome := by
  obtain ⟨reply, reads, writes, hsend, hsplit, hwrites⟩ := run_release_cases run
  rcases Plan.run_send_cases hsend with rfl | ⟨rfl, fault, -, rfl⟩
  · obtain ⟨s, later, rfl, hexchange, hlater⟩ := List.map_eq_cons_iff.mp hsplit
    obtain ⟨hmeanwhile, hserves, hrest⟩ := amid_cons_iff.mp amid
    rw [hexchange] at hserves
    obtain ⟨hsame, hfound⟩ := serves_look hserves
    have hget : s.exchange.method = .get := by
      rw [hexchange]
      rfl
    apply Guarded.cons_read hget hsame
    rcases hwrites with rfl | ⟨current, rfl, hwrite⟩
    · exact .of_no_exchange hlater
    · -- The list is made from what was just found, not from the stream at hand.
      obtain ⟨stored, hstored, rfl⟩ := hfound current rfl
      obtain ⟨k, hsince⟩ := hmeanwhile.since
      obtain rfl : later.map (·.exchange) = writes := hlater
      rw [hsame] at hrest
      exact guarded_writeFinalizers (hsince.sound sound) (hsince.versioned versioned) hstored
        hwrite hrest
  · -- A call that cannot be sent finds nothing, so nothing is written either.
    rcases hwrites with rfl | ⟨current, hfound, -⟩
    · exact .of_no_exchange hsplit
    · cases hfound

end

/-- **No finalizer of another party is lost.** Whatever other parties write in the meantime, holding
a stream that was read appends the managed finalizer to the finalizers that are stored right before
the write, releasing a stream takes it off them, and nothing else of the stream changes; without a
write that succeeds nothing changes at all but by the others. Holding and then releasing gives the
list back. -/
theorem no_foreign_finalizer_lost {digest : Option String} {flaky : String → Prop} {w : World}
    (sound : w.Sound) (versioned : w.Versioned) :
    (∀ owner ns name read steps outcome w', w.stream? owner ns name = some read →
      (hold owner read.stream).Run (steps.map (·.exchange)) outcome →
      Amid digest flaky w steps w' →
      Guarded owner ns name (· ++ [managedFinalizer]) steps outcome) ∧
    (∀ owner stream steps outcome w',
      (release owner stream).Run (steps.map (·.exchange)) outcome →
      Amid digest flaky w steps w' →
      Guarded owner stream.namespaceName stream.name foreignFinalizers steps outcome) ∧
    ∀ finalizers, managedFinalizer ∉ finalizers →
      ∃ added, withFinalizer? finalizers managedFinalizer = some added ∧
        withoutFinalizer? added managedFinalizer = some finalizers := by
  refine ⟨?_, ?_, ?_⟩
  · intro owner ns name read steps outcome w' hread hrun amid
    exact guarded_hold sound versioned hread hrun amid
  · intro owner stream steps outcome w' hrun amid
    exact guarded_release sound versioned hrun amid
  · intro finalizers hnot
    have hadd : withFinalizer? finalizers managedFinalizer =
        some (finalizers ++ [managedFinalizer]) := if_neg (by simpa using hnot)
    exact ⟨_, hadd, withoutFinalizer?_of_withFinalizer? hadd⟩

/-! ### Another party in between -/

/-- A world with `foreignStream` on `app.ci`. -/
def contested : World :=
  .ofCopies "ci" "app" fun c => if c = "app.ci" then some { stream := foreignStream } else none

theorem eq_of_stream?_contested {c ns name : String} {stored : StoredStream}
    (h : contested.stream? c ns name = some stored) :
    ns = "ci" ∧ name = "app" ∧ stored = { stream := foreignStream } := by
  obtain ⟨hns, hname, hstored⟩ := World.stream?_ofCopies_eq_some_iff.mp h
  split at hstored
  · exact ⟨hns, hname, (Option.some.inj hstored).symm⟩
  · cases hstored

theorem sound_contested : contested.Sound := by
  intro c ns name stored h
  obtain ⟨rfl, rfl, rfl⟩ := eq_of_stream?_contested h
  exact ⟨by decide, by decide, rfl, rfl⟩

theorem versioned_contested : contested.Versioned where
  injective := by
    intro m n h
    have hlists : List.replicate m 'x' = List.replicate n 'x' := String.ofList_injective h
    simpa using congrArg List.length hlists
  versioned := by
    intro c ns name stored h
    obtain ⟨-, -, rfl⟩ := eq_of_stream?_contested h
    refine ⟨"1", rfl, fun n hn => ?_⟩
    have hmem : '1' ∈ (String.ofList (List.replicate n 'x')).toList := by
      rw [show String.ofList (List.replicate n 'x') = "1" from hn]
      decide
    rw [String.toList_ofList] at hmem
    exact absurd (List.eq_of_mem_replicate hmem) (by decide)

def thirdStream : StoredStream where
  stream := { foreignStream with
    metadata := { foreignStream.metadata with finalizers := some ["another", "third"] } }

def thirdWorld : World :=
  contested.put "app.ci" "ci" "app"
    ((some thirdStream).map fun s => { s with stream := contested.stamp s.stream })

theorem meanwhile_thirdWorld : World.Meanwhile contested thirdWorld := by
  refine .single (.stream fun s hs => ?_)
  obtain rfl := Option.some.inj hs
  exact ⟨by decide, by decide, rfl, rfl⟩

/-- The task that holds the stream as it was read in `contested`. -/
def holdForeign : Plan (Except SyncError Unit) := (hold "app.ci" foreignStream).run

def holdingCall : Call :=
  .setFinalizers "ci" "app" ["another", managedFinalizer] (some "1")

def holdingStep (w : World) : OwnStep where
  exchange := ⟨"app.ci", holdingCall, (w.serve none "app.ci" holdingCall).1⟩
  before := w
  after := (w.serve none "app.ci" holdingCall).2

theorem run_holdForeign {w : World}
    (hone : holdForeign.exchangesWith (World.serve none) w = [(holdingStep w).exchange]) :
    (hold "app.ci" foreignStream).Run [(holdingStep w).exchange]
      (holdForeign.play (World.serve none) w).1 := by
  have hrun := Plan.run_play (World.serve none) holdForeign w
  rw [hone] at hrun
  exact hrun

theorem amid_holdingStep {w : World} (h : World.Meanwhile contested w) :
    Amid none (fun _ => False) contested [holdingStep w] (holdingStep w).after :=
  .step h (Or.inl rfl) (.done .refl)

def finalizersIn (w : World) : Option (List String) :=
  (w.stream? "app.ci" "ci" "app").map fun stored => stored.stream.metadata.finalizerList

/-- Undisturbed, the task appends the managed finalizer. After a write of the third party it fails,
and leaves the world as that party has left it. -/
theorem third_finalizer_survives :
    (∃ s, s.before = contested ∧ s.exchange.method = .patch ∧
      (hold "app.ci" foreignStream).Run [s.exchange] (.ok ()) ∧
      Amid none (fun _ => False) contested [s] s.after ∧
      Guarded "app.ci" "ci" "app" (· ++ [managedFinalizer]) [s] (.ok ()) ∧
      finalizersIn s.after = some ["another", managedFinalizer]) ∧
    ∃ s e, s.before = thirdWorld ∧ s.exchange.method = .patch ∧
      (hold "app.ci" foreignStream).Run [s.exchange] (.error e) ∧
      Amid none (fun _ => False) contested [s] s.after ∧ s.after = thirdWorld ∧
      finalizersIn thirdWorld = some ["another", "third"] := by
  obtain ⟨guarded, -, -⟩ := @no_foreign_finalizer_lost none (fun _ => False) contested
    sound_contested versioned_contested
  have hread : contested.stream? "app.ci" "ci" "app" = some { stream := foreignStream } := rfl
  constructor
  · have hrun : (hold "app.ci" foreignStream).Run [(holdingStep contested).exchange] (.ok ()) :=
      run_holdForeign rfl
    have hamid := amid_holdingStep (.refl : World.Meanwhile contested contested)
    have hguarded := guarded "app.ci" "ci" "app" _ [holdingStep contested] _ _ hread hrun hamid
    exact ⟨holdingStep contested, rfl, rfl, hrun, hamid, hguarded, rfl⟩
  · obtain ⟨e, he⟩ : ∃ e, (holdForeign.play (World.serve none) thirdWorld).1 = .error e := ⟨_, rfl⟩
    have hrun : (hold "app.ci" foreignStream).Run [(holdingStep thirdWorld).exchange] (.error e) :=
      he ▸ run_holdForeign rfl
    have hamid := amid_holdingStep meanwhile_thirdWorld
    have hguarded := guarded "app.ci" "ci" "app" _ [holdingStep thirdWorld] _ _ hread hrun hamid
    have hsame : (holdingStep thirdWorld).after = (holdingStep thirdWorld).before :=
      hguarded.untouched _ (by simp) (Or.inl (by simp))
    exact ⟨holdingStep thirdWorld, e, rfl, rfl, hrun, hamid, hsame, rfl⟩

end TagSync
