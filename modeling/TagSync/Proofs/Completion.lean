import TagSync.Proofs.Healthy
import TagSync.Proofs.Rewrites
import TagSync.Watch

/-!
# A deletion completes in any order

The controller of a cluster on which a stream is being deleted and managed deletes the stream on
all other clusters and releases its own. From then on every copy that is left is a remnant of what
was there before: it is being deleted, and its finalizers are the old ones, with or without the
managed one; and every copy that another party holds is left (`World.Withers`). Whichever
controllers run next, in whatever order, keep it that way, and each of them takes the managed
finalizer off its own copy (`deletion_completes_in_any_order`).
-/

set_option autoImplicit false

namespace TagSync

open Api
open Plan (Exchange)

/-! ## Remnants -/

/-- What is left of a stream that is being deleted: it is still held, by the finalizers that it had
before, with or without the managed one. -/
structure StoredStream.IsRemnantOf (kept before : StoredStream) : Prop where
  terminating : kept.stream.metadata.isTerminating = true
  held : kept.stream.metadata.finalizerList ≠ []
  finalizers : kept.stream.metadata.finalizerList = before.stream.metadata.finalizerList ∨
    kept.stream.metadata.finalizerList =
      foreignFinalizers before.stream.metadata.finalizerList

namespace StoredStream.IsRemnantOf

variable {kept stored before : StoredStream}

theorem trans (h : kept.IsRemnantOf stored) (h' : stored.IsRemnantOf before) :
    kept.IsRemnantOf before where
  terminating := h.terminating
  held := h.held
  finalizers := by
    rcases h.finalizers with heq | heq
    · rw [heq]
      exact h'.finalizers
    · rcases h'.finalizers with heq' | heq'
      · exact Or.inr (heq.trans (congrArg _ heq'))
      · exact Or.inr (by rw [heq, heq', foreignFinalizers_foreignFinalizers])

theorem foreign_eq (h : kept.IsRemnantOf stored) :
    foreignFinalizers kept.stream.metadata.finalizerList =
      foreignFinalizers stored.stream.metadata.finalizerList := by
  rcases h.finalizers with heq | heq
  · rw [heq]
  · rw [heq, foreignFinalizers_foreignFinalizers]

theorem isManaged_eq_false (h : kept.IsRemnantOf stored)
    (hm : stored.stream.metadata.isManaged = false) : kept.stream.metadata.isManaged = false := by
  rw [ObjectMeta.isManaged_eq_false_iff] at hm ⊢
  rcases h.finalizers with heq | heq
  · rw [heq, hm]
  · rw [heq, foreignFinalizers_foreignFinalizers]

theorem finalizers_eq (h : kept.IsRemnantOf before)
    (hm : kept.stream.metadata.isManaged = false) : kept.stream.metadata.finalizerList =
      foreignFinalizers before.stream.metadata.finalizerList := by
  have hforeign : foreignFinalizers kept.stream.metadata.finalizerList =
      kept.stream.metadata.finalizerList := ObjectMeta.isManaged_eq_false_iff.mp hm
  rw [← hforeign, h.foreign_eq]

end StoredStream.IsRemnantOf

namespace World

/-- On a cluster there is a remnant of what was there before, or nothing if no other party held
it. -/
structure Withers (before after : World) (cluster ns name : String) : Prop where
  remnant : ∀ kept, after.stream? cluster ns name = some kept →
    ∃ stored, before.stream? cluster ns name = some stored ∧ kept.IsRemnantOf stored
  held : ∀ stored, before.stream? cluster ns name = some stored →
    foreignFinalizers stored.stream.metadata.finalizerList ≠ [] →
    ∃ kept, after.stream? cluster ns name = some kept

/-- On a cluster there is no managed stream. -/
def IsFree (w : World) (cluster ns name : String) : Prop :=
  ∀ kept, w.stream? cluster ns name = some kept → kept.stream.metadata.isManaged = false

variable {w t u : World} {cluster ns name c : String}

theorem Withers.trans (h : Withers w t c ns name) (h' : Withers t u c ns name) :
    Withers w u c ns name where
  remnant := by
    intro kept hkept
    obtain ⟨stored, hs, hrem⟩ := h'.remnant kept hkept
    obtain ⟨before, hb, hrem'⟩ := h.remnant stored hs
    exact ⟨before, hb, hrem.trans hrem'⟩
  held := by
    intro before hb hheld
    obtain ⟨stored, hs⟩ := h.held before hb hheld
    -- The stream in between has the same foreign finalizers, so it stays as well.
    obtain ⟨before', hb', hrem⟩ := h.remnant stored hs
    obtain rfl := Option.some.inj (hb.symm.trans hb')
    apply h'.held stored hs
    rw [hrem.foreign_eq]
    exact hheld

theorem Withers.of_eq (h : Withers w t c ns name)
    (heq : u.stream? c ns name = t.stream? c ns name) : Withers w u c ns name where
  remnant := by
    intro kept hkept
    exact h.remnant kept (heq ▸ hkept)
  held := by
    intro stored hs hheld
    rw [heq]
    exact h.held stored hs hheld

theorem Withers.exists_kept (h : Withers w t c ns name) {before : StoredStream}
    (hb : w.stream? c ns name = some before)
    (hheld : foreignFinalizers before.stream.metadata.finalizerList ≠ []) :
    ∃ kept, t.stream? c ns name = some kept ∧ kept.IsRemnantOf before := by
  obtain ⟨kept, hkept⟩ := h.held before hb hheld
  obtain ⟨stored, hs, hrem⟩ := h.remnant kept hkept
  obtain rfl := Option.some.inj (hb.symm.trans hs)
  exact ⟨kept, hkept, hrem⟩

theorem Withers.not_isLive (h : Withers w t c ns name) : ¬ t.IsLive c ns name := by
  rintro ⟨kept, hkept, hlive⟩
  obtain ⟨stored, -, hrem⟩ := h.remnant kept hkept
  cases hrem.terminating.symm.trans hlive

theorem Withers.isFree (h : Withers w t c ns name) (free : w.IsFree c ns name) :
    t.IsFree c ns name := by
  intro kept hkept
  obtain ⟨stored, hs, hrem⟩ := h.remnant kept hkept
  exact hrem.isManaged_eq_false (free stored hs)

/-! ## Deletions and releases -/

/-- A deletion leaves a remnant on its cluster. -/
theorem withers_delete (w : World) (cluster ns name : String) :
    Withers w (w.delete cluster ns name).2 cluster ns name := by
  have here : ∀ stored, (w.put cluster ns name stored).stream? cluster ns name = stored := by
    intro stored
    rw [stream?_put, if_pos ⟨rfl, rfl, rfl⟩]
  rcases w.delete_cases cluster ns name with ⟨hnone, h⟩ | ⟨stored, hs, hcase⟩
  · constructor
    · intro kept hkept
      rw [h, hnone] at hkept
      cases hkept
    · intro stored hs
      rw [hnone] at hs
      cases hs
  -- It is enough to name what is left of the stream that is there.
  have leaves (left : Option StoredStream)
      (hleft : (w.delete cluster ns name).2.stream? cluster ns name = left)
      (hremnant : ∀ kept, left = some kept → kept.IsRemnantOf stored)
      (hheld : foreignFinalizers stored.stream.metadata.finalizerList ≠ [] → left.isSome = true) :
      Withers w (w.delete cluster ns name).2 cluster ns name := by
    constructor
    · intro kept hkept
      exact ⟨stored, hs, hremnant kept (hleft.symm.trans hkept)⟩
    · intro before hb hforeign
      obtain rfl := Option.some.inj (hs.symm.trans hb)
      rw [hleft]
      exact Option.isSome_iff_exists.mp (hheld hforeign)
  rcases hcase with ⟨hfree, h⟩ | ⟨hheld, hterm, h⟩ | ⟨hheld, -, h⟩
  · apply leaves none
    · rw [h, here]
    · intro kept hkept
      cases hkept
    · intro hforeign
      rw [hfree] at hforeign
      exact absurd rfl hforeign
  · apply leaves (some stored)
    · rw [h, hs]
    · intro kept hkept
      obtain rfl := Option.some.inj hkept
      exact ⟨hterm, hheld, Or.inl rfl⟩
    · intro _
      rfl
  · apply leaves _ (by rw [h, here])
    · intro kept hkept
      obtain rfl := Option.some.inj hkept
      exact ⟨rfl, hheld, Or.inl rfl⟩
    · intro _
      rfl

theorem stream?_delete_of_ne (hne : c ≠ cluster) :
    (w.delete cluster ns name).2.stream? c ns name = w.stream? c ns name := by
  rcases @stream?_delete_cases none c ns name w cluster ns name with heq | ⟨hc, -⟩
  · exact heq
  · exact absurd hc hne

/-- A remnant of what a deletion leaves is a remnant of what was there before. -/
theorem Withers.after_delete (h : Withers (w.delete cluster ns name).2 t c ns name) :
    Withers w t c ns name := by
  by_cases hcluster : c = cluster
  · subst hcluster
    exact (w.withers_delete c ns name).trans h
  · have hsame : (w.delete cluster ns name).2.stream? c ns name = w.stream? c ns name :=
      stream?_delete_of_ne hcluster
    constructor
    · intro kept hkept
      obtain ⟨stored, hs, hrem⟩ := h.remnant kept hkept
      exact ⟨stored, hsame ▸ hs, hrem⟩
    · intro stored hs
      exact h.held stored (hsame.trans hs)

end World

section

variable {digest : Option String} {w : World} {ns name : String}

/-- Healthy clusters carry out every deletion, and nothing changes elsewhere. -/
theorem ensures_deleteOn (sendable : (Call.deleteStream ns name).Sendable)
    (clusters : List String) :
    Job.Ensures (Serves digest fun _ => False) (deleteOn ns name clusters) w fun outcome w' =>
      outcome = .ok () ∧ ∀ c, (c ∈ clusters → World.Withers w w' c ns name) ∧
        (c ∉ clusters → w'.stream? c ns name = w.stream? c ns name) := by
  induction clusters generalizing w with
  | nil => exact Job.Ensures.pure ⟨rfl, fun c => ⟨nofun, fun _ => rfl⟩⟩
  | cons cluster clusters ih =>
      refine Job.Ensures.bind (Job.Ensures.send (fun h => h.elim) sendable ⟨_, rfl, ?_⟩)
      -- Whatever the answer, the other clusters are next.
      have later : Job.Ensures (Serves digest fun _ => False) (deleteOn ns name clusters)
          (w.delete cluster ns name).2 fun outcome w' => outcome = .ok () ∧
            ∀ c, (c ∈ cluster :: clusters → World.Withers w w' c ns name) ∧
              (c ∉ cluster :: clusters → w'.stream? c ns name = w.stream? c ns name) := by
        refine ih.mono ?_
        rintro outcome w' ⟨rfl, hall⟩
        refine ⟨rfl, fun c => ⟨fun hc => ?_, fun hc => ?_⟩⟩
        · -- The cluster may come again later, and then it leaves a remnant of a remnant.
          by_cases hagain : c ∈ clusters
          · exact ((hall c).1 hagain).after_delete
          · obtain rfl := (List.mem_cons.mp hc).resolve_right hagain
            exact (w.withers_delete c ns name).of_eq ((hall c).2 hagain)
        · obtain ⟨hne, hmem⟩ := not_or.mp (fun h => hc (List.mem_cons.mpr h))
          exact ((hall c).2 hmem).trans (World.stream?_delete_of_ne hne)
      rcases w.delete_reply cluster ns name with h | h
      all_goals
        simp only [World.serve, h]
        exact later

def World.released (w : World) (stored : StoredStream) : Option StoredStream :=
  if stored.stream.metadata.isManaged then
    (w.amend stored fun m =>
      { m with finalizers := some (foreignFinalizers m.finalizerList) }).settled
  else some stored

/-- A healthy cluster lets its stream be released. -/
theorem ensures_release {owner : String} {stream : ImageStream} (sound : w.Sound)
    (hns : IsObjectName stream.namespaceName) (hname : IsObjectName stream.name) :
    Job.Ensures (Serves digest fun _ => False) (release owner stream) w fun outcome w' =>
      outcome = .ok () ∧ ∀ c, w'.stream? c stream.namespaceName stream.name =
        if c = owner then (w.stream? owner stream.namespaceName stream.name).bind w.released
        else w.stream? c stream.namespaceName stream.name := by
  refine Job.Ensures.bind (Job.Ensures.find? id
    (Call.Concerns.getStream.sendable hns hname) ?_)
  cases hs : w.stream? owner stream.namespaceName stream.name with
  | none =>
      simp only [World.serve, hs]
      exact ⟨none, rfl, Job.Ensures.pure ⟨rfl, by simp [hs]⟩⟩
  | some stored =>
      have named := sound hs
      simp only [World.serve, hs]
      refine ⟨some stored.stream, rfl, ?_⟩
      dsimp only
      rw [withoutFinalizer?_eq]
      cases hm : stored.stream.metadata.isManaged with
      | false =>
          have hkept : w.released stored = some stored := if_neg (Bool.eq_false_iff.mp hm)
          exact Job.Ensures.pure ⟨rfl, by simp [hs, hkept]⟩
      | true =>
          have hset := (@Call.Concerns.setFinalizers stream.namespaceName stream.name
            (foreignFinalizers stored.stream.metadata.finalizerList)
            stored.stream.metadata.resourceVersion).sendable hns hname
          show Job.Ensures _ (writeFinalizers owner stored.stream _) w _
          rw [writeFinalizers, named.namespaceName_eq, named.anyName_eq]
          refine Job.Ensures.bind (Job.Ensures.require id hset ?_)
          -- The write is made for the version that was just read, so it takes effect.
          have hchange := World.change_eq hs (Or.inr rfl) fun m =>
            { m with finalizers := some (foreignFinalizers stored.stream.metadata.finalizerList) }
          simp only [World.serve, hchange]
          refine ⟨_, rfl, Job.Ensures.pure ⟨rfl, fun c => ?_⟩⟩
          rw [World.stream?_put, Option.bind_some, World.released, if_pos hm]
          simp only [and_true]
          rfl

/-- With healthy clusters the retirement of a stream that is being deleted succeeds, leaves remnants
everywhere, and lets its own stream go. -/
theorem ensures_retire {fleet : Fleet} {owner : String} {stored : StoredStream} (sound : w.Sound)
    (owned : owner ∈ fleet.names) (hs : w.stream? owner ns name = some stored)
    (hterm : stored.stream.metadata.isTerminating = true)
    (hm : stored.stream.metadata.isManaged = true) :
    Job.Ensures (Serves digest fun _ => False) (retire fleet owner stored.stream) w
      fun outcome w' => outcome = .ok () ∧ (∀ c ∈ fleet.names, World.Withers w w' c ns name) ∧
        w'.IsFree owner ns name := by
  have named := sound hs
  have hcontains : fleet.clusters.contains owner = true := NameSet.contains_iff_mem.mpr owned
  have hdelete : (Call.deleteStream ns name).Sendable :=
    Call.Concerns.deleteStream.sendable named.properNamespace named.properName
  rw [retire, if_pos hcontains, named.namespaceName_eq, named.anyName_eq]
  refine Job.Ensures.bind (((ensures_deleteOn hdelete _).sound sound).mono ?_)
  rintro outcome w₁ ⟨⟨rfl, hdeleted⟩, sound₁⟩
  refine ⟨(), rfl, ?_⟩
  have hrelease : Job.Ensures (Serves digest fun _ => False) (release owner stored.stream) w₁ _ :=
    ensures_release sound₁ named.isProper.properNamespace named.isProper.properName
  rw [named.namespaceName_eq, named.anyName_eq] at hrelease
  refine hrelease.mono ?_
  rintro outcome w₂ ⟨rfl, hreleased⟩
  -- The owner's stream is as it was before the release, since nothing was deleted there.
  have howner : w₁.stream? owner ns name = some stored := by
    rw [(hdeleted owner).2 (by simp), hs]
  have hrest : w₂.stream? owner ns name = (w₁.amend stored fun m =>
      { m with finalizers := some (foreignFinalizers m.finalizerList) }).settled := by
    rw [hreleased, if_pos rfl, howner, Option.bind_some, World.released, if_pos hm]
  refine ⟨rfl, fun c hc => ?_, fun kept hkept => ?_⟩
  · by_cases hne : c = owner
    · subst hne
      constructor
      · intro kept hkept
        obtain ⟨rfl, hheld⟩ := StoredStream.settled_eq_some_iff.mp (hrest.symm.trans hkept)
        exact ⟨stored, hs, hterm, hheld hterm, Or.inr rfl⟩
      · intro before hb hforeign
        obtain rfl := Option.some.inj (hs.symm.trans hb)
        rw [hrest]
        exact ⟨_, StoredStream.settled_eq_some_iff.mpr ⟨rfl, fun _ => hforeign⟩⟩
    · have hmem : c ∈ fleet.names.filter (· != owner) :=
        List.mem_filter.mpr ⟨hc, by simpa using hne⟩
      exact ((hdeleted c).1 hmem).of_eq (by rw [hreleased, if_neg hne])
  · obtain ⟨rfl, -⟩ := StoredStream.settled_eq_some_iff.mp (hrest.symm.trans hkept)
    exact ObjectMeta.isManaged_eq_false_iff.mpr (foreignFinalizers_foreignFinalizers _)

end

/-! ## Runs of controllers -/

/-- The states after each exchange of a plan with servers. -/
def Plan.states {α σ : Type} (serve : σ → String → (call : Call) → call.Reply × σ) :
    Plan α → σ → List σ
  | .done _, _ => []
  | .ask cluster call next, s =>
    let answer := serve s cluster call
    answer.2 :: (next answer.1).states serve answer.2

theorem Plan.exists_leads_of_mem_states {digest : Option String} {α : Type} {p : Plan α}
    {w u : World} (h : u ∈ p.states (World.serve digest) w) :
    ∃ earlier later, p.exchangesWith (World.serve digest) w = earlier ++ later ∧
      Leads (Serves digest fun _ => False) w earlier u := by
  induction p generalizing w with
  | done a => cases h
  | ask cluster call next ih =>
      rcases List.mem_cons.mp h with rfl | h
      · exact ⟨[_], _, rfl, .cons (Or.inl rfl) (.nil _)⟩
      · obtain ⟨earlier, later, hsplit, hleads⟩ := ih _ h
        exact ⟨_ :: earlier, later, congrArg (_ :: ·) hsplit, .cons (Or.inl rfl) hleads⟩

namespace World

section

variable (digest : Option String) (fleet : Fleet) (filter : TagFilter) (ns name : String)

/-- What the controller of a cluster does about the stream that the cluster stores, if any. -/
def controller (w : World) (cluster : String) : Plan (Except SyncError Unit) :=
  match w.stream? cluster ns name with
  | none => pure (.ok ())
  | some stored => (reactTo fleet filter cluster stored.stream).run

/-- One run of the controller with healthy clusters: its outcome, and the world afterwards. -/
def control (w : World) (cluster : String) : Except SyncError Unit × World :=
  (w.controller fleet filter ns name cluster).play (serve digest) w

def controlStates (w : World) (cluster : String) : List World :=
  (w.controller fleet filter ns name cluster).states (serve digest) w

/-- The world after runs of controllers in a given order. -/
def controlAll (w : World) : List String → World
  | [] => w
  | cluster :: order => (w.control digest fleet filter ns name cluster).2.controlAll order

end

section

variable {digest : Option String} {fleet : Fleet} {filter : TagFilter} {ns name : String}
  {w t : World} {cluster : String}

/-- A run of a cluster's controller has succeeded, has left remnants everywhere, and does not manage
its stream any more. -/
structure Controlled (fleet : Fleet) (ns name cluster : String) (t : World)
    (run : Except SyncError Unit × World) : Prop where
  ok : run.1 = .ok ()
  sound : run.2.Sound
  withers : ∀ c ∈ fleet.names, Withers t run.2 c ns name
  free : run.2.IsFree cluster ns name

/-- So it is where the stream is being deleted and managed. -/
theorem controlled_of_doomed (sound : w.Sound) (owned : cluster ∈ fleet.names)
    {stored : StoredStream} (hs : w.stream? cluster ns name = some stored)
    (hterm : stored.stream.metadata.isTerminating = true)
    (hm : stored.stream.metadata.isManaged = true) :
    Controlled fleet ns name cluster w (w.control digest fleet filter ns name cluster) := by
  have hcontrol : w.control digest fleet filter ns name cluster =
      (retire fleet cluster stored.stream).run.play (serve digest) w := by
    rw [control, controller, hs]
    simp only [reactTo, if_pos hterm, if_pos hm]
  rw [hcontrol]
  obtain ⟨⟨hok, hwithers, hfree⟩, hsound⟩ :=
    ((ensures_retire sound owned hs hterm hm).sound sound).play
  exact ⟨hok, hsound, hwithers, hfree⟩

theorem Withers.self (h : Withers w t cluster ns name) : Withers t t cluster ns name where
  remnant := by
    intro kept hkept
    obtain ⟨stored, -, hrem⟩ := h.remnant kept hkept
    exact ⟨kept, hkept, hrem.terminating, hrem.held, Or.inl rfl⟩
  held := by
    intro stored hs _
    exact ⟨stored, hs⟩

/-- A controller succeeds where only remnants are left, and leaves remnants. -/
theorem controlled_of_withers (sound : t.Sound)
    (withers : ∀ c ∈ fleet.names, Withers w t c ns name) (owned : cluster ∈ fleet.names) :
    Controlled fleet ns name cluster t (t.control digest fleet filter ns name cluster) := by
  -- A controller that has nothing to do changes nothing.
  have idle (hidle : t.controller fleet filter ns name cluster = pure (.ok ()))
      (hfree : t.IsFree cluster ns name) :
      Controlled fleet ns name cluster t (t.control digest fleet filter ns name cluster) := by
    rw [control, hidle]
    exact ⟨rfl, sound, fun c hc => (withers c hc).self, hfree⟩
  cases hs : t.stream? cluster ns name with
  | none =>
      exact idle (by rw [controller, hs]) fun kept hkept => by cases hkept.symm.trans hs
  | some stored =>
      obtain ⟨before, -, hrem⟩ := (withers cluster owned).remnant stored hs
      have hterm := hrem.terminating
      cases hm : stored.stream.metadata.isManaged with
      | true => exact controlled_of_doomed sound owned hs hterm hm
      | false =>
          refine idle ?_ fun kept hkept => ?_
          · rw [controller, hs]
            simp only [reactTo, if_pos hterm, hm]
            rfl
          · obtain rfl := Option.some.inj (hkept.symm.trans hs)
            exact hm

/-- Where nothing is live, a controller brings nothing live about, not even for a moment. -/
theorem not_isLive_of_mem_controlStates (withers : ∀ c ∈ fleet.names, Withers w t c ns name)
    (owned : cluster ∈ fleet.names) {u : World}
    (hu : u ∈ t.controlStates digest fleet filter ns name cluster) {c : String}
    (hc : c ∈ fleet.names) : ¬ u.IsLive c ns name := by
  obtain ⟨earlier, later, hsplit, hleads⟩ := Plan.exists_leads_of_mem_states hu
  have hrun := Plan.run_play (serve digest) (t.controller fleet filter ns name cluster) t
  -- The controller does nothing or retires the stream, and neither creates one.
  have hall : ∀ e ∈ earlier ++ later, e.call.isRetirement = true := by
    rw [hsplit] at hrun
    rw [controller] at hrun
    split at hrun
    · obtain ⟨hnil, -⟩ := Plan.run_pure_iff.mp hrun
      rw [hnil]
      simp
    · next stored hs =>
      obtain ⟨before, -, hrem⟩ := (withers cluster owned).remnant stored hs
      rw [reactTo, if_pos hrem.terminating] at hrun
      split at hrun
      · exact retire_only _ _ _ hrun
      · obtain ⟨hnil, -⟩ := Job.run_pure_iff.mp hrun
        rw [hnil]
        simp
  refine hleads.not_isLive (fun e he _ n stream hcall => ?_) (withers c hc).not_isLive
  have hkind := hall e (List.mem_append_left _ he)
  rw [hcall] at hkind
  cases hkind

/-- Runs of controllers leave remnants, of which none is managed whose controller has run. -/
theorem controlAll_spec {order : List String} (sound : t.Sound)
    (withers : ∀ c ∈ fleet.names, Withers w t c ns name) (horder : ∀ c ∈ order, c ∈ fleet.names) :
    (t.controlAll digest fleet filter ns name order).Sound ∧
      (∀ c ∈ fleet.names, Withers w (t.controlAll digest fleet filter ns name order) c ns name) ∧
      ∀ c ∈ fleet.names, c ∈ order ∨ t.IsFree c ns name →
        (t.controlAll digest fleet filter ns name order).IsFree c ns name := by
  induction order generalizing t with
  | nil => exact ⟨sound, withers, fun c _ hfree => hfree.resolve_left (by simp)⟩
  | cons cluster order ih =>
      obtain ⟨owned, horder⟩ := List.forall_mem_cons.mp horder
      -- This run finds only remnants, and the others find what it leaves.
      have hrun : Controlled fleet ns name cluster t
          (t.control digest fleet filter ns name cluster) :=
        controlled_of_withers sound withers owned
      obtain ⟨hsound, hwithers, hfree⟩ := ih hrun.sound
        (fun c hc => (withers c hc).trans (hrun.withers c hc)) horder
      refine ⟨hsound, hwithers, fun c hc hdone => hfree c hc ?_⟩
      -- What is free at some time stays free, since from then on it only withers.
      rcases hdone with hmem | hfree
      · rcases List.mem_cons.mp hmem with rfl | hmem
        · exact Or.inr hrun.free
        · exact Or.inl hmem
      · exact Or.inr ((hrun.withers c hc).isFree hfree)

end

end World

/-- **A deletion completes in any order.** Let a stream be deleted and managed on one cluster, whose
controller runs once, and then the controllers of any clusters any number of times. All runs
succeed, and from the first one on no cluster has a live copy, not even during a run. A copy that
other parties hold is never lost, and neither are their finalizers. Once every cluster that still
has a copy has had a run, exactly these copies are left, and each has the finalizers that other
parties had put on it before, all of them and in their order, and no others. -/
theorem deletion_completes_in_any_order {digest : Option String} {fleet : Fleet}
    {filter : TagFilter} {ns name owner : String} {w : World} {doomed : StoredStream}
    (sound : w.Sound) (owned : owner ∈ fleet.names)
    (stored : w.stream? owner ns name = some doomed)
    (terminating : doomed.stream.metadata.isTerminating = true)
    (managed : doomed.stream.metadata.isManaged = true) :
    (w.control digest fleet filter ns name owner).1 = .ok () ∧
    ∀ order, (∀ c ∈ order, c ∈ fleet.names) →
      let t := (w.control digest fleet filter ns name owner).2.controlAll digest fleet filter ns
        name order
      (∀ c ∈ fleet.names, ¬ t.IsLive c ns name) ∧
      (∀ c ∈ fleet.names, (t.control digest fleet filter ns name c).1 = .ok () ∧
        ∀ u ∈ t.controlStates digest fleet filter ns name c, ∀ c' ∈ fleet.names,
          ¬ u.IsLive c' ns name) ∧
      (∀ c ∈ fleet.names, ∀ before, w.stream? c ns name = some before →
        foreignFinalizers before.stream.metadata.finalizerList ≠ [] →
        ∃ kept, t.stream? c ns name = some kept ∧
          foreignFinalizers kept.stream.metadata.finalizerList =
            foreignFinalizers before.stream.metadata.finalizerList) ∧
      ((∀ c ∈ fleet.names, (t.stream? c ns name).isSome = true → c = owner ∨ c ∈ order) →
        ∀ c ∈ fleet.names,
          (∀ kept, t.stream? c ns name = some kept →
            kept.stream.metadata.isManaged = false ∧
            kept.stream.metadata.finalizerList ≠ [] ∧
            ∃ before, w.stream? c ns name = some before ∧ kept.stream.metadata.finalizerList =
              foreignFinalizers before.stream.metadata.finalizerList) ∧
          ∀ before, w.stream? c ns name = some before →
            foreignFinalizers before.stream.metadata.finalizerList ≠ [] →
            ∃ kept, t.stream? c ns name = some kept ∧ kept.stream.metadata.finalizerList =
              foreignFinalizers before.stream.metadata.finalizerList) := by
  have first : World.Controlled fleet ns name owner w
      (w.control digest fleet filter ns name owner) :=
    World.controlled_of_doomed sound owned stored terminating managed
  refine ⟨first.ok, ?_⟩
  intro order horder t
  obtain ⟨hsound, hwithers, hfree⟩ : t.Sound ∧ (∀ c ∈ fleet.names, World.Withers w t c ns name) ∧
      ∀ c ∈ fleet.names, c ∈ order ∨ World.IsFree _ c ns name → t.IsFree c ns name :=
    World.controlAll_spec first.sound first.withers horder
  refine ⟨?_, ?_, ?_, ?_⟩
  · intro c hc
    exact (hwithers c hc).not_isLive
  · intro c hc
    refine ⟨(World.controlled_of_withers hsound hwithers hc).ok, ?_⟩
    intro u hu c' hc'
    exact World.not_isLive_of_mem_controlStates hwithers hc hu hc'
  · intro c hc before hbefore hheld
    obtain ⟨kept, hkept, hrem⟩ := (hwithers c hc).exists_kept hbefore hheld
    exact ⟨kept, hkept, hrem.foreign_eq⟩
  · intro hdone c hc
    -- The cluster has had a run if it has a copy, so the copy is not managed.
    have unmanaged : t.IsFree c ns name := by
      intro kept hkept
      refine hfree c hc ?_ kept hkept
      rcases hdone c hc (by rw [hkept]; rfl) with rfl | hmem
      · exact Or.inr first.free
      · exact Or.inl hmem
    constructor
    · intro kept hkept
      have hm := unmanaged kept hkept
      obtain ⟨before, hbefore, hrem⟩ := (hwithers c hc).remnant kept hkept
      exact ⟨hm, hrem.held, before, hbefore, hrem.finalizers_eq hm⟩
    · intro before hbefore hheld
      obtain ⟨kept, hkept, hrem⟩ := (hwithers c hc).exists_kept hbefore hheld
      exact ⟨kept, hkept, hrem.finalizers_eq (unmanaged kept hkept)⟩

/-! ### Copies that another party holds as well -/

/-- The copies of a stream that `app.ci` deletes and another party holds on two clusters. -/
def jointCopies : String → Option StoredStream
  | "app.ci" => some { stream := doomedStream }
  | "api.ci" => some { stream := { doomedStream with
      metadata := { doomedStream.metadata with deletionTimestamp := none } } }
  | _ => none

def jointlyHeld : World := .ofCopies "ci" "applyconfig" jointCopies

theorem sound_jointlyHeld : jointlyHeld.Sound := by
  refine World.sound_ofCopies fun c stored h => ?_
  rw [jointCopies.eq_def] at h
  split at h
  · obtain rfl := Option.some.inj h
    exact ⟨by decide, by decide, rfl, rfl⟩
  · obtain rfl := Option.some.inj h
    exact ⟨by decide, by decide, rfl, rfl⟩
  · cases h

/-- After runs of all controllers, on `app.ci` first. -/
def afterAllRuns : World :=
  (jointlyHeld.control none threeClusters default "ci" "applyconfig" "app.ci").2.controlAll none
    threeClusters default "ci" "applyconfig" ["api.ci", "build01"]

/-- The copies on `api.ci` and `app.ci` are left, and held by the other party. -/
theorem foreign_hold_remains : jointlyHeld.Sound ∧ ∀ c ∈ ["api.ci", "app.ci"], ∃ kept,
    afterAllRuns.stream? c "ci" "applyconfig" = some kept ∧
      kept.stream.metadata.isManaged = false ∧
      kept.stream.metadata.finalizerList = ["another"] := by
  refine ⟨sound_jointlyHeld, ?_⟩
  obtain ⟨-, hall⟩ := @deletion_completes_in_any_order none threeClusters default "ci" "applyconfig"
    "app.ci" jointlyHeld _ sound_jointlyHeld (by decide) rfl rfl rfl
  obtain ⟨-, -, -, hdone⟩ := hall ["api.ci", "build01"] (by decide)
  have hnames : threeClusters.names = ["api.ci", "app.ci", "build01"] := rfl
  have hcovered : ∀ c ∈ threeClusters.names, c = "app.ci" ∨ c ∈ ["api.ci", "build01"] := by
    rw [hnames]
    decide
  intro c hc
  have hmem : c ∈ threeClusters.names := by
    rw [hnames]
    revert c
    decide
  -- Both copies have the finalizer of the other party before.
  obtain ⟨before, hbefore, hforeign⟩ : ∃ before, jointlyHeld.stream? c "ci" "applyconfig" =
      some before ∧ foreignFinalizers before.stream.metadata.finalizerList = ["another"] := by
    simp only [List.mem_cons, List.not_mem_nil, or_false] at hc
    rcases hc with rfl | rfl
    · exact ⟨_, rfl, rfl⟩
    · exact ⟨_, rfl, rfl⟩
  obtain ⟨hleft, hheld⟩ := hdone (fun c hc _ => hcovered c hc) c hmem
  obtain ⟨kept, hkept, hlist⟩ := hheld before hbefore (by rw [hforeign]; simp)
  exact ⟨kept, hkept, (hleft kept hkept).1, hlist.trans hforeign⟩

end TagSync
