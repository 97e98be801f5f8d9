import TagSync.Proofs.Finality

/-!
# Where passes come to rest

After a pass that succeeds and spares no cluster for being the origin of the image, all clusters
carry the image of the source (`Copying.settled`). From then on it does not matter which cluster
has the newest copy: the others have that image as well, so a pass finds nothing to copy and at
most holds its source (`World.Settled.effect`). That keeps the clusters settled, pass after pass
(`sync_reaches_fixed_point`).
-/

set_option autoImplicit false

namespace TagSync

open Api
open Plan (Exchange)

/-! ## Clusters that carry an image -/

/-- A stream that is not being deleted has the image with a digest under a tag. -/
structure StoredStream.Carries (stored : StoredStream) (tag digest : String) : Prop where
  live : stored.stream.metadata.isTerminating = false
  image : ∃ own, stored.tags tag = some own ∧ own.image.digest = some digest

namespace World

/-- The cluster has no stream of that name that is being deleted. -/
def Unmarked (w : World) (cluster ns stream : String) : Prop :=
  ∀ stored, w.stream? cluster ns stream = some stored →
    stored.stream.metadata.isTerminating = false

/-- The cluster has the image under the tag of a stream that is not being deleted. -/
def Carries (w : World) (cluster ns stream tag digest : String) : Prop :=
  ∃ stored, w.stream? cluster ns stream = some stored ∧ stored.Carries tag digest

theorem Unmarked.carries {w : World} {cluster ns stream tag digest : String}
    {own : ImageStreamTag} (h : w.Unmarked cluster ns stream)
    (htag : w.tag? cluster ns stream tag = some own) (hdigest : own.image.digest = some digest) :
    w.Carries cluster ns stream tag digest := by
  obtain ⟨stored, hs, hown⟩ := Option.bind_eq_some_iff.mp htag
  exact ⟨stored, hs, h stored hs, own, hown, hdigest⟩

theorem Carries.exists_tag? {w : World} {cluster ns stream tag digest : String}
    (h : w.Carries cluster ns stream tag digest) :
    ∃ own, w.tag? cluster ns stream tag = some own ∧ own.image.digest = some digest := by
  obtain ⟨stored, hs, -, own, hown, hdigest⟩ := h
  exact ⟨own, Option.bind_eq_some_iff.mpr ⟨stored, hs, hown⟩, hdigest⟩

namespace Rewrites

variable {digest : Option String} {w : World} {ns name tag d : String} {call : Call}
  {before after : Option StoredStream} {stored : StoredStream}

/-- Only a deletion marks a stream. -/
theorem unmarked_after (h : Rewrites digest w ns name call before after)
    (hdelete : call ≠ .deleteStream ns name)
    (hbefore : ∀ earlier, before = some earlier → earlier.stream.metadata.isTerminating = false)
    (hafter : after = some stored) : stored.stream.metadata.isTerminating = false := by
  cases h with
  | created =>
      obtain rfl := Option.some.inj hafter
      rfl
  | finalized | annotated =>
      obtain ⟨rfl, -⟩ := StoredStream.settled_eq_some_iff.mp hafter
      have hlive := hbefore _ rfl
      exact hlive
  | removed | marked => exact absurd rfl hdelete
  | imported =>
      obtain rfl := Option.some.inj hafter
      have hlive := hbefore _ rfl
      exact hlive

/-- Without deletions an image stays where it is, for imports bring in the same one. -/
theorem carries_after (h : Rewrites (some d) w ns name call before after)
    (hdelete : call ≠ .deleteStream ns name) (hbefore : before = some stored)
    (hcarries : stored.Carries tag d) : ∃ later, after = some later ∧ later.Carries tag d := by
  obtain ⟨hlive, own, hown, hdigest⟩ := hcarries
  cases h with
  | created => cases hbefore
  | finalized | annotated =>
      obtain rfl := Option.some.inj hbefore
      exact ⟨_, StoredStream.settled_eq_some_iff.mpr
        ⟨rfl, fun hterm => absurd (hterm.symm.trans hlive) nofun⟩, hlive, own, hown, hdigest⟩
  | removed | marked => exact absurd rfl hdelete
  | @imported stored' request image target _ _ _ =>
      obtain rfl := Option.some.inj hbefore
      refine ⟨_, rfl, hlive, ?_⟩
      -- An import into this tag brings in the same image, and one into another tag is no matter.
      by_cases htarget : tag = target.name
      · exact ⟨_, if_pos htarget, rfl⟩
      · exact ⟨own, (if_neg htarget).trans hown, hdigest⟩

end Rewrites

end World

section

variable {digest : Option String} {flaky : String → Prop} {w w' : World} {e : Exchange}
  {exchanges : List Exchange} {c ns name tag d : String}

theorem Leads.unmarked (h : Leads (Serves digest flaky) w exchanges w')
    (hdelete : ∀ e ∈ exchanges, e.call ≠ .deleteStream ns name) (hunmarked : w.Unmarked c ns name) :
    w'.Unmarked c ns name := by
  refine h.preserves (P := fun t => t.Unmarked c ns name) (fun e he t t' hstep ht => ?_) hunmarked
  intro stored hs
  rcases hstep.stream?_cases c ns name with heq | ⟨-, hrewrites⟩
  · exact ht stored (heq ▸ hs)
  · exact hrewrites.unmarked_after (hdelete e he) ht hs

theorem Leads.carries (h : Leads (Serves (some d) flaky) w exchanges w')
    (hdelete : ∀ e ∈ exchanges, e.call ≠ .deleteStream ns name)
    (hcarries : w.Carries c ns name tag d) : w'.Carries c ns name tag d := by
  refine h.preserves (P := fun t => t.Carries c ns name tag d) (fun e he t t' hstep ht => ?_)
    hcarries
  obtain ⟨stored, hs, hcarried⟩ := ht
  rcases hstep.stream?_cases c ns name with heq | ⟨-, hrewrites⟩
  · exact ⟨stored, heq.trans hs, hcarried⟩
  · exact hrewrites.carries_after (hdelete e he) hs hcarried

theorem Serves.carries_of_report (h : Serves (some d) flaky w e w')
    (hunmarked : w.Unmarked c ns name) (hreport : ReportsImport ns name tag c e) :
    w'.Carries c ns name tag d := by
  obtain ⟨reference, answer, status, only, rfl, -⟩ := hreport
  rcases h with hserve | ⟨-, -, ⟨cause, hcause⟩, -⟩
  · rcases World.importInto_cases (some d) w c ns name tag reference with
      ⟨-, hrefused⟩ | ⟨stored, answer', hs, -, hserved⟩
    · cases (Prod.mk.inj (hrefused.symm.trans hserve)).1
    · obtain rfl := (Prod.mk.inj (hserved.symm.trans hserve)).2
      refine ⟨_, (World.stream?_put _ _ _ _ _ _ _ _).trans (if_pos ⟨rfl, rfl, rfl⟩), ?_⟩
      exact ⟨hunmarked stored hs, _, if_pos rfl, rfl⟩
  · cases hcause

theorem Leads.carries_of_report (h : Leads (Serves (some d) flaky) w exchanges w')
    (hdelete : ∀ e ∈ exchanges, e.call ≠ .deleteStream ns name) (hunmarked : w.Unmarked c ns name)
    (he : e ∈ exchanges) (hreport : ReportsImport ns name tag c e) :
    w'.Carries c ns name tag d := by
  obtain ⟨earlier, later, rfl⟩ := List.append_of_mem he
  obtain ⟨hearlier, hlater⟩ := List.forall_mem_append.mp hdelete
  obtain ⟨t, hbefore, hrest⟩ := leads_append_iff.mp h
  obtain ⟨u, hstep, hafter⟩ := leads_cons_iff.mp hrest
  exact hafter.carries (List.forall_mem_cons.mp hlater).2
    (hstep.carries_of_report (hbefore.unmarked hearlier hunmarked) hreport)

/-! ## What a pass finds -/

theorem observed_eq_observations {clusters : List String} {reads : List Exchange}
    (looked : (observe ns name clusters).Run reads (.ok (observed reads)))
    (served : Leads (Serves digest flaky) w reads w') :
    observed reads = w.observations ns name clusters ∧ w' = w := by
  by_cases hnone : clusters = []
  · subst hnone
    obtain ⟨rfl, -⟩ := Job.run_pure_iff.mp looked
    exact ⟨rfl, leads_nil_iff.mp served⟩
  · obtain ⟨hok, hw⟩ := ensures_observe (sendable_of_observe hnone looked) clusters looked served
    exact ⟨Except.ok.inj hok, hw⟩

section

variable {fleet : Fleet} {parts : TagName} {source : Source} {reads holding copies : List Exchange}
  {errors : List SyncError}

theorem Found.source?_eq {rest : List Exchange} (found : Found fleet ns name parts source reads)
    (served : Leads (Serves digest flaky) w (reads ++ source.streamRead ns parts :: rest) w') :
    w.source? fleet ns name = some source ∧
      observed reads = w.observations ns name fleet.names := by
  obtain ⟨t, hreads, hread⟩ := leads_append_iff.mp served
  obtain ⟨u, hstep, -⟩ := leads_cons_iff.mp hread
  obtain ⟨hobserved, rfl⟩ := observed_eq_observations found.looked hreads
  obtain ⟨-, stored, hs, hstream⟩ := hstep.stored_of_read
  refine ⟨(World.source?_eq_some_iff found.named).mpr ⟨?_, stored, hs, hstream.symm⟩, hobserved⟩
  exact hobserved ▸ found.newest

theorem Found.eq_source {other : Source} {rest : List Exchange}
    (found : Found fleet ns name parts other reads)
    (served : Leads (Serves digest flaky) w (reads ++ other.streamRead ns parts :: rest) w')
    (hsource : w.source? fleet ns name = some source) : other = source :=
  Option.some.inj ((found.source?_eq served).1.symm.trans hsource)

/-- A pass that succeeds copies from its source, unless that is being deleted. -/
theorem PassRun.copying_of_ok {outcome : Except SyncError Unit}
    (h : PassRun fleet ns name exchanges outcome) (ok : outcome = .ok ())
    (served : Leads (Serves digest flaky) w exchanges w')
    (hsource : w.source? fleet ns name = some source)
    (live : source.stream.metadata.isTerminating = false) :
    ∃ parts reads holding copies,
      Copying fleet ns name parts source reads holding copies [] ∧
      observed reads = w.observations ns name fleet.names ∧
      exchanges = reads ++ source.streamRead ns parts :: (holding ++ copies) := by
  cases h with
  | misnamed | unread | streamless | unheld => cases ok
  | absent hlook =>
      obtain ⟨parts, hparts, -⟩ := Option.bind_eq_some_iff.mp hsource
      obtain ⟨hnewest, -⟩ := (World.source?_eq_some_iff hparts).mp hsource
      -- A pass that finds nothing would have found the source.
      have hreads := (run_observe hlook).2.1
      rw [← (observed_eq_observations (hreads ▸ hlook) served).1, ← hreads] at hnewest
      cases hnewest
  | unmanaged hfound hterm =>
      obtain rfl := hfound.eq_source served hsource
      cases live.symm.trans hterm
  | retiring hfound hterm =>
      obtain rfl := hfound.eq_source served hsource
      cases live.symm.trans hterm
  | copying hcopying =>
      obtain rfl := hcopying.found.eq_source served hsource
      obtain rfl := SyncError.collect_eq_ok_iff.mp ok
      exact ⟨_, _, _, _, hcopying, (hcopying.found.source?_eq served).2, rfl⟩

/-! ## Settled clusters -/

/-- Every cluster carries the image under the tag. -/
structure World.Settled (w : World) (fleet : Fleet) (ns : String) (parts : TagName)
    (digest : String) : Prop where
  sound : w.Sound
  carries : ∀ c ∈ fleet.names, w.Carries c ns parts.stream parts.tag digest

/-- A pass that copies without a failure settles the clusters, if none was spared for being the
origin of the image. -/
theorem Copying.settled (h : Copying fleet ns name parts source reads holding copies [])
    (hobserved : observed reads = w.observations ns name fleet.names) (sound : w.Sound)
    (unmarked : ∀ c ∈ fleet.names, w.Unmarked c ns parts.stream)
    (hsource : w.source? fleet ns name = some source) (digest : source.tag.image.digest = some d)
    (noneSpared : ∀ c ∈ fleet.names, c ≠ source.cluster → source.tag.comesFrom c = false)
    (served : Leads (Serves (some d) flaky) w
      (reads ++ source.streamRead ns parts :: (holding ++ copies)) w') :
    w'.Settled fleet ns parts d where
  sound := served.sound sound
  carries := by
    intro c hc
    have named := h.found.named
    have hdelete : ∀ e ∈ reads ++ source.streamRead ns parts :: (holding ++ copies),
        e.call ≠ .deleteStream ns parts.stream := fun e he => h.deletes_nothing e he _ _
    obtain ⟨-, stored, hs, hstream⟩ := (World.source?_eq_some_iff named).mp hsource
    by_cases htarget : c ∈ fleet.targets source (observed reads)
    · -- A target has reported its copy, for no copy has failed.
      obtain ⟨e, he, hreport⟩ := h.errors_eq_nil_iff.mp rfl c htarget
      rw [hstream, (sound hs).namespaceName_eq, (sound hs).anyName_eq] at hreport
      refine served.carries_of_report hdelete (unmarked c hc) ?_ hreport
      exact List.mem_append_right _ (List.mem_cons_of_mem _ (List.mem_append_right _ he))
    · -- Any other cluster had the image before, and nothing was deleted since.
      refine served.carries hdelete ?_
      rw [hobserved, ← World.targets_eq hsource, World.mem_targets_iff named hsource] at htarget
      by_cases hne : c = source.cluster
      · subst hne
        exact (unmarked _ hc).carries (World.tag?_source named hsource).2 digest
      · by_contra hmissing
        refine htarget ⟨hc, hne, by simpa using noneSpared c hc hne, ?_⟩
        rintro ⟨own, x, hown, hx, hx'⟩
        obtain rfl := Option.some.inj (digest.symm.trans hx')
        exact hmissing ((unmarked c hc).carries hown hx)

namespace World.Settled

theorem digest_source (h : w.Settled fleet ns parts d) (named : TagName.parse? name = some parts)
    (hsource : w.source? fleet ns name = some source) : source.tag.image.digest = some d := by
  obtain ⟨hc, htag⟩ := World.tag?_source named hsource
  obtain ⟨own, hown, hdigest⟩ := (h.carries _ hc).exists_tag?
  obtain rfl := Option.some.inj (htag.symm.trans hown)
  exact hdigest

theorem exists_source? (h : w.Settled fleet ns parts d) (named : TagName.parse? name = some parts)
    (hc : c ∈ fleet.names) : ∃ source, w.source? fleet ns name = some source := by
  cases hnewest : newest? ((w.shelf ns parts.stream parts.tag).observations fleet.names) with
  | some o =>
      obtain ⟨stream, hsource⟩ := World.exists_source_of_newest named hnewest
      exact ⟨_, hsource⟩
  | none =>
      obtain ⟨own, hown, -⟩ := (h.carries c hc).exists_tag?
      have hmem : (c, own) ∈ (w.shelf ns parts.stream parts.tag).observations fleet.names :=
        Shelf.mem_observations.mpr ⟨hc, hown⟩
      rw [newest?_eq_none_iff.mp hnewest] at hmem
      cases hmem

theorem targets_eq_nil (h : w.Settled fleet ns parts d) (named : TagName.parse? name = some parts)
    (hsource : w.source? fleet ns name = some source) : w.targets fleet ns name = [] := by
  refine List.eq_nil_iff_forall_not_mem.mpr fun c htarget => ?_
  obtain ⟨hc, -, -, hmissing⟩ := (World.mem_targets_iff named hsource).mp htarget
  obtain ⟨own, hown, hdigest⟩ := (h.carries c hc).exists_tag?
  exact hmissing ⟨own, d, hown, hdigest, h.digest_source named hsource⟩

theorem stored_source (h : w.Settled fleet ns parts d) (named : TagName.parse? name = some parts)
    (hsource : w.source? fleet ns name = some source) :
    ∃ stored, w.stream? source.cluster ns parts.stream = some stored ∧
      source.stream = stored.stream ∧ source.stream.metadata.isTerminating = false := by
  obtain ⟨-, stored, hs, hstream⟩ := (World.source?_eq_some_iff named).mp hsource
  obtain ⟨stored', hs', hlive, -⟩ := h.carries _ (World.tag?_source named hsource).1
  obtain rfl := Option.some.inj (hs.symm.trans hs')
  exact ⟨stored, hs, hstream, hstream ▸ hlive⟩

/-- A pass over settled clusters that are healthy succeeds. -/
theorem ensures_ok (h : w.Settled fleet ns parts d) (named : TagName.parse? name = some parts)
    (sendable : (Call.getTag ns name).Sendable)
    (hsource : w.source? fleet ns name = some source) :
    Job.Ensures (Serves digest fun _ => False) (syncTag fleet ns name) w fun outcome _ =>
      outcome = .ok () := by
  obtain ⟨hnewest, -⟩ := (World.source?_eq_some_iff named).mp hsource
  obtain ⟨stored, hs, hstream, hlive⟩ := h.stored_source named hsource
  have stands := h.sound hs
  have hnone := h.targets_eq_nil named hsource
  rw [World.targets_eq hsource] at hnone
  obtain ⟨cluster, tag, stream⟩ := source
  dsimp only at hnewest hs hstream hlive hnone
  subst hstream
  simp only [syncTag, named]
  refine Job.Ensures.bind ((ensures_observe sendable fleet.names).mono ?_)
  rintro outcome w₁ ⟨rfl, rfl⟩
  refine ⟨_, rfl, ?_⟩
  simp only [hnewest]
  refine Job.Ensures.bind (Job.Ensures.require id
    (Call.Concerns.getStream.sendable stands.properNamespace stands.properName) ?_)
  simp only [World.serve, hs]
  refine ⟨stored.stream, rfl, ?_⟩
  simp only [hlive]
  refine Job.Ensures.bind ((ensures_hold_ok stands id hs).mono ?_)
  rintro outcome w₂ rfl
  refine ⟨(), rfl, ?_⟩
  -- Without targets no copy can fail.
  intro exchanges outcome w' hrun hleads
  obtain ⟨errors, copies, last, hcopies, hlast, rfl⟩ := Job.run_lift_bind_iff.mp hrun
  obtain ⟨rfl, rfl⟩ := Plan.run_done_iff.mp hlast
  have hcopies : Plan.Run (copyToAll fleet.credentials ⟨cluster, tag, stored.stream⟩ parts.tag
    (fleet.targets ⟨cluster, tag, stored.stream⟩ _)) copies errors := hcopies
  rw [hnone] at hcopies
  obtain ⟨rfl, rfl⟩ := Plan.run_pure_iff.mp hcopies
  rfl

end World.Settled

end

end

/-! ## Passes over settled clusters -/

def writes (exchanges : List Exchange) : List Exchange :=
  exchanges.filter fun e => e.method ≠ .get

def World.passExchanges (w : World) (fleet : Fleet) (ns name : String) : List Exchange :=
  (syncTag fleet ns name).run.exchangesWith (World.serve (w.digest? fleet ns name)) w

section

variable {w : World} {fleet : Fleet} {ns name d : String} {parts : TagName} {source : Source}

theorem World.run_passExchanges (w : World) (fleet : Fleet) (ns name : String) :
    (syncTag fleet ns name).Run (w.passExchanges fleet ns name) (w.pass fleet ns name).1 :=
  Plan.run_play _ _ _

theorem World.leads_passExchanges (hsource : w.source? fleet ns name = some source) :
    Leads (Serves source.tag.image.digest fun _ => False) w (w.passExchanges fleet ns name)
      (w.pass fleet ns name).2 :=
  World.digest?_eq hsource ▸ leads_serve _ _

/-- Of a pass without targets the hold is all that writes. -/
theorem Copying.writes_eq {reads holding copies : List Exchange} {errors : List SyncError}
    (h : Copying fleet ns name parts source reads holding copies errors)
    (hnone : fleet.targets source (observed reads) = []) :
    writes (reads ++ source.streamRead ns parts :: (holding ++ copies)) = holding := by
  have hcopies : copies = [] := by
    have hcopied := h.copied
    rw [hnone] at hcopied
    exact (Plan.run_pure_iff.mp hcopied).1
  -- What is left of the pass are reads and the hold.
  have hreads : writes (reads ++ [source.streamRead ns parts]) = [] :=
    List.filter_eq_nil_iff.mpr fun e he => by simpa using h.found.method_eq e he
  have hholding : writes holding = holding := by
    refine List.filter_eq_self.mpr fun e he => ?_
    rw [Exchange.method, (hold_asks _ _ h.held e he).2]
    rfl
  calc writes (reads ++ source.streamRead ns parts :: (holding ++ copies))
      = writes ((reads ++ [source.streamRead ns parts]) ++ holding) := by
        rw [hcopies, List.append_nil, List.append_cons]
    _ = writes (reads ++ [source.streamRead ns parts]) ++ writes holding := List.filter_append _ _
    _ = holding := by rw [hreads, hholding, List.nil_append]

/-- What a pass over settled clusters comes to: it succeeds and writes nothing, but for the managed
finalizer on a source that lacks it, and the clusters stay settled. -/
structure World.Rests (w : World) (fleet : Fleet) (ns name : String) (source : Source) : Prop where
  ok : (w.pass fleet ns name).1 = .ok ()
  managed : source.stream.metadata.isManaged = true → writes (w.passExchanges fleet ns name) = []
  unmanaged : source.stream.metadata.isManaged = false → ∃ stored,
    writes (w.passExchanges fleet ns name) =
      [⟨source.cluster, source.stream.holdCall, .ok stored⟩]

namespace World.Settled

/-- A pass over settled clusters rests. -/
theorem rests (h : w.Settled fleet ns parts d) (named : TagName.parse? name = some parts)
    (sendable : (Call.getTag ns name).Sendable)
    (hsource : w.source? fleet ns name = some source) :
    w.Rests fleet ns name source ∧ (w.pass fleet ns name).2.Settled fleet ns parts d := by
  have ok : (w.pass fleet ns name).1 = .ok () :=
    World.ensures_pass (h.ensures_ok named sendable hsource)
  have hleads := World.leads_passExchanges hsource
  obtain ⟨stored, hs, hstream, hlive⟩ := h.stored_source named hsource
  obtain ⟨parts', reads, holding, copies, hcopying, hobserved, hexchanges⟩ :=
    (PassRun.of_run (w.run_passExchanges fleet ns name)).copying_of_ok ok hleads hsource hlive
  -- Every cluster carries the image, so nothing is left to copy.
  have hnone := h.targets_eq_nil named hsource
  rw [World.targets_eq hsource, ← hobserved] at hnone
  have hwrites : writes (w.passExchanges fleet ns name) = holding :=
    hexchanges ▸ hcopying.writes_eq hnone
  refine ⟨⟨ok, fun hm => ?_, fun hm => ?_⟩, hleads.sound h.sound, fun c hc => ?_⟩
  · cases HoldRun.of_run hcopying.held with
    | managed => exact hwrites
    | confirmed hm' => cases hm.symm.trans hm'
  · cases HoldRun.of_run hcopying.held with
    | managed hm' => cases hm.symm.trans hm'
    | confirmed => exact ⟨_, hwrites⟩
  · rw [h.digest_source named hsource] at hleads
    refine hleads.carries (fun e he => ?_) (h.carries c hc)
    exact hcopying.deletes_nothing e (hexchanges ▸ he) _ _

theorem iterate (h : w.Settled fleet ns parts d) (named : TagName.parse? name = some parts)
    (sendable : (Call.getTag ns name).Sendable) {c : String} (hc : c ∈ fleet.names) (n : ℕ) :
    ((fun t : World => (t.pass fleet ns name).2)^[n] w).Settled fleet ns parts d := by
  induction n with
  | zero => exact h
  | succ n ih =>
      rw [Function.iterate_succ_apply']
      obtain ⟨source, hsource⟩ := ih.exists_source? named hc
      exact (ih.rests named sendable hsource).2

end World.Settled

end

/-- **Passes reach a fixed point.** Let a pass for a tag succeed whose source has a digest, while no
stream of that name is being deleted and no cluster is spared for being the origin of the image.
From then on all clusters carry the image. Every later pass with healthy clusters succeeds,
whichever cluster is its source, and it writes nothing but the managed finalizer on that source's
stream, if it is missing there. -/
theorem sync_reaches_fixed_point {fleet : Fleet} {ns name d : String} {parts : TagName}
    {source : Source} {flaky : String → Prop} {exchanges : List Exchange} {w w' : World}
    (sound : w.Sound) (named : TagName.parse? name = some parts)
    (unmarked : ∀ c ∈ fleet.names, w.Unmarked c ns parts.stream)
    (hsource : w.source? fleet ns name = some source) (digest : source.tag.image.digest = some d)
    (noneSpared : ∀ c ∈ fleet.names, c ≠ source.cluster → source.tag.comesFrom c = false)
    (run : (syncTag fleet ns name).Run exchanges (.ok ()))
    (served : Leads (Serves source.tag.image.digest flaky) w exchanges w') (n : ℕ) :
    let t := (fun t : World => (t.pass fleet ns name).2)^[n] w'
    t.Settled fleet ns parts d ∧
      ∃ next, t.source? fleet ns name = some next ∧ t.Rests fleet ns name next := by
  have hmem := (World.tag?_source named hsource).1
  have hlive : source.stream.metadata.isTerminating = false := by
    obtain ⟨-, stored, hs, hstream⟩ := (World.source?_eq_some_iff named).mp hsource
    exact hstream ▸ unmarked _ hmem stored hs
  obtain ⟨parts', reads, holding, copies, hcopying, hobserved, rfl⟩ :=
    (PassRun.of_run run).copying_of_ok rfl served hsource hlive
  obtain rfl : parts = parts' := Option.some.inj (named.symm.trans hcopying.found.named)
  have sendable := sendable_of_observe (List.ne_nil_of_mem hmem) hcopying.found.looked
  rw [digest] at served
  -- The first pass settles the clusters, and each later one leaves them settled.
  have first : w'.Settled fleet ns parts d :=
    hcopying.settled hobserved sound unmarked hsource digest noneSpared served
  have settled := first.iterate named sendable hmem n
  obtain ⟨next, hnext⟩ := settled.exists_source? named hmem
  exact ⟨settled, next, hnext, (settled.rests named sendable hnext).1⟩

/-! ### A source that is not managed -/

/-- A stream that another party holds, with an older image. -/
def outdatedStream : StoredStream where
  stream := foreignStream
  tags := fun tag => if tag = "latest" then some olderTag else none

/-- The copies while `app.ci` has a newer image than `api.ci`. -/
def unevenCopies : String → Option StoredStream
  | "app.ci" => some builtStream
  | "api.ci" => some outdatedStream
  | _ => none

def unevenWorld : World := .ofCopies "ci" "app" unevenCopies

theorem eq_of_unevenCopies {c : String} {stored : StoredStream}
    (h : unevenCopies c = some stored) : stored = builtStream ∨ stored = outdatedStream := by
  rw [unevenCopies.eq_def] at h
  split at h
  · exact Or.inl (Option.some.inj h).symm
  · exact Or.inr (Option.some.inj h).symm
  · cases h

theorem sound_unevenWorld : unevenWorld.Sound := by
  refine World.sound_ofCopies fun c stored h => ?_
  rcases eq_of_unevenCopies h with rfl | rfl
  · exact ⟨by decide, by decide, rfl, rfl⟩
  · exact ⟨by decide, by decide, rfl, rfl⟩

theorem unmarked_unevenWorld (c : String) : unevenWorld.Unmarked c "ci" "app" := by
  intro stored h
  rcases eq_of_unevenCopies (World.stream?_ofCopies_eq_some_iff.mp h).2.2 with rfl | rfl
  · rfl
  · rfl

theorem comesFrom_builtTag (c : String) : builtTag.comesFrom c = false := by
  rw [Bool.eq_false_iff]
  intro h
  obtain ⟨hosts, reference, -, hfrom, -⟩ := ImageStreamTag.comesFrom_iff.mp h
  cases hfrom

def evenWorld : World := (unevenWorld.pass twoClusters "ci" "app:latest").2

/-- The pass succeeds, and the source is then the copy on `api.ci`, which is not managed. -/
theorem source_evenWorld : (unevenWorld.pass twoClusters "ci" "app:latest").1 = .ok () ∧
    ∃ next, evenWorld.source? twoClusters "ci" "app:latest" = some next ∧
      next.cluster = "api.ci" ∧ next.stream.metadata.isManaged = false := by
  have hnext : ((unevenWorld.pass twoClusters "ci" "app:latest").1.toOption.bind fun _ =>
      (evenWorld.source? twoClusters "ci" "app:latest").map fun next =>
        (next.cluster, next.stream.metadata.isManaged)) = some ("api.ci", false) := by
    decide +kernel
  obtain ⟨done, hdone, hnext⟩ := Option.bind_eq_some_iff.mp hnext
  obtain ⟨next, hsource, heq⟩ := Option.map_eq_some_iff.mp hnext
  obtain ⟨hcluster, hm⟩ := Prod.mk.inj heq
  refine ⟨?_, next, hsource, hcluster, hm⟩
  cases hpass : (unevenWorld.pass twoClusters "ci" "app:latest").1 with
  | ok => rfl
  | error e =>
      rw [hpass] at hdone
      cases hdone

/-- The next pass holds the stream that got the image, and copies nothing. -/
theorem new_source_is_held :
    (unevenWorld.pass twoClusters "ci" "app:latest").1 = .ok () ∧
    ∃ next stored, evenWorld.source? twoClusters "ci" "app:latest" = some next ∧
      (evenWorld.pass twoClusters "ci" "app:latest").1 = .ok () ∧
      writes (evenWorld.passExchanges twoClusters "ci" "app:latest") =
        [⟨"api.ci", next.stream.holdCall, .ok stored⟩] := by
  obtain ⟨ok, next, hnext, hcluster, hm⟩ := source_evenWorld
  have named : TagName.parse? "app:latest" = some ⟨"app", "latest"⟩ := rfl
  have hsource : unevenWorld.source? twoClusters "ci" "app:latest" =
      some ⟨"app.ci", builtTag, heldStream⟩ := rfl
  have run : (syncTag twoClusters "ci" "app:latest").Run _ (.ok ()) :=
    ok ▸ unevenWorld.run_passExchanges twoClusters "ci" "app:latest"
  obtain ⟨-, next', hnext', rests⟩ := sync_reaches_fixed_point sound_unevenWorld named
    (fun c _ => unmarked_unevenWorld c) hsource rfl (fun c _ _ => comesFrom_builtTag c) run
    (World.leads_passExchanges hsource) 0
  obtain rfl := Option.some.inj (hnext.symm.trans hnext')
  obtain ⟨stored, hwrites⟩ := rests.unmanaged hm
  exact ⟨ok, next, stored, hnext, rests.ok, hcluster ▸ hwrites⟩

end TagSync
