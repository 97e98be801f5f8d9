import TagSync.Proofs.Service
import TagSync.Proofs.Shelf

/-!
# Tasks on healthy clusters

On a healthy cluster every step of a copy succeeds (`ensures_copyTo`). On any cluster a copy
changes one tag at most, and that one exactly if it succeeds (`copyTo_effect`).
-/

set_option autoImplicit false

namespace TagSync

open Api
open Plan (Exchange)

section

variable {digest : Option String} {flaky : String → Prop} {w w' : World} {cluster : String}

/-! ## Tasks that keep tags -/

/-- Calls that bring in no image and delete nothing take nothing away and change no tag. -/
theorem Leads.keeps {exchanges : List Exchange} (live : w.Live)
    (h : Leads (Serves digest flaky) w exchanges w')
    (hall : ∀ e ∈ exchanges, e.call.keepsTags = true) :
    World.Extends w w' ∧ World.KeepsTags w w' := by
  induction exchanges generalizing w with
  | nil =>
      obtain rfl := leads_nil_iff.mp h
      exact ⟨.refl _, .refl _⟩
  | cons e exchanges ih =>
      obtain ⟨t, hstep, hrest⟩ := leads_cons_iff.mp h
      obtain ⟨hcall, hall⟩ := List.forall_mem_cons.mp hall
      -- A refusal changes nothing, and a call that is served keeps what is there.
      have hkeeps : World.Extends w t ∧ World.KeepsTags w t := by
        rcases hstep with hserve | ⟨-, -, -, rfl⟩
        · have ht : (w.serve digest e.cluster e.call).2 = t := congrArg Prod.snd hserve
          exact ht ▸ World.serve_keeps live digest e.cluster hcall
        · exact ⟨.refl _, .refl _⟩
      obtain ⟨hextends, hkept⟩ := ih (hkeeps.1.live live) hrest hall
      exact ⟨hkeeps.1.trans hextends, hkeeps.2.trans hkept⟩

theorem Job.Ensures.keeping {α : Type} {job : Job α} {Q : Except SyncError α → World → Prop}
    (live : w.Live) (only : Job.Only (fun _ call => call.keepsTags = true) job)
    (h : Job.Ensures (Serves digest flaky) job w Q) :
    Job.Ensures (Serves digest flaky) job w fun outcome w' =>
      Q outcome w' ∧ World.Extends w w' ∧ World.KeepsTags w w' :=
  fun _ _ _ hrun hleads => ⟨h hrun hleads, hleads.keeps live (only hrun)⟩

theorem Prepares.keepsTags {target c : String} {call : Call} (h : Prepares target c call) :
    call.keepsTags = true := by
  obtain ⟨-, h⟩ := h
  cases call with
  | deleteStream | importImages => cases h
  | _ => rfl

/-! ## Tags across clusters -/

def World.shelf (w : World) (ns stream tag : String) : Shelf where
  tag? := fun c => w.tag? c ns stream tag
  times := w.times

theorem World.KeepsTags.shelf_eq (h : World.KeepsTags w w') (ns stream tag : String) :
    w'.shelf ns stream tag = w.shelf ns stream tag :=
  Shelf.ext (funext fun c => h.tags c ns stream tag) h.times

theorem World.shelf_putTag {ns stream tag : String} {stored : StoredStream}
    (hs : w.stream? cluster ns stream = some stored) (make : Instant → ImageStreamTag) :
    (w.putTag cluster ns stream tag stored (make (w.times 0))).shelf ns stream tag =
      (w.shelf ns stream tag).put make cluster := by
  refine Shelf.ext (funext fun c => ?_) rfl
  show (w.putTag cluster ns stream tag stored (make (w.times 0))).tag? c ns stream tag =
    if c = cluster then some (make (w.times 0)) else w.tag? c ns stream tag
  rw [World.tag?_putTag hs]
  simp

/-! ## Reading -/

def World.observations (w : World) (ns name : String) (clusters : List String) :
    List (String × ImageStreamTag) :=
  clusters.filterMap fun c => (w.look? c ns name).map (c, ·)

/-- Looking for a tag finds what is there, and changes nothing. -/
theorem ensures_observe {ns name : String} (sendable : (Call.getTag ns name).Sendable)
    (clusters : List String) :
    Job.Ensures (Serves digest flaky) (observe ns name clusters) w fun outcome w' =>
      outcome = .ok (w.observations ns name clusters) ∧ w' = w := by
  induction clusters with
  | nil => exact Job.Ensures.pure ⟨rfl, rfl⟩
  | cons cluster clusters ih =>
      refine Job.Ensures.bind (Job.Ensures.send (fun _ => rfl) sendable ⟨_, rfl, ?_⟩)
      show Job.Ensures _ _ w _
      -- A cluster without the tag adds nothing to what is observed.
      cases hlook : w.look? cluster ns name with
      | none =>
          have hrest : w.observations ns name (cluster :: clusters) =
              w.observations ns name clusters := by simp [World.observations, hlook]
          simp only [World.serve, hlook, hrest]
          exact ih
      | some tag =>
          have hrest : w.observations ns name (cluster :: clusters) =
              (cluster, tag) :: w.observations ns name clusters := by
            simp [World.observations, hlook]
          simp only [World.serve, hlook, hrest]
          refine Job.Ensures.bind (ih.mono ?_)
          rintro outcome w' ⟨rfl, rfl⟩
          exact ⟨_, rfl, Job.Ensures.pure ⟨rfl, rfl⟩⟩

/-! ## Preparing -/

/-- A healthy cluster has the namespace in the end. -/
theorem ensures_provideNamespace {ns : String} (live : w.Live) (healthy : ¬ flaky cluster)
    (hns : IsObjectName ns) :
    Job.Ensures (Serves digest flaky) (provideNamespace cluster ns) w fun outcome w' =>
      (outcome = .ok () ∧ (w'.namespace? cluster ns).isSome = true) ∧
        World.Extends w w' ∧ World.KeepsTags w w' := by
  have hget : (Call.getNamespace ns).Sendable := Call.Concerns.getNamespace.sendable hns hns
  have hcreate : (Call.createNamespace ns).Sendable :=
    Call.Concerns.createNamespace.sendable hns hns
  refine Job.Ensures.keeping live ((provideNamespace_only cluster ns).mono fun h => h.keepsTags) ?_
  refine Job.Ensures.bind (Job.Ensures.send (fun h => absurd h healthy) hget ⟨_, rfl, ?_⟩)
  cases hn : w.namespace? cluster ns with
  | some object =>
      simp only [World.serve, hn]
      exact Job.Ensures.pure ⟨rfl, by rw [hn]; rfl⟩
  | none =>
      simp only [World.serve, hn]
      -- The name is free, so the creation succeeds.
      refine Job.Ensures.bind (Job.Ensures.require healthy hcreate ?_)
      simp only [World.serve, hn]
      refine ⟨_, rfl, Job.Ensures.pure ⟨rfl, ?_⟩⟩
      rw [World.namespace?_putNamespace, if_pos ⟨rfl, rfl⟩]
      rfl

/-- A stream that can be copied: its names are proper, and it has one of its own. -/
structure ImageStream.IsProper (stream : ImageStream) : Prop where
  properNamespace : IsObjectName stream.namespaceName
  properName : IsObjectName stream.name
  named : stream.metadata.name = some stream.name

theorem ImageStream.IsProper.copy_name {stream : ImageStream} (h : stream.IsProper) :
    stream.copy.name = stream.name := by
  show (stream.metadata.name.or none).getD "" = stream.name
  rw [h.named]
  rfl

theorem StoredStream.IsNamed.namespaceName_eq {ns name : String} {stored : StoredStream}
    (h : stored.IsNamed ns name) : stored.stream.namespaceName = ns := by
  rw [ImageStream.namespaceName, ObjectMeta.namespaceOrEmpty, h.namespace_eq]
  rfl

theorem StoredStream.IsNamed.anyName_eq {ns name : String} {stored : StoredStream}
    (h : stored.IsNamed ns name) : stored.stream.name = name := by
  rw [ImageStream.name, ObjectMeta.anyName, h.name_eq]
  rfl

theorem StoredStream.IsNamed.isProper {ns name : String} {stored : StoredStream}
    (h : stored.IsNamed ns name) : stored.stream.IsProper where
  properNamespace := h.namespaceName_eq.symm ▸ h.properNamespace
  properName := h.anyName_eq.symm ▸ h.properName
  named := h.anyName_eq.symm ▸ h.name_eq

/-- A healthy cluster with the namespace has a stream of that name in the end. -/
theorem ensures_provideStream {source : ImageStream} (live : w.Live) (healthy : ¬ flaky cluster)
    (proper : source.IsProper)
    (hn : (w.namespace? cluster source.namespaceName).isSome = true) :
    Job.Ensures (Serves digest flaky) (provideStream cluster source) w fun outcome w' =>
      (outcome = .ok () ∧
        (w'.stream? cluster source.namespaceName source.name).isSome = true) ∧
        World.Extends w w' ∧ World.KeepsTags w w' := by
  have hns := proper.properNamespace
  have hname := proper.properName
  refine Job.Ensures.keeping live ((provideStream_only cluster source).mono fun h => h.keepsTags) ?_
  refine Job.Ensures.bind (Job.Ensures.find? healthy
    (Call.Concerns.getStream.sendable hns hname) ?_)
  cases hs : w.stream? cluster source.namespaceName source.name with
  | none =>
      simp only [World.serve, hs]
      refine ⟨none, rfl, Job.Ensures.bind (Job.Ensures.require healthy
        ((Call.Concerns.createStream _).sendable hns hname) ?_)⟩
      -- The copy has the name of the source, and this name is free.
      have hcreate := World.create_eq hns (proper.copy_name.symm ▸ hname) hn
        (proper.copy_name.symm ▸ hs)
      simp only [World.serve, hcreate]
      refine ⟨_, rfl, Job.Ensures.pure ⟨rfl, ?_⟩⟩
      rw [World.stream?_put, if_pos ⟨rfl, rfl, proper.copy_name.symm⟩]
      rfl
  | some stored =>
      simp only [World.serve, hs]
      refine ⟨some stored.stream, rfl, ?_⟩
      -- An existing stream stays where it is; at most its annotations change.
      have hpresent : (w.stream? cluster source.namespaceName source.name).isSome = true := by
        rw [hs]
        rfl
      dsimp only
      split
      · exact Job.Ensures.pure ⟨rfl, hpresent⟩
      · refine Job.Ensures.bind (Job.Ensures.require healthy
          ((Call.Concerns.setAnnotations _).sendable hns hname) ?_)
        obtain ⟨stream, hok⟩ := World.change_ok hs (Or.inl rfl) fun m =>
          { m with annotations := some (m.annotationMap.merge
            (stored.stream.missingAnnotations source)) }
        simp only [World.serve, hok]
        refine ⟨_, rfl, Job.Ensures.pure ⟨rfl, ?_⟩⟩
        have hkeeps : (Call.setAnnotations source.namespaceName source.name
            (stored.stream.missingAnnotations source)).keepsTags = true := rfl
        exact (World.serve_keeps live digest cluster hkeeps).1.stream hpresent

theorem ensures_providePullSecret {ns : String} {credentials : List UInt8} (live : w.Live)
    (healthy : ¬ flaky cluster) (hns : IsObjectName ns)
    (hn : (w.namespace? cluster ns).isSome = true) :
    Job.Ensures (Serves digest flaky) (providePullSecret cluster ns credentials) w
      fun outcome w' => outcome = .ok () ∧ World.Extends w w' ∧ World.KeepsTags w w' := by
  refine Job.Ensures.keeping live
    ((providePullSecret_only cluster ns credentials).mono fun h => h.keepsTags) ?_
  refine Job.Ensures.bind (Job.Ensures.require healthy
    ((Call.Concerns.applyPullSecret _).sendable hns hns) ?_)
  obtain ⟨object, hobject⟩ := Option.isSome_iff_exists.mp hn
  simp only [World.serve, hobject]
  exact ⟨_, rfl, Job.Ensures.pure rfl⟩

/-! ## Importing -/

/-- An import succeeds and leaves the copy at the tag, or it fails and leaves nothing. -/
theorem importImage_effect {ns stream tag reference : String} {exchanges : List Exchange}
    {outcome : Except SyncError Unit}
    (run : (importImage cluster ns stream tag reference).Run exchanges outcome)
    (hleads : Leads (Serves digest flaky) w exchanges w') :
    (outcome = .ok () ∧ ∃ stored, w.stream? cluster ns stream = some stored ∧
      w' = w.putTag cluster ns stream tag stored
        (World.copyTag digest tag reference (w.times 0))) ∨
    (∃ e, outcome = .error e) ∧ w' = w := by
  obtain ⟨reply, hsend, rfl⟩ := run_importImage_iff.mp run
  have hfailed : ∀ cause, importVerdict (.importFailed tag stream ns cluster) (.error cause) =
      .error (.importFailed tag stream ns cluster (.call cause)) := fun _ => rfl
  -- The call was answered, or it could not be sent at all.
  rcases Plan.run_send_cases hsend with rfl | ⟨rfl, fault, -, rfl⟩
  · obtain ⟨t, hstep, hrest⟩ := leads_cons_iff.mp hleads
    obtain rfl := leads_nil_iff.mp hrest
    rcases hstep with hserve | ⟨-, -, ⟨cause, hcause⟩, rfl⟩
    · have hserve : World.importInto digest w cluster ns (.importTo ns stream tag reference) =
          (reply, w') := hserve
      rcases World.importInto_cases digest w cluster ns stream tag reference with
        ⟨-, hrefused⟩ | ⟨stored, answer, hs, hcheck, hserved⟩
      · obtain ⟨rfl, rfl⟩ := Prod.mk.inj (hrefused.symm.trans hserve)
        exact Or.inr ⟨⟨_, hfailed _⟩, rfl⟩
      · obtain ⟨rfl, rfl⟩ := Prod.mk.inj (hserved.symm.trans hserve)
        exact Or.inl ⟨importVerdict_eq_ok_iff.mpr ⟨answer, rfl, hcheck⟩, stored, hs, rfl⟩
    · have hcause : reply = .error cause := hcause
      rw [hcause]
      exact Or.inr ⟨⟨_, hfailed _⟩, rfl⟩
  · obtain rfl := leads_nil_iff.mp hleads
    exact Or.inr ⟨⟨_, hfailed _⟩, rfl⟩

/-- A healthy cluster with the stream imports. -/
theorem ensures_importImage {ns stream tag reference : String} (healthy : ¬ flaky cluster)
    (hns : IsObjectName ns) (hs : (w.stream? cluster ns stream).isSome = true) :
    Job.Ensures (Serves digest flaky) (importImage cluster ns stream tag reference) w
      fun outcome _ => outcome = .ok () := by
  intro exchanges outcome w' hrun hleads
  obtain ⟨reply, hsend, rfl⟩ := run_importImage_iff.mp hrun
  rw [importVerdict_eq_ok_iff]
  refine Plan.Ensures.send (fun h => absurd h healthy)
    ((Call.Concerns.importImages _).sendable hns hns)
    (Q := fun reply _ => ∃ answer, reply = .ok answer ∧ answer.check = .ok ()) ?_ hsend hleads
  rcases World.importInto_cases digest w cluster ns stream tag reference with
    ⟨hnone, -⟩ | ⟨stored, answer, -, hcheck, hserved⟩
  · rw [hnone] at hs
    cases hs
  · exact ⟨answer, congrArg Prod.fst hserved, hcheck⟩

/-! ## Copies -/

/-- On a healthy cluster a copy succeeds, if the source has a reference. -/
theorem ensures_copyTo {credentials : List UInt8} {source : Source} {tag reference : String}
    (live : w.Live) (healthy : ¬ flaky cluster) (proper : source.stream.IsProper)
    (href : source.reference tag = .ok reference) :
    Job.Ensures (Serves digest flaky) (copyTo credentials source tag cluster) w
      fun outcome _ => outcome = .ok () := by
  have hns := proper.properNamespace
  simp only [copyTo, href]
  refine Job.Ensures.bind ((ensures_provideNamespace live healthy hns).mono ?_)
  rintro outcome w₁ ⟨⟨rfl, hn⟩, hext, -⟩
  refine ⟨(), rfl, Job.Ensures.bind
    ((ensures_provideStream (hext.live live) healthy proper hn).mono ?_)⟩
  rintro outcome w₂ ⟨⟨rfl, hs⟩, hext', -⟩
  have live₂ := hext'.live (hext.live live)
  refine ⟨(), rfl, Job.Ensures.bind
    ((ensures_providePullSecret live₂ healthy hns (hext'.namespace hn)).mono ?_)⟩
  rintro outcome w₃ ⟨rfl, hext'', -⟩
  exact ⟨(), rfl, ensures_importImage healthy hns (hext''.stream hs)⟩

/-- A copy succeeds and leaves the tag that it brings, or it fails and leaves all tags; it takes
nothing away. -/
theorem copyTo_effect {credentials : List UInt8} {source : Source} {tag reference : String}
    (live : w.Live) (href : source.reference tag = .ok reference) {exchanges : List Exchange}
    {outcome : Except SyncError Unit}
    (run : (copyTo credentials source tag cluster).Run exchanges outcome)
    (hleads : Leads (Serves digest flaky) w exchanges w') :
    World.Extends w w' ∧
      ((outcome = .ok () ∧
        w'.shelf source.stream.namespaceName source.stream.name tag =
          (w.shelf source.stream.namespaceName source.stream.name tag).put
            (World.copyTag digest tag reference) cluster) ∨
      (∃ e, outcome = .error e) ∧ World.KeepsTags w w') := by
  cases CopyRun.of_run run with
  | unreferenced h =>
      rw [href] at h
      cases h
  | @unprepared reference' exchanges e h hall =>
      obtain ⟨hext, hkept⟩ := hleads.keeps live fun x hx => (hall x hx).keepsTags
      exact ⟨hext, Or.inr ⟨⟨e, rfl⟩, hkept⟩⟩
  | @asked reference' preparation asking outcome h hall hask =>
      obtain rfl := Except.ok.inj (href.symm.trans h)
      -- The preparation keeps all tags, so the import alone decides about them.
      obtain ⟨t, hprep, hleads⟩ := leads_append_iff.mp hleads
      obtain ⟨hext, hkept⟩ := hprep.keeps live fun x hx => (hall x hx).keepsTags
      rcases importImage_effect hask hleads with ⟨rfl, stored, hs, rfl⟩ | ⟨herror, rfl⟩
      · refine ⟨hext.trans (.putTag hs _), Or.inl ⟨rfl, ?_⟩⟩
        rw [World.shelf_putTag hs, hkept.shelf_eq]
      · exact ⟨hext, Or.inr ⟨herror, hkept⟩⟩

/-- Copies to several clusters in order, without a failure on a healthy one: those that succeed
leave their copies on the shelf one after the other. -/
theorem copyToAll_effect {credentials : List UInt8} {source : Source} {tag reference : String}
    (live : w.Live) (proper : source.stream.IsProper)
    (href : source.reference tag = .ok reference) {clusters : List String}
    {exchanges : List Exchange} {errors : List SyncError}
    (run : Plan.Run (copyToAll credentials source tag clusters) exchanges errors)
    (hleads : Leads (Serves digest flaky) w exchanges w') :
    World.Extends w w' ∧ ∃ copied, copied.Sublist clusters ∧
      (∀ c ∈ clusters, ¬ flaky c → c ∈ copied) ∧ (errors = [] ↔ copied = clusters) ∧
      w'.shelf source.stream.namespaceName source.stream.name tag =
        (w.shelf source.stream.namespaceName source.stream.name tag).putAll
          (World.copyTag digest tag reference) copied := by
  induction clusters generalizing w w' exchanges errors with
  | nil =>
      obtain ⟨rfl, rfl⟩ := Plan.run_pure_iff.mp run
      obtain rfl := leads_nil_iff.mp hleads
      exact ⟨.refl _, [], .refl _, by simp, by simp, rfl⟩
  | cons cluster clusters ih =>
      obtain ⟨outcome, first, later, hfirst, hlater, rfl⟩ := Plan.run_bind_iff.mp run
      obtain ⟨others, second, last, hsecond, hlast, rfl⟩ := Plan.run_bind_iff.mp hlater
      obtain ⟨t, hcopy, hleads⟩ := leads_append_iff.mp hleads
      obtain ⟨u, hcopies, hend⟩ := leads_append_iff.mp hleads
      obtain ⟨hext, heffect⟩ := copyTo_effect live href hfirst hcopy
      -- The other copies start from the shelf that this one leaves, with or without it.
      obtain ⟨hext', copied, hsub, hhealthy, hok, hshelf⟩ := ih (hext.live live) hsecond hcopies
      rcases heffect with ⟨rfl, hput⟩ | ⟨⟨e, rfl⟩, hkept⟩
      · obtain ⟨rfl, rfl⟩ := Plan.run_pure_iff.mp hlast
        obtain rfl := leads_nil_iff.mp hend
        refine ⟨hext.trans hext', cluster :: copied, hsub.cons_cons _, ?_, ?_, ?_⟩
        · intro c hc hflaky
          rcases List.mem_cons.mp hc with rfl | hc
          · exact List.mem_cons_self
          · exact List.mem_cons_of_mem _ (hhealthy c hc hflaky)
        · rw [hok]
          simp
        · rw [hshelf, hput, Shelf.putAll_cons]
      · obtain ⟨rfl, rfl⟩ := Plan.run_pure_iff.mp hlast
        obtain rfl := leads_nil_iff.mp hend
        refine ⟨hext.trans hext', copied, hsub.cons _, ?_, ?_, ?_⟩
        · intro c hc hflaky
          rcases List.mem_cons.mp hc with rfl | hc
          · cases ensures_copyTo live hflaky proper href hfirst hcopy
          · exact hhealthy c hc hflaky
        · constructor
          · nofun
          · rintro rfl
            exact absurd hsub.length_le (by simp)
        · rw [hshelf, hkept.shelf_eq]

end

end TagSync
