import TagSync.Proofs.Sequels
import TagSync.Proofs.Service

/-!
# What an exchange does to a stream

`Rewrites` lists what a served call may make of what is stored under a name: a stream is created,
its metadata is changed, it is removed or marked for deletion, or an image is imported into it. An
exchange leaves a stream alone or rewrites it (`Serves.stream?_cases`), so whatever is to be known
of single exchanges takes one look at these cases: which calls can bring a live stream about or
end one, and which can take the managed finalizer off.
-/

set_option autoImplicit false

namespace TagSync

open Api
open Plan (Exchange)

/-! ## Finalizers of other parties -/

def foreignFinalizers (finalizers : List String) : List String :=
  finalizers.filter (· != managedFinalizer)

@[simp] theorem foreignFinalizers_foreignFinalizers (finalizers : List String) :
    foreignFinalizers (foreignFinalizers finalizers) = foreignFinalizers finalizers := by
  simp [foreignFinalizers]

theorem ObjectMeta.isManaged_eq_false_iff {m : ObjectMeta} :
    m.isManaged = false ↔ foreignFinalizers m.finalizerList = m.finalizerList := by
  rw [isManaged, foreignFinalizers, List.filter_eq_self, ← Bool.not_eq_true, List.contains_iff_mem]
  constructor
  · intro hnot finalizer hmem
    rw [bne_iff_ne]
    rintro rfl
    exact hnot hmem
  · intro hall hmem
    simpa using hall _ hmem

theorem withoutFinalizer?_eq {m : ObjectMeta} :
    withoutFinalizer? m.finalizerList managedFinalizer =
      if m.isManaged then some (foreignFinalizers m.finalizerList) else none := rfl

/-! ## Changes of metadata -/

/-- What is left of a stream that was written to: nothing, if it is marked for deletion and nobody
holds it any more. -/
def StoredStream.settled (stored : StoredStream) : Option StoredStream :=
  if stored.stream.metadata.isTerminating && stored.stream.metadata.finalizerList.isEmpty then none
  else some stored

theorem StoredStream.settled_eq_some_iff {stored kept : StoredStream} :
    stored.settled = some kept ↔ kept = stored ∧
      (stored.stream.metadata.isTerminating = true →
        stored.stream.metadata.finalizerList ≠ []) := by
  rw [settled]
  cases stored.stream.metadata.isTerminating with
  | false => simpa using @eq_comm _ stored kept
  | true =>
      cases stored.stream.metadata.finalizerList with
      | nil => simp
      | cons => simpa using @eq_comm _ stored kept

theorem StoredStream.settled_of_mem {stored : StoredStream} {finalizer : String}
    (h : finalizer ∈ stored.stream.metadata.finalizerList) : stored.settled = some stored :=
  settled_eq_some_iff.mpr ⟨rfl, fun _ => List.ne_nil_of_mem h⟩

namespace World

/-- A stored stream with changed metadata, under the next version. -/
def amend (w : World) (stored : StoredStream) (f : ObjectMeta → ObjectMeta) : StoredStream :=
  { stored with stream := w.stamp { stored.stream with metadata := f stored.stream.metadata } }

theorem change_eq {w : World} {cluster ns name : String} {stored : StoredStream}
    (hs : w.stream? cluster ns name = some stored) {version : Option String}
    (hv : version = none ∨ version = stored.stream.metadata.resourceVersion)
    (f : ObjectMeta → ObjectMeta) : w.change cluster ns name version f =
      (.ok (w.amend stored f).stream, w.put cluster ns name (w.amend stored f).settled) := by
  have hversion :
      (version.isSome && version != stored.stream.metadata.resourceVersion) = false := by
    rcases hv with rfl | rfl
    · rfl
    · simp
  simp only [change, hs, hversion]
  rfl

/-- A change of any stream is refused without effect, or it is made. -/
theorem change_refused_or_eq (w : World) (cluster ns name : String) (version : Option String)
    (f : ObjectMeta → ObjectMeta) :
    (∃ cause, w.change cluster ns name version f = (.error cause, w)) ∨
      ∃ stored, w.stream? cluster ns name = some stored ∧
        (version = none ∨ version = stored.stream.metadata.resourceVersion) ∧
        w.change cluster ns name version f =
          (.ok (w.amend stored f).stream, w.put cluster ns name (w.amend stored f).settled) := by
  cases hs : w.stream? cluster ns name with
  | none => exact Or.inl ⟨notThere, by simp only [change, hs]⟩
  | some stored =>
      cases hv : version.isSome && version != stored.stream.metadata.resourceVersion with
      | true => exact Or.inl ⟨refusal "Conflict" 409, by simp only [change, hs, hv, if_true]⟩
      | false =>
          -- A write that names no version is meant for any.
          have hversion : version = none ∨ version = stored.stream.metadata.resourceVersion := by
            cases version with
            | none => exact Or.inl rfl
            | some v => exact Or.inr (by simpa using hv)
          exact Or.inr ⟨stored, rfl, hversion, change_eq hs hversion f⟩

/-! ## Deletions -/

def marked (w : World) (stored : StoredStream) : StoredStream :=
  w.amend stored fun m => { m with deletionTimestamp := some (w.times 0) }

/-- What a deletion does: nothing to a stream that is not there or is marked already; one that
nobody holds is gone, any other one is marked. -/
theorem delete_cases (w : World) (cluster ns name : String) :
    w.stream? cluster ns name = none ∧ w.delete cluster ns name = (.error notThere, w) ∨
      ∃ stored, w.stream? cluster ns name = some stored ∧
        (stored.stream.metadata.finalizerList = [] ∧
            w.delete cluster ns name = (.ok (), w.put cluster ns name none) ∨
          stored.stream.metadata.finalizerList ≠ [] ∧
            stored.stream.metadata.isTerminating = true ∧
            w.delete cluster ns name = (.ok (), w) ∨
          stored.stream.metadata.finalizerList ≠ [] ∧
            stored.stream.metadata.isTerminating = false ∧
            w.delete cluster ns name =
              (.ok (), w.put cluster ns name (some (w.marked stored)))) := by
  cases hs : w.stream? cluster ns name with
  | none => exact Or.inl ⟨rfl, by simp only [delete, hs]⟩
  | some stored =>
      refine Or.inr ⟨stored, rfl, ?_⟩
      -- A stream without finalizers goes; any other is marked, unless it is marked already.
      cases hfree : stored.stream.metadata.finalizerList.isEmpty with
      | true => exact Or.inl ⟨List.isEmpty_iff.mp hfree, by simp only [delete, hs, hfree, if_true]⟩
      | false =>
          have hheld : stored.stream.metadata.finalizerList ≠ [] :=
            List.isEmpty_eq_false_iff.mp hfree
          cases hterm : stored.stream.metadata.isTerminating with
          | true => exact Or.inr (Or.inl ⟨hheld, rfl, by simp [delete, hs, hfree, hterm]⟩)
          | false =>
              refine Or.inr (Or.inr ⟨hheld, rfl, ?_⟩)
              simp only [delete, hs, hfree, hterm]
              rfl

theorem delete_reply (w : World) (cluster ns name : String) :
    (w.delete cluster ns name).1 = .error notThere ∨ (w.delete cluster ns name).1 = .ok () := by
  rcases w.delete_cases cluster ns name with ⟨-, h⟩ | ⟨stored, -, hcase⟩
  · exact Or.inl (congrArg Prod.fst h)
  rcases hcase with ⟨-, h⟩ | ⟨-, -, h⟩ | ⟨-, -, h⟩
  all_goals exact Or.inr (congrArg Prod.fst h)

/-! ## The cases -/

/-- What a served call may make of what is stored under a name. -/
inductive Rewrites (digest : Option String) (w : World) (ns name : String) :
    Call → Option StoredStream → Option StoredStream → Prop
  | created {stream : ImageStream} : IsObjectName ns → IsObjectName name → stream.name = name →
      Rewrites digest w ns name (.createStream ns stream) none
        (some { stream := w.created ns stream })
  | finalized {stored : StoredStream} {finalizers : List String} {version : Option String} :
      version = none ∨ version = stored.stream.metadata.resourceVersion →
      Rewrites digest w ns name (.setFinalizers ns name finalizers version) (some stored)
        (w.amend stored fun m => { m with finalizers := some finalizers }).settled
  | annotated {stored : StoredStream} {annotations : NameMap String} :
      Rewrites digest w ns name (.setAnnotations ns name annotations) (some stored)
        (w.amend stored fun m =>
          { m with annotations := some (m.annotationMap.merge annotations) }).settled
  | removed {stored : StoredStream} : stored.stream.metadata.finalizerList = [] →
      Rewrites digest w ns name (.deleteStream ns name) (some stored) none
  | marked {stored : StoredStream} : stored.stream.metadata.finalizerList ≠ [] →
      stored.stream.metadata.isTerminating = false →
      Rewrites digest w ns name (.deleteStream ns name) (some stored) (some (w.marked stored))
  | imported {stored : StoredStream} {request : ImageStreamImport} {image : ImageImport}
      {target : LocalReference} : request.metadata.anyName = name → request.spec.images = [image] →
      image.target = some target →
      Rewrites digest w ns name (.importImages ns request) (some stored) (some {
        stream := w.stamp stored.stream
        tags := fun t => if t = target.name then
          some (tagOfImport digest target.name image (w.times 0)) else stored.tags t })

section

variable {digest : Option String} {c ns name : String}

theorem stream?_put_cases {w : World} {call : Call} (cluster n s : String)
    (stored : Option StoredStream)
    (h : n = ns → s = name → Rewrites digest w ns name call (w.stream? cluster ns name) stored) :
    (w.put cluster n s stored).stream? c ns name = w.stream? c ns name ∨
      c = cluster ∧ Rewrites digest w ns name call (w.stream? c ns name)
        ((w.put cluster n s stored).stream? c ns name) := by
  rw [stream?_put]
  split
  · next heq =>
    obtain ⟨rfl, hn, hs⟩ := heq
    exact Or.inr ⟨rfl, h hn.symm hs.symm⟩
  · exact Or.inl rfl

/-- A change of metadata rewrites one stream, or none. -/
theorem stream?_change_cases {w : World} {call : Call} (cluster n s : String)
    (version : Option String) (f : ObjectMeta → ObjectMeta)
    (h : ∀ stored, n = ns → s = name →
      version = none ∨ version = stored.stream.metadata.resourceVersion →
      Rewrites digest w ns name call (some stored) (w.amend stored f).settled) :
    (w.change cluster n s version f).2.stream? c ns name = w.stream? c ns name ∨
      c = cluster ∧ Rewrites digest w ns name call (w.stream? c ns name)
        ((w.change cluster n s version f).2.stream? c ns name) := by
  rcases change_refused_or_eq w cluster n s version f with ⟨cause, h'⟩ | ⟨stored, hs, hv, h'⟩
  · rw [h']
    exact Or.inl rfl
  · rw [h']
    refine stream?_put_cases cluster n s _ ?_
    rintro rfl rfl
    rw [hs]
    exact h stored rfl rfl hv

/-- So it is with a creation, which writes only under a name that is free. -/
theorem stream?_create_cases (w : World) (cluster n : String) (stream : ImageStream) :
    (w.create cluster n stream).2.stream? c ns name = w.stream? c ns name ∨
      c = cluster ∧ Rewrites digest w ns name (.createStream n stream) (w.stream? c ns name)
        ((w.create cluster n stream).2.stream? c ns name) := by
  rw [create]
  split
  · next hproper =>
    split
    · exact Or.inl rfl
    · exact Or.inl rfl
    · next hnone =>
      refine stream?_put_cases cluster n stream.name _ ?_
      rintro rfl hname
      rw [← hname, hnone]
      exact .created hproper.1 hproper.2 rfl
  · exact Or.inl rfl

/-- So it is with a deletion, which leaves alone what is marked already. -/
theorem stream?_delete_cases (w : World) (cluster n s : String) :
    (w.delete cluster n s).2.stream? c ns name = w.stream? c ns name ∨
      c = cluster ∧ Rewrites digest w ns name (.deleteStream n s) (w.stream? c ns name)
        ((w.delete cluster n s).2.stream? c ns name) := by
  rcases w.delete_cases cluster n s with ⟨-, h⟩ | ⟨stored, hs, hcase⟩
  · rw [h]
    exact Or.inl rfl
  rcases hcase with ⟨hfree, h⟩ | ⟨-, -, h⟩ | ⟨hheld, hlive, h⟩
  · rw [h]
    refine stream?_put_cases cluster n s _ ?_
    rintro rfl rfl
    rw [hs]
    exact .removed hfree
  · rw [h]
    exact Or.inl rfl
  · rw [h]
    refine stream?_put_cases cluster n s _ ?_
    rintro rfl rfl
    rw [hs]
    exact .marked hheld hlive

/-- And with an import, which needs a stream, one image and a tag to bring it to. -/
theorem stream?_import_cases (w : World) (cluster n : String) (request : ImageStreamImport) :
    (importInto digest w cluster n request).2.stream? c ns name = w.stream? c ns name ∨
      c = cluster ∧ Rewrites digest w ns name (.importImages n request) (w.stream? c ns name)
        ((importInto digest w cluster n request).2.stream? c ns name) := by
  rw [importInto.eq_def]
  split
  · exact Or.inl rfl
  · next stored image hs himages =>
    split
    · exact Or.inl rfl
    · next target htarget =>
      show (w.put cluster n request.metadata.anyName _).stream? c ns name = _ ∨ _
      refine stream?_put_cases cluster n request.metadata.anyName _ ?_
      rintro rfl rfl
      rw [hs]
      exact .imported rfl himages htarget
  · exact Or.inl rfl

/-- A served call leaves what is stored under a name alone, or it rewrites it. -/
theorem stream?_serve_cases (w : World) (cluster : String) (call : Call) :
    (w.serve digest cluster call).2.stream? c ns name = w.stream? c ns name ∨
      c = cluster ∧ Rewrites digest w ns name call (w.stream? c ns name)
        ((w.serve digest cluster call).2.stream? c ns name) := by
  -- Reads and writes of other objects leave streams alone.
  cases call with
  | getTag | getStream | getNamespace | applyPullSecret | listGroups | listResources =>
      exact Or.inl rfl
  | createNamespace n =>
      simp only [serve]
      split
      · exact Or.inl rfl
      · exact Or.inl (stream?_putNamespace _ _ _ _ _ _ _)
  | createStream n stream => exact w.stream?_create_cases cluster n stream
  | setFinalizers n s finalizers version =>
      refine stream?_change_cases cluster n s version _ ?_
      rintro stored rfl rfl hv
      exact .finalized hv
  | setAnnotations n s annotations =>
      refine stream?_change_cases cluster n s none _ ?_
      rintro stored rfl rfl -
      exact .annotated
  | deleteStream n s => exact w.stream?_delete_cases cluster n s
  | importImages n request => exact w.stream?_import_cases cluster n request

end

/-! ## Live streams and held ones -/

/-- The cluster has the stream, and it is not marked for deletion. -/
def IsLive (w : World) (cluster ns name : String) : Prop :=
  ∃ stored, w.stream? cluster ns name = some stored ∧ stored.stream.metadata.isTerminating = false

/-- The cluster has the stream, and this program holds it. -/
def Manages (w : World) (cluster ns name : String) : Prop :=
  ∃ stored, w.stream? cluster ns name = some stored ∧ stored.stream.metadata.isManaged = true

namespace Rewrites

variable {digest : Option String} {w : World} {ns name : String} {call : Call}
  {before after : Option StoredStream} {stored : StoredStream}

/-- Only a creation brings a live stream about. -/
theorem live_before (h : Rewrites digest w ns name call before after)
    (hcreate : ∀ n stream, call ≠ .createStream n stream) (hafter : after = some stored)
    (hlive : stored.stream.metadata.isTerminating = false) :
    ∃ earlier, before = some earlier ∧ earlier.stream.metadata.isTerminating = false := by
  cases h with
  | created => exact absurd rfl (hcreate _ _)
  | finalized | annotated =>
      obtain ⟨rfl, -⟩ := StoredStream.settled_eq_some_iff.mp hafter
      exact ⟨_, rfl, hlive⟩
  | removed => cases hafter
  | marked =>
      obtain rfl := Option.some.inj hafter
      cases hlive
  | imported =>
      obtain rfl := Option.some.inj hafter
      exact ⟨_, rfl, hlive⟩

/-- Only a deletion ends a live stream. -/
theorem live_after (h : Rewrites digest w ns name call before after)
    (hdelete : call ≠ .deleteStream ns name) (hbefore : before = some stored)
    (hlive : stored.stream.metadata.isTerminating = false) :
    ∃ later, after = some later ∧ later.stream.metadata.isTerminating = false := by
  cases h with
  | created => cases hbefore
  | finalized | annotated =>
      -- Held or not, what is not marked is not gone after a change.
      obtain rfl := Option.some.inj hbefore
      exact ⟨_, StoredStream.settled_eq_some_iff.mpr
        ⟨rfl, fun h => absurd (h.symm.trans hlive) nofun⟩, hlive⟩
  | removed | marked => exact absurd rfl hdelete
  | imported =>
      obtain rfl := Option.some.inj hbefore
      exact ⟨_, rfl, hlive⟩

/-- Only finalizers without the managed one end a hold. -/
theorem managed_after (h : Rewrites digest w ns name call before after)
    (hkeep : ∀ n s finalizers version, call = .setFinalizers n s finalizers version →
      managedFinalizer ∈ finalizers)
    (hbefore : before = some stored) (hmanaged : stored.stream.metadata.isManaged = true) :
    ∃ later, after = some later ∧ later.stream.metadata.isManaged = true := by
  have hmem : managedFinalizer ∈ stored.stream.metadata.finalizerList :=
    List.contains_iff_mem.mp hmanaged
  cases h with
  | created => cases hbefore
  | finalized =>
      have hmem := hkeep _ _ _ _ rfl
      exact ⟨_, StoredStream.settled_of_mem hmem, List.contains_iff_mem.mpr hmem⟩
  | annotated =>
      obtain rfl := Option.some.inj hbefore
      exact ⟨_, StoredStream.settled_of_mem hmem, hmanaged⟩
  | removed hfree =>
      -- What is held is not removed.
      obtain rfl := Option.some.inj hbefore
      rw [hfree] at hmem
      cases hmem
  | marked | imported =>
      obtain rfl := Option.some.inj hbefore
      exact ⟨_, rfl, hmanaged⟩

/-- A stream is stored under its own name. -/
theorem isNamed (h : Rewrites digest w ns name call before after)
    (hbefore : ∀ earlier, before = some earlier → earlier.IsNamed ns name)
    (hafter : after = some stored) : stored.IsNamed ns name := by
  cases h with
  | created hns hname heq =>
      obtain rfl := Option.some.inj hafter
      exact ⟨hns, hname, rfl, congrArg some heq⟩
  | finalized | annotated =>
      obtain ⟨rfl, -⟩ := StoredStream.settled_eq_some_iff.mp hafter
      obtain ⟨hns, hname, hns', hname'⟩ := hbefore _ rfl
      exact ⟨hns, hname, hns', hname'⟩
  | removed => cases hafter
  | marked | imported =>
      obtain rfl := Option.some.inj hafter
      obtain ⟨hns, hname, hns', hname'⟩ := hbefore _ rfl
      exact ⟨hns, hname, hns', hname'⟩

end Rewrites

/-- After a deletion the stream is not live. -/
theorem not_isLive_delete (w : World) (cluster ns name : String) :
    ¬ (w.delete cluster ns name).2.IsLive cluster ns name := by
  rintro ⟨kept, hs, hlive⟩
  rcases w.delete_cases cluster ns name with ⟨hnone, h⟩ | ⟨stored, hstored, hcase⟩
  · rw [h] at hs
    cases hs.symm.trans hnone
  rcases hcase with ⟨-, h⟩ | ⟨-, hterm, h⟩ | ⟨-, -, h⟩
  · rw [h, stream?_put, if_pos ⟨rfl, rfl, rfl⟩] at hs
    cases hs
  · rw [h] at hs
    obtain rfl := Option.some.inj (hs.symm.trans hstored)
    cases hterm.symm.trans hlive
  · rw [h, stream?_put, if_pos ⟨rfl, rfl, rfl⟩] at hs
    obtain rfl := Option.some.inj hs
    cases hlive

end World

/-! ## Exchanges -/

theorem Leads.mono {σ : Type} {step step' : σ → Exchange → σ → Prop} {exchanges : List Exchange}
    {s s' : σ} (h : Leads step s exchanges s') (hstep : ∀ t e t', step t e t' → step' t e t') :
    Leads step' s exchanges s' := by
  induction h with
  | nil s => exact .nil s
  | cons hfirst _ ih => exact .cons (hstep _ _ _ hfirst) ih

theorem Leads.preserves {σ : Type} {step : σ → Exchange → σ → Prop} {P : σ → Prop}
    {exchanges : List Exchange} {s s' : σ} (h : Leads step s exchanges s')
    (hstep : ∀ e ∈ exchanges, ∀ t t', step t e t' → P t → P t') (hs : P s) : P s' := by
  induction h with
  | nil s => exact hs
  | @cons s t s' e exchanges hfirst hrest ih =>
      obtain ⟨hhere, hlater⟩ := List.forall_mem_cons.mp hstep
      exact ih hlater (hhere _ _ hfirst hs)

section

variable {digest : Option String} {flaky : String → Prop} {w w' : World} {e : Exchange}
  {exchanges : List Exchange} {c ns name : String}

/-- An exchange leaves what is stored under a name alone, or it rewrites it. -/
theorem Serves.stream?_cases (h : Serves digest flaky w e w') (c ns name : String) :
    w'.stream? c ns name = w.stream? c ns name ∨
      c = e.cluster ∧ World.Rewrites digest w ns name e.call (w.stream? c ns name)
        (w'.stream? c ns name) := by
  rcases h with hserve | ⟨-, -, -, rfl⟩
  · have hw' : (w.serve digest e.cluster e.call).2 = w' := congrArg Prod.snd hserve
    exact hw' ▸ w.stream?_serve_cases e.cluster e.call
  · exact Or.inl rfl

theorem Serves.sound (h : Serves digest flaky w e w') (sound : w.Sound) : w'.Sound := by
  intro c ns name stored hs
  rcases h.stream?_cases c ns name with heq | ⟨-, hrewrites⟩
  · exact sound (heq ▸ hs)
  · exact hrewrites.isNamed (fun _ h => sound h) hs

theorem Serves.not_isLive (h : Serves digest flaky w e w')
    (hcreate : e.cluster = c → ∀ n stream, e.call ≠ .createStream n stream)
    (hnot : ¬ w.IsLive c ns name) : ¬ w'.IsLive c ns name := by
  rintro ⟨stored, hs, hlive⟩
  rcases h.stream?_cases c ns name with heq | ⟨hc, hrewrites⟩
  · exact hnot ⟨stored, heq ▸ hs, hlive⟩
  · exact hnot (hrewrites.live_before (hcreate hc.symm) hs hlive)

theorem Serves.isLive (h : Serves digest flaky w e w')
    (hdelete : e.cluster = c → e.call ≠ .deleteStream ns name) (hlive : w.IsLive c ns name) :
    w'.IsLive c ns name := by
  obtain ⟨stored, hs, hlive⟩ := hlive
  rcases h.stream?_cases c ns name with heq | ⟨hc, hrewrites⟩
  · exact ⟨stored, heq.trans hs, hlive⟩
  · exact hrewrites.live_after (hdelete hc.symm) hs hlive

theorem Serves.manages (h : Serves digest flaky w e w')
    (hkeep : e.cluster = c → ¬ LeavesUnmanaged e) (hheld : w.Manages c ns name) :
    w'.Manages c ns name := by
  obtain ⟨stored, hs, hmanaged⟩ := hheld
  rcases h.stream?_cases c ns name with heq | ⟨hc, hrewrites⟩
  · exact ⟨stored, heq.trans hs, hmanaged⟩
  · refine hrewrites.managed_after ?_ hs hmanaged
    intro n s finalizers version hcall
    by_contra hnot
    exact hkeep hc.symm ⟨n, s, finalizers, version, hcall, hnot⟩

theorem Leads.sound (h : Leads (Serves digest flaky) w exchanges w') (sound : w.Sound) :
    w'.Sound :=
  h.preserves (fun _ _ _ _ hstep => hstep.sound) sound

theorem Leads.not_isLive (h : Leads (Serves digest flaky) w exchanges w')
    (hcreate : ∀ e ∈ exchanges, e.cluster = c → ∀ n stream, e.call ≠ .createStream n stream)
    (hnot : ¬ w.IsLive c ns name) : ¬ w'.IsLive c ns name :=
  h.preserves (P := fun t => ¬ t.IsLive c ns name)
    (fun e he _ _ hstep => hstep.not_isLive (hcreate e he)) hnot

theorem Leads.isLive (h : Leads (Serves digest flaky) w exchanges w')
    (hdelete : ∀ e ∈ exchanges, e.cluster = c → e.call ≠ .deleteStream ns name)
    (hlive : w.IsLive c ns name) : w'.IsLive c ns name :=
  h.preserves (fun e he _ _ hstep => hstep.isLive (hdelete e he)) hlive

theorem Leads.manages (h : Leads (Serves digest flaky) w exchanges w')
    (hkeep : ∀ e ∈ exchanges, e.cluster = c → ¬ LeavesUnmanaged e)
    (hheld : w.Manages c ns name) : w'.Manages c ns name :=
  h.preserves (fun e he _ _ hstep => hstep.manages (hkeep e he)) hheld

/-! ## Answers that show what is stored -/

/-- A stream that is read is the one that is stored. -/
theorem Serves.stored_of_read {stream : ImageStream}
    (h : Serves digest flaky w ⟨c, .getStream ns name, .ok stream⟩ w') :
    w' = w ∧ ∃ stored, w.stream? c ns name = some stored ∧ stored.stream = stream := by
  rcases h with hserve | ⟨-, -, ⟨cause, hcause⟩, -⟩
  · obtain ⟨hreply, hw⟩ := Prod.mk.inj hserve
    refine ⟨hw.symm, ?_⟩
    cases hs : w.stream? c ns name with
    | none =>
        rw [hs] at hreply
        cases hreply
    | some stored =>
        rw [hs] at hreply
        exact ⟨stored, rfl, Except.ok.inj hreply⟩
  · cases hcause

/-- A write of finalizers is refused without effect, or it is made. -/
theorem Serves.finalizers_cases {finalizers : List String} {version : Option String}
    {reply : Except CallError ImageStream}
    (h : Serves digest flaky w ⟨c, .setFinalizers ns name finalizers version, reply⟩ w') :
    (∃ cause, reply = .error cause) ∧ w' = w ∨
      ∃ written before, reply = .ok written ∧ w.stream? c ns name = some before ∧
        (version = none ∨ version = before.stream.metadata.resourceVersion) ∧
        w' = w.put c ns name
          (w.amend before fun m => { m with finalizers := some finalizers }).settled := by
  rcases h with hserve | ⟨-, -, hcause, rfl⟩
  · rcases w.change_refused_or_eq c ns name version
        fun m => { m with finalizers := some finalizers } with
      ⟨cause, h⟩ | ⟨before, hbefore, hversion, h⟩
    · obtain ⟨hreply, hw⟩ := Prod.mk.inj (h.symm.trans hserve)
      exact Or.inl ⟨⟨cause, hreply.symm⟩, hw.symm⟩
    · obtain ⟨hreply, hw⟩ := Prod.mk.inj (h.symm.trans hserve)
      exact Or.inr ⟨_, before, hreply.symm, hbefore, hversion, hw.symm⟩
  · exact Or.inl ⟨hcause, rfl⟩

theorem Serves.manages_of_finalizers {finalizers : List String} {version : Option String}
    {stream : ImageStream}
    (h : Serves digest flaky w ⟨c, .setFinalizers ns name finalizers version, .ok stream⟩ w')
    (hmem : managedFinalizer ∈ finalizers) : w'.Manages c ns name := by
  rcases h.finalizers_cases with ⟨⟨cause, hcause⟩, -⟩ | ⟨written, before, -, -, -, rfl⟩
  · cases hcause
  · rw [World.Manages, World.stream?_put, if_pos ⟨rfl, rfl, rfl⟩]
    exact ⟨_, StoredStream.settled_of_mem hmem, List.contains_iff_mem.mpr hmem⟩

/-- After a deletion that is served, a stream is not live unless it is created again. -/
theorem Leads.not_isLive_of_deleted (h : Leads (Serves digest fun _ => False) w exchanges w')
    (he : e ∈ exchanges) (hcluster : e.cluster = c) (hcall : e.call = .deleteStream ns name)
    (hcreate : ∀ e ∈ exchanges, e.cluster = c → ∀ n stream, e.call ≠ .createStream n stream) :
    ¬ w'.IsLive c ns name := by
  obtain ⟨earlier, later, rfl⟩ := List.append_of_mem he
  obtain ⟨t, -, hrest⟩ := leads_append_iff.mp h
  obtain ⟨u, hstep, hlater⟩ := leads_cons_iff.mp hrest
  -- Right after the deletion it is not live, and nothing brings it back.
  refine hlater.not_isLive (fun x hx => hcreate x ?_) ?_
  · exact List.mem_append_right _ (List.mem_cons_of_mem _ hx)
  · obtain ⟨cluster, call, reply⟩ := e
    obtain rfl : cluster = c := hcluster
    obtain rfl : call = .deleteStream ns name := hcall
    rcases hstep with hserve | ⟨hfalse, -⟩
    · have hu : (t.delete cluster ns name).2 = u := congrArg Prod.snd hserve
      exact hu ▸ t.not_isLive_delete cluster ns name
    · exact hfalse.elim

/-! ## Tasks -/

theorem Job.Ensures.sound {α : Type} {job : Job α} {Q : Except SyncError α → World → Prop}
    (sound : w.Sound) (h : Job.Ensures (Serves digest flaky) job w Q) :
    Job.Ensures (Serves digest flaky) job w fun outcome w' => Q outcome w' ∧ w'.Sound :=
  fun _ _ _ hrun hleads => ⟨h hrun hleads, hleads.sound sound⟩

theorem leads_serve {α : Type} (p : Plan α) (w : World) :
    Leads (Serves digest fun _ => False) w (p.exchangesWith (World.serve digest) w)
      (p.play (World.serve digest) w).2 :=
  leads_play id (fun _ _ _ => Or.inl rfl) p w

/-- What a task ensures holds after it was run with healthy clusters. -/
theorem Job.Ensures.play {α : Type} {job : Job α} {Q : Except SyncError α → World → Prop}
    (h : Job.Ensures (Serves digest fun _ => False) job w Q) :
    Q (job.run.play (World.serve digest) w).1 (job.run.play (World.serve digest) w).2 :=
  h (Plan.run_play _ _ w) (leads_serve _ w)

end

/-! ## Worlds with one stream -/

namespace World

/-- A world in which clusters have the namespace of a stream and copies of the stream, if any. -/
def ofCopies (ns name : String) (copies : String → Option StoredStream) : World where
  stores := fun c => {
    namespaces := fun n => if n = ns then some (requestedNamespace n) else none
    streams := fun n s => if n = ns ∧ s = name then copies c else none }
  times := fun n => ⟨⟨2026 + n, 1, 1⟩, 0, 0⟩
  versions := fun n => String.ofList (List.replicate n 'x')

variable {ns name : String} {copies : String → Option StoredStream}

theorem stream?_ofCopies_eq_some_iff {c n s : String} {stored : StoredStream} :
    (ofCopies ns name copies).stream? c n s = some stored ↔
      n = ns ∧ s = name ∧ copies c = some stored := by
  show (if n = ns ∧ s = name then copies c else none) = some stored ↔ _
  rw [ite_eq_iff, and_assoc]
  simp

theorem sound_ofCopies (hcopies : ∀ c stored, copies c = some stored → stored.IsNamed ns name) :
    (ofCopies ns name copies).Sound := by
  intro c n s stored h
  obtain ⟨rfl, rfl, hstored⟩ := stream?_ofCopies_eq_some_iff.mp h
  exact hcopies c stored hstored

end World

end TagSync
