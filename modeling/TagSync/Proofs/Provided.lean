import TagSync.Proofs.Archive
import TagSync.Provision

/-!
# Streams that are provided

Providing a stream looks for it and makes at most one write (`run_provideStream`). After a success
the target holds the stream with the release annotations of its source: it was created as the copy,
or it was changed by the annotations that it lacked and in nothing else. Providing it again only
looks (`provided_stream_is_copy`).
-/

set_option autoImplicit false

namespace TagSync

open Api Json
open Plan (Exchange)

/-! ## Release annotations -/

namespace ImageStream

variable {source target : ImageStream} {key value : String}

theorem get?_releaseAnnotations_iff : source.releaseAnnotations.get? key = some value ↔
    source.metadata.annotationMap.get? key = some value ∧
      releaseAnnotation.toList <+: key.toList := by
  rw [releaseAnnotations, NameMap.get?_filter_eq_some_iff, List.isPrefixOf_iff_prefix]

theorem get?_missingAnnotations_iff : (target.missingAnnotations source).get? key = some value ↔
    source.releaseAnnotations.get? key = some value ∧
      target.metadata.annotationMap.get? key ≠ some value := by
  rw [missingAnnotations, NameMap.get?_filter_eq_some_iff, bne_iff_ne]

theorem missingAnnotations_isEmpty_iff : (target.missingAnnotations source).isEmpty = true ↔
    ∀ key value, source.releaseAnnotations.get? key = some value →
      target.metadata.annotationMap.get? key = some value := by
  rw [NameMap.isEmpty_iff]
  refine forall_congr' fun key => forall_congr' fun value => ?_
  rw [ne_eq, get?_missingAnnotations_iff, not_and_not_right]

theorem copy_annotationMap (source : ImageStream) :
    source.copy.metadata.annotationMap = source.releaseAnnotations := by
  show (if source.releaseAnnotations.isEmpty then none else some source.releaseAnnotations).getD ∅ =
    source.releaseAnnotations
  by_cases hempty : source.releaseAnnotations.isEmpty = true
  · rw [if_pos hempty]
    exact NameMap.ext (List.isEmpty_iff.mp hempty).symm
  · rw [if_neg hempty]
    rfl

end ImageStream

/-! ## The copy as a document -/

/-- The metadata of a copy reads as itself from what is written of it. -/
theorem ImageStream.copy_metadata_readFrom (source : ImageStream) :
    source.copy.metadata.ReadFrom (fieldsOf source.copy.metadata.encode) := by
  have hmap : ∀ m, orNull? stringMapOf? (.ofMap .str m) = some (some m) :=
    fun m => congrArg (Option.map some) (asMap?_ofMap m)
  have hlist : ∀ l, orNull? stringsOf? (.strings l) = some (some l) :=
    fun l => congrArg (Option.map some) (asList?_strings l)
  exact {
    annotations := (showsAll_compact (by simp) rfl).last_map hmap
    deletionGracePeriodSeconds := (showsAll_compact (by simp) rfl).last_none _
    deletionTimestamp := (showsAll_compact (by simp) rfl).last_none _
    finalizers := (showsAll_compact (by simp) rfl).last_map hlist
    generateName := (showsAll_compact (by simp) rfl).last_none _
    labels := (showsAll_compact (by simp) rfl).last_none _
    name := (showsAll_compact (by simp) rfl).last_map fun _ => rfl
    «namespace» := (showsAll_compact (by simp) rfl).last_map fun _ => rfl
    ownerReferences := (showsAll_compact (by simp) rfl).last_none _ }

/-- A copy reads as itself from what is sent of it, and it is sent under the name of its source. -/
theorem ImageStream.copy_readFrom {source : ImageStream} {body : Document}
    (h : source.copy.encode = .obj body) :
    source.copy.ReadFrom body ∧ body.ownName? = source.metadata.name := by
  have hmetadata : Fields.Shows ⟨fieldsOf source.copy.encode⟩ "metadata"
      (some source.copy.metadata.encode) := showsAll_compact (by simp) rfl
  have hspec : Fields.Shows ⟨fieldsOf source.copy.encode⟩ "spec" (some source.copy.spec.encode) :=
    showsAll_compact (by simp) rfl
  have hstatus : Fields.Shows ⟨fieldsOf source.copy.encode⟩ "status" none :=
    showsAll_compact (by simp) rfl
  have hname : Fields.Shows ⟨fieldsOf source.copy.metadata.encode⟩ "name"
      (source.metadata.name.map .str) := showsAll_compact (by simp) rfl
  rw [h, fieldsOf] at hmetadata hspec hstatus
  -- The metadata of the document are those that the copy was written with.
  have hfields : body.metadata = fieldsOf source.copy.metadata.encode :=
    congrArg fieldsOf hmetadata.valueAt_eq
  refine ⟨⟨?_, ?_, ?_⟩, ?_⟩
  · exact hfields ▸ source.copy_metadata_readFrom
  · rw [Fields.required, hspec.lookup_eq]
    have hpolicy (p : Option LookupPolicy) : ImageStreamSpec.decode? (ImageStreamSpec.encode
        { lookupPolicy := p }) = some { lookupPolicy := p } := by
      rcases p with _ | ⟨_ | _⟩ <;> rfl
    exact hpolicy source.spec.lookupPolicy
  · rw [Fields.optional, Fields.orElse, hstatus.lookup_eq]
    rfl
  · rw [Document.ownName?, hfields, hname.valueAt_eq]
    cases source.metadata.name <;> rfl

/-! ## Runs -/

/-- Providing a stream looks for it. If it is there, the annotations that it misses are set, if
there are any; if it is absent, the copy is created; and the outcome is that of this write. -/
theorem run_provideStream {cluster : String} {source : ImageStream} {exchanges : List Exchange}
    {outcome : Except SyncError Unit} (run : (provideStream cluster source).Run exchanges outcome) :
    ∃ (reply : Except CallError ImageStream) (first second : List Exchange),
      Plan.Run (Plan.send cluster (.getStream source.namespaceName source.name)) first reply ∧
      exchanges = first ++ second ∧
      match reply with
      | .ok existing =>
        if (existing.missingAnnotations source).isEmpty then second = [] ∧ outcome = .ok ()
        else ∃ answer : Except CallError ImageStream,
          Plan.Run (Plan.send cluster (.setAnnotations source.namespaceName source.name
            (existing.missingAnnotations source))) second answer ∧
          (outcome = .ok () ↔ ∃ now, answer = .ok now)
      | .error cause =>
        if cause.saysAbsent then ∃ answer : Except CallError ImageStream,
          Plan.Run (Plan.send cluster (.createStream source.namespaceName source.copy)) second
            answer ∧
          (outcome = .ok () ↔ ∃ now, answer = .ok now)
        else second = [] ∧ outcome ≠ .ok () := by
  rw [provideStream, Job.find?_eq, bind_assoc] at run
  obtain ⟨reply, first, second, hsend, hrest, rfl⟩ := Job.run_send_bind_iff.mp run
  -- Either write ends the run, and it succeeds if the write does.
  have hwrite {call : Call} {failure : CallError → SyncError} {second : List Exchange}
      (h : Job.Run (do let _ ← Job.require cluster call failure; pure ()) second outcome) :
      ∃ answer, Plan.Run (Plan.send cluster call) second answer ∧
        (outcome = .ok () ↔ ∃ now, answer = .ok now) := by
    obtain ⟨answer, hanswer, rfl⟩ := Job.run_require_done_iff.mp h
    refine ⟨answer, hanswer, ?_⟩
    cases answer with
    | ok now => exact iff_of_true rfl ⟨now, rfl⟩
    | error cause => exact iff_of_false nofun nofun
  refine ⟨reply, first, second, hsend, rfl, ?_⟩
  cases reply with
  | ok existing =>
      replace hrest : Job.Run (if (existing.missingAnnotations source).isEmpty then pure ()
        else do
          let _ ← Job.require cluster (.setAnnotations source.namespaceName source.name
            (existing.missingAnnotations source)) (.write (.annotations _ _) cluster)
          pure ()) second outcome := hrest
      dsimp only
      split at hrest
      · next hempty =>
        rw [if_pos hempty]
        exact Job.run_pure_iff.mp hrest
      · next hmissing =>
        rw [if_neg hmissing]
        exact hwrite hrest
  | error cause =>
      dsimp only
      by_cases habsent : cause.saysAbsent = true
      · rw [if_pos habsent]
        have hfound : Job.found (.getStream source.namespaceName source.name cluster)
            (.error cause : Except CallError ImageStream) = .ok none := if_pos habsent
        rw [hfound] at hrest
        exact hwrite hrest
      · rw [if_neg habsent]
        have hfound : Job.found (.getStream source.namespaceName source.name cluster)
            (.error cause : Except CallError ImageStream) =
              .error (.getStream source.namespaceName source.name cluster cause) := if_neg habsent
        rw [hfound] at hrest
        obtain ⟨rfl, rfl⟩ := Job.run_throw_iff.mp hrest
        exact ⟨rfl, nofun⟩

/-! ## What is stored afterwards -/

section Stored

variable {cluster : String} {source existing now : ImageStream} {s s' : Archive}
  {exchanges : List Exchange} {outcome : Except SyncError Unit}

/-- The stream was created as the copy of a source: but for what servers keep of its metadata, it
has the release annotations, the managed finalizer, the lookup policy and nothing else. -/
structure ImageStream.IsCopyOf (now source : ImageStream) : Prop where
  annotations : ∀ key value, now.metadata.annotationMap.get? key = some value ↔
    source.metadata.annotationMap.get? key = some value ∧
      releaseAnnotation.toList <+: key.toList
  finalizers : now.metadata.finalizers = some [managedFinalizer]
  lookupPolicy : now.spec.lookupPolicy = source.spec.lookupPolicy
  tags : now.spec.tags = []
  rest : now = { source.copy with metadata := source.copy.metadata.keptFrom now.metadata }

/-- The stream is an existing one with the release annotations of a source: but for these, and for
what servers keep of its metadata, it is as it was. -/
structure ImageStream.Completes (now existing source : ImageStream) : Prop where
  annotations : ∀ key, now.metadata.annotationMap.get? key =
    (source.releaseAnnotations.get? key).or (existing.metadata.annotationMap.get? key)
  rest : now = { existing with metadata := { existing.metadata.keptFrom now.metadata with
    annotations := now.metadata.annotations } }

theorem ImageStream.IsCopyOf.upToDate (h : now.IsCopyOf source) :
    (now.missingAnnotations source).isEmpty = true := by
  rw [missingAnnotations_isEmpty_iff]
  intro key value hvalue
  exact (h.annotations key value).mpr (get?_releaseAnnotations_iff.mp hvalue)

theorem ImageStream.Completes.upToDate (h : now.Completes existing source) :
    (now.missingAnnotations source).isEmpty = true := by
  rw [missingAnnotations_isEmpty_iff]
  intro key value hvalue
  rw [h.annotations, hvalue]
  rfl

theorem ImageStream.completes_self (h : (now.missingAnnotations source).isEmpty = true) :
    now.Completes now source where
  annotations key := by
    cases hrelease : source.releaseAnnotations.get? key with
    | none => rfl
    | some value => exact missingAnnotations_isEmpty_iff.mp h key value hrelease
  rest := rfl

/-- A stream to which its missing annotations were added is completed. -/
theorem ImageStream.ReadFrom.completes {doc : Document} {stamp : Stamp} (h : existing.ReadFrom doc)
    (h' : now.ReadFrom (doc.annotated (existing.missingAnnotations source) stamp)) :
    now.Completes existing source := by
  refine ⟨fun key => ?_, h.eq_of_sameBut h' Document.sameBut_annotated⟩
  rw [h.get?_annotated h' key]
  -- A release annotation that is not missing stood there before with the same value.
  cases hrelease : source.releaseAnnotations.get? key with
  | none =>
      cases hmissing : (existing.missingAnnotations source).get? key with
      | none => rfl
      | some value =>
          have hget := (get?_missingAnnotations_iff.mp hmissing).1
          cases hrelease.symm.trans hget
  | some value =>
      by_cases hsame : existing.metadata.annotationMap.get? key = some value
      · cases hmissing : (existing.missingAnnotations source).get? key with
        | none => exact hsame
        | some other =>
            have hget := (get?_missingAnnotations_iff.mp hmissing).1
            exact congrArg some (Option.some.inj (hget.symm.trans hrelease))
      · rw [get?_missingAnnotations_iff.mpr ⟨hrelease, hsame⟩, Option.some_or]

/-- A copy that is read after its creation, with a stamp. -/
theorem ImageStream.ReadFrom.isCopyOf {body : Document} {stamp : Stamp}
    (hbody : source.copy.encode = .obj body)
    (h : now.ReadFrom (body.changeMetadata stamp.changes)) :
    now.IsCopyOf source := by
  have hrest := (copy_readFrom hbody).1.of_stamped h
  refine ⟨fun key value => ?_, ?_, ?_, ?_, hrest⟩
  · have hmap : now.metadata.annotationMap = source.copy.metadata.annotationMap := by
      rw [hrest]
      rfl
    rw [hmap, copy_annotationMap, get?_releaseAnnotations_iff]
  · rw [hrest]
    rfl
  · rw [hrest]
    rfl
  · rw [hrest]
    rfl

/-- Providing a stream that is there and misses nothing only looks for it, and it succeeds if the
stream is shown. -/
theorem provideStream_again (holds : s.Holds cluster source.namespaceName source.name now)
    (upToDate : (now.missingAnnotations source).isEmpty = true)
    (run : (provideStream cluster source).Run exchanges outcome)
    (leads : Leads Archive.Answers s exchanges s') :
    s' = s ∧ (∀ e ∈ exchanges, e.call = .getStream source.namespaceName source.name) ∧
      (⟨cluster, .getStream source.namespaceName source.name, .ok now⟩ ∈ exchanges →
        outcome = .ok ()) := by
  obtain ⟨reply, first, second, hsend, rfl, hrest⟩ := run_provideStream run
  cases reply with
  | ok existing =>
      obtain rfl := Plan.run_send_ok hsend
      obtain ⟨t, hlook, hwrites⟩ := leads_cons_iff.mp leads
      obtain ⟨rfl, hholds, -⟩ := hlook.of_getStream
      obtain rfl := holds.unique (hholds existing rfl)
      dsimp only at hrest
      rw [if_pos upToDate] at hrest
      obtain ⟨rfl, rfl⟩ := hrest
      exact ⟨leads_nil_iff.mp hwrites, by simp, fun _ => rfl⟩
  | error cause =>
      dsimp only at hrest
      rcases Plan.run_send_cases hsend with rfl | ⟨rfl, fault, hrequest, hfault⟩
      · obtain ⟨t, hlook, hwrites⟩ := leads_cons_iff.mp leads
        obtain ⟨rfl, -, habsent⟩ := hlook.of_getStream
        -- The server does not say that the stream is absent, for it is there.
        have hthere : ¬ cause.saysAbsent = true := by
          intro h
          obtain ⟨doc, hdoc, -⟩ := holds
          cases (habsent cause rfl h).symm.trans hdoc
        rw [if_neg hthere] at hrest
        obtain ⟨rfl, -⟩ := hrest
        exact ⟨leads_nil_iff.mp hwrites, by simp, by simp⟩
      · obtain rfl := Except.error.inj hfault
        have hthere : ¬ cause.saysAbsent = true :=
          Bool.not_eq_true _ ▸ (Call.says_nothing_of_request hrequest).2
        rw [if_neg hthere] at hrest
        obtain ⟨rfl, -⟩ := hrest
        exact ⟨leads_nil_iff.mp leads, by simp, by simp⟩

def writesAmong (exchanges : List Exchange) : List Call :=
  (exchanges.filter fun e => !e.call.isRead).map (·.call)

/-- What a success comes to where no stream was there: the copy is created. -/
theorem provideStream_absent (absent : s cluster source.namespaceName source.name = none)
    (run : (provideStream cluster source).Run exchanges (.ok ()))
    (leads : Leads Archive.Answers s exchanges s') :
    ∃ now, s'.Holds cluster source.namespaceName source.name now ∧ now.IsCopyOf source ∧
      writesAmong exchanges = [.createStream source.namespaceName source.copy] ∧
      Archive.SameElsewhere cluster source.namespaceName source.name s s' := by
  obtain ⟨reply, first, second, hsend, rfl, hrest⟩ := run_provideStream run
  cases reply with
  | ok existing =>
      obtain rfl := Plan.run_send_ok hsend
      obtain ⟨t, hlook, -⟩ := leads_cons_iff.mp leads
      obtain ⟨-, hholds, -⟩ := hlook.of_getStream
      obtain ⟨doc, hdoc, -⟩ := hholds existing rfl
      cases absent.symm.trans hdoc
  | error cause =>
      dsimp only at hrest
      by_cases hcause : cause.saysAbsent = true
      · rw [if_pos hcause] at hrest
        obtain ⟨answer, hcreate, hok⟩ := hrest
        obtain ⟨now, rfl⟩ := hok.mp rfl
        obtain rfl := Plan.run_send_ok hcreate
        obtain rfl := Plan.run_send_missing hsend (Or.inr hcause)
        obtain ⟨t, hlook, hwrite⟩ := leads_cons_iff.mp leads
        obtain ⟨rfl, -, -⟩ := hlook.of_getStream
        obtain ⟨u, hwrite, hend⟩ := leads_cons_iff.mp hwrite
        obtain rfl := leads_nil_iff.mp hend
        obtain ⟨body, stamp, name, hbody, hname, rfl, hread⟩ := hwrite.of_createStream
        -- The body says the name under which the stream was looked for.
        have hown := (ImageStream.copy_readFrom hbody).2
        have hsource : source.name = name := by
          rw [ImageStream.name, ObjectMeta.anyName, hown.symm.trans hname]
          rfl
        obtain rfl := hsource
        have hcopy := ImageStream.ReadFrom.isCopyOf hbody (ImageStream.readFrom_of_decode? hread)
        refine ⟨now, ⟨_, Archive.put_self _ _ _ _ _, hread⟩, hcopy, rfl, ?_⟩
        exact Archive.put_sameElsewhere _ _ _ _ _
      · rw [if_neg hcause] at hrest
        exact absurd rfl hrest.2

/-- What a success comes to where the stream was there: what it missed is added. -/
theorem provideStream_present {doc : Document}
    (stored : s cluster source.namespaceName source.name = some doc)
    (run : (provideStream cluster source).Run exchanges (.ok ()))
    (leads : Leads Archive.Answers s exchanges s') :
    ∃ existing now doc', ImageStream.decode? (.obj doc) = some existing ∧
      s' cluster source.namespaceName source.name = some doc' ∧
      ImageStream.decode? (.obj doc') = some now ∧
      now.Completes existing source ∧ doc.SameBut doc' ∧
      writesAmong exchanges =
        (if (existing.missingAnnotations source).isEmpty then []
        else [.setAnnotations source.namespaceName source.name
          (existing.missingAnnotations source)]) ∧
      Archive.SameElsewhere cluster source.namespaceName source.name s s' := by
  obtain ⟨reply, first, second, hsend, rfl, hrest⟩ := run_provideStream run
  cases reply with
  | error cause =>
      dsimp only at hrest
      by_cases hcause : cause.saysAbsent = true
      · obtain rfl := Plan.run_send_missing hsend (Or.inr hcause)
        obtain ⟨t, hlook, -⟩ := leads_cons_iff.mp leads
        obtain ⟨-, -, habsent⟩ := hlook.of_getStream
        cases (habsent cause rfl hcause).symm.trans stored
      · rw [if_neg hcause] at hrest
        exact absurd rfl hrest.2
  | ok existing =>
      obtain rfl := Plan.run_send_ok hsend
      obtain ⟨t, hlook, hwrites⟩ := leads_cons_iff.mp leads
      obtain ⟨rfl, hholds, -⟩ := hlook.of_getStream
      obtain ⟨other, hother, hread⟩ := hholds existing rfl
      obtain rfl := Option.some.inj (stored.symm.trans hother)
      dsimp only at hrest
      -- With all annotations in place nothing is written.
      by_cases hempty : (existing.missingAnnotations source).isEmpty = true
      · rw [if_pos hempty] at hrest
        obtain ⟨rfl, -⟩ := hrest
        obtain rfl := leads_nil_iff.mp hwrites
        refine ⟨existing, existing, doc, hread, stored, hread, ImageStream.completes_self hempty,
          ⟨fun _ _ => rfl, fun _ _ => rfl⟩, ?_, fun _ _ _ _ => rfl⟩
        rw [if_pos hempty]
        rfl
      · rw [if_neg hempty] at hrest
        obtain ⟨answer, hset, hok⟩ := hrest
        obtain ⟨now, rfl⟩ := hok.mp rfl
        obtain rfl := Plan.run_send_ok hset
        obtain ⟨u, hwrite, hend⟩ := leads_cons_iff.mp hwrites
        obtain rfl := leads_nil_iff.mp hend
        obtain ⟨other, stamp, hother', rfl, hnow⟩ := hwrite.of_setAnnotations
        obtain rfl := Option.some.inj (stored.symm.trans hother')
        refine ⟨existing, now, _, hread, Archive.put_self _ _ _ _ _, hnow, ?_,
          Document.sameBut_annotated, ?_, Archive.put_sameElsewhere _ _ _ _ _⟩
        · exact (ImageStream.readFrom_of_decode? hread).completes
            (ImageStream.readFrom_of_decode? hnow)
        · rw [if_neg hempty]
          rfl

end Stored

/-- After a success the target holds the stream with all release annotations of its source. If the
stream was absent, it was created as the copy. If it was there, the annotations that it lacked or
had with another value were set, if there were any, and all else is as it was, also what this
program does not know. Providing the stream again only looks for it and changes nothing. -/
theorem provided_stream_is_copy {cluster : String} {source : ImageStream} {s s' : Archive}
    {exchanges : List Exchange} (run : (provideStream cluster source).Run exchanges (.ok ()))
    (leads : Leads Archive.Answers s exchanges s') :
    ∃ now doc', s' cluster source.namespaceName source.name = some doc' ∧
      ImageStream.decode? (.obj doc') = some now ∧
      (∀ key value, releaseAnnotation.toList <+: key.toList →
        source.metadata.annotationMap.get? key = some value →
        now.metadata.annotationMap.get? key = some value) ∧
      (s cluster source.namespaceName source.name = none →
        now.IsCopyOf source ∧
        writesAmong exchanges = [.createStream source.namespaceName source.copy]) ∧
      (∀ doc, s cluster source.namespaceName source.name = some doc →
        ∃ existing, ImageStream.decode? (.obj doc) = some existing ∧
          now.Completes existing source ∧ doc.SameBut doc' ∧
          writesAmong exchanges =
            (if (existing.missingAnnotations source).isEmpty then []
            else [.setAnnotations source.namespaceName source.name
              (existing.missingAnnotations source)]) ∧
          ∀ key value, (existing.missingAnnotations source).get? key = some value ↔
            releaseAnnotation.toList <+: key.toList ∧
            source.metadata.annotationMap.get? key = some value ∧
            existing.metadata.annotationMap.get? key ≠ some value) ∧
      Archive.SameElsewhere cluster source.namespaceName source.name s s' ∧
      ∀ (exchanges' : List Exchange) (outcome : Except SyncError Unit) (s'' : Archive),
        (provideStream cluster source).Run exchanges' outcome →
        Leads Archive.Answers s' exchanges' s'' →
        s'' = s' ∧ (∀ e ∈ exchanges', e.call = .getStream source.namespaceName source.name) ∧
          (⟨cluster, .getStream source.namespaceName source.name, .ok now⟩ ∈ exchanges' →
            outcome = .ok ()) := by
  -- Having nothing missing means having every release annotation.
  have hcomplete {now : ImageStream} (h : (now.missingAnnotations source).isEmpty = true) :
      ∀ key value, releaseAnnotation.toList <+: key.toList →
        source.metadata.annotationMap.get? key = some value →
        now.metadata.annotationMap.get? key = some value := by
    intro key value hprefix hvalue
    exact ImageStream.missingAnnotations_isEmpty_iff.mp h key value
      (ImageStream.get?_releaseAnnotations_iff.mpr ⟨hvalue, hprefix⟩)
  cases hstored : s cluster source.namespaceName source.name with
  | none =>
      obtain ⟨now, ⟨doc', hdoc', hread⟩, hcopy, hwrites, helse⟩ :=
        provideStream_absent hstored run leads
      refine ⟨now, doc', hdoc', hread, hcomplete hcopy.upToDate, fun _ => ⟨hcopy, hwrites⟩,
        fun doc hdoc => ?_, helse, fun exchanges' outcome s'' run' leads' => ?_⟩
      · cases hdoc
      · exact provideStream_again ⟨doc', hdoc', hread⟩ hcopy.upToDate run' leads'
  | some doc =>
      obtain ⟨existing, now, doc', hexisting, hdoc', hread, hcompletes, hsame, hwrites, helse⟩ :=
        provideStream_present hstored run leads
      refine ⟨now, doc', hdoc', hread, hcomplete hcompletes.upToDate, fun hnone => ?_,
        fun other hother => ?_, helse, fun exchanges' outcome s'' run' leads' => ?_⟩
      · cases hnone
      · obtain rfl := Option.some.inj hother
        refine ⟨existing, hexisting, hcompletes, hsame, hwrites, fun key value => ?_⟩
        rw [ImageStream.get?_missingAnnotations_iff, ImageStream.get?_releaseAnnotations_iff,
          and_assoc, and_left_comm]
      · exact provideStream_again ⟨doc', hdoc', hread⟩ hcompletes.upToDate run' leads'

/-- A source with a release annotation, another one, a finalizer of its own and a tag. -/
def annotatedSource : ImageStream where
  metadata := {
    name := some "app"
    «namespace» := some "ci"
    annotations := some (.ofList [("owner", "ci"), ("release.openshift.io/config", "4.20")])
    finalizers := some ["example.com/hold"]
    resourceVersion := some "12" }
  spec := { lookupPolicy := some { «local» := true }, tags := [{ name := "latest" }] }

/-- A stored stream with an older release annotation, one of another release and a field that this
program does not know. -/
def olderDocument : Document :=
  [("kind", .str "ImageStream"),
    ("metadata", .obj [
      ("annotations", .obj [
        ("release.openshift.io/config", .str "4.19"),
        ("release.openshift.io/name", .str "nightly")]),
      ("name", .str "app"),
      ("namespace", .str "ci")]),
    ("spec", .obj []),
    ("paused", .bool true)]

def versionStamp : Stamp := ⟨[("resourceVersion", .str "13")], by simp [serverKept]⟩

/-- Providing the source on a cluster with such a server. -/
def provideThere (s : Archive) : List Exchange × Archive :=
  let job := (provideStream "build01" annotatedSource).run
  (job.exchangesWith (Archive.serve versionStamp) s, (job.play (Archive.serve versionStamp) s).2)

theorem leads_provideThere (s : Archive) :
    Leads Archive.Answers s (provideThere s).1 (provideThere s).2 :=
  leads_play id (Archive.answers_serve versionStamp) _ s

/-- Where it is absent, the stream is created without the annotation and the finalizer of its own;
the older stream gets the newer annotation and keeps the other one and the unknown field. -/
theorem absent_stream_is_created_and_older_one_completed :
    (∃ now doc', (provideThere fun _ _ _ => none).2 "build01" "ci" "app" = some doc' ∧
      ImageStream.decode? (.obj doc') = some now ∧
      now.metadata.annotationMap.get? "release.openshift.io/config" = some "4.20" ∧
      now.metadata.annotationMap.get? "owner" = none ∧
      now.metadata.finalizers = some [managedFinalizer] ∧ now.spec.tags = []) ∧
    ∃ now doc', (provideThere fun _ _ _ => some olderDocument).2 "build01" "ci" "app" = some doc' ∧
      ImageStream.decode? (.obj doc') = some now ∧
      now.metadata.annotationMap.get? "release.openshift.io/config" = some "4.20" ∧
      now.metadata.annotationMap.get? "release.openshift.io/name" = some "nightly" ∧
      named "paused" doc' = [("paused", .bool true)] := by
  have hrun (s : Archive) := Plan.run_play (Archive.serve versionStamp)
    (provideStream "build01" annotatedSource).run s
  constructor
  · obtain ⟨now, doc', hdoc', hread, hrelease, hcreated, -⟩ :=
      provided_stream_is_copy (hrun fun _ _ _ => none) (leads_provideThere fun _ _ _ => none)
    obtain ⟨hcopy, -⟩ := hcreated rfl
    -- The copy takes over release annotations only.
    have howner : now.metadata.annotationMap.get? "owner" = none := by
      refine Option.eq_none_iff_forall_not_mem.mpr fun value hvalue => ?_
      exact absurd ((hcopy.annotations "owner" value).mp hvalue).2 (by decide)
    exact ⟨now, doc', hdoc', hread, hrelease _ "4.20" (by decide) rfl, howner, hcopy.finalizers,
      hcopy.tags⟩
  · obtain ⟨now, doc', hdoc', hread, hrelease, -, hpresent, -⟩ :=
      provided_stream_is_copy (hrun fun _ _ _ => some olderDocument)
        (leads_provideThere fun _ _ _ => some olderDocument)
    obtain ⟨existing, hexisting, hcompletes, hsame, -⟩ := hpresent olderDocument rfl
    have hkept := (ImageStream.readFrom_of_decode? hexisting).metadata.get?_annotationMap
      "release.openshift.io/name"
    refine ⟨now, doc', hdoc', hread, hrelease _ "4.20" (by decide) rfl, ?_,
      hsame.fields "paused" (by decide)⟩
    rw [hcompletes.annotations, hkept]
    rfl

end TagSync
