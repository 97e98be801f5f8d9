import TagSync.ImageStream
import TagSync.Proofs.MergePatch

/-!
# Stored documents

A stored object is a `Document`. A write changes its metadata by a merge patch, and a server adds a
`Stamp` of the fields that it keeps by itself. What is read of a document is read of its fields
(`ImageStream.ReadFrom`, `ObjectMeta.ReadFrom`), so a stream that is read after a write differs from
the one that was read before in the changed fields only (`ImageStream.ReadFrom.eq_of_sameBut`).
-/

set_option autoImplicit false

namespace TagSync

open Json

/-! ## Documents -/

/-- A stored object, as its fields. -/
abbrev Document : Type := List (String × Json)

namespace Document

def metadata (doc : Document) : List (String × Json) := fieldsOf (valueAt "metadata" doc)

def changeMetadata (changes : List (String × Json)) (doc : Document) : Document :=
  mergeFields [("metadata", .obj changes)] doc

theorem metadata_changeMetadata (changes : List (String × Json)) (doc : Document) :
    (doc.changeMetadata changes).metadata = mergeFields changes doc.metadata := by
  have hobject : Json.obj changes ≠ .null := nofun
  have hnamed := named_mergeFields_singleton "metadata" hobject doc
  rw [metadata, changeMetadata, valueAt_of_named hnamed, mergePatch, fieldsOf, metadata]

theorem named_changeMetadata {name : String} (h : name ≠ "metadata")
    (changes : List (String × Json)) (doc : Document) :
    named name (doc.changeMetadata changes) = named name doc :=
  named_mergeFields_of_not_mem (by simpa using h) doc

def ownName? (doc : Document) : Option String :=
  (valueAt "name" doc.metadata).asString?

end Document

/-- The fields of an object's metadata that servers keep by themselves. -/
def serverKept : List String :=
  ["creationTimestamp", "generation", "managedFields", "resourceVersion", "selfLink", "uid"]

/-- Changes of metadata that a server makes by itself. -/
structure Stamp where
  changes : List (String × Json)
  /-- They are about what servers keep. -/
  kept : ∀ change ∈ changes, change.1 ∈ serverKept

theorem Stamp.named_metadata {name : String} (h : name ∉ serverKept) (stamp : Stamp)
    (doc : Document) :
    named name (doc.changeMetadata stamp.changes).metadata = named name doc.metadata := by
  rw [Document.metadata_changeMetadata]
  refine named_mergeFields_of_not_mem (fun hmem => ?_) _
  obtain ⟨change, hchange, rfl⟩ := List.mem_map.mp hmem
  exact h (stamp.kept change hchange)

/-! ## What is read of metadata -/

/-- What does not depend on the server is read of the fields. -/
structure ObjectMeta.ReadFrom (fields : List (String × Json)) (m : ObjectMeta) : Prop where
  annotations : Fields.last ⟨fields⟩ "annotations" stringMapOf? = some m.annotations
  deletionGracePeriodSeconds :
    Fields.last ⟨fields⟩ "deletionGracePeriodSeconds" asInt64? = some m.deletionGracePeriodSeconds
  deletionTimestamp :
    Fields.last ⟨fields⟩ "deletionTimestamp" Instant.decode? = some m.deletionTimestamp
  finalizers : Fields.last ⟨fields⟩ "finalizers" stringsOf? = some m.finalizers
  generateName : Fields.last ⟨fields⟩ "generateName" asString? = some m.generateName
  labels : Fields.last ⟨fields⟩ "labels" stringMapOf? = some m.labels
  name : Fields.last ⟨fields⟩ "name" asString? = some m.name
  «namespace» : Fields.last ⟨fields⟩ "namespace" asString? = some m.namespace
  ownerReferences : Fields.last ⟨fields⟩ "ownerReferences" (asList? OwnerReference.decode?) =
    some m.ownerReferences

theorem ObjectMeta.readFrom_of_decode? {outside : Nat} {fields : List (String × Json)}
    {m : ObjectMeta} (h : ObjectMeta.decode? outside (.obj fields) = some m) :
    m.ReadFrom fields := by
  unfold ObjectMeta.decode? at h
  dsimp only [Option.bind_eq_bind] at h
  simp only [↓Option.bind_eq_some_iff, Option.some.injEq] at h
  obtain ⟨fs, hfs, annotations, hAnnotations, created, -, grace, hGrace, deleted, hDeleted,
    finalizers, hFinalizers, generateName, hGenerateName, generation, -, labels, hLabels, managed,
    -, name, hName, home, hHome, owners, hOwners, version, -, link, -, uid, -, rfl⟩ := h
  obtain rfl := Option.some.inj hfs
  exact ⟨hAnnotations, hGrace, hDeleted, hFinalizers, hGenerateName, hLabels, hName, hHome, hOwners⟩

/-- The metadata, but for what servers keep, which is taken from others. -/
def ObjectMeta.keptFrom (m kept : ObjectMeta) : ObjectMeta :=
  { m with
    creationTimestamp := kept.creationTimestamp
    generation := kept.generation
    managedFields := kept.managedFields
    resourceVersion := kept.resourceVersion
    selfLink := kept.selfLink
    uid := kept.uid }

section Metadata

variable {fields fields' : List (String × Json)} {m m' : ObjectMeta}

/-- Metadata that is read after a change of annotations differs in these and in what servers
keep. -/
theorem ObjectMeta.ReadFrom.eq_keptFrom (h : m.ReadFrom fields) (h' : m'.ReadFrom fields')
    (same : ∀ name, name ∉ "annotations" :: serverKept → named name fields' = named name fields) :
    m' = { m.keptFrom m' with annotations := m'.annotations } := by
  -- A field is read alike from both, as its last value is the same.
  have each {α : Type} {name : String} {read : Json → Option α} {slot slot' : Option α}
      (hslot : Fields.last ⟨fields⟩ name read = some slot)
      (hslot' : Fields.last ⟨fields'⟩ name read = some slot')
      (hname : name ∉ "annotations" :: serverKept) : slot' = slot :=
    Option.some.inj (hslot'.symm.trans ((Fields.last_congr (same name hname) read).trans hslot))
  have hgrace := each h.deletionGracePeriodSeconds h'.deletionGracePeriodSeconds (by decide)
  have hdeleted := each h.deletionTimestamp h'.deletionTimestamp (by decide)
  have hfinalizers := each h.finalizers h'.finalizers (by decide)
  have hgenerate := each h.generateName h'.generateName (by decide)
  have hlabels := each h.labels h'.labels (by decide)
  have hname := each h.name h'.name (by decide)
  have hhome := each h.namespace h'.namespace (by decide)
  have howners := each h.ownerReferences h'.ownerReferences (by decide)
  cases m'
  simp_all only [keptFrom]

/-- An annotation is read of the last value of its name. -/
theorem ObjectMeta.ReadFrom.get?_annotationMap (h : m.ReadFrom fields) (key : String) :
    m.annotationMap.get? key =
      ((named key (fieldsOf (valueAt "annotations" fields))).getLast?).bind
        fun f => f.2.asString? := by
  have hread := Fields.orNull?_valueAt h.annotations
  show _ = ((named key (fieldsOf (valueAt "annotations" fields))).getLast?).bind _
  rw [orNull?.eq_def] at hread
  split at hread
  · next hnull =>
    rw [ObjectMeta.annotationMap, ← Option.some.inj hread, hnull]
    rfl
  · obtain ⟨annotations, hmap, hsome⟩ := Option.map_eq_some_iff.mp hread
    rw [ObjectMeta.annotationMap, ← hsome]
    exact get?_of_asMap? hmap key

end Metadata

/-! ## What is read of streams -/

/-- A stream is read of the metadata, the specification and the state of a document. -/
structure ImageStream.ReadFrom (doc : Document) (s : ImageStream) : Prop where
  metadata : s.metadata.ReadFrom doc.metadata
  spec : Fields.required ⟨doc⟩ "spec" ImageStreamSpec.decode? = some s.spec
  status : Fields.optional ⟨doc⟩ "status" ImageStreamStatus.decode? = some s.status

theorem named_known {names : List String} {name : String} (h : names.contains name = true)
    (doc : Document) :
    named name (doc.filter fun f => names.contains f.1) = named name doc :=
  named_filter (fun _ hname => hname ▸ h) doc

theorem ImageStream.readFrom_of_decode? {doc : Document} {s : ImageStream}
    (h : ImageStream.decode? (.obj doc) = some s) : s.ReadFrom doc := by
  unfold ImageStream.decode? at h
  simp only [Option.bind_eq_bind, Option.bind_eq_some_iff, Option.some.injEq] at h
  obtain ⟨fs, hfs, metadata, hMetadata, spec, hSpec, status, hStatus, rfl⟩ := h
  have hstrict : (obj doc).strict? ["metadata", "spec", "status"] = some fs := hfs
  obtain ⟨hnodup, heq⟩ := Option.ite_none_right_eq_some.mp hstrict
  obtain rfl := Option.some.inj heq
  have hknown {name : String} (hname : ["metadata", "spec", "status"].contains name = true) :=
    named_known hname doc
  have hlookup {name : String} (hname : ["metadata", "spec", "status"].contains name = true) :=
    lookup_congr (hknown hname)
  refine ⟨?_, ?_, ?_⟩
  · obtain ⟨v, hv, hread⟩ := Option.bind_eq_some_iff.mp hMetadata
    -- The names of a strict record differ, so the value that is found is the last one.
    have hsingle : named "metadata" doc = [("metadata", v)] := by
      rw [← hknown (by decide), named, filter_eq_lookup hnodup, hv]
      rfl
    cases v with
    | obj fields =>
        have hfields : doc.metadata = fields := by
          rw [Document.metadata, valueAt_of_named hsingle]
          rfl
        exact hfields ▸ ObjectMeta.readFrom_of_decode? hread
    | _ => cases hread
  · rw [Fields.required, ← hlookup (by decide)]
    exact hSpec
  · rw [Fields.optional, Fields.orElse, ← hlookup (by decide)]
    exact hStatus

/-- But for annotations and what servers keep of the metadata, two documents have the same
fields. -/
structure Document.SameBut (doc doc' : Document) : Prop where
  fields : ∀ name, name ≠ "metadata" → named name doc' = named name doc
  metadata : ∀ name, name ∉ "annotations" :: serverKept →
    named name doc'.metadata = named name doc.metadata

/-- Streams that are read of such documents differ in annotations and in what servers keep. -/
theorem ImageStream.ReadFrom.eq_of_sameBut {doc doc' : Document} {s now : ImageStream}
    (h : s.ReadFrom doc) (h' : now.ReadFrom doc') (same : doc.SameBut doc') :
    now = { s with metadata := { s.metadata.keptFrom now.metadata with
      annotations := now.metadata.annotations } } := by
  have hmetadata := h.metadata.eq_keptFrom h'.metadata same.metadata
  have hspec : now.spec = s.spec := by
    have hread := h'.spec
    rw [Fields.required, lookup_congr (same.fields "spec" (by decide))] at hread
    exact Option.some.inj (hread.symm.trans h.spec)
  have hstatus : now.status = s.status := by
    have hread := h'.status
    rw [Fields.optional, Fields.orElse, lookup_congr (same.fields "status" (by decide))] at hread
    exact Option.some.inj (hread.symm.trans h.status)
  rw [← hmetadata, ← hspec, ← hstatus]

theorem Stamp.sameBut (stamp : Stamp) (doc : Document) :
    doc.SameBut (doc.changeMetadata stamp.changes) where
  fields _ hname := Document.named_changeMetadata hname stamp.changes doc
  metadata _ hname := stamp.named_metadata (fun hkept => hname (List.mem_cons_of_mem _ hkept)) doc

theorem ImageStream.ReadFrom.of_stamped {doc : Document} {s now : ImageStream} {stamp : Stamp}
    (h : s.ReadFrom doc) (h' : now.ReadFrom (doc.changeMetadata stamp.changes)) :
    now = { s with metadata := s.metadata.keptFrom now.metadata } := by
  have hrest := h.eq_of_sameBut h' (stamp.sameBut doc)
  have hannotations : now.metadata.annotations = s.metadata.annotations := by
    have hkept : "annotations" ∉ serverKept := by decide
    have hsame := Fields.last_congr (stamp.named_metadata hkept doc) stringMapOf?
    exact Option.some.inj (h'.metadata.annotations.symm.trans (hsame.trans h.metadata.annotations))
  rw [hannotations] at hrest
  exact hrest

/-! ## Annotations -/

/-- The document after annotations were set, with a stamp. -/
def Document.annotated (annotations : NameMap String) (stamp : Stamp) (doc : Document) : Document :=
  (doc.changeMetadata [("annotations", .ofMap .str annotations)]).changeMetadata stamp.changes

section Annotated

variable {doc : Document} {annotations : NameMap String} {stamp : Stamp} {key : String}

theorem Document.sameBut_annotated : doc.SameBut (doc.annotated annotations stamp) where
  fields name hname := by
    rw [annotated, named_changeMetadata hname, named_changeMetadata hname]
  metadata name hname := by
    rw [List.mem_cons, not_or] at hname
    rw [annotated, stamp.named_metadata hname.2, metadata_changeMetadata]
    exact named_mergeFields_of_not_mem (by simpa using hname.1) _

/-- The annotations as they are stored then: those that were set, and the others as before. -/
theorem Document.named_annotation :
    named key (fieldsOf (valueAt "annotations" (doc.annotated annotations stamp).metadata)) =
      (annotations.get? key).elim (named key (fieldsOf (valueAt "annotations" doc.metadata)))
        fun value => [(key, .str value)] := by
  have hvalue : valueAt "annotations" (doc.annotated annotations stamp).metadata =
      mergePatch (.ofMap .str annotations) (valueAt "annotations" doc.metadata) := by
    have hnamed : named "annotations" (doc.annotated annotations stamp).metadata =
        [("annotations", mergePatch (.ofMap .str annotations)
          (valueAt "annotations" doc.metadata))] := by
      rw [annotated, stamp.named_metadata (by decide), metadata_changeMetadata]
      have hobject : Json.ofMap .str annotations ≠ .null := by simp [ofMap]
      exact named_mergeFields_singleton "annotations" hobject _
    exact valueAt_of_named hnamed
  rw [hvalue, ofMap, mergePatch, fieldsOf]
  have hnames : (annotations.entries.map fun e => (e.1, Json.str e.2)).map (·.1) =
      annotations.entries.map (·.1) := by
    rw [List.map_map]
    rfl
  -- An annotation that the change names is set; all others are left alone.
  cases hget : annotations.get? key with
  | some value =>
      have hmem : (key, Json.str value) ∈ annotations.entries.map fun e => (e.1, Json.str e.2) :=
        List.mem_map.mpr ⟨_, NameMap.get?_eq_some_iff_mem.mp hget, rfl⟩
      have hnodup := hnames.symm ▸ annotations.nodup_entries
      have hstring : Json.str value ≠ .null := by simp
      rw [named_mergeFields_of_mem hnodup hmem hstring]
      rfl
  | none =>
      refine named_mergeFields_of_not_mem (fun hmem => ?_) _
      rw [hnames] at hmem
      obtain ⟨⟨_, value⟩, hentry, rfl⟩ := List.mem_map.mp hmem
      cases hget.symm.trans (NameMap.get?_eq_some_iff_mem.mpr hentry)

theorem ImageStream.ReadFrom.get?_annotated {s now : ImageStream} (h : s.ReadFrom doc)
    (h' : now.ReadFrom (doc.annotated annotations stamp)) (key : String) :
    now.metadata.annotationMap.get? key =
      (annotations.get? key).or (s.metadata.annotationMap.get? key) := by
  rw [h'.metadata.get?_annotationMap, Document.named_annotation, h.metadata.get?_annotationMap]
  cases annotations.get? key <;> rfl

end Annotated

end TagSync
