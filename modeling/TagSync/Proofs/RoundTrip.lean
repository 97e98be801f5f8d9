import TagSync.ImageStreamImport
import TagSync.ImageStreamTag
import TagSync.Proofs.WrittenRecords

/-!
# Reading written image objects

Image streams, their tags and imports are read again as they were written. What is left out of the
text, an option without a value or an empty list, is what a missing field stands for; what a
missing field stands for is written as a value that reads as it. So nothing is lost but fields that
are not known, which are not read in the first place, and the fractions of seconds.

Main statement: what was read as a stream, a tag or an import is read again from its text, without
the fractions of its times, and then has the same text (`written_reads_back`).
-/

set_option autoImplicit false

namespace TagSync

open Json (RoundTrip)
open Json.Fields

/-! ## Images and tag references -/

/-- An image whose metadata is without fractions. -/
def Image.whole (i : Image) : Image :=
  { i with metadata := i.metadata.whole }

theorem Image.roundTrip (outside : Nat) :
    RoundTrip (Image.decode? outside) Image.encode Image.whole := by
  refine .strict (fun _ => by simp) (fun h shows => ?_) fun i => ?_
  · simp only [Option.bind_eq_bind, Option.bind_eq_some_iff, Option.some.injEq] at h
    obtain ⟨metadata, hMetadata, reference, hReference, rfl⟩ := h
    simp only [Option.bind_eq_bind, Option.bind_some,
      orElse_written hMetadata (v := .obj []) rfl (ObjectMeta.roundTrip _) (shows rfl rfl),
      optional_written hReference .string (shows rfl rfl),
      Option.map_id, id]
    rfl
  · simp only [Image.whole, (ObjectMeta.roundTrip 0).write_kept]

theorem ReferencePolicy.roundTrip :
    RoundTrip ReferencePolicy.decode? ReferencePolicy.encode id := by
  refine .strict (fun _ => by simp) (fun h shows => ?_) fun _ => rfl
  simp only [Option.bind_eq_bind, Option.bind_eq_some_iff, Option.some.injEq] at h
  obtain ⟨type, hType, rfl⟩ := h
  simp only [Option.bind_eq_bind, Option.bind_some,
    required_written hType .string (shows rfl rfl),
    id]

theorem TagReference.roundTrip : RoundTrip TagReference.decode? TagReference.encode id := by
  refine .strict (fun _ => by simp) (fun h shows => ?_) fun _ => rfl
  simp only [Option.bind_eq_bind, Option.bind_eq_some_iff, Option.some.injEq] at h
  obtain ⟨name, hName, source, hSource, policy, hPolicy, rfl⟩ := h
  simp only [Option.bind_eq_bind, Option.bind_some,
    required_written hName .string (shows rfl rfl),
    optional_written hSource ObjectReference.roundTrip (shows rfl rfl),
    optional_written hPolicy ReferencePolicy.roundTrip (shows rfl rfl),
    Option.map_id, id]

/-! ## Image streams -/

theorem LookupPolicy.roundTrip : RoundTrip LookupPolicy.decode? LookupPolicy.encode id := by
  refine .strict (fun _ => by simp) (fun h shows => ?_) fun _ => rfl
  simp only [Option.bind_eq_bind, Option.bind_eq_some_iff, Option.some.injEq] at h
  obtain ⟨short, hShort, rfl⟩ := h
  simp only [Option.bind_eq_bind, Option.bind_some,
    orElse_written hShort (v := .bool false) rfl .bool (shows rfl rfl),
    id]

theorem ImageStreamSpec.roundTrip :
    RoundTrip ImageStreamSpec.decode? ImageStreamSpec.encode id := by
  refine .strict (fun _ => by simp) (fun h shows => ?_) fun _ => rfl
  simp only [Option.bind_eq_bind, Option.bind_eq_some_iff, Option.some.injEq] at h
  obtain ⟨policy, hPolicy, tags, hTags, rfl⟩ := h
  simp only [Option.bind_eq_bind, Option.bind_some,
    optional_written hPolicy LookupPolicy.roundTrip (shows rfl rfl),
    list_written hTags TagReference.roundTrip (shows rfl rfl),
    Option.map_id, List.map_id, id]

/-- An event without the fraction of its time. -/
def TagEvent.whole (e : TagEvent) : TagEvent :=
  { e with created := e.created.map Instant.whole }

theorem TagEvent.roundTrip : RoundTrip TagEvent.decode? TagEvent.encode TagEvent.whole := by
  refine .strict (fun _ => by simp) (fun h shows => ?_) fun e => ?_
  · simp only [Option.bind_eq_bind, Option.bind_eq_some_iff, Option.some.injEq] at h
    obtain ⟨created, hCreated, reference, hReference, image, hImage, rfl⟩ := h
    simp only [Option.bind_eq_bind, Option.bind_some,
      optional_written hCreated Instant.roundTrip (shows rfl rfl),
      optional_written hReference .string (shows rfl rfl),
      optional_written hImage .string (shows rfl rfl),
      Option.map_id, id]
    rfl
  · simp only [TagEvent.whole, Option.map_map, Function.comp_def, Instant.roundTrip.write_kept]

/-- A history whose events are without fractions. -/
def TagHistory.whole (t : TagHistory) : TagHistory :=
  { t with items := t.items.map TagEvent.whole }

theorem TagHistory.roundTrip : RoundTrip TagHistory.decode? TagHistory.encode TagHistory.whole := by
  refine .strict (fun _ => by simp) (fun h shows => ?_) fun t => ?_
  · simp only [Option.bind_eq_bind, Option.bind_eq_some_iff, Option.some.injEq] at h
    obtain ⟨tag, hTag, items, hItems, rfl⟩ := h
    simp only [Option.bind_eq_bind, Option.bind_some,
      required_written hTag .string (shows rfl rfl),
      list_written hItems TagEvent.roundTrip (shows rfl rfl)]
    rfl
  · simp only [TagHistory.whole, TagEvent.roundTrip.slotOfList_kept]

/-- A state whose histories are without fractions. -/
def ImageStreamStatus.whole (s : ImageStreamStatus) : ImageStreamStatus :=
  { s with tags := s.tags.map TagHistory.whole }

theorem ImageStreamStatus.roundTrip :
    RoundTrip ImageStreamStatus.decode? ImageStreamStatus.encode ImageStreamStatus.whole := by
  refine .strict (fun _ => by simp) (fun h shows => ?_) fun s => ?_
  · simp only [Option.bind_eq_bind, Option.bind_eq_some_iff, Option.some.injEq] at h
    obtain ⟨home, hHome, outer, hOuter, tags, hTags, rfl⟩ := h
    simp only [Option.bind_eq_bind, Option.bind_some,
      optional_written hHome .string (shows rfl rfl),
      optional_written hOuter .string (shows rfl rfl),
      list_written hTags TagHistory.roundTrip (shows rfl rfl),
      Option.map_id, id]
    rfl
  · simp only [ImageStreamStatus.whole, TagHistory.roundTrip.slotOfList_kept]

/-- A stream whose times are without fractions. -/
def ImageStream.whole (s : ImageStream) : ImageStream :=
  { s with metadata := s.metadata.whole, status := s.status.map ImageStreamStatus.whole }

theorem ImageStream.roundTrip :
    RoundTrip ImageStream.decode? ImageStream.encode ImageStream.whole := by
  refine .strictFull (fun _ => by simp) (fun h shows => ?_) fun s => ?_
  · simp only [Option.bind_eq_bind, Option.bind_eq_some_iff, Option.some.injEq] at h
    obtain ⟨metadata, hMetadata, spec, hSpec, status, hStatus, rfl⟩ := h
    simp only [Option.bind_eq_bind, Option.bind_some,
      required_written hMetadata (ObjectMeta.roundTrip 1) (shows rfl rfl),
      required_written hSpec ImageStreamSpec.roundTrip (shows rfl rfl),
      optional_written hStatus ImageStreamStatus.roundTrip (shows rfl rfl)]
    rfl
  · simp only [ImageStream.whole, (ObjectMeta.roundTrip 0).write_kept, Option.map_map,
      Function.comp_def, ImageStreamStatus.roundTrip.write_kept]

/-! ## Image stream tags -/

/-- A tag whose times are without fractions. -/
def ImageStreamTag.whole (t : ImageStreamTag) : ImageStreamTag :=
  { t with metadata := t.metadata.whole, image := t.image.whole }

/-- Tags with their images are read again without fractions. -/
theorem ImageStreamTag.roundTrip (outside : Nat) :
    RoundTrip (ImageStreamTag.decodeWithin? outside) ImageStreamTag.encode
      ImageStreamTag.whole := by
  refine .strict (fun _ => by simp) (fun h shows => ?_) fun t => ?_
  · simp only [Option.bind_eq_bind, Option.bind_eq_some_iff, Option.some.injEq] at h
    obtain ⟨metadata, hMetadata, tag, hTag, image, hImage, rfl⟩ := h
    simp only [Option.bind_eq_bind, Option.bind_some,
      orElse_written hMetadata (v := .obj []) rfl (ObjectMeta.roundTrip _) (shows rfl rfl),
      optional_written hTag TagReference.roundTrip (shows rfl rfl),
      orElse_written hImage (v := .obj []) rfl (Image.roundTrip _) (shows rfl rfl),
      Option.map_id, id]
    rfl
  · simp only [ImageStreamTag.whole, (ObjectMeta.roundTrip 0).write_kept,
      (Image.roundTrip 0).write_kept]

/-! ## Imports -/

theorem ImageImport.roundTrip : RoundTrip ImageImport.decode? ImageImport.encode id := by
  refine .strict (fun _ => by simp) (fun h shows => ?_) fun _ => rfl
  simp only [Option.bind_eq_bind, Option.bind_eq_some_iff, Option.some.injEq] at h
  obtain ⟨source, hSource, target, hTarget, policy, hPolicy, rfl⟩ := h
  simp only [Option.bind_eq_bind, Option.bind_some,
    required_written hSource ObjectReference.roundTrip (shows rfl rfl),
    optional_written hTarget LocalReference.roundTrip (shows rfl rfl),
    optional_written hPolicy ReferencePolicy.roundTrip (shows rfl rfl),
    Option.map_id, id]

theorem ImageStreamImportSpec.roundTrip :
    RoundTrip ImageStreamImportSpec.decode? ImageStreamImportSpec.encode id := by
  refine .strict (fun _ => by simp) (fun h shows => ?_) fun _ => rfl
  simp only [Option.bind_eq_bind, Option.bind_eq_some_iff, Option.some.injEq] at h
  obtain ⟨importing, hImporting, images, hImages, rfl⟩ := h
  simp only [Option.bind_eq_bind, Option.bind_some,
    required_written hImporting .bool (shows rfl rfl),
    list_written hImages ImageImport.roundTrip (shows rfl rfl),
    List.map_id, id]

/-- A result whose image is without fractions. -/
def ImageImportStatus.whole (s : ImageImportStatus) : ImageImportStatus :=
  { s with image := s.image.map Image.whole }

/-- Results are read again without fractions. -/
theorem ImageImportStatus.roundTrip (outside : Nat) :
    RoundTrip (ImageImportStatus.decode? outside) ImageImportStatus.encode
      ImageImportStatus.whole := by
  refine .strict (fun _ => by simp) (fun h shows => ?_) fun s => ?_
  · simp only [Option.bind_eq_bind, Option.bind_eq_some_iff, Option.some.injEq] at h
    obtain ⟨status, hStatus, image, hImage, tag, hTag, rfl⟩ := h
    simp only [Option.bind_eq_bind, Option.bind_some,
      orElse_written hStatus (v := .obj []) rfl Status.roundTrip (shows rfl rfl),
      optional_written hImage (Image.roundTrip _) (shows rfl rfl),
      optional_written hTag .string (shows rfl rfl),
      Option.map_id, id]
    rfl
  · simp only [ImageImportStatus.whole, Option.map_map, Function.comp_def,
      (Image.roundTrip 0).write_kept]

/-- Results whose images are without fractions. -/
def ImageStreamImportStatus.whole (s : ImageStreamImportStatus) : ImageStreamImportStatus :=
  { s with images := s.images.map ImageImportStatus.whole }

theorem ImageStreamImportStatus.roundTrip :
    RoundTrip ImageStreamImportStatus.decode? ImageStreamImportStatus.encode
      ImageStreamImportStatus.whole := by
  refine .strict (fun _ => by simp) (fun h shows => ?_) fun s => ?_
  · simp only [Option.bind_eq_bind, Option.bind_eq_some_iff, Option.some.injEq] at h
    obtain ⟨images, hImages, rfl⟩ := h
    simp only [Option.bind_eq_bind, Option.bind_some,
      list_written hImages (ImageImportStatus.roundTrip 3) (shows rfl rfl)]
    rfl
  · simp only [ImageStreamImportStatus.whole, (ImageImportStatus.roundTrip 3).slotOfList_kept]

/-- An import whose times are without fractions. -/
def ImageStreamImport.whole (i : ImageStreamImport) : ImageStreamImport :=
  { i with metadata := i.metadata.whole, status := i.status.map ImageStreamImportStatus.whole }

theorem ImageStreamImport.roundTrip :
    RoundTrip ImageStreamImport.decode? ImageStreamImport.encode ImageStreamImport.whole := by
  refine .strictFull (fun _ => by simp) (fun h shows => ?_) fun i => ?_
  · simp only [Option.bind_eq_bind, Option.bind_eq_some_iff, Option.some.injEq] at h
    obtain ⟨metadata, hMetadata, spec, hSpec, status, hStatus, rfl⟩ := h
    simp only [Option.bind_eq_bind, Option.bind_some,
      required_written hMetadata (ObjectMeta.roundTrip 1) (shows rfl rfl),
      required_written hSpec ImageStreamImportSpec.roundTrip (shows rfl rfl),
      optional_written hStatus ImageStreamImportStatus.roundTrip (shows rfl rfl)]
    rfl
  · simp only [ImageStreamImport.whole, (ObjectMeta.roundTrip 0).write_kept, Option.map_map,
      Function.comp_def, ImageStreamImportStatus.roundTrip.write_kept]

/-! ## What is written can be read -/

/-- **Round trip.** Whatever value reads as a stream, as a tag or as an import: what is written of
it reads as the same kind of object, equal to the first but for the fractions of its times, and so
what is written of that is the same again. -/
theorem written_reads_back :
    (∀ (v : Json) (s : ImageStream), ImageStream.decode? v = some s →
      ImageStream.decode? s.encode = some s.whole ∧ s.whole.encode = s.encode) ∧
    (∀ (v : Json) (t : ImageStreamTag), ImageStreamTag.decode? v = some t →
      ImageStreamTag.decode? t.encode = some t.whole ∧ t.whole.encode = t.encode) ∧
    (∀ (v : Json) (i : ImageStreamImport), ImageStreamImport.decode? v = some i →
      ImageStreamImport.decode? i.encode = some i.whole ∧ i.whole.encode = i.encode) := by
  refine ⟨fun v s h => ?_, fun v t h => ?_, fun v i h => ?_⟩
  · exact ⟨ImageStream.roundTrip.back h, ImageStream.roundTrip.write_kept s⟩
  · exact ⟨(ImageStreamTag.roundTrip 0).back h, (ImageStreamTag.roundTrip 0).write_kept t⟩
  · exact ⟨ImageStreamImport.roundTrip.back h, ImageStreamImport.roundTrip.write_kept i⟩

/-- A stream as a value: a time with a fraction and another zone, a leap second, an empty list
and an unknown field. -/
def leapingStream : Json :=
  .obj [
    ("metadata", .obj [
      ("name", .str "app"),
      ("creationTimestamp", .str "2024-02-29T23:59:59.75-02:00")]),
    ("spec", .obj [("tags", .arr []), ("origin", .null)]),
    ("status", .obj [("tags", .arr [.obj [
      ("tag", .str "v1"),
      ("items", .arr [.obj [("created", .str "2016-12-31T23:59:60.5Z")]])]])])]

def agedImage : Json :=
  .obj [("metadata", .obj [
    ("name", .str "sha256:1"),
    ("creationTimestamp", .str "2024-05-06T07:08:09.25Z")])]

def agedTag : Json :=
  .obj [("tag", .null), ("image", agedImage)]

def answeredImport : Json :=
  .obj [
    ("metadata", .obj []),
    ("spec", .obj [("import", .bool true)]),
    ("status", .obj [("images", .arr [.obj [("tag", .str "v1"), ("image", agedImage)]])])]

/-- The stream loses the fraction of its creation, which is a day later in UTC; so does the image
below the tag and below the import. -/
theorem fractions_are_not_written :
    (∃ s, ImageStream.decode? leapingStream = some s ∧
      s.metadata.creationTimestamp = some ⟨⟨2024, 3, 1⟩, 7199, 750000000⟩ ∧
      s.whole.metadata.creationTimestamp = some ⟨⟨2024, 3, 1⟩, 7199, 0⟩ ∧
      ImageStream.decode? s.encode = some s.whole ∧ s.whole.encode = s.encode) ∧
    (∃ t, ImageStreamTag.decode? agedTag = some t ∧
      t.whole.image.created = some ⟨⟨2024, 5, 6⟩, 25689, 0⟩ ∧
      ImageStreamTag.decode? t.encode = some t.whole ∧ t.whole.encode = t.encode) ∧
    (∃ i, ImageStreamImport.decode? answeredImport = some i ∧
      ImageStreamImport.decode? i.encode = some i.whole ∧ i.whole.encode = i.encode) := by
  refine ⟨⟨_, rfl, ?_, ?_, ?_⟩, ⟨_, rfl, ?_, ?_⟩, ⟨_, rfl, ?_⟩⟩
  · rfl
  · rfl
  · exact written_reads_back.1 leapingStream _ rfl
  · rfl
  · exact written_reads_back.2.1 agedTag _ rfl
  · exact written_reads_back.2.2 answeredImport _ rfl

end TagSync
