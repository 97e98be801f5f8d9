import TagSync.Object.Meta
import TagSync.Object.Reference
import TagSync.Object.Status
import TagSync.Proofs.WrittenFields
import TagSync.Proofs.WrittenInstants

/-!
# Reading written metadata, references and status objects

The records that every object of the API is built from have ways to be read and to be written that
belong together (`Json.RoundTrip`). Of times the fraction of the second is lost; a record without
it is its `whole`.
-/

set_option autoImplicit false

namespace TagSync

open Json (RoundTrip)
open Json.Fields

/-! ## Metadata -/

theorem Instant.roundTrip : RoundTrip Instant.decode? Instant.encode Instant.whole where
  back := by
    intro v t h
    obtain ⟨text, -, ht⟩ := Option.bind_eq_some_iff.mp h
    rw [Instant.encode, Instant.decode?, Json.asString?, Option.bind_some]
    exact Instant.parse?_write ht
  ne_null := fun _ _ => nofun
  write_kept t := congrArg Json.str t.write_whole

/-- Owners are read again. -/
theorem OwnerReference.roundTrip : RoundTrip OwnerReference.decode? OwnerReference.encode id := by
  refine .lenient (fun _ => by simp) (fun h shows => ?_) fun _ => rfl
  simp only [Option.bind_eq_bind, Option.bind_eq_some_iff, Option.some.injEq] at h
  -- Every field was readable once, and so it is read again from its slot.
  obtain ⟨apiVersion, hApiVersion, block, hBlock, controller, hController, kind, hKind, name,
    hName, uid, hUid, rfl⟩ := h
  simp only [Option.bind_eq_bind, Option.bind_some,
    text_written hApiVersion (shows rfl),
    last_written hBlock .bool (shows rfl),
    last_written hController .bool (shows rfl),
    text_written hKind (shows rfl),
    text_written hName (shows rfl),
    text_written hUid (shows rfl),
    Option.map_id, id]

/-- An entry without the fraction of its time. -/
def ManagedFields.whole (m : ManagedFields) : ManagedFields :=
  { m with time := m.time.map Instant.whole }

/-- Entries about fields are read again without the fractions of their times. -/
theorem ManagedFields.roundTrip (room : Nat) :
    RoundTrip (ManagedFields.decode? room) ManagedFields.encode ManagedFields.whole := by
  refine .lenient (fun _ => by simp) (fun h shows => ?_) fun m => ?_
  · simp only [Option.bind_eq_bind, Option.bind_eq_some_iff, Option.some.injEq] at h
    obtain ⟨apiVersion, hApiVersion, fieldsType, hFieldsType, fields, hFields, manager, hManager,
      operation, hOperation, subresource, hSubresource, time, hTime, rfl⟩ := h
    simp only [Option.bind_eq_bind, Option.bind_some,
      last_written hApiVersion .string (shows rfl),
      last_written hFieldsType .string (shows rfl),
      any_written hFields (shows rfl),
      last_written hManager .string (shows rfl),
      last_written hOperation .string (shows rfl),
      last_written hSubresource .string (shows rfl),
      last_written hTime Instant.roundTrip (shows rfl),
      Option.map_id, id]
    rfl
  · simp only [ManagedFields.whole, Option.map_map, Function.comp_def,
      Instant.roundTrip.write_kept]

/-- Metadata whose times are without fractions. -/
def ObjectMeta.whole (m : ObjectMeta) : ObjectMeta :=
  { m with
    creationTimestamp := m.creationTimestamp.map Instant.whole
    deletionTimestamp := m.deletionTimestamp.map Instant.whole
    managedFields := m.managedFields.map (List.map ManagedFields.whole) }

/-- Metadata is read again without the fractions of its times. -/
theorem ObjectMeta.roundTrip (outside : Nat) :
    RoundTrip (ObjectMeta.decode? outside) ObjectMeta.encode ObjectMeta.whole := by
  refine .lenient (fun _ => by simp) (fun h shows => ?_) fun m => ?_
  -- The steps are taken apart from the outside: there are too many to start at the innermost.
  · dsimp only [Option.bind_eq_bind] at h
    simp only [↓Option.bind_eq_some_iff, Option.some.injEq] at h
    obtain ⟨annotations, hAnnotations, created, hCreated, grace, hGrace, deleted, hDeleted,
      finalizers, hFinalizers, generateName, hGenerateName, generation, hGeneration, labels,
      hLabels, managed, hManaged, name, hName, home, hHome, owners, hOwners, version, hVersion,
      link, hLink, uid, hUid, rfl⟩ := h
    simp only [Option.bind_eq_bind, Option.bind_some,
      last_written hAnnotations (.map .string) (shows rfl),
      last_written hCreated Instant.roundTrip (shows rfl),
      last_written hGrace (.int _ _) (shows rfl),
      last_written hDeleted Instant.roundTrip (shows rfl),
      last_written hFinalizers RoundTrip.string.exactList (shows rfl),
      last_written hGenerateName .string (shows rfl),
      last_written hGeneration (.int _ _) (shows rfl),
      last_written hLabels (.map .string) (shows rfl),
      last_written hManaged (ManagedFields.roundTrip _).list (shows rfl),
      last_written hName .string (shows rfl),
      last_written hHome .string (shows rfl),
      last_written hOwners OwnerReference.roundTrip.exactList (shows rfl),
      last_written hVersion .string (shows rfl),
      last_written hLink .string (shows rfl),
      last_written hUid .string (shows rfl),
      Option.map_id, id]
    rfl
  · simp only [ObjectMeta.whole, Option.map_map, Function.comp_def,
      Instant.roundTrip.write_kept, (ManagedFields.roundTrip 0).list.write_kept]

/-! ## References -/

/-- References to objects are read again. -/
theorem ObjectReference.roundTrip :
    RoundTrip ObjectReference.decode? ObjectReference.encode id := by
  refine .lenient (fun _ => by simp) (fun h shows => ?_) fun _ => rfl
  simp only [Option.bind_eq_bind, Option.bind_eq_some_iff, Option.some.injEq] at h
  obtain ⟨apiVersion, hApiVersion, fieldPath, hFieldPath, kind, hKind, name, hName, home, hHome,
    version, hVersion, uid, hUid, rfl⟩ := h
  simp only [Option.bind_eq_bind, Option.bind_some,
    last_written hApiVersion .string (shows rfl),
    last_written hFieldPath .string (shows rfl),
    last_written hKind .string (shows rfl),
    last_written hName .string (shows rfl),
    last_written hHome .string (shows rfl),
    last_written hVersion .string (shows rfl),
    last_written hUid .string (shows rfl),
    Option.map_id, id]

theorem LocalReference.roundTrip : RoundTrip LocalReference.decode? LocalReference.encode id := by
  refine .lenient (fun _ => by simp) (fun h shows => ?_) fun _ => rfl
  simp only [Option.bind_eq_bind, Option.bind_eq_some_iff, Option.some.injEq] at h
  obtain ⟨name, hName, rfl⟩ := h
  simp only [Option.bind_eq_bind, Option.bind_some,
    text_written hName (shows rfl),
    id]

/-! ## Status objects -/

theorem StatusCause.roundTrip : RoundTrip StatusCause.decode? StatusCause.encode id := by
  refine .lenient (fun _ => by simp) (fun h shows => ?_) fun _ => rfl
  simp only [Option.bind_eq_bind, Option.bind_eq_some_iff, Option.some.injEq] at h
  obtain ⟨field, hField, message, hMessage, reason, hReason, rfl⟩ := h
  simp only [Option.bind_eq_bind, Option.bind_some,
    last_written hField .string (shows rfl),
    last_written hMessage .string (shows rfl),
    last_written hReason .string (shows rfl),
    Option.map_id, id]

/-- Details of a failure are read again. -/
theorem StatusDetails.roundTrip : RoundTrip StatusDetails.decode? StatusDetails.encode id := by
  refine .lenient (fun _ => by simp) (fun h shows => ?_) fun _ => rfl
  simp only [Option.bind_eq_bind, Option.bind_eq_some_iff, Option.some.injEq] at h
  obtain ⟨causes, hCauses, group, hGroup, kind, hKind, name, hName, retry, hRetry, uid, hUid,
    rfl⟩ := h
  simp only [Option.bind_eq_bind, Option.bind_some,
    last_written hCauses StatusCause.roundTrip.exactList (shows rfl),
    last_written hGroup .string (shows rfl),
    last_written hKind .string (shows rfl),
    last_written hName .string (shows rfl),
    last_written hRetry (.int _ _) (shows rfl),
    last_written hUid .string (shows rfl),
    Option.map_id, id]

theorem ListMeta.roundTrip : RoundTrip ListMeta.decode? ListMeta.encode id := by
  refine .lenient (fun _ => by simp) (fun h shows => ?_) fun _ => rfl
  simp only [Option.bind_eq_bind, Option.bind_eq_some_iff, Option.some.injEq] at h
  obtain ⟨more, hMore, remaining, hRemaining, version, hVersion, link, hLink, rfl⟩ := h
  simp only [Option.bind_eq_bind, Option.bind_some,
    last_written hMore .string (shows rfl),
    last_written hRemaining (.int _ _) (shows rfl),
    last_written hVersion .string (shows rfl),
    last_written hLink .string (shows rfl),
    Option.map_id, id]

/-- Status objects are read again: the version and the type that they are written with are the right
ones. -/
theorem Status.roundTrip : RoundTrip Status.decode? Status.encode id := by
  refine .lenient (fun _ => by simp) (fun {_ fs _} h shows => ?_) fun _ => rfl
  obtain ⟨-, -, h⟩ := Option.bind_eq_some_iff.mp h
  simp only [Option.bind_eq_bind, Option.bind_eq_some_iff, Option.some.injEq] at h
  obtain ⟨code, hCode, details, hDetails, message, hMessage, metadata, hMetadata, reason, hReason,
    status, hStatus, rfl⟩ := h
  have hown : (fs.allows "apiVersion" "v1" && fs.allows "kind" "Status") = true :=
    Bool.and_eq_true_iff.mpr ⟨allows_written (shows rfl), allows_written (shows rfl)⟩
  refine Option.bind_eq_some_iff.mpr ⟨(), if_pos hown, ?_⟩
  simp only [Option.bind_eq_bind, Option.bind_some,
    last_written hCode (.int _ _) (shows rfl),
    last_written hDetails StatusDetails.roundTrip (shows rfl),
    last_written hMessage .string (shows rfl),
    record_written hMetadata rfl ListMeta.roundTrip (shows rfl),
    last_written hReason .string (shows rfl),
    last_written hStatus .string (shows rfl),
    Option.map_id, id]

end TagSync
