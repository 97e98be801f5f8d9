import TagSync.Proofs.Requests
import TagSync.Release

/-!
# Clusters as stores

A `World` is what all clusters store: namespaces, and streams with their tags. `World.serve` is
how a healthy cluster answers a call and what becomes of the world. A tag is stored beside its
stream only; an import makes it stand for a given image at the next of the times to come.
-/

set_option autoImplicit false

namespace TagSync

open Api
open Plan (Exchange)

def NameMap.merge {α : Type} (m other : NameMap α) : NameMap α :=
  other.entries.foldl (fun m e => m.insert e.1 e.2) m

/-! ## What is stored -/

/-- A stream as a cluster stores it, with the tags that stand beside it. -/
structure StoredStream where
  stream : ImageStream
  /-- The tags by their names. -/
  tags : String → Option ImageStreamTag := fun _ => none

/-- What one cluster stores. -/
structure Store where
  /-- The namespaces by name. -/
  namespaces : String → Option Namespace := fun _ => none
  /-- The streams by namespace and name. -/
  streams : String → String → Option StoredStream := fun _ _ => none

/-- What all clusters store, and what they will stamp on objects. -/
structure World where
  stores : String → Store
  /-- The times at which images will be created. -/
  times : Nat → Instant
  /-- The versions that written streams will have. -/
  versions : Nat → String

namespace World

def stream? (w : World) (cluster ns name : String) : Option StoredStream :=
  (w.stores cluster).streams ns name

def tag? (w : World) (cluster ns stream tag : String) : Option ImageStreamTag :=
  (w.stream? cluster ns stream).bind fun stored => stored.tags tag

def look? (w : World) (cluster ns name : String) : Option ImageStreamTag :=
  (TagName.parse? name).bind fun parts => w.tag? cluster ns parts.stream parts.tag

def namespace? (w : World) (cluster name : String) : Option Namespace :=
  (w.stores cluster).namespaces name

/-! ## Writing -/

def stamp (w : World) (stream : ImageStream) : ImageStream :=
  { stream with metadata := { stream.metadata with resourceVersion := some (w.versions 0) } }

/-- Stores a stream in place of what was there, or nothing. -/
def put (w : World) (cluster ns name : String) (stored : Option StoredStream) : World where
  stores := fun c =>
    if c = cluster then
      { w.stores c with
        streams := fun n s => if n = ns ∧ s = name then stored else (w.stores c).streams n s }
    else w.stores c
  times := w.times
  versions := fun n => w.versions (n + 1)

def putNamespace (w : World) (cluster name : String) (object : Namespace) : World where
  stores := fun c =>
    if c = cluster then
      { w.stores c with
        namespaces := fun n => if n = name then some object else (w.stores c).namespaces n }
    else w.stores c
  times := w.times
  versions := w.versions

/-- Changes the metadata of a stream, as long as the stream has the given version. A stream that
is marked for deletion and not held any more is gone. -/
def change (w : World) (cluster ns name : String) (version : Option String)
    (f : ObjectMeta → ObjectMeta) : Except CallError ImageStream × World :=
  match w.stream? cluster ns name with
  | none => (.error notThere, w)
  | some stored =>
    if version.isSome && version != stored.stream.metadata.resourceVersion then
      (.error (refusal "Conflict" 409), w)
    else
      let stream := w.stamp { stored.stream with metadata := f stored.stream.metadata }
      let gone := stream.metadata.isTerminating && stream.metadata.finalizerList.isEmpty
      (.ok stream, w.put cluster ns name (if gone then none else some { stored with stream }))

/-- The stream as it is stored when it is created: under its name, in its namespace, and not
marked for deletion. -/
def created (w : World) (ns : String) (stream : ImageStream) : ImageStream :=
  w.stamp { stream with metadata := { stream.metadata with
    name := some stream.name
    «namespace» := some ns
    deletionTimestamp := none } }

/-- Creates a stream in a namespace that is there, under a proper name that is not taken. -/
def create (w : World) (cluster ns : String) (stream : ImageStream) :
    Except CallError ImageStream × World :=
  if IsObjectName ns ∧ IsObjectName stream.name then
    match w.namespace? cluster ns, w.stream? cluster ns stream.name with
    | none, _ => (.error notThere, w)
    | some _, some _ => (.error (refusal "AlreadyExists" 409), w)
    | some _, none =>
      (.ok (w.created ns stream),
        w.put cluster ns stream.name (some { stream := w.created ns stream }))
  else (.error (refusal "Invalid" 422), w)

/-- Deletes a stream, or marks it for deletion as long as it is held. -/
def delete (w : World) (cluster ns name : String) : Except CallError Unit × World :=
  match w.stream? cluster ns name with
  | none => (.error notThere, w)
  | some stored =>
    if stored.stream.metadata.finalizerList.isEmpty then (.ok (), w.put cluster ns name none)
    else if stored.stream.metadata.isTerminating then (.ok (), w)
    else
      let stream := w.stamp { stored.stream with metadata := { stored.stream.metadata with
        deletionTimestamp := some (w.times 0) } }
      (.ok (), w.put cluster ns name (some { stored with stream }))

/-! ## Imports -/

/-- The tag after an import: it comes from the reference and stands for the image. -/
def tagOfImport (digest : Option String) (tag : String) (image : ImageImport) (time : Instant) :
    ImageStreamTag where
  tag := some {
    name := tag
    «from» := some image.from
    referencePolicy := image.referencePolicy }
  image := {
    metadata := { name := digest, creationTimestamp := some time }
    dockerImageReference := image.from.name }

/-- Stores a tag beside its stream, at the next of the times to come. -/
def putTag (w : World) (cluster ns name tag : String) (stored : StoredStream)
    (object : ImageStreamTag) : World :=
  { w.put cluster ns name (some {
      stream := w.stamp stored.stream
      tags := fun t => if t = tag then some object else stored.tags t }) with
    times := fun n => w.times (n + 1) }

/-- Imports the image with a digest into a tag of a stream that is there. -/
def importInto (digest : Option String) (w : World) (cluster ns : String)
    (request : ImageStreamImport) : Except CallError ImageStreamImport × World :=
  match w.stream? cluster ns request.metadata.anyName, request.spec.images with
  | none, _ => (.error notThere, w)
  | some stored, [image] =>
    match image.target with
    | none => (.error (refusal "Invalid" 422), w)
    | some target =>
      let object := tagOfImport digest target.name image (w.times 0)
      let report : ImageImportStatus := { image := some object.image, tag := some target.name }
      (.ok { request with status := some { images := [report] } },
        w.putTag cluster ns request.metadata.anyName target.name stored object)
  | some _, _ => (.error (refusal "Invalid" 422), w)

/-! ## Serving -/

/-- What a healthy cluster answers, and the world afterwards. Imports bring the image with the
given digest. -/
def serve (digest : Option String) (w : World) (cluster : String) :
    (call : Call) → call.Reply × World
  | .getTag ns name => ((w.look? cluster ns name).elim (.error notThere) .ok, w)
  | .getStream ns name =>
    (((w.stream? cluster ns name).map (·.stream)).elim (.error notThere) .ok, w)
  | .createStream ns stream => w.create cluster ns stream
  | .setFinalizers ns name finalizers version =>
    w.change cluster ns name version fun m => { m with finalizers := some finalizers }
  | .setAnnotations ns name annotations =>
    w.change cluster ns name none fun m =>
      { m with annotations := some (m.annotationMap.merge annotations) }
  | .deleteStream ns name => w.delete cluster ns name
  | .getNamespace name => ((w.namespace? cluster name).elim (.error notThere) .ok, w)
  | .createNamespace name =>
    match w.namespace? cluster name with
    | some _ => (.error (refusal "AlreadyExists" 409), w)
    | none => (.ok (requestedNamespace name), w.putNamespace cluster name (requestedNamespace name))
  | .applyPullSecret ns credentials =>
    ((w.namespace? cluster ns).elim (.error notThere) fun _ => .ok (pullSecret ns credentials), w)
  | .importImages ns request => importInto digest w cluster ns request
  | .listGroups => (.error notThere, w)
  | .listResources _ => (.error notThere, w)

/-! ## What is where after writing -/

theorem stream?_put (w : World) (cluster ns name : String) (stored : Option StoredStream)
    (c n s : String) : (w.put cluster ns name stored).stream? c n s =
      if c = cluster ∧ n = ns ∧ s = name then stored else w.stream? c n s := by
  by_cases hc : c = cluster
  · simp [stream?, put, hc]
  · simp [stream?, put, hc]

theorem namespace?_put (w : World) (cluster ns name : String) (stored : Option StoredStream)
    (c n : String) : (w.put cluster ns name stored).namespace? c n = w.namespace? c n := by
  by_cases hc : c = cluster
  · simp [namespace?, put, hc]
  · simp [namespace?, put, hc]

theorem stream?_putNamespace (w : World) (cluster name : String) (object : Namespace)
    (c n s : String) : (w.putNamespace cluster name object).stream? c n s = w.stream? c n s := by
  by_cases hc : c = cluster
  · simp [stream?, putNamespace, hc]
  · simp [stream?, putNamespace, hc]

theorem namespace?_putNamespace (w : World) (cluster name : String) (object : Namespace)
    (c n : String) : (w.putNamespace cluster name object).namespace? c n =
      if c = cluster ∧ n = name then some object else w.namespace? c n := by
  by_cases hc : c = cluster
  · simp [namespace?, putNamespace, hc]
  · simp [namespace?, putNamespace, hc]

end World

/-! ## Proper worlds -/

/-- A stream stands under its own name, which is a proper one. -/
structure StoredStream.IsNamed (ns name : String) (stored : StoredStream) : Prop where
  properNamespace : IsObjectName ns
  properName : IsObjectName name
  namespace_eq : stored.stream.metadata.namespace = some ns
  name_eq : stored.stream.metadata.name = some name

namespace World

/-- Every stream stands under its own name. -/
def Sound (w : World) : Prop :=
  ∀ ⦃cluster ns name : String⦄ ⦃stored : StoredStream⦄,
    w.stream? cluster ns name = some stored → stored.IsNamed ns name

/-- No stream is marked for deletion. -/
def Live (w : World) : Prop :=
  ∀ ⦃cluster ns name : String⦄ ⦃stored : StoredStream⦄,
    w.stream? cluster ns name = some stored → stored.stream.metadata.isTerminating = false

/-- Nothing that was there is gone, and the world is as proper as it was. -/
structure Extends (w w' : World) : Prop where
  sound : w.Sound → w'.Sound
  live : w.Live → w'.Live
  stream : ∀ ⦃cluster ns name : String⦄,
    (w.stream? cluster ns name).isSome = true → (w'.stream? cluster ns name).isSome = true
  «namespace» : ∀ ⦃cluster name : String⦄,
    (w.namespace? cluster name).isSome = true → (w'.namespace? cluster name).isSome = true

theorem Extends.refl (w : World) : Extends w w := ⟨id, id, fun _ _ _ => id, fun _ _ => id⟩

theorem Extends.trans {w w' w'' : World} (h : Extends w w') (h' : Extends w' w'') :
    Extends w w'' where
  sound := h'.sound ∘ h.sound
  live := h'.live ∘ h.live
  stream := fun _ _ _ hs => h'.stream (h.stream hs)
  «namespace» := fun _ _ hn => h'.namespace (h.namespace hn)

/-- All tags are as they were, and no image was created. -/
structure KeepsTags (w w' : World) : Prop where
  tags : ∀ cluster ns stream tag, w'.tag? cluster ns stream tag = w.tag? cluster ns stream tag
  times : w'.times = w.times

theorem KeepsTags.refl (w : World) : KeepsTags w w := ⟨fun _ _ _ _ => rfl, rfl⟩

theorem KeepsTags.trans {w w' w'' : World} (h : KeepsTags w w') (h' : KeepsTags w' w'') :
    KeepsTags w w'' where
  tags := fun c ns s t => (h'.tags c ns s t).trans (h.tags c ns s t)
  times := h'.times.trans h.times

/-- Storing a proper stream takes nothing away. -/
theorem Extends.put {w : World} {cluster ns name : String} {stored : StoredStream}
    (named : w.Sound → stored.IsNamed ns name)
    (live : w.Live → stored.stream.metadata.isTerminating = false) :
    Extends w (w.put cluster ns name (some stored)) where
  sound := by
    intro hw c n s kept hkept
    rw [stream?_put] at hkept
    split at hkept
    · next h =>
      obtain ⟨-, rfl, rfl⟩ := h
      exact Option.some.inj hkept ▸ named hw
    · exact hw hkept
  live := by
    intro hw c n s kept hkept
    rw [stream?_put] at hkept
    split at hkept
    · exact Option.some.inj hkept ▸ live hw
    · exact hw hkept
  stream := by
    intro c n s hs
    rw [stream?_put]
    split
    · rfl
    · exact hs
  «namespace» := by
    intro c n hn
    rwa [namespace?_put]

theorem KeepsTags.put {w : World} {cluster ns name : String} {stored : StoredStream}
    (tags : ∀ tag, stored.tags tag = w.tag? cluster ns name tag) :
    KeepsTags w (w.put cluster ns name (some stored)) where
  tags := by
    intro c n s t
    rw [tag?, stream?_put]
    split
    · next h =>
      obtain ⟨rfl, rfl, rfl⟩ := h
      exact tags t
    · rfl
  times := rfl

theorem Extends.putNamespace (w : World) (cluster name : String) (object : Namespace) :
    Extends w (w.putNamespace cluster name object) where
  sound := fun hw c n s kept hkept => hw (by rwa [stream?_putNamespace] at hkept)
  live := fun hw c n s kept hkept => hw (by rwa [stream?_putNamespace] at hkept)
  stream := fun c n s hs => by rwa [stream?_putNamespace]
  «namespace» := by
    intro c n hn
    rw [namespace?_putNamespace]
    split
    · rfl
    · exact hn

theorem KeepsTags.putNamespace (w : World) (cluster name : String) (object : Namespace) :
    KeepsTags w (w.putNamespace cluster name object) where
  tags := fun c n s t => by rw [tag?, stream?_putNamespace, tag?]
  times := rfl

/-! ## What serving keeps -/

/-- A change of metadata that leaves name, namespace and mark as they are. -/
structure KeepsIdentity (f : ObjectMeta → ObjectMeta) : Prop where
  name : ∀ m, (f m).name = m.name
  «namespace» : ∀ m, (f m).namespace = m.namespace
  mark : ∀ m, (f m).deletionTimestamp = m.deletionTimestamp

/-- A change of a stream that is not marked is refused, or the stream is stored again. -/
theorem change_cases {w : World} (live : w.Live) {cluster ns name : String}
    {version : Option String} {f : ObjectMeta → ObjectMeta} (hf : KeepsIdentity f) :
    (w.change cluster ns name version f).2 = w ∨
      ∃ stored stream, w.stream? cluster ns name = some stored ∧
        stream.metadata.name = stored.stream.metadata.name ∧
        stream.metadata.namespace = stored.stream.metadata.namespace ∧
        stream.metadata.isTerminating = false ∧
        (w.change cluster ns name version f).2 =
          w.put cluster ns name (some { stored with stream }) := by
  cases hs : w.stream? cluster ns name with
  | none => simp [change, hs]
  | some stored =>
      -- The change leaves the mark alone, so the stream is not removed.
      have hmark : (f stored.stream.metadata).isTerminating = false := by
        rw [ObjectMeta.isTerminating, hf.mark]
        exact live hs
      by_cases hv : (version.isSome && version != stored.stream.metadata.resourceVersion) = true
      · exact Or.inl (by simp [change, hs, hv])
      · have hstamped : (w.stamp { stored.stream with
            metadata := f stored.stream.metadata }).metadata.isTerminating = false := hmark
        refine Or.inr ⟨stored, w.stamp { stored.stream with metadata := f stored.stream.metadata },
          rfl, hf.name _, hf.namespace _, hmark, ?_⟩
        simp only [change, hs, hv]
        simp [hstamped]

theorem change_ok {w : World} {cluster ns name : String} {stored : StoredStream}
    (hs : w.stream? cluster ns name = some stored) {version : Option String}
    (hv : version = none ∨ version = stored.stream.metadata.resourceVersion)
    (f : ObjectMeta → ObjectMeta) : ∃ stream, (w.change cluster ns name version f).1 = .ok stream := by
  have hversion : (version.isSome && version != stored.stream.metadata.resourceVersion) = false := by
    rcases hv with rfl | rfl
    · rfl
    · simp
  exact ⟨_, by simp only [change, hs, hversion]; rfl⟩

/-- Changes of metadata take nothing away and change no tag. -/
theorem change_keeps {w : World} (live : w.Live) {cluster ns name : String}
    {version : Option String} {f : ObjectMeta → ObjectMeta} (hf : KeepsIdentity f) :
    Extends w (w.change cluster ns name version f).2 ∧
      KeepsTags w (w.change cluster ns name version f).2 := by
  rcases change_cases live hf with h | ⟨stored, stream, hs, hname, hns, hmark, h⟩
  · rw [h]
    exact ⟨.refl w, .refl w⟩
  · rw [h]
    -- The stream is stored again with the tags that stood beside it.
    refine ⟨.put ?_ fun _ => hmark, .put fun tag => ?_⟩
    · intro hw
      obtain ⟨hproper, hproper', hns', hname'⟩ := hw hs
      exact ⟨hproper, hproper', hns.trans hns', hname.trans hname'⟩
    · rw [tag?, hs]
      rfl

theorem create_eq {w : World} {cluster ns : String} {stream : ImageStream} (hns : IsObjectName ns)
    (hname : IsObjectName stream.name) (hn : (w.namespace? cluster ns).isSome = true)
    (hs : w.stream? cluster ns stream.name = none) :
    w.create cluster ns stream = (.ok (w.created ns stream),
      w.put cluster ns stream.name (some { stream := w.created ns stream })) := by
  obtain ⟨object, hobject⟩ := Option.isSome_iff_exists.mp hn
  rw [create, if_pos ⟨hns, hname⟩, hobject, hs]

/-- Creations take nothing away and change no tag. -/
theorem create_keeps (w : World) (cluster ns : String) (stream : ImageStream) :
    Extends w (w.create cluster ns stream).2 ∧ KeepsTags w (w.create cluster ns stream).2 := by
  rw [create]
  split
  · next hproper =>
    split
    · exact ⟨.refl w, .refl w⟩
    · exact ⟨.refl w, .refl w⟩
    · next hnone =>
      refine ⟨.put (fun _ => ⟨hproper.1, hproper.2, rfl, rfl⟩) fun _ => rfl, .put fun tag => ?_⟩
      rw [tag?, hnone]
      rfl
  · exact ⟨.refl w, .refl w⟩

end World

end TagSync
