import TagSync.Proofs.Documents
import TagSync.Proofs.Service

/-!
# Servers that store documents

An `Archive` is what clusters store of streams: documents under cluster, namespace and name.
`Archive.Answers` says how a server answers what is asked about streams. It stores what it is sent
and changes it by merge patches, and of an object's metadata it keeps some fields itself; every
write is answered with the stored document.
-/

set_option autoImplicit false

namespace TagSync

open Api Json
open Plan (Exchange)

/-! ## Archives -/

/-- What clusters store of streams: a document under cluster, namespace and name. -/
abbrev Archive : Type := String → String → String → Option Document

def Api.Call.answered (call : Call) (doc : Document) : call.Reply :=
  (call.read? (.obj doc)).elim (.error .unreadable) .ok

theorem Api.Call.answered_cases (call : Call) (doc : Document) :
    (∃ result, call.read? (.obj doc) = some result ∧ call.answered doc = .ok result) ∨
      call.answered doc = .error .unreadable := by
  rw [answered]
  cases call.read? (.obj doc) with
  | none => exact Or.inr rfl
  | some result => exact Or.inl ⟨result, rfl, rfl⟩

theorem Api.Call.answered_eq_ok_iff {call : Call} {doc : Document} {result : call.Result} :
    call.answered doc = .ok result ↔ call.read? (.obj doc) = some result := by
  rw [answered]
  cases call.read? (.obj doc) with
  | none => exact iff_of_false nofun nofun
  | some other =>
      constructor
      · exact fun h => congrArg some (Except.ok.inj h)
      · exact fun h => congrArg Except.ok (Option.some.inj h)

namespace Archive

def put (s : Archive) (cluster ns name : String) (doc : Document) : Archive :=
  fun c n m => if c = cluster ∧ n = ns ∧ m = name then some doc else s c n m

theorem put_self (s : Archive) (cluster ns name : String) (doc : Document) :
    s.put cluster ns name doc cluster ns name = some doc := if_pos ⟨rfl, rfl, rfl⟩

/-- Nothing else is stored than before but under one name. -/
def SameElsewhere (cluster ns name : String) (s s' : Archive) : Prop :=
  ∀ c n m, ¬ (c = cluster ∧ n = ns ∧ m = name) → s' c n m = s c n m

theorem put_sameElsewhere (s : Archive) (cluster ns name : String) (doc : Document) :
    SameElsewhere cluster ns name s (s.put cluster ns name doc) :=
  fun _ _ _ hother => if_neg hother

/-- A stored document is read as this stream. -/
def Holds (s : Archive) (cluster ns name : String) (stream : ImageStream) : Prop :=
  ∃ doc, s cluster ns name = some doc ∧ ImageStream.decode? (.obj doc) = some stream

/-- How a server may answer an exchange about streams, and what is stored then. It says of no stream
that it is absent unless it is; otherwise it may refuse anything. -/
inductive Answers : Archive → Exchange → Archive → Prop
  /-- There is no such stream. -/
  | absent {s : Archive} {cluster ns name : String} {cause : CallError} :
      s cluster ns name = none → cause.saysAbsent = true →
      Answers s ⟨cluster, .getStream ns name, .error cause⟩ s
  /-- The stream is shown. -/
  | present {s : Archive} {cluster ns name : String} {doc : Document} :
      s cluster ns name = some doc →
      Answers s ⟨cluster, .getStream ns name, Call.answered _ doc⟩ s
  /-- A stream is created under its own name, which is not taken. -/
  | created {s : Archive} {cluster ns name : String} {stream : ImageStream} {body : Document}
      (stamp : Stamp) :
      (Call.createStream ns stream).draft.body = some (.obj body) → body.ownName? = some name →
      s cluster ns name = none →
      Answers s ⟨cluster, .createStream ns stream,
          Call.answered _ (body.changeMetadata stamp.changes)⟩
        (s.put cluster ns name (body.changeMetadata stamp.changes))
  /-- A stream is changed by a merge patch. -/
  | patched {s : Archive} {cluster ns name : String} {annotations : NameMap String}
      {doc patch : Document} (stamp : Stamp) :
      (Call.setAnnotations ns name annotations).draft.body = some (.obj patch) →
      s cluster ns name = some doc →
      Answers s ⟨cluster, .setAnnotations ns name annotations,
          Call.answered _ (Document.changeMetadata stamp.changes (mergeFields patch doc))⟩
        (s.put cluster ns name (Document.changeMetadata stamp.changes (mergeFields patch doc)))
  | refused {s : Archive} {cluster : String} {call : Call} {cause : CallError} :
      (call.isRead = true → cause.saysAbsent = false) →
      Answers s ⟨cluster, call, .error cause⟩ s

section Answers

variable {s s' : Archive} {cluster ns name : String}

theorem Holds.unique {stream other : ImageStream} (h : s.Holds cluster ns name stream)
    (h' : s.Holds cluster ns name other) : stream = other := by
  obtain ⟨doc, hdoc, hread⟩ := h
  obtain ⟨doc', hdoc', hread'⟩ := h'
  obtain rfl := Option.some.inj (hdoc.symm.trans hdoc')
  exact Option.some.inj (hread.symm.trans hread')

/-- A look at a stream changes nothing; it says whether there is one, or fails. -/
theorem Answers.of_getStream {reply : Except CallError ImageStream}
    (h : Answers s ⟨cluster, .getStream ns name, reply⟩ s') : s' = s ∧
      (∀ stream, reply = .ok stream → s.Holds cluster ns name stream) ∧
      ∀ cause, reply = .error cause → cause.saysAbsent = true → s cluster ns name = none := by
  cases h with
  | absent hnone habsent =>
      refine ⟨rfl, fun stream hok => ?_, fun _ _ _ => hnone⟩
      cases hok
  | present hdoc =>
      rename_i doc
      -- A stored document may still be one that cannot be read.
      rcases Call.answered_cases (.getStream ns name) doc with ⟨stream, hread, heq⟩ | heq
      · refine ⟨rfl, fun other hok => ⟨doc, hdoc, ?_⟩, fun cause herror => ?_⟩
        · obtain rfl : stream = other := Except.ok.inj (heq.symm.trans hok)
          exact hread
        · cases heq.symm.trans herror
      · refine ⟨rfl, fun other hok => ?_, fun cause herror habsent => ?_⟩
        · cases heq.symm.trans hok
        · obtain rfl : .unreadable = cause := Except.error.inj (heq.symm.trans herror)
          cases habsent
  | refused hhonest =>
      refine ⟨rfl, fun stream hok => ?_, fun cause herror habsent => ?_⟩
      · cases hok
      · obtain rfl := Except.error.inj herror
        cases habsent.symm.trans (hhonest rfl)

/-- A stream that is created is the one that was sent, with a stamp. -/
theorem Answers.of_createStream {stream now : ImageStream}
    (h : Answers s ⟨cluster, .createStream ns stream, .ok now⟩ s') :
    ∃ (body : Document) (stamp : Stamp) (name : String), stream.encode = .obj body ∧
      body.ownName? = some name ∧
      s' = s.put cluster ns name (body.changeMetadata stamp.changes) ∧
      ImageStream.decode? (.obj (body.changeMetadata stamp.changes)) = some now := by
  generalize hreply : (Except.ok now : (Call.createStream ns stream).Reply) = reply at h
  cases h with
  | created stamp hbody hname hfree =>
      rename_i name body
      exact ⟨body, stamp, name, Option.some.inj hbody, hname, rfl,
        Call.answered_eq_ok_iff.mp hreply.symm⟩
  | refused => cases hreply

/-- A stream whose annotations are set is the stored one with these annotations and a stamp. -/
theorem Answers.of_setAnnotations {annotations : NameMap String} {now : ImageStream}
    (h : Answers s ⟨cluster, .setAnnotations ns name annotations, .ok now⟩ s') :
    ∃ (doc : Document) (stamp : Stamp), s cluster ns name = some doc ∧
      s' = s.put cluster ns name (doc.annotated annotations stamp) ∧
      ImageStream.decode? (.obj (doc.annotated annotations stamp)) = some now := by
  generalize hreply : (Except.ok now : (Call.setAnnotations ns name annotations).Reply) = reply at h
  cases h with
  | patched stamp hbody hdoc =>
      rename_i doc patch
      have hpatch : patch = [("metadata", .obj [("annotations", .ofMap .str annotations)])] :=
        (Json.obj.inj (Option.some.inj hbody)).symm
      subst hpatch
      exact ⟨doc, stamp, hdoc, rfl, Call.answered_eq_ok_iff.mp hreply.symm⟩
  | refused => cases hreply

end Answers

/-! ## A server -/

/-- A server that refuses nothing that it can do, and that puts a stamp on every write. -/
def serve (stamp : Stamp) (s : Archive) (cluster : String) : (call : Call) → call.Reply × Archive
  | .getStream ns name => ((s cluster ns name).elim (.error notThere) (Call.answered _), s)
  | .createStream ns stream =>
    let body : Document := fieldsOf stream.encode
    match body.ownName? with
    | none => (.error (refusal "Invalid" 422), s)
    | some name =>
      if (s cluster ns name).isSome then (.error (refusal "AlreadyExists" 409), s)
      else (Call.answered _ (body.changeMetadata stamp.changes),
        s.put cluster ns name (body.changeMetadata stamp.changes))
  | .setAnnotations ns name annotations =>
    match s cluster ns name with
    | none => (.error notThere, s)
    | some doc => (Call.answered _ (doc.annotated annotations stamp),
        s.put cluster ns name (doc.annotated annotations stamp))
  | _ => (.error (refusal "NotImplemented" 501), s)

/-- It answers as servers do. -/
theorem answers_serve (stamp : Stamp) (s : Archive) (cluster : String) (call : Call) :
    Answers s ⟨cluster, call, (s.serve stamp cluster call).1⟩ (s.serve stamp cluster call).2 := by
  cases call with
  | getStream ns name =>
      simp only [serve]
      cases hs : s cluster ns name with
      | none => exact .absent hs rfl
      | some doc => exact .present hs
  | createStream ns stream =>
      simp only [serve]
      -- A document without a name cannot be stored.
      cases hname : Document.ownName? (fieldsOf stream.encode) with
      | none => exact .refused fun _ => rfl
      | some name =>
          dsimp only
          split
          · exact .refused fun _ => rfl
          · next hfree =>
            exact .created stamp rfl hname (by simpa using hfree)
  | setAnnotations ns name annotations =>
      simp only [serve]
      cases hs : s cluster ns name with
      | none => exact .refused nofun
      | some doc => exact .patched stamp rfl hs
  | _ => exact .refused fun _ => rfl

end Archive

end TagSync
