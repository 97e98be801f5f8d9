import TagSync.Proofs.Runs

/-!
# Calls about well named objects

Names of Kubernetes objects are short and hold nothing but lower case letters, digits, dashes and
points. Such names fit into a request target, so every call about a stream with such names can be
sent (`Call.Concerns.sendable`). Whatever its name, a stream can be asked for where its tags can
(`Call.sendable_getStream`).
-/

set_option autoImplicit false

namespace TagSync

open Api

/-! ## Texts that fit into a target -/

namespace Api.Target

/-- Whether a character may stand anywhere in a target; a question mark may. -/
def isPlainChar (c : Char) : Bool := c == '?' || isPathChar c && isQueryChar c

/-- A text of at most `size` octets whose characters may stand anywhere in a target. -/
def IsPlain (size : Nat) (text : String) : Prop :=
  text.utf8ByteSize ≤ size ∧ text.toList.all isPlainChar = true

instance (size : Nat) (text : String) : Decidable (IsPlain size text) :=
  inferInstanceAs (Decidable (_ ∧ _))

theorem IsPlain.append {m n : Nat} {a b : String} (ha : IsPlain m a) (hb : IsPlain n b) :
    IsPlain (m + n) (a ++ b) := by
  obtain ⟨hm, hac⟩ := ha
  obtain ⟨hn, hbc⟩ := hb
  constructor
  · rw [String.utf8ByteSize_append]
    omega
  · rw [String.toList_append, List.all_append, hac, hbc]
    rfl

theorem IsPlain.mono {m n : Nat} {a : String} (h : IsPlain m a) (hmn : m ≤ n) : IsPlain n a :=
  ⟨Nat.le_trans h.1 hmn, h.2⟩

/-- A plain text that is not too long is a target that can be sent. -/
theorem IsPlain.fault?_eq_none {size : Nat} {target : String} (h : IsPlain size target)
    (hsize : size ≤ maxSize) : fault? target = none := by
  obtain ⟨hlen, hchars⟩ := h
  have hplain : ∀ c ∈ target.toList, c = '?' ∨ isPathChar c = true ∧ isQueryChar c = true := by
    intro c hc
    simpa [isPlainChar] using List.all_eq_true.mp hchars c hc
  -- A fragment is cut off first, so what is sent is part of the target.
  have hsent : ∀ c ∈ sent target.toList, c ∈ target.toList := fun c hc =>
    (List.takeWhile_prefix _).subset hc
  have hpath : (path target.toList).all isPathChar = true := by
    refine List.all_eq_true.mpr fun c hc => ?_
    have hne : c ≠ '?' := by simpa using List.all_eq_true.mp List.all_takeWhile c hc
    rcases hplain c (hsent c ((List.takeWhile_prefix _).subset hc)) with hq | hc
    · exact absurd hq hne
    · exact hc.1
  have hquery : (query target.toList).all isQueryChar = true := by
    refine List.all_eq_true.mpr fun c hc => ?_
    have hmem : c ∈ target.toList :=
      hsent c ((List.dropWhile_suffix _).subset (List.mem_of_mem_drop hc))
    rcases hplain c hmem with rfl | hc
    · rfl
    · exact hc.2
  have hle : ¬ maxSize < target.utf8ByteSize := by omega
  simp [fault?, hle, hpath, hquery]

end Api.Target

/-! ## Names of objects -/

/-- A character that may stand in the name of an object. -/
def isNameChar (c : Char) : Bool := c.isLower || c.isDigit || c == '-' || c == '.'

/-- A name as objects have it: not empty, at most 253 octets, and of these characters. -/
def IsObjectName (name : String) : Prop :=
  name ≠ "" ∧ name.utf8ByteSize ≤ 253 ∧ name.toList.all isNameChar = true

instance (name : String) : Decidable (IsObjectName name) := inferInstanceAs (Decidable (_ ∧ _))

/-- A character of a name may stand anywhere in a target. -/
theorem isPlainChar_of_isNameChar {c : Char} (h : isNameChar c = true) :
    Target.isPlainChar c = true := by
  have key : (97 ≤ c.toNat ∧ c.toNat ≤ 122) ∨ (45 ≤ c.toNat ∧ c.toNat ≤ 57) := by
    simp only [isNameChar, Bool.or_eq_true, beq_iff_eq] at h
    rcases h with ((h | h) | rfl) | rfl
    · have h : (decide ('a'.val ≤ c.val) && decide (c.val ≤ 'z'.val)) = true := h
      simp only [Bool.and_eq_true, decide_eq_true_eq] at h
      exact Or.inl h
    · simp only [Char.isDigit, Bool.and_eq_true, decide_eq_true_eq] at h
      obtain ⟨h1, h2⟩ := h
      have h1 : 48 ≤ c.toNat := h1
      exact Or.inr ⟨by omega, h2⟩
    · exact Or.inr (by decide)
    · exact Or.inr (by decide)
  simp only [Target.isPlainChar, Target.isPathChar, Target.isQueryChar, Bool.or_eq_true,
    Bool.and_eq_true, decide_eq_true_eq, beq_iff_eq]
  omega

/-- A name that is not empty and fits into every target: at most 253 octets, of characters that
may stand anywhere. -/
def FitsTarget (name : String) : Prop := name ≠ "" ∧ Target.IsPlain 253 name

instance (name : String) : Decidable (FitsTarget name) := inferInstanceAs (Decidable (_ ∧ _))

theorem IsObjectName.fitsTarget {name : String} (h : IsObjectName name) : FitsTarget name :=
  ⟨h.1, h.2.1, List.all_eq_true.mpr fun c hc =>
    isPlainChar_of_isNameChar (List.all_eq_true.mp h.2.2 c hc)⟩

namespace Api

/-- The call is about a stream of that name or about its namespace. -/
inductive Call.Concerns (ns name : String) : Call → Prop
  | getStream : Concerns ns name (.getStream ns name)
  | createStream (stream : ImageStream) : Concerns ns name (.createStream ns stream)
  | setFinalizers (finalizers : List String) (version : Option String) :
      Concerns ns name (.setFinalizers ns name finalizers version)
  | setAnnotations (annotations : NameMap String) :
      Concerns ns name (.setAnnotations ns name annotations)
  | deleteStream : Concerns ns name (.deleteStream ns name)
  | getNamespace : Concerns ns name (.getNamespace ns)
  | createNamespace : Concerns ns name (.createNamespace ns)
  | applyPullSecret (credentials : List UInt8) : Concerns ns name (.applyPullSecret ns credentials)
  | importImages (request : ImageStreamImport) : Concerns ns name (.importImages ns request)

theorem isPlain_imagePath {ns plural : String} (hns : FitsTarget ns)
    (hplural : Target.IsPlain 20 plural) : Target.IsPlain 400 (imagePath ns plural) := by
  have hroot : Target.IsPlain 126 "/apis/image.openshift.io/v1/namespaces/" := by decide
  have hslash : Target.IsPlain 1 "/" := by decide
  exact ((hroot.append hns.2).append hslash).append hplural

/-- A call that concerns a stream whose names fit has a plain target. -/
theorem Call.Concerns.isPlain {ns name : String} {call : Call} (h : call.Concerns ns name)
    (hns : FitsTarget ns) (hname : FitsTarget name) : Target.IsPlain 700 call.draft.target := by
  -- The bounds are generous: the parts of a target add up to less than 700 characters.
  have hstreams : Target.IsPlain 400 (imagePath ns "imagestreams") :=
    isPlain_imagePath hns (by decide)
  have hslash : Target.IsPlain 1 "/" := by decide
  have hmark : Target.IsPlain 1 "?" := by decide
  have hstream : Target.IsPlain 654 (imagePath ns "imagestreams" ++ "/" ++ name) :=
    (hstreams.append hslash).append hname.2
  have hroot : Target.IsPlain 100 (namespacesPath ++ "/") := by decide
  cases h with
  | getStream => exact hstream.mono (by omega)
  | createStream stream => exact (hstreams.append hmark).mono (by omega)
  | setFinalizers finalizers version => exact (hstream.append hmark).mono (by omega)
  | setAnnotations annotations => exact (hstream.append hmark).mono (by omega)
  | deleteStream => exact (hstream.append hmark).mono (by omega)
  | getNamespace => exact (hroot.append hns.2).mono (by omega)
  | createNamespace =>
      have h : Target.IsPlain 700 (namespacesPath ++ "?") := by decide
      exact h
  | applyPullSecret credentials =>
      have hhead : Target.IsPlain 100 "/api/v1/namespaces/" := by decide
      have htail : Target.IsPlain 100 "/secrets/" := by decide
      have hsecret : Target.IsPlain 100 pullSecretName := by decide
      have hquery : Target.IsPlain 100 "?&force=true&fieldManager=" := by decide
      have hmanager : Target.IsPlain 47 fieldManager := by decide
      exact ((((hhead.append hns.2).append htail).append hsecret).append hquery).append
        hmanager
  | importImages request =>
      have h : Target.IsPlain 400 (imagePath ns "imagestreamimports") :=
        isPlain_imagePath hns (by decide)
      exact (h.append hmark).mono (by omega)

theorem Call.Concerns.sendable_of_fits {ns name : String} {call : Call}
    (h : call.Concerns ns name) (hns : FitsTarget ns) (hname : FitsTarget name) :
    call.Sendable := by
  have hplain := (h.isPlain hns hname).fault?_eq_none (by decide)
  have hnamed : call.objectName? ≠ some "" := by
    cases h with
    | getStream | setFinalizers | setAnnotations | deleteStream =>
        simpa [objectName?] using hname.1
    | getNamespace => simpa [objectName?] using hns.1
    | createStream | createNamespace | applyPullSecret | importImages => simp [objectName?]
  exact ⟨call.draft, by simp [request, hnamed, hplain]⟩

/-- A call that concerns a well named stream can be sent. -/
theorem Call.Concerns.sendable {ns name : String} {call : Call} (h : call.Concerns ns name)
    (hns : IsObjectName ns) (hname : IsObjectName name) : call.Sendable :=
  h.sendable_of_fits hns.fitsTarget hname.fitsTarget

/-! ## Streams of tags -/

namespace Target

/-- Whether what is sent of these characters may stand behind the question mark of a target. -/
def fitsQuery : List Char → Bool
  | [] => true
  | c :: cs => c == '#' || isQueryChar c && fitsQuery cs

/-- Whether what is sent of these characters may stand in a target from some point of its path
on. -/
def fitsPath : List Char → Bool
  | [] => true
  | c :: cs => c == '#' || if c = '?' then fitsQuery cs else isPathChar c && fitsPath cs

theorem fitsQuery_eq (cs : List Char) : fitsQuery cs = (sent cs).all isQueryChar := by
  induction cs with
  | nil => rfl
  | cons c cs ih =>
      by_cases hend : c = '#'
      · simp [fitsQuery, sent, hend]
      · simp [fitsQuery, sent, hend, ih]

/-- A target fits if both its path and its query do. -/
theorem fitsPath_eq (cs : List Char) :
    fitsPath cs = ((path cs).all isPathChar && (query cs).all isQueryChar) := by
  induction cs with
  | nil => rfl
  | cons c cs ih =>
      by_cases hend : c = '#'
      · simp [fitsPath, path, query, sent, hend]
      by_cases hmark : c = '?'
      · subst hmark
        have hfits := fitsQuery_eq cs
        simp only [sent] at hfits
        simp [fitsPath, path, query, sent, hfits]
      · simp only [path, query, sent] at ih
        simp [fitsPath, path, query, sent, hend, hmark, ih, Bool.and_assoc]

theorem fitsQuery_of_append {front back : List Char} (h : fitsQuery (front ++ back) = true) :
    fitsQuery front = true := by
  induction front with
  | nil => rfl
  | cons c front ih =>
      simp only [List.cons_append, fitsQuery, Bool.or_eq_true, Bool.and_eq_true] at h ⊢
      exact h.imp_right (And.imp_right ih)

theorem fitsPath_of_append {front back : List Char} (h : fitsPath (front ++ back) = true) :
    fitsPath front = true := by
  induction front with
  | nil => rfl
  | cons c front ih =>
      simp only [List.cons_append, fitsPath, Bool.or_eq_true] at h ⊢
      refine h.imp_right fun h => ?_
      split
      · next hmark => exact fitsQuery_of_append (by rwa [if_pos hmark] at h)
      · next hmark =>
        rw [if_neg hmark, Bool.and_eq_true] at h
        rw [Bool.and_eq_true]
        exact h.imp_right ih

/-- A query still fits if characters are taken out of it that neither begin a query nor end it. -/
theorem fitsQuery_of_taken_out {front out back : List Char} (hout : '#' ∉ out)
    (h : fitsQuery (front ++ (out ++ back)) = true) : fitsQuery (front ++ back) = true := by
  induction front with
  | nil =>
      induction out with
      | nil => exact h
      | cons c out ih =>
          simp only [List.nil_append, List.cons_append, fitsQuery, Bool.or_eq_true,
            Bool.and_eq_true, beq_iff_eq] at h
          rcases h with rfl | ⟨-, h⟩
          · exact absurd List.mem_cons_self hout
          · exact ih (fun hmem => hout (List.mem_cons_of_mem _ hmem)) h
  | cons c front ih =>
      simp only [List.cons_append, fitsQuery, Bool.or_eq_true, Bool.and_eq_true] at h ⊢
      exact h.imp_right (And.imp_right ih)

theorem fitsPath_of_taken_out {front out back : List Char} (hout : '#' ∉ out) (hmark : '?' ∉ out)
    (h : fitsPath (front ++ (out ++ back)) = true) : fitsPath (front ++ back) = true := by
  induction front with
  | nil =>
      induction out with
      | nil => exact h
      | cons c out ih =>
          have hc : c ≠ '?' := fun heq => hmark (heq ▸ List.mem_cons_self)
          simp only [List.nil_append, List.cons_append, fitsPath, if_neg hc, Bool.or_eq_true,
            Bool.and_eq_true, beq_iff_eq] at h
          rcases h with rfl | ⟨-, h⟩
          · exact absurd List.mem_cons_self hout
          · exact ih (fun hmem => hout (List.mem_cons_of_mem _ hmem))
              (fun hmem => hmark (List.mem_cons_of_mem _ hmem)) h
  | cons c front ih =>
      simp only [List.cons_append, fitsPath, Bool.or_eq_true] at h ⊢
      refine h.imp_right fun h => ?_
      split
      · next hc => exact fitsQuery_of_taken_out hout (by rwa [if_pos hc] at h)
      · next hc =>
        rw [if_neg hc, Bool.and_eq_true] at h
        rw [Bool.and_eq_true]
        exact h.imp_right ih

theorem fault?_eq_none_iff {target : String} :
    fault? target = none ↔ target.utf8ByteSize ≤ maxSize ∧ fitsPath target.toList = true := by
  rw [fault?, fitsPath_eq]
  split
  · next hlong => simp; omega
  · next hlong =>
    split
    · next hfits => simp only [hfits, and_true, true_iff]; omega
    · next hfits => simp [hfits]

end Target

theorem Call.sendable_iff {call : Call} : call.Sendable ↔
    call.objectName? ≠ some "" ∧ Target.fault? call.draft.target = none := by
  rw [Sendable, request]
  split
  · next hempty => simp [hempty]
  · next hnamed =>
    cases hfault : Target.fault? call.draft.target with
    | none => simp [hnamed]
    | some fault => simp

/-- The target of a stream is not longer than that of one of its tags; its characters are those of
the other with three letters taken out and the tag cut off. -/
theorem Call.target_getStream (ns stream tag : String) :
    (getStream ns stream).draft.target.utf8ByteSize ≤
      (getTag ns (stream ++ ":" ++ tag)).draft.target.utf8ByteSize ∧
    ∃ front back cut : List Char,
      (getTag ns (stream ++ ":" ++ tag)).draft.target.toList =
        (front ++ (['t', 'a', 'g'] ++ back)) ++ cut ∧
      (getStream ns stream).draft.target.toList = front ++ back := by
  have htags : "imagestreamtags".toList =
      "imagestream".toList ++ (['t', 'a', 'g'] ++ ['s']) := by decide
  have hstreams : "imagestreams".toList = "imagestream".toList ++ ['s'] := by decide
  have hplural : "imagestreams".utf8ByteSize ≤ "imagestreamtags".utf8ByteSize := by decide
  have htag : (getTag ns (stream ++ ":" ++ tag)).draft.target =
      imagePath ns "imagestreamtags" ++ "/" ++ (stream ++ ":" ++ tag) := rfl
  have hstream : (getStream ns stream).draft.target =
      imagePath ns "imagestreams" ++ "/" ++ stream := rfl
  rw [htag, hstream]
  unfold imagePath
  -- Rewriting must not look into the constants, so they are named first.
  generalize "imagestreamtags" = tags, "imagestreams" = streams, "imagestream".toList = stem,
    "/" = slash, ":" = colon, "/apis/image.openshift.io/v1/namespaces/" = root
    at htags hstreams hplural ⊢
  constructor
  · simp only [String.utf8ByteSize_append]
    omega
  · refine ⟨root.toList ++ ns.toList ++ slash.toList ++ stem,
      ['s'] ++ slash.toList ++ stream.toList, colon.toList ++ tag.toList, ?_, ?_⟩
    · simp only [String.toList_append, htags, List.append_assoc]
    · simp only [String.toList_append, hstreams, List.append_assoc]

/-- Whoever can be asked for a tag can be asked for its stream. -/
theorem Call.sendable_getStream {ns name : String} {parts : TagName}
    (hparts : TagName.parse? name = some parts) (h : (Call.getTag ns name).Sendable) :
    (Call.getStream ns parts.stream).Sendable := by
  obtain ⟨rfl, hstream, -⟩ := TagName.parse?_eq_some_iff.mp hparts
  obtain ⟨hsize, hfits⟩ := Target.fault?_eq_none_iff.mp (sendable_iff.mp h).2
  obtain ⟨hle, front, back, cut, htag, htarget⟩ := target_getStream ns parts.stream parts.tag
  have hnamed : (Call.getStream ns parts.stream).objectName? ≠ some "" := by
    simpa [objectName?] using hstream
  refine sendable_iff.mpr ⟨hnamed, Target.fault?_eq_none_iff.mpr ⟨?_, ?_⟩⟩
  · exact Nat.le_trans hle hsize
  · rw [htarget]
    rw [TagName.toName, htag] at hfits
    exact Target.fitsPath_of_taken_out (by decide) (by decide) (Target.fitsPath_of_append hfits)

end Api

end TagSync
