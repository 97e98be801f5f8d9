/-!
# Tag names

The name of an image stream tag is the stream's name and the tag, with a colon between them.
`TagName.parse?` takes a name apart; it accepts just the names that have one colon and something
on both sides of it (`parse?_eq_some_iff`). `qualified` puts a namespace in front of a name.
-/

set_option autoImplicit false

namespace TagSync

/-- A name inside of a namespace. -/
def qualified (namespaceName name : String) : String :=
  namespaceName ++ "/" ++ name

/-- A stream's name and a tag. -/
structure TagName where
  stream : String
  tag : String
  deriving DecidableEq, Repr, Inhabited

namespace TagName

/-- The two parts as one name. -/
def toName (n : TagName) : String :=
  n.stream ++ ":" ++ n.tag

/-- Takes a name apart at its only colon; neither part may be empty. -/
def parse? (name : String) : Option TagName :=
  let cs := name.toList
  let stream := cs.takeWhile (· != ':')
  match cs.dropWhile (· != ':') with
  | [] => none
  | _ :: tag =>
    if stream.isEmpty || tag.isEmpty || tag.contains ':' then none
    else some ⟨String.ofList stream, String.ofList tag⟩

theorem takeWhile_dropWhile_glued {c : Char} {front : List Char} (h : c ∉ front)
    (rest : List Char) :
    (front ++ c :: rest).takeWhile (· != c) = front ∧
      (front ++ c :: rest).dropWhile (· != c) = c :: rest := by
  induction front with
  | nil => simp
  | cons d ds ih =>
    have hd : d ≠ c := fun e => h (e ▸ List.mem_cons_self)
    have ih := ih fun hc => h (List.mem_cons_of_mem _ hc)
    simp [hd, ih]

theorem not_mem_takeWhile (c : Char) (cs : List Char) : c ∉ cs.takeWhile (· != c) := by
  induction cs with
  | nil => simp
  | cons d ds ih =>
    by_cases hd : d = c
    · simp [hd]
    · simp [hd, ih, Ne.symm hd]

/-- The parts of a name glued together are the name, and neither is empty or holds a colon;
conversely such parts are found again. -/
theorem parse?_eq_some_iff {name : String} {n : TagName} :
    parse? name = some n ↔
      name = n.toName ∧ n.stream ≠ "" ∧ n.tag ≠ "" ∧ ':' ∉ n.stream.toList ∧ ':' ∉ n.tag.toList := by
  obtain ⟨stream, tag⟩ := n
  simp only [parse?, toName]
  constructor
  · intro h
    split at h
    · simp at h
    · next d rest hd =>
      have hglue := List.takeWhile_append_dropWhile (p := (· != ':')) (l := name.toList)
      rw [hd] at hglue
      -- What is left behind the stream begins with the colon.
      have hc : d = ':' := by
        have := List.head?_dropWhile_not (p := (· != ':')) (l := name.toList)
        rw [hd] at this
        simpa using this
      subst hc
      split at h
      · simp at h
      · next hne =>
        simp only [Bool.or_eq_true, List.isEmpty_iff, List.contains_iff_mem, not_or] at hne
        simp only [Option.some.injEq, TagName.mk.injEq] at h
        obtain ⟨rfl, rfl⟩ := h
        refine ⟨?_, ?_, ?_, ?_, ?_⟩
        · apply String.toList_inj.1
          simp [hglue]
        · intro he; apply hne.1.1; simpa using congrArg String.toList he
        · intro he; apply hne.1.2; simpa using congrArg String.toList he
        · simpa using not_mem_takeWhile ':' name.toList
        · simpa using hne.2
  · rintro ⟨rfl, hs, ht, hcs, hct⟩
    have hl : (stream ++ ":" ++ tag).toList = stream.toList ++ ':' :: tag.toList := by simp
    obtain ⟨h1, h2⟩ := takeWhile_dropWhile_glued hcs tag.toList
    rw [hl, h1, h2]
    have hs' : stream.toList ≠ [] := fun e => hs (String.toList_inj.1 (by simpa using e))
    have ht' : tag.toList ≠ [] := fun e => ht (String.toList_inj.1 (by simpa using e))
    simp [hs', ht', hct]

/-! ## Names and their parts -/

/-- The name is that of the stream and that of the tag with a colon between them; neither is empty
or has a colon of its own. -/
def Names (n : TagName) (name : String) : Prop :=
  name = n.stream ++ ":" ++ n.tag ∧ n.stream ≠ "" ∧ n.tag ≠ "" ∧
    ':' ∉ n.stream.toList ∧ ':' ∉ n.tag.toList

/-- Such a name is taken apart into its parts. -/
theorem Names.parse? {n : TagName} {name : String} (h : n.Names name) :
    TagName.parse? name = some n :=
  parse?_eq_some_iff.mpr h

theorem parse?_eq_none {name : String} (h : ∀ n : TagName, ¬ n.Names name) :
    parse? name = none :=
  Option.eq_none_iff_forall_ne_some.mpr fun n hn => h n (parse?_eq_some_iff.mp hn)

end TagName

end TagSync
