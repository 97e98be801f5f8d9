/-!
# Blank characters

The characters that Unicode calls white space, and `trim`, which takes them off both ends of a
text and leaves the rest as it is (`trim_eq_iff`).
-/

set_option autoImplicit false

namespace TagSync.Text

/-- The code points with the Unicode property White_Space. -/
def isBlank (c : Char) : Bool :=
  let n := c.toNat
  (0x9 ≤ n && n ≤ 0xD) || n == 0x20 || n == 0x85 || n == 0xA0 || n == 0x1680 ||
    (0x2000 ≤ n && n ≤ 0x200A) || n == 0x2028 || n == 0x2029 || n == 0x202F || n == 0x205F ||
    n == 0x3000

/-- The characters of a text without the blank ones at its end. -/
def trimEnd (cs : List Char) : List Char :=
  (cs.reverse.dropWhile isBlank).reverse

/-- The characters of a text without the blank ones at both ends. -/
def trim (cs : List Char) : List Char :=
  trimEnd (cs.dropWhile isBlank)

/-- The pieces of a text between the occurrences of a separator; there is always at least one. -/
def pieces (separator : Char) : List Char → List (List Char)
  | [] => [[]]
  | c :: cs =>
    if c = separator then [] :: pieces separator cs
    else
      match pieces separator cs with
      | [] => [[c]]
      | p :: ps => (c :: p) :: ps

theorem pieces_ne_nil (separator : Char) (cs : List Char) : pieces separator cs ≠ [] := by
  cases cs with
  | nil => simp [pieces]
  | cons c cs =>
    by_cases h : c = separator
    · simp [pieces, h]
    · simp only [pieces, h, if_false]
      split <;> simp

theorem pieces_eq_splitOn (separator : Char) (cs : List Char) :
    pieces separator cs = cs.splitOn separator := by
  induction cs with
  | nil => rfl
  | cons c cs ih =>
    rw [List.splitOn_cons_eq_if_modifyHead, ← ih, pieces]
    by_cases h : c = separator
    · simp [h]
    · have hne := pieces_ne_nil separator cs
      cases hp : pieces separator cs with
      | nil => exact absurd hp hne
      | cons p ps => simp [h]

/-- No piece holds the separator. -/
theorem not_mem_of_mem_pieces {separator : Char} {cs p : List Char}
    (h : p ∈ pieces separator cs) : separator ∉ p := by
  induction cs generalizing p with
  | nil => simp_all [pieces]
  | cons c cs ih =>
    rw [pieces] at h
    split at h
    · rcases List.mem_cons.1 h with rfl | h
      · exact List.not_mem_nil
      · exact ih h
    · next hc =>
      split at h
      · next hp => exact absurd hp (pieces_ne_nil separator cs)
      · next q qs hp =>
        rw [hp] at ih
        rcases List.mem_cons.1 h with rfl | h
        · have hq : separator ∉ q := ih List.mem_cons_self
          simp [hq, Ne.symm hc]
        · exact ih (List.mem_cons_of_mem _ h)

/-! ## Blanks around a text -/

/-- There is no blank at either end. -/
def IsTrimmed (cs : List Char) : Prop :=
  (∀ c ∈ cs.head?, isBlank c = false) ∧ ∀ c ∈ cs.getLast?, isBlank c = false

/-- The second text is the first one with blanks around it. -/
def IsPadded (cs padded : List Char) : Prop :=
  ∃ front back, padded = front ++ (cs ++ back) ∧
    (∀ c ∈ front, isBlank c = true) ∧ ∀ c ∈ back, isBlank c = true

/-- Dropping from the front leaves what begins behind the characters that are dropped. -/
theorem dropWhile_eq_iff {p : Char → Bool} {cs rest : List Char} : cs.dropWhile p = rest ↔
    (∀ c ∈ rest.head?, p c = false) ∧ ∃ front, cs = front ++ rest ∧ ∀ c ∈ front, p c = true := by
  constructor
  · rintro rfl
    refine ⟨fun c hc => ?_, cs.takeWhile p, List.takeWhile_append_dropWhile.symm, ?_⟩
    · have h := List.head?_dropWhile_not p cs
      rw [Option.mem_def.1 hc] at h
      exact h
    · exact List.all_eq_true.1 List.all_takeWhile
  · rintro ⟨hrest, front, rfl, hfront⟩
    rw [List.dropWhile_append_of_pos hfront]
    cases rest with
    | nil => rfl
    | cons c rest =>
      have hc : ¬ p c = true := by simpa using hrest c rfl
      exact List.dropWhile_cons_of_neg hc

theorem trimEnd_eq_iff {cs rest : List Char} : trimEnd cs = rest ↔
    (∀ c ∈ rest.getLast?, isBlank c = false) ∧
      ∃ back, cs = rest ++ back ∧ ∀ c ∈ back, isBlank c = true := by
  rw [trimEnd, List.reverse_eq_iff, dropWhile_eq_iff, List.head?_reverse]
  refine and_congr_right fun _ => ⟨?_, ?_⟩
  · rintro ⟨front, hcs, hfront⟩
    refine ⟨front.reverse, ?_, fun c hc => hfront c (List.mem_reverse.1 hc)⟩
    simpa using congrArg List.reverse hcs
  · rintro ⟨back, rfl, hback⟩
    exact ⟨back.reverse, List.reverse_append, fun c hc => hback c (List.mem_reverse.1 hc)⟩

/-- Trimming takes off all blanks at both ends and nothing else. -/
theorem trim_eq_iff {cs rest : List Char} :
    trim cs = rest ↔ IsTrimmed rest ∧ IsPadded rest cs := by
  rw [trim, trimEnd_eq_iff]
  constructor
  · rintro ⟨hlast, back, hdrop, hback⟩
    obtain ⟨hhead, front, hcs, hfront⟩ := dropWhile_eq_iff.1 hdrop
    refine ⟨⟨fun c hc => hhead c ?_, hlast⟩, front, back, hcs, hfront, hback⟩
    rw [Option.mem_def, List.head?_append, Option.mem_def.1 hc]
    rfl
  · rintro ⟨⟨hhead, hlast⟩, front, back, rfl, hfront, hback⟩
    refine ⟨hlast, ?_⟩
    cases rest with
    | nil =>
      -- Nothing but blanks: all of them are in front.
      refine ⟨[], dropWhile_eq_iff.2 ⟨by simp, front ++ ([] ++ back), by simp, ?_⟩, by simp⟩
      simpa [or_imp, forall_and] using ⟨hfront, hback⟩
    | cons c rest =>
      refine ⟨back, dropWhile_eq_iff.2 ⟨?_, front, rfl, hfront⟩, hback⟩
      simpa using hhead

end TagSync.Text
