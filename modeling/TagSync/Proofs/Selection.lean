import Mathlib
import TagSync.Newest

/-!
# The first of the latest

Creation times as points of a line with an end: a missing time lies before every other
(`moment`). The newest observation is the first one among those with the latest time
(`newest?_split`).
-/

set_option autoImplicit false

namespace TagSync

/-- When an image was created; a missing time comes before every other. -/
def moment : Option Instant → WithBot ℤ
  | none => ⊥
  | some t => (t.tick : WithBot ℤ)

def age (o : String × ImageStreamTag) : WithBot ℤ := moment o.2.image.created

theorem isLater_iff {a b : Option Instant} : isLater a b = true ↔ moment b < moment a := by
  cases a with
  | none => simp [isLater, moment]
  | some t =>
      cases b with
      | none => simp [isLater, moment, WithBot.bot_lt_coe]
      | some u =>
          show decide (u < t) = true ↔ (u.tick : WithBot ℤ) < (t.tick : WithBot ℤ)
          rw [decide_eq_true_eq, WithBot.coe_lt_coe]
          rfl

theorem newerOf_cases (best next : String × ImageStreamTag) :
    newerOf best next = next ∧ age best < age next ∨
      newerOf best next = best ∧ age next ≤ age best := by
  by_cases h : isLater next.2.image.created best.2.image.created = true
  · exact Or.inl ⟨if_pos h, isLater_iff.mp h⟩
  · exact Or.inr ⟨if_neg h, not_lt.mp fun hlt => h (isLater_iff.mpr hlt)⟩

/-- Going through a list in this way ends at the first of the latest. -/
theorem foldl_newerOf_split (rest : List (String × ImageStreamTag))
    (first : String × ImageStreamTag) :
    ∃ front back, first :: rest = front ++ rest.foldl newerOf first :: back ∧
      (∀ x ∈ front, age x < age (rest.foldl newerOf first)) ∧
      ∀ x ∈ back, age x ≤ age (rest.foldl newerOf first) := by
  induction rest generalizing first with
  | nil => exact ⟨[], [], rfl, by simp, by simp⟩
  | cons next rest ih =>
      rw [List.foldl_cons]
      -- The fold goes on with the next item only if it is newer, so the first of the latest wins.
      rcases newerOf_cases first next with ⟨hnew, hlt⟩ | ⟨hnew, hle⟩
      · rw [hnew]
        obtain ⟨front, back, hsplit, hfront, hback⟩ := ih next
        have hnext : age next ≤ age (rest.foldl newerOf next) := by
          cases front with
          | nil => exact le_of_eq (congrArg age (List.cons.inj hsplit).1)
          | cons x front =>
              obtain ⟨rfl, -⟩ := List.cons.inj hsplit
              exact le_of_lt (hfront next (by simp))
        exact ⟨first :: front, back, congrArg (first :: ·) hsplit,
          List.forall_mem_cons.mpr ⟨lt_of_lt_of_le hlt hnext, hfront⟩, hback⟩
      · rw [hnew]
        obtain ⟨front, back, hsplit, hfront, hback⟩ := ih first
        cases front with
        | nil =>
            -- The first item has won, so the next one is not newer.
            obtain ⟨hfirst, hrest⟩ := List.cons.inj hsplit
            refine ⟨[], next :: rest, congrArg (· :: next :: rest) hfirst, by simp, ?_⟩
            have hnext := hle.trans (le_of_eq (congrArg age hfirst))
            exact List.forall_mem_cons.mpr ⟨hnext, fun y hy => hback y (hrest ▸ hy)⟩
        | cons x front =>
            obtain ⟨rfl, hrest⟩ := List.cons.inj hsplit
            have hfirst := hfront first (by simp)
            refine ⟨first :: next :: front, back, congrArg (first :: next :: ·) hrest, ?_, hback⟩
            refine List.forall_mem_cons.mpr ⟨hfirst, List.forall_mem_cons.mpr ⟨?_, ?_⟩⟩
            · exact lt_of_le_of_lt hle hfirst
            · exact fun y hy => hfront y (List.mem_cons_of_mem _ hy)

/-- **The first of the latest.** Every observation before the newest one is older, and none
after it is newer. -/
theorem newest?_split {observations : List (String × ImageStreamTag)}
    {o : String × ImageStreamTag} (h : newest? observations = some o) :
    ∃ front back, observations = front ++ o :: back ∧
      (∀ x ∈ front, age x < age o) ∧ ∀ x ∈ back, age x ≤ age o := by
  cases observations with
  | nil => cases h
  | cons first rest =>
      obtain rfl := Option.some.inj h
      exact foldl_newerOf_split rest first

theorem newest?_eq_none_iff {observations : List (String × ImageStreamTag)} :
    newest? observations = none ↔ observations = [] := by
  cases observations with
  | nil => simp [newest?]
  | cons first rest => simp [newest?]

/-- An observation that is later than all others is the newest one. -/
theorem newest?_eq_of_forall_lt {observations : List (String × ImageStreamTag)}
    {o : String × ImageStreamTag} (hmem : o ∈ observations)
    (hlt : ∀ x ∈ observations, x ≠ o → age x < age o) : newest? observations = some o := by
  cases hn : newest? observations with
  | none =>
      rw [newest?_eq_none_iff.mp hn] at hmem
      cases hmem
  | some best =>
      by_contra hne
      have hbest : best ≠ o := fun h => hne (by rw [h])
      -- No item is newer than the one that was chosen.
      have hle : age o ≤ age best := by
        obtain ⟨front, back, rfl, hfront, hback⟩ := newest?_split hn
        rcases List.mem_append.mp hmem with h | h
        · exact le_of_lt (hfront o h)
        · rcases List.mem_cons.mp h with h | h
          · exact le_of_eq (congrArg age h)
          · exact hback o h
      exact absurd (hlt best (mem_of_newest? hn) hbest) (not_lt.mpr hle)

end TagSync
