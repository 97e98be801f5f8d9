import TagSync.ImageStreamTag
import TagSync.NameMap

/-!
# The newest observation

Of the clusters that have a tag, the one whose image was created last is the source; among
equally new ones it is the first in name order. An image without a creation time is older than
any other.
-/

set_option autoImplicit false

namespace TagSync

/-- Whether a creation time is later than another; a missing one is earlier than every other. -/
def isLater : Option Instant → Option Instant → Bool
  | some a, some b => decide (b < a)
  | some _, none => true
  | none, _ => false

/-- The newer one of two observations, the first one if neither is newer. -/
def newerOf (best next : String × ImageStreamTag) : String × ImageStreamTag :=
  if isLater next.2.image.created best.2.image.created then next else best

/-- The newest observation of a list, the first one among equally new ones. -/
def newest? : List (String × ImageStreamTag) → Option (String × ImageStreamTag)
  | [] => none
  | first :: rest => some (rest.foldl newerOf first)

/-- The newest observation is one of the observations. -/
theorem mem_of_newest? {observations : List (String × ImageStreamTag)}
    {o : String × ImageStreamTag} (h : newest? observations = some o) : o ∈ observations := by
  -- The fold only ever keeps one of the items.
  have key : ∀ (rest : List (String × ImageStreamTag)) (first : String × ImageStreamTag),
      rest.foldl newerOf first ∈ first :: rest := by
    intro rest
    induction rest with
    | nil => intro first; simp
    | cons next rest ih =>
      intro first
      have := ih (newerOf first next)
      simp only [List.foldl_cons]
      rcases List.mem_cons.1 this with h | h
      · rw [h, newerOf]; split <;> simp
      · exact List.mem_cons_of_mem _ (List.mem_cons_of_mem _ h)
  cases observations with
  | nil => simp [newest?] at h
  | cons first rest =>
    simp only [newest?, Option.some.injEq] at h
    exact h ▸ key rest first

end TagSync
