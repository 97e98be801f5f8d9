import TagSync.Text.Numeral

/-!
# Ranking versions

Versions are ranked by stability and number: `v2` before `v1`, `v1` before `v1beta1`, that before
`v1alpha1`, and names of no such form last, in alphabetical order.
-/

set_option autoImplicit false

namespace TagSync.Api

open TagSync.Text

/-- How settled a version is. -/
inductive Stability where
  /-- The name says nothing about it. -/
  | unknown
  /-- May change without notice. -/
  | alpha
  | beta
  /-- Does not change. -/
  | stable
  deriving DecidableEq, Repr

def Stability.rank : Stability → Nat
  | .unknown => 0
  | .alpha => 1
  | .beta => 2
  | .stable => 3

/-- What the name of a version says. -/
structure VersionRank where
  /-- How settled it is. -/
  stability : Stability
  major : Nat
  /-- The number of its trial, zero without one and else one more. -/
  minor : Nat
  /-- The name of a version that is not known by number. -/
  name : String
  deriving DecidableEq, Repr

namespace VersionRank

def number? (cs : List Char) : Option Nat :=
  (unsignedBelow (bitValues 32) cs).toOption

def trial? (major : Nat) (cs : List Char) : Option VersionRank :=
  match cs with
  | [] => some ⟨.stable, major, 0, ""⟩
  | 'a' :: 'l' :: 'p' :: 'h' :: 'a' :: rest => minor? .alpha rest
  | 'b' :: 'e' :: 't' :: 'a' :: rest => minor? .beta rest
  | _ => none
where
  /-- Reads the number of a trial. -/
  minor? (stability : Stability) (rest : List Char) : Option VersionRank :=
    if rest.isEmpty then some ⟨stability, major, 0, ""⟩
    else (number? rest).map fun n => ⟨stability, major, n + 1, ""⟩

def ofName (name : String) : VersionRank :=
  let other : VersionRank := ⟨.unknown, 0, 0, name⟩
  match name.toList with
  | 'v' :: cs =>
    let rank := do
      let major ← number? (cs.takeWhile isDigit)
      trial? major (cs.dropWhile isDigit)
    rank.getD other
  | _ => other

def outranks (a b : VersionRank) : Bool :=
  if a.stability ≠ b.stability then decide (b.stability.rank < a.stability.rank)
  else if a.major ≠ b.major then decide (b.major < a.major)
  else if a.minor ≠ b.minor then decide (b.minor < a.minor)
  else decide (a.name < b.name)

end VersionRank

/-- Sorts by the ranks of version names; equal ones keep their order. -/
def sortByRank {α : Type} (name : α → String) (items : List α) : List α :=
  items.mergeSort fun a b => !(VersionRank.ofName (name b)).outranks (.ofName (name a))

end TagSync.Api
