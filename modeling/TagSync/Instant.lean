/-!
# Instants

An `Instant` is a point in time on the UTC calendar, down to the nanosecond. A second before a
full minute may be a leap second: its fraction then runs from one to two seconds. Instants are
compared by `tick`, which counts half-open steps of one nanosecond in calendar order.
-/

set_option autoImplicit false

namespace TagSync

/-! ## The calendar -/

def isLeapYear (year : Int) : Bool :=
  year % 4 == 0 && (year % 100 != 0 || year % 400 == 0)

def daysInMonth (year : Int) (month : Nat) : Nat :=
  if month = 2 then (if isLeapYear year then 29 else 28)
  else if month = 4 ∨ month = 6 ∨ month = 9 ∨ month = 11 then 30
  else 31

/-- A day of the calendar. -/
structure Day where
  /-- The year, which may be zero or negative. -/
  year : Int
  /-- The month, from 1. -/
  month : Nat
  /-- The day of the month, from 1. -/
  day : Nat
  deriving DecidableEq, Repr, Inhabited

namespace Day

def yearRange : Int × Int := (-262143, 262142)

/-- The day of the given numbers, if there is such a day. -/
def ofNumbers? (year : Int) (month day : Nat) : Option Day :=
  if yearRange.1 ≤ year ∧ year ≤ yearRange.2 ∧ 1 ≤ month ∧ month ≤ 12 ∧ 1 ≤ day ∧
      day ≤ daysInMonth year month then
    some ⟨year, month, day⟩
  else none

def before? (d : Day) : Option Day :=
  if 1 < d.day then some { d with day := d.day - 1 }
  else if 1 < d.month then some ⟨d.year, d.month - 1, daysInMonth d.year (d.month - 1)⟩
  else if yearRange.1 < d.year then some ⟨d.year - 1, 12, 31⟩
  else none

def after? (d : Day) : Option Day :=
  if d.day < daysInMonth d.year d.month then some { d with day := d.day + 1 }
  else if d.month < 12 then some ⟨d.year, d.month + 1, 1⟩
  else if d.year < yearRange.2 then some ⟨d.year + 1, 1, 1⟩
  else none

/-- The day that comes a number of days after the first of January 1970. A count of 400 years, of
which there are 146097 days, begins with a March, so that a leap day is the last of its year. -/
def ofEpoch (days : Nat) : Day :=
  let shifted := days + 719468
  let rest := shifted % 146097
  let year := (rest - rest / 1460 + rest / 36524 - rest / 146096) / 365
  let dayOfYear := rest - (365 * year + year / 4 - year / 100)
  let month := (5 * dayOfYear + 2) / 153
  let day := dayOfYear - (153 * month + 2) / 5 + 1
  let year := year + shifted / 146097 * 400
  if month < 10 then ⟨year, month + 3, day⟩ else ⟨year + 1, month - 9, day⟩

def ordinal (d : Day) : Int :=
  (d.year * 13 + d.month) * 32 + d.day

end Day

/-! ## Points in time -/

/-- A point in time. -/
structure Instant where
  day : Day
  /-- The second of the day. -/
  second : Nat
  /-- The nanoseconds since the second began; from `10 ^ 9` on they belong to a leap second. -/
  nano : Nat
  deriving DecidableEq, Repr, Inhabited

namespace Instant

/-- A number that grows with time. -/
def tick (t : Instant) : Int :=
  (t.day.ordinal * 86400 + t.second) * 2000000000 + t.nano

instance : LT Instant := ⟨fun a b => a.tick < b.tick⟩

instance (a b : Instant) : Decidable (a < b) := inferInstanceAs (Decidable (a.tick < b.tick))

/-- The instant without its fraction of a second. -/
def whole (t : Instant) : Instant :=
  { t with nano := if t.nano < 1000000000 then 0 else 1000000000 }

/-- The instant of a local clock reading whose clock is `offset` seconds ahead of UTC. The offset
is less than a day either way. -/
def ofLocal? (day : Day) (second nano : Nat) (offset : Int) : Option Instant :=
  let utc := (second : Int) - offset
  if utc < 0 then day.before?.map fun d => ⟨d, (utc + 86400).toNat, nano⟩
  else if 86400 ≤ utc then day.after?.map fun d => ⟨d, (utc - 86400).toNat, nano⟩
  else some ⟨day, utc.toNat, nano⟩

/-- The instant that comes a number of seconds after the begin of 1970. -/
def ofEpoch (seconds nano : Nat) : Instant :=
  ⟨.ofEpoch (seconds / 86400), seconds % 86400, nano⟩

def later? (t : Instant) (seconds : Nat) : Option Instant :=
  ofLocal? t.day t.second t.nano (-(seconds : Int))

@[simp] theorem whole_whole (t : Instant) : t.whole.whole = t.whole := by
  simp only [whole]
  split <;> simp

end Instant

end TagSync
