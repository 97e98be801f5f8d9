import Mathlib.Algebra.Group.Nat.Defs
import TagSync.Instant.Rfc3339

/-!
# Reading written instants

What `Instant.parse` reads is always a proper point in time (`Instant.IsProper`): its day is one of
the calendar, its second one of the day, and a leap second ends a minute. A proper point in time is
written as a text that reads as the same point without its fraction (`Instant.parse?_write`).
-/

set_option autoImplicit false

namespace TagSync

open TagSync.Text

/-! ## Steps that may fail -/

theorem ok_bind {ε α β : Type} (a : α) (f : α → Except ε β) : (Except.ok a >>= f) = f a := by
  simp only [bind, Except.bind]

theorem bind_eq_ok_iff {ε α β : Type} {x : Except ε α} {f : α → Except ε β} {b : β} :
    (x >>= f) = .ok b ↔ ∃ a, x = .ok a ∧ f a = .ok b := by
  cases x with
  | error e => exact ⟨nofun, fun ⟨_, h, _⟩ => nomatch h⟩
  | ok a => exact ⟨fun h => ⟨a, rfl, h⟩, fun ⟨_, rfl, h⟩ => h⟩

/-! ## Digits -/

section Digits

variable {width n : Nat}

theorem Text.isDigit_eq (c : Char) : isDigit c = c.isDigit := by
  by_cases h : '0' ≤ c ∧ c ≤ '9'
  · simp only [isDigit, digit?, if_pos h, Option.isSome_some]
    exact (Bool.and_eq_true_iff.mpr ⟨decide_eq_true h.1, decide_eq_true h.2⟩).symm
  · simp only [isDigit, digit?, if_neg h, Option.isSome_none]
    refine (Bool.eq_false_iff.mpr fun hdigit => h ?_).symm
    obtain ⟨hlow, hhigh⟩ := Bool.and_eq_true_iff.mp hdigit
    exact ⟨of_decide_eq_true hlow, of_decide_eq_true hhigh⟩

theorem Text.digit?_lt {c : Char} {d : Nat} (h : digit? c = some d) : d < 10 := by
  rw [digit?] at h
  split at h
  · next hc =>
    obtain rfl := Option.some.inj h
    have hle : c.toNat ≤ 57 := UInt32.le_iff_toNat_le.mp hc.2
    omega
  · cases h

/-- A number has at most as many digits as were read. -/
theorem Text.ofDigits_lt (cs : List Char) : ofDigits cs < 10 ^ cs.length := by
  have key : ∀ m, cs.foldl (fun n c => n * 10 + (digit? c).getD 0) m <
      (m + 1) * 10 ^ cs.length := by
    induction cs with
    | nil => simp
    | cons c cs ih =>
        intro m
        have hd : (digit? c).getD 0 < 10 := by
          cases h : digit? c with
          | none => simp
          | some d => exact digit?_lt h
        calc _ < (m * 10 + (digit? c).getD 0 + 1) * 10 ^ cs.length := ih _
          _ ≤ ((m + 1) * 10) * 10 ^ cs.length := Nat.mul_le_mul_right _ (by omega)
          _ = (m + 1) * 10 ^ (cs.length + 1) := by rw [Nat.pow_succ', Nat.mul_assoc]
  rw [ofDigits]
  simpa using key 0

/-- Digits stand for the same number as in core. -/
theorem Text.ofDigits_eq {cs : List Char} (h : ∀ c ∈ cs, isDigit c = true) :
    ofDigits cs = Nat.ofDigitChars 10 cs 0 := by
  have key : ∀ m, cs.foldl (fun n c => n * 10 + (digit? c).getD 0) m =
      Nat.ofDigitChars 10 cs m := by
    induction cs with
    | nil => exact fun _ => rfl
    | cons c cs ih =>
        obtain ⟨hc, hcs⟩ := List.forall_mem_cons.mp h
        intro m
        -- A digit stands for its distance from zero.
        have hvalue : m * 10 + (digit? c).getD 0 = 10 * m + (c.toNat - '0'.toNat) := by
          rw [isDigit, digit?] at hc
          rw [digit?]
          split at hc
          · rw [if_pos ‹_›, Nat.mul_comm]
            rfl
          · cases hc
        rw [List.foldl_cons, Nat.ofDigitChars_cons, hvalue]
        exact ih hcs _
  exact key 0

namespace Instant

theorem isDigit_of_mem_padded {c : Char} (h : c ∈ padded width n) : isDigit c = true := by
  rw [isDigit_eq]
  rcases List.mem_append.mp h with h | h
  · rw [List.eq_of_mem_replicate h]
    rfl
  · exact Nat.isDigit_of_mem_toDigits (by decide) (by decide) h

theorem ofDigits_padded (width n : Nat) : ofDigits (padded width n) = n := by
  rw [ofDigits_eq fun c hc => isDigit_of_mem_padded hc, padded, Nat.ofDigitChars_append,
    Nat.ofDigitChars_replicate_zero, Nat.mul_zero, Nat.ofDigitChars_ten_toDigits]

theorem length_padded (hwidth : 0 < width) (h : n < 10 ^ width) :
    (padded width n).length = width := by
  have hle := (Nat.length_toDigits_le_iff (by decide : 1 < 10) hwidth).mpr h
  rw [padded, List.length_append, List.length_replicate]
  omega

theorem padded_ne_nil (width n : Nat) : padded width n ≠ [] := by
  simp [padded]

end Instant

end Digits

/-! ## Parts of a text -/

theorem Text.isBlank_of_isDigit {c : Char} (h : isDigit c = true) : isBlank c = false := by
  rw [isDigit, digit?] at h
  split at h
  · next hc =>
    have hlow : 48 ≤ c.toNat := UInt32.le_iff_toNat_le.mp hc.1
    have hhigh : c.toNat ≤ 57 := UInt32.le_iff_toNat_le.mp hc.2
    simp [isBlank]
    omega
  · cases h

theorem dropWhile_isBlank_digits {digits : List Char} (hne : digits ≠ [])
    (h : ∀ c ∈ digits, isDigit c = true) (rest : List Char) :
    (digits ++ rest).dropWhile isBlank = digits ++ rest := by
  cases digits with
  | nil => exact absurd rfl hne
  | cons c digits => simp [isBlank_of_isDigit (h c List.mem_cons_self)]

namespace Instant

theorem digitsAt_append {digits rest : List Char} (hne : digits ≠ [])
    (h : ∀ c ∈ digits, isDigit c = true) (hrest : rest.takeWhile isDigit = []) :
    digitsAt (digits ++ rest) = .ok digits := by
  have htake : (digits ++ rest).takeWhile isDigit = digits := by
    rw [List.takeWhile_append_of_pos h, hrest, List.append_nil]
  simp [digitsAt, htake, hne]

theorem number_padded {low high n : Nat} (hlow : low ≤ n) (hhigh : n ≤ high) (htwo : n < 100)
    (rest : List Char) : number 2 low high (padded 2 n ++ rest) = .ok (n, rest) := by
  have hlength : (padded 2 n).length = 2 := length_padded (by decide) htwo
  have hdigits : digitsAt (padded 2 n) = .ok (padded 2 n) := by
    simpa using digitsAt_append (padded_ne_nil 2 n) (fun c hc => isDigit_of_mem_padded hc)
      (List.takeWhile_nil (p := isDigit))
  rw [number, dropWhile_isBlank_digits (padded_ne_nil 2 n) (fun c hc => isDigit_of_mem_padded hc),
    List.take_left' hlength, hdigits]
  show (if low ≤ ofDigits (padded 2 n) ∧ ofDigits (padded 2 n) ≤ high then _ else _) = _
  rw [ofDigits_padded, if_pos ⟨hlow, hhigh⟩, List.drop_left' rfl]

/-- A year with a sign is read. -/
theorem year_signed {digits rest : List Char} (hne : digits ≠ [])
    (hdigits : ∀ c ∈ digits, isDigit c = true) (hrest : rest.takeWhile isDigit = [])
    (hbound : ofDigits digits < bitValues 31) (negative : Bool) :
    year ((if negative then '-' else '+') :: (digits ++ rest)) =
      .ok (if negative then -(ofDigits digits : Int) else ofDigits digits, rest) := by
  have hread := digitsAt_append hne hdigits hrest
  have hdrop : (digits ++ rest).drop digits.length = rest := List.drop_left' rfl
  cases negative with
  | true =>
      have hblank : ('-' :: (digits ++ rest)).dropWhile isBlank = '-' :: (digits ++ rest) := rfl
      have hsign : (('-' :: (digits ++ rest)).take 1).filter
          (fun c => decide (c = '-') || decide (c = '+')) = ['-'] := rfl
      simp only [year, if_true, hblank, hsign, List.length_singleton, List.drop_succ_cons,
        List.drop_zero, List.isEmpty_cons, Bool.false_eq_true, if_false, hread, ok_bind, hdrop]
      rw [if_pos (by omega)]
  | false =>
      have hblank : ('+' :: (digits ++ rest)).dropWhile isBlank = '+' :: (digits ++ rest) := rfl
      have hsign : (('+' :: (digits ++ rest)).take 1).filter
          (fun c => decide (c = '-') || decide (c = '+')) = ['+'] := rfl
      have hplus : ¬ ['+'] = ['-'] := by decide
      simp only [year, Bool.false_eq_true, if_false, hblank, hsign, List.length_singleton,
        List.drop_succ_cons, List.drop_zero, List.isEmpty_cons, hread, ok_bind, hdrop, hplus]
      rw [if_pos (by omega)]

/-- A year of four digits is read. -/
theorem year_plain {digits rest : List Char} (hlength : digits.length = 4)
    (hdigits : ∀ c ∈ digits, isDigit c = true) :
    year (digits ++ rest) = .ok ((ofDigits digits : Int), rest) := by
  have hne : digits ≠ [] := by
    rintro rfl
    cases hlength
  have hread : digitsAt ((digits ++ rest).take 4) = .ok digits := by
    rw [List.take_left' hlength]
    simpa using digitsAt_append hne hdigits List.takeWhile_nil
  have hbound : ofDigits digits < 10 ^ 4 := hlength ▸ ofDigits_lt digits
  have hnosign : ((digits ++ rest).take 1).filter
      (fun c => decide (c = '-') || decide (c = '+')) = [] := by
    obtain ⟨c, cs, rfl⟩ := List.exists_cons_of_ne_nil hne
    have hc := hdigits c List.mem_cons_self
    -- Behind four plain digits there is no sign to look for.
    have hsign : c ≠ '-' ∧ c ≠ '+' := by
      constructor <;> rintro rfl <;> cases hc
    simp [hsign]
  have hno : ¬ ([] : List Char) = ['-'] := by decide
  have hlarge : 10 ^ 4 < bitValues 31 := by decide
  rw [year, dropWhile_isBlank_digits hne hdigits]
  simp only [hnosign, List.length_nil, List.drop_zero, List.isEmpty_nil, if_true, hread, ok_bind,
    hno, if_false, List.drop_left']
  rw [if_pos (by omega)]

/-- A written year is read. -/
theorem year_writeYear {y : Int} (h : Day.yearRange.1 ≤ y ∧ y ≤ Day.yearRange.2)
    {rest : List Char} (hrest : rest.takeWhile isDigit = []) :
    year (writeYear y ++ rest) = .ok (y, rest) := by
  have hrange : -262143 ≤ y ∧ y ≤ 262142 := h
  have hdigits (n : Nat) : ∀ c ∈ padded 4 n, isDigit c = true := fun c => isDigit_of_mem_padded
  rw [writeYear]
  split
  · next hplain =>
    have hlength : (padded 4 y.toNat).length = 4 := length_padded (by decide) (by omega)
    rw [year_plain hlength (hdigits _), ofDigits_padded, Int.toNat_of_nonneg hplain.1]
  · have hbits : bitValues 31 = 2147483648 := by simp [bitValues]
    have hread := year_signed (padded_ne_nil 4 y.natAbs) (hdigits _) hrest
      (by rw [ofDigits_padded]; omega) (decide (y < 0))
    rw [ofDigits_padded] at hread
    simp only [decide_eq_true_eq] at hread
    rw [List.cons_append, hread]
    split
    · rw [Int.ofNat_natAbs_of_nonpos (by omega), Int.neg_neg]
    · rw [Int.natAbs_of_nonneg (by omega)]

end Instant

/-! ## Proper points in time -/

/-- The day is one of the calendar. -/
def Day.IsProper (d : Day) : Prop :=
  Day.ofNumbers? d.year d.month d.day = some d

theorem daysInMonth_bounds (year : Int) (month : Nat) :
    28 ≤ daysInMonth year month ∧ daysInMonth year month ≤ 31 := by
  simp only [daysInMonth]
  repeat' split
  all_goals omega

namespace Day

theorem isProper_iff {d : Day} : d.IsProper ↔
    (yearRange.1 ≤ d.year ∧ d.year ≤ yearRange.2) ∧ (1 ≤ d.month ∧ d.month ≤ 12) ∧
      1 ≤ d.day ∧ d.day ≤ daysInMonth d.year d.month := by
  rw [IsProper, ofNumbers?, Option.ite_none_right_eq_some]
  simp only [and_true, and_assoc]

theorem isProper_of_numbers {year : Int} {month day : Nat} {d : Day}
    (h : ofNumbers? year month day = some d) : d.IsProper := by
  obtain rfl := Option.some.inj (Option.ite_none_right_eq_some.mp h).2
  exact h

/-- The day before is one of the calendar. -/
theorem isProper_before {d e : Day} (hd : d.IsProper) (h : d.before? = some e) : e.IsProper := by
  obtain ⟨⟨hlow, hhigh⟩, ⟨hjan, hdec⟩, hfirst, hlast⟩ := isProper_iff.mp hd
  rw [isProper_iff]
  rw [before?] at h
  -- The day before is in the same month, in the month before, or in the year before.
  split at h
  · obtain rfl := Option.some.inj h
    dsimp only
    omega
  split at h
  · obtain rfl := Option.some.inj h
    have hdays := daysInMonth_bounds d.year (d.month - 1)
    dsimp only
    omega
  split at h
  · obtain rfl := Option.some.inj h
    have hdays : daysInMonth (d.year - 1) 12 = 31 := rfl
    dsimp only
    omega
  · cases h

/-- The day after is one of the calendar. -/
theorem isProper_after {d e : Day} (hd : d.IsProper) (h : d.after? = some e) : e.IsProper := by
  obtain ⟨⟨hlow, hhigh⟩, ⟨hjan, hdec⟩, hfirst, hlast⟩ := isProper_iff.mp hd
  rw [isProper_iff]
  rw [after?] at h
  -- The day after is in the same month, in the next one, or in the next year.
  split at h
  · obtain rfl := Option.some.inj h
    dsimp only
    omega
  split at h
  · obtain rfl := Option.some.inj h
    have hdays := daysInMonth_bounds d.year (d.month + 1)
    dsimp only
    omega
  split at h
  · obtain rfl := Option.some.inj h
    have hdays := daysInMonth_bounds (d.year + 1) 1
    dsimp only
    omega
  · cases h

end Day

namespace Instant

/-- The point in time has a day of the calendar, a second of the day and less than a second behind
it; a leap second comes at the end of a minute. -/
structure IsProper (t : Instant) : Prop where
  day : t.day.IsProper
  second : t.second < 86400
  nano : t.nano < 2000000000
  leap : 1000000000 ≤ t.nano → t.second % 60 = 59

/-- Clocks that differ by whole minutes show proper points in time. -/
theorem isProper_of_local {day : Day} {second nano : Nat} {offset : Int} {t : Instant}
    (clock : IsProper ⟨day, second, nano⟩) (hoffset : offset.natAbs < 86400)
    (hminutes : offset % 60 = 0) (h : ofLocal? day second nano offset = some t) : t.IsProper := by
  obtain ⟨hday, hsecond, hnano, hleap⟩ := clock
  dsimp only at hday hsecond hnano hleap
  obtain ⟨d, s, rfl, hd, hs, hsame⟩ : ∃ d s, t = ⟨d, s, nano⟩ ∧ d.IsProper ∧ s < 86400 ∧
      s % 60 = second % 60 := by
    rw [ofLocal?] at h
    split at h
    · obtain ⟨d, hd, rfl⟩ := Option.map_eq_some_iff.mp h
      exact ⟨d, _, rfl, Day.isProper_before hday hd, by omega, by omega⟩
    split at h
    · obtain ⟨d, hd, rfl⟩ := Option.map_eq_some_iff.mp h
      exact ⟨d, _, rfl, Day.isProper_after hday hd, by omega, by omega⟩
    · obtain rfl := Option.some.inj h
      exact ⟨day, _, rfl, hday, by omega, by omega⟩
  exact ⟨hd, hs, hnano, fun hn => hsame.trans (hleap hn)⟩

/-! ## Reading -/

theorem number_bounds {most low high n : Nat} {cs rest : List Char}
    (h : number most low high cs = .ok (n, rest)) : low ≤ n ∧ n ≤ high := by
  obtain ⟨digits, -, h⟩ := bind_eq_ok_iff.mp h
  dsimp only at h
  split at h
  · next hn =>
    obtain rfl := (Prod.mk.inj (Except.ok.inj h)).1
    exact hn
  · cases h

/-- A fraction is less than a second. -/
theorem fraction_lt {cs rest : List Char} {n : Nat} (h : fraction cs = .ok (n, rest)) :
    n < 1000000000 := by
  rw [fraction.eq_def] at h
  split at h
  · obtain ⟨digits, -, h⟩ := bind_eq_ok_iff.mp h
    obtain rfl := (Prod.mk.inj (Except.ok.inj h)).1
    have hdigits := ofDigits_lt (digits.take 9)
    have hlength : (digits.take 9).length ≤ 9 := by
      rw [List.length_take]
      exact Nat.min_le_left _ _
    calc nanosOf digits < 10 ^ (digits.take 9).length * 10 ^ (9 - (digits.take 9).length) :=
          Nat.mul_lt_mul_of_pos_right hdigits (Nat.pow_pos (by decide))
      _ = 10 ^ 9 := by rw [← Nat.pow_add, Nat.add_sub_cancel' hlength]
  · obtain rfl := (Prod.mk.inj (Except.ok.inj h)).1
    decide

/-- A zone is ahead of UTC, or behind it, by whole minutes. -/
theorem zone_minutes {cs rest : List Char} {offset : Int} (h : zone cs = .ok (offset, rest)) :
    offset % 60 = 0 := by
  rw [zone.eq_def] at h
  split at h
  · cases h
  split at h
  · obtain rfl := (Prod.mk.inj (Except.ok.inj h)).1
    rfl
  split at h
  · obtain rfl := (Prod.mk.inj (Except.ok.inj h)).1
    rfl
  split at h
  · obtain ⟨⟨hours, behindHours⟩, -, h⟩ := bind_eq_ok_iff.mp h
    obtain ⟨⟨minutes, behindMinutes⟩, -, h⟩ := bind_eq_ok_iff.mp h
    dsimp only at h
    split at h
    · cases h
    · have hoffset := (Prod.mk.inj (Except.ok.inj h)).1
      split at hoffset <;> omega
  · cases h

/-- What is read is a proper point in time. -/
theorem isProper_of_parse {text : String} {t : Instant} (h : parse text = .ok t) : t.IsProper := by
  obtain ⟨⟨year, behindYear⟩, -, h⟩ := bind_eq_ok_iff.mp h
  obtain ⟨cs, -, h⟩ := bind_eq_ok_iff.mp h
  obtain ⟨⟨month, behindMonth⟩, -, h⟩ := bind_eq_ok_iff.mp h
  obtain ⟨cs, -, h⟩ := bind_eq_ok_iff.mp h
  obtain ⟨⟨day, behindDay⟩, -, h⟩ := bind_eq_ok_iff.mp h
  obtain ⟨cs, -, h⟩ := bind_eq_ok_iff.mp h
  obtain ⟨⟨hour, behindHour⟩, hhour, h⟩ := bind_eq_ok_iff.mp h
  obtain ⟨cs, -, h⟩ := bind_eq_ok_iff.mp h
  obtain ⟨⟨minute, behindMinute⟩, hminute, h⟩ := bind_eq_ok_iff.mp h
  obtain ⟨cs, -, h⟩ := bind_eq_ok_iff.mp h
  obtain ⟨⟨second, behindSecond⟩, hsecond, h⟩ := bind_eq_ok_iff.mp h
  obtain ⟨⟨nano, behindFraction⟩, hnano, h⟩ := bind_eq_ok_iff.mp h
  obtain ⟨⟨offset, behindZone⟩, hzone, h⟩ := bind_eq_ok_iff.mp h
  have hhour := number_bounds hhour
  have hminute := number_bounds hminute
  have hsecond := number_bounds hsecond
  have hnano := fraction_lt hnano
  have hzone := zone_minutes hzone
  dsimp only at h
  split at h
  · cases h
  split at h
  · cases h
  · next date hdate =>
    split at h
    · cases h
    · next hoffset =>
      -- The clock shows this second and fraction; the sixtieth second is the next one of the 59th.
      obtain ⟨s, f, hclock, hs, hf, hleap⟩ : ∃ s f,
          (if second = 60 then (59, nano + 1000000000) else (second, nano)) = (s, f) ∧ s < 60 ∧
            f < 2000000000 ∧ (1000000000 ≤ f → s = 59) := by
        by_cases hsixty : second = 60
        · exact ⟨59, nano + 1000000000, if_pos hsixty, by omega, by omega, fun _ => rfl⟩
        · exact ⟨second, nano, if_neg hsixty, by omega, by omega, fun hf => by omega⟩
      rw [hclock] at h
      dsimp only at h
      split at h
      · cases h
      · next utc hlocal =>
        obtain rfl := Except.ok.inj h
        have clock : IsProper ⟨date, hour * 3600 + minute * 60 + s, f⟩ :=
          ⟨Day.isProper_of_numbers hdate, by dsimp only; omega, hf, fun hn => by
            have := hleap hn
            dsimp only
            omega⟩
        exact isProper_of_local clock (by omega) hzone hlocal

/-! ## Writing -/

theorem ofLocal?_utc {day : Day} {second nano : Nat} (h : second < 86400) :
    ofLocal? day second nano 0 = some ⟨day, second, nano⟩ := by
  rw [ofLocal?, Int.sub_zero, if_neg (by omega), if_neg (by omega), Int.toNat_natCast]

theorem toList_write (t : Instant) : t.write.toList =
    writeYear t.day.year ++ '-' :: (padded 2 t.day.month ++ '-' :: (padded 2 t.day.day ++
      'T' :: (padded 2 (t.second / 3600) ++ ':' :: (padded 2 (t.second / 60 % 60) ++
        ':' :: (padded 2 (t.second % 60 + if t.nano < 1000000000 then 0 else 1) ++ ['Z']))))) := by
  rw [write, String.toList_ofList]
  simp only [List.append_assoc, List.cons_append, List.nil_append]

/-- What is written of a proper point in time reads as that point without its fraction. -/
theorem parse_write {t : Instant} (h : t.IsProper) : parse t.write = .ok t.whole := by
  obtain ⟨hday, hsecond, hnano, hleap⟩ := h
  obtain ⟨hyear, hmonth, hfirst, hlast⟩ := Day.isProper_iff.mp hday
  have hdays := daysInMonth_bounds t.day.year t.day.month
  have hdate : Day.ofNumbers? t.day.year t.day.month t.day.day = some t.day := hday
  -- The seconds as they are written and as they are read.
  obtain ⟨s, f, hwritten, hclock, hs, hwhole⟩ : ∃ s f,
      t.second % 60 + (if t.nano < 1000000000 then 0 else 1) = s ∧
      (if s = 60 then (59, 0 + 1000000000) else (s, 0)) = (t.second % 60, f) ∧ s ≤ 60 ∧
      t.whole = ⟨t.day, t.second, f⟩ := by
    by_cases hplain : t.nano < 1000000000
    · refine ⟨t.second % 60, 0, by rw [if_pos hplain]; rfl, if_neg (by omega), by omega, ?_⟩
      rw [whole, if_pos hplain]
    · have hend := hleap (by omega)
      refine ⟨60, 1000000000, by rw [if_neg hplain, hend], ?_, by omega, ?_⟩
      · rw [if_pos rfl, hend]
      · rw [whole, if_neg hplain]
  have readYear (rest : List Char) :
      year (writeYear t.day.year ++ '-' :: rest) = .ok (t.day.year, '-' :: rest) :=
    year_writeYear hyear rfl
  have readMonth (rest : List Char) :
      number 2 1 12 (padded 2 t.day.month ++ rest) = .ok (t.day.month, rest) :=
    number_padded (by omega) (by omega) (by omega) rest
  have readDay (rest : List Char) :
      number 2 1 31 (padded 2 t.day.day ++ rest) = .ok (t.day.day, rest) :=
    number_padded (by omega) (by omega) (by omega) rest
  have readHour (rest : List Char) :
      number 2 0 23 (padded 2 (t.second / 3600) ++ rest) = .ok (t.second / 3600, rest) :=
    number_padded (by omega) (by omega) (by omega) rest
  have readMinute (rest : List Char) :
      number 2 0 59 (padded 2 (t.second / 60 % 60) ++ rest) = .ok (t.second / 60 % 60, rest) :=
    number_padded (by omega) (by omega) (by omega) rest
  have readSecond (rest : List Char) : number 2 0 60 (padded 2 s ++ rest) = .ok (s, rest) :=
    number_padded (by omega) (by omega) (by omega) rest
  have behindDash (rest : List Char) : behind '-' ('-' :: rest) = .ok rest := rfl
  have behindColon (rest : List Char) : behind ':' (':' :: rest) = .ok rest := rfl
  have behindT (rest : List Char) : behindDate ('T' :: rest) = .ok rest := rfl
  have noFraction : fraction ['Z'] = .ok (0, ['Z']) := rfl
  have noBlank : ['Z'].dropWhile isBlank = ['Z'] := rfl
  have utc : zone ['Z'] = .ok (0, []) := rfl
  have htotal : t.second / 3600 * 3600 + t.second / 60 % 60 * 60 + t.second % 60 = t.second := by
    omega
  simp only [parse, toList_write, hwritten, readYear, ok_bind, behindDash, readMonth, readDay,
    behindT, readHour, behindColon, readMinute, readSecond, noFraction, noBlank, utc, hdate, hclock,
    List.all_nil, Bool.not_true, Bool.false_eq_true, if_false, htotal, ofLocal?_utc hsecond, hwhole]
  rfl

/-- What was read of a text can be written and read again, without its fraction. -/
theorem parse?_write {text : String} {t : Instant} (h : parse? text = some t) :
    parse? t.write = some t.whole := by
  cases hparse : parse text with
  | error fault =>
      rw [parse?, hparse] at h
      cases h
  | ok read =>
      rw [parse?, hparse] at h
      obtain rfl := Option.some.inj h
      rw [parse?, parse_write (isProper_of_parse hparse)]
      rfl

theorem write_whole (t : Instant) : t.whole.write = t.write := by
  by_cases h : t.nano < 1000000000
  · simp [write, whole, h]
  · simp [write, whole, h]

end Instant

end TagSync
