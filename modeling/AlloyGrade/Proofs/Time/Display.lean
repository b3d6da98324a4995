import AlloyGrade.Proofs.Text.Digits
import AlloyGrade.Time.Reading
import Mathlib.Tactic.SplitIfs

/-! Displayed instants read back. An instant that the calendar has, at a time that a clock can show, is read from
its own text: with any year that the calendar covers, with a fraction of any length, and in a leap second. -/

namespace AlloyGrade.Instant

open Scan

/-- A time of day that a clock can show. Only the last second of a minute may be a leap second. -/
structure Timed (t : Instant) : Prop where
  hour : t.hour < 24
  minute : t.minute < 60
  second : t.second < 60
  nanos : t.nanos < nanosPerSecond ∨ t.second = 59 ∧ t.nanos < 2 * nanosPerSecond

/-- Such a time on a day of the calendar. -/
structure Valid (t : Instant) : Prop extends Timed t where
  date : isDate t.year t.month t.day

theorem isDate_iff {year : Int} {month day : Nat} : isDate year month day ↔
    (minYear ≤ year ∧ year ≤ maxYear) ∧ (1 ≤ month ∧ month ≤ 12) ∧ 1 ≤ day ∧ day ≤ daysInMonth year month := by
  simp only [isDate, Bool.and_eq_true, decide_eq_true_eq, and_assoc]

theorem daysInMonth_bounds (year : Int) (month : Nat) :
    28 ≤ daysInMonth year month ∧ daysInMonth year month ≤ 31 := by
  unfold daysInMonth
  split
  · split_ifs <;> decide
  · decide
  · decide
  · decide
  · decide
  · decide

/-! ### Padded numbers -/

theorem digitsValue_eq (ds : List Char) : digitsValue ds = Nat.ofDigitChars 10 ds 0 := by
  rw [digitsValue, Nat.ofDigitChars_eq_foldl]
  simp only [Nat.mul_comm]
  rfl

theorem padded_eq (w n : Nat) :
    padded w n = List.replicate (w - (Nat.toDigits 10 n).length) '0' ++ Nat.toDigits 10 n := by
  rw [padded, Digits.toList_toString]

theorem digitsValue_padded (w n : Nat) : digitsValue (padded w n) = n := by
  rw [padded_eq, digitsValue_eq, Nat.ofDigitChars_append, Nat.ofDigitChars_replicate_zero, Nat.mul_zero,
    Nat.ofDigitChars_ten_toDigits]

theorem isDigit_of_mem_padded {w n : Nat} : ∀ c ∈ padded w n, c.isDigit := by
  intro c hc
  rw [padded_eq] at hc
  rcases List.mem_append.mp hc with hc | hc
  · rw [List.eq_of_mem_replicate hc]
    rfl
  · exact Digits.isDigit_of_mem hc

theorem padded_ne_nil (w n : Nat) : padded w n ≠ [] := by
  rw [padded_eq]
  exact List.append_ne_nil_of_right_ne_nil _ Nat.toDigits_ne_nil

theorem length_padded {w n : Nat} (hw : 0 < w) (h : n < Nat.pow 10 w) : (padded w n).length = w := by
  have := (Nat.length_toDigits_le_iff (by decide) hw).mpr h
  rw [padded_eq, List.length_append, List.length_replicate]
  omega

/-! ### Numbers -/

section Numbers

variable {ds rest : List Char}

theorem isBlank_of_isDigit {c : Char} (h : c.isDigit) : Text.isBlank c = false := by
  have hrange : 48 ≤ c.toNat ∧ c.toNat ≤ 57 := Char.isDigit_iff_toNat.mp h
  have hnone : ∀ n < 58, 48 ≤ n → Text.isBlank (Char.ofNat n) = false := by decide
  rw [← Char.ofNat_toNat c]
  exact hnone c.toNat (by omega) hrange.1

theorem digits_of_takeWhile {width : Option Nat} (hne : ds ≠ [])
    (htake : (width.elim (ds ++ rest) (ds ++ rest).take).takeWhile Char.isDigit = ds) :
    digits width (ds ++ rest) = .ok (ds, rest) := by
  unfold digits
  cases width with
  | none | some =>
    simp only [Option.elim] at htake
    simp only [htake, List.drop_left]
    obtain ⟨c, cs, rfl⟩ := List.exists_cons_of_ne_nil hne
    rfl

/-- Digits up to the width, or up to something else. -/
theorem digits_run (hds : ∀ c ∈ ds, c.isDigit) (hne : ds ≠ []) {w : Nat} (hw : ds.length ≤ w)
    (hstop : ds.length = w ∨ Stops Char.isDigit rest) : digits (some w) (ds ++ rest) = .ok (ds, rest) := by
  have hstops : Stops Char.isDigit (rest.take (w - ds.length)) := by
    rcases hstop with rfl | hstop
    · simp [Stops]
    · exact hstop.take _
  have htake : (ds ++ rest).take w = ds ++ rest.take (w - ds.length) := by
    rw [List.take_append, List.take_of_length_le hw]
  exact digits_of_takeWhile hne ((congrArg _ htake).trans (takeWhile_append_of_stops hds hstops))

theorem digits_open (hds : ∀ c ∈ ds, c.isDigit) (hne : ds ≠ []) (hstop : Stops Char.isDigit rest) :
    digits none (ds ++ rest) = .ok (ds, rest) :=
  digits_of_takeWhile hne (takeWhile_append_of_stops hds hstop)

theorem number_of_digits {width : Option Nat} {cs : List Char} (h : digits width cs = .ok (ds, rest)) {low high : Nat}
    (hlow : low ≤ digitsValue ds) (hhigh : digitsValue ds ≤ high) :
    number width low high cs = .ok (digitsValue ds, rest) := by
  rw [number, bind_of_ok h]
  simp [hlow, hhigh]

theorem skipBlanks_bind {β : Type} {cs : List Char} (h : Stops Text.isBlank cs) (f : Unit → TimeScan β) :
    (skipBlanks >>= f) cs = f () cs := by
  rw [skipBlanks, skipWhile_bind, h.dropWhile_eq]

theorem stops_padded (w n : Nat) (rest : List Char) : Stops Text.isBlank (padded w n ++ rest) := by
  obtain ⟨c, cs, hcs⟩ := List.exists_cons_of_ne_nil (padded_ne_nil w n)
  have hmem : c ∈ padded w n := by simp [hcs]
  rw [hcs]
  exact stops_cons (isBlank_of_isDigit (isDigit_of_mem_padded c hmem)) _

theorem twoDigits_run {n low high : Nat} (hlow : low ≤ n) (hhigh : n ≤ high) (hn : n < 100) (rest : List Char) :
    twoDigits low high (padded 2 n ++ rest) = .ok (n, rest) := by
  have hlength : (padded 2 n).length = 2 := length_padded (by decide) hn
  have hrun : digits (some 2) (padded 2 n ++ rest) = .ok (padded 2 n, rest) :=
    digits_run isDigit_of_mem_padded (padded_ne_nil 2 n) (Nat.le_of_eq hlength) (.inl hlength)
  have hvalue := digitsValue_padded 2 n
  rw [twoDigits, skipBlanks_bind (stops_padded 2 n rest), number_of_digits hrun (by omega) (by omega), hvalue]

theorem oneOf_run {allowed : List Char} {c : Char} (hc : c ∈ allowed) (rest : List Char) :
    oneOf allowed (c :: rest) = .ok ((), rest) := by
  rw [oneOf, peek?_bind]
  simp only [List.head?_cons, if_pos hc]
  rfl

theorem mark_run {c : Char} (hc : Text.isBlank c = false) (rest : List Char) : mark c (c :: rest) = .ok ((), rest) := by
  rw [mark, skipBlanks_bind (stops_cons hc rest), oneOf_run (List.mem_singleton_self c)]

theorem yearNumber_of_digit {cs : List Char} {c : Char} (hc : c.isDigit) :
    yearNumber (c :: cs) = (do return ((← number (some 4) 0 9999 : Nat) : Int) : TimeScan Int) (c :: cs) := by
  have hminus : c ≠ '-' := by rintro rfl; cases hc
  have hplus : c ≠ '+' := by rintro rfl; cases hc
  rw [yearNumber, skipBlanks_bind (stops_cons (isBlank_of_isDigit hc) cs), peek?_bind]
  simp only [List.head?_cons, Option.some.injEq, hminus, hplus, imp_self]

theorem yearNumber_minus (cs : List Char) :
    yearNumber ('-' :: cs) = (do return -((← number none 0 2147483648 : Nat) : Int) : TimeScan Int) cs := by
  rw [yearNumber, skipBlanks_bind (stops_cons (by decide) cs)]
  rfl

theorem yearNumber_plus (cs : List Char) :
    yearNumber ('+' :: cs) = (do return ((← number none 0 2147483647 : Nat) : Int) : TimeScan Int) cs := by
  rw [yearNumber, skipBlanks_bind (stops_cons (by decide) cs)]
  rfl

theorem yearNumber_run {year : Int} (hmin : minYear ≤ year) (hmax : year ≤ maxYear) {c : Char}
    (hc : c.isDigit = false) (rest : List Char) :
    yearNumber (yearText year ++ c :: rest) = .ok (year, c :: rest) := by
  have hmin : -262143 ≤ year := hmin
  have hmax : year ≤ 262142 := hmax
  have hstop : Stops Char.isDigit (c :: rest) := stops_cons hc rest
  have hdigits : digits none (padded 4 year.natAbs ++ c :: rest) = .ok (padded 4 year.natAbs, c :: rest) :=
    digits_open isDigit_of_mem_padded (padded_ne_nil 4 _) hstop
  have hsigned {top : Nat} (htop : 262143 ≤ top) :
      number none 0 top (padded 4 year.natAbs ++ c :: rest) = .ok (year.natAbs, c :: rest) := by
    have hvalue := digitsValue_padded 4 year.natAbs
    rw [number_of_digits hdigits (by omega) (by omega), hvalue]
  rw [yearText]
  split_ifs with hplain hneg
  · have hlength : (padded 4 year.toNat).length = 4 := length_padded (by decide) (show year.toNat < 10 ^ 4 by omega)
    have hrun : digits (some 4) (padded 4 year.toNat ++ c :: rest) = .ok (padded 4 year.toNat, c :: rest) :=
      digits_run isDigit_of_mem_padded (padded_ne_nil 4 _) (Nat.le_of_eq hlength) (.inl hlength)
    have hvalue := digitsValue_padded 4 year.toNat
    have hnumber : number (some 4) 0 9999 (padded 4 year.toNat ++ c :: rest) = .ok (year.toNat, c :: rest) := by
      rw [number_of_digits hrun (by omega) (by omega), hvalue]
    obtain ⟨d, ds, hds⟩ := List.exists_cons_of_ne_nil (padded_ne_nil 4 year.toNat)
    have hd : d.isDigit := isDigit_of_mem_padded d (by rw [hds]; exact .head _)
    rw [hds] at hnumber ⊢
    rw [List.cons_append, yearNumber_of_digit hd]
    refine (bind_of_ok hnumber).trans ?_
    rw [pure_run, Int.toNat_of_nonneg hplain.1]
  · have hyear : -(year.natAbs : Int) = year := by omega
    rw [List.cons_append, yearNumber_minus]
    refine (bind_of_ok (hsigned (by decide))).trans ?_
    rw [pure_run, hyear]
  · have hyear : (year.natAbs : Int) = year := by omega
    rw [List.cons_append, yearNumber_plus]
    refine (bind_of_ok (hsigned (by decide))).trans ?_
    rw [pure_run, hyear]

theorem fraction_point {w n : Nat} (hw : 0 < w) (hnine : w ≤ 9) (hn : n < Nat.pow 10 w) {c : Char}
    (hc : c.isDigit = false)
    (rest : List Char) :
    fraction ('.' :: padded w n ++ c :: rest) = .ok (n * Nat.pow 10 (9 - w), c :: rest) := by
  have hlength : (padded w n).length = w := length_padded hw hn
  have hstop : Stops Char.isDigit (c :: rest) := stops_cons hc rest
  have hrun : digits (some 9) (padded w n ++ c :: rest) = .ok (padded w n, c :: rest) :=
    digits_run isDigit_of_mem_padded (padded_ne_nil w n) (by omega) (.inr hstop)
  have hpoint (cs : List Char) : fraction ('.' :: cs) = (digits (some 9) >>= fun ds => skipWhile Char.isDigit >>=
      fun _ => pure (digitsValue ds * Nat.pow 10 (9 - ds.length)) : TimeScan Nat) cs := rfl
  rw [List.cons_append, hpoint, bind_of_ok hrun]
  rw [skipWhile_bind, hstop.dropWhile_eq, pure_run, hlength, digitsValue_padded]

theorem fraction_run {n : Nat} (hn : n < nanosPerSecond) {c : Char} (hc : c.isDigit = false) (hpoint : c ≠ '.')
    (rest : List Char) : fraction (fractionText n ++ c :: rest) = .ok (n, c :: rest) := by
  have hn : n < 1000000000 := hn
  rw [fractionText]
  split_ifs with hzero hmillis hmicros
  · rw [List.nil_append, fraction, peek?_bind]
    simp only [List.head?_cons, Option.some.injEq, hpoint, imp_self, hzero, pure_run]
  · have hscaled : n / 1000000 * Nat.pow 10 (9 - 3) = n := show n / 1000000 * 10 ^ 6 = n by omega
    rw [fraction_point (by decide) (by decide) (show n / 1000000 < 10 ^ 3 by omega) hc, hscaled]
  · have hscaled : n / 1000 * Nat.pow 10 (9 - 6) = n := show n / 1000 * 10 ^ 3 = n by omega
    rw [fraction_point (by decide) (by decide) (show n / 1000 < 10 ^ 6 by omega) hc, hscaled]
  · have hscaled : n * Nat.pow 10 (9 - 9) = n := Nat.mul_one n
    rw [fraction_point (by decide) (by decide) hn hc, hscaled]

end Numbers

/-! ### Whole texts -/

/-- A time as a clock in UTC shows it, whose seconds go up to 60. -/
def clockText (t : Instant) : List Char :=
  yearText t.year ++ '-' :: (padded 2 t.month ++ '-' :: (padded 2 t.day ++ 'T' :: (padded 2 t.hour ++
    ':' :: (padded 2 t.minute ++ ':' :: (padded 2 t.second ++ (fractionText t.nanos ++ ['Z']))))))

/-- The same moment with its leap second counted as the sixty-first. -/
def onClock (t : Instant) : Instant :=
  if nanosPerSecond ≤ t.nanos then { t with second := t.second + 1, nanos := t.nanos - nanosPerSecond } else t

theorem toList_display (t : Instant) : t.display.toList = t.onClock.clockText := by
  unfold onClock
  split_ifs with hleap
  · simp [display, clockText, hleap]
  · simp [display, clockText, hleap]

theorem localTime_clockText {t : Instant} (hdate : isDate t.year t.month t.day) (hhour : t.hour < 24)
    (hminute : t.minute < 60) (hsecond : t.second ≤ 60) (hnanos : t.nanos < nanosPerSecond) :
    localTime t.clockText = .ok
      ((if t.second = 60 then { t with second := 59, nanos := t.nanos + nanosPerSecond } else t, 0), []) := by
  obtain ⟨⟨hmin, hmax⟩, ⟨hmonth, hmonth'⟩, hday, hday'⟩ := isDate_iff.mp hdate
  have hlast := daysInMonth_bounds t.year t.month
  rw [localTime, clockText]
  refine (bind_of_ok (yearNumber_run hmin hmax (by decide) _)).trans ?_
  refine (bind_of_ok (mark_run (by decide) _)).trans ?_
  refine (bind_of_ok (twoDigits_run hmonth hmonth' (by omega) _)).trans ?_
  refine (bind_of_ok (mark_run (by decide) _)).trans ?_
  refine (bind_of_ok (twoDigits_run hday (by omega) (by omega) _)).trans ?_
  refine (bind_of_ok (oneOf_run (by decide) _)).trans ?_
  refine (bind_of_ok (twoDigits_run (Nat.zero_le _) (by omega) (by omega) _)).trans ?_
  refine (bind_of_ok (mark_run (by decide) _)).trans ?_
  refine (bind_of_ok (twoDigits_run (Nat.zero_le _) (by omega) (by omega) _)).trans ?_
  refine (bind_of_ok (mark_run (by decide) _)).trans ?_
  refine (bind_of_ok (twoDigits_run (Nat.zero_le _) hsecond (by omega) _)).trans ?_
  refine (bind_of_ok (fraction_run hnanos (by decide) (by decide) _)).trans ?_
  rw [skipBlanks_bind (stops_cons (by decide) _)]
  refine (bind_of_ok (show offset ['Z'] = .ok (0, []) from rfl)).trans ?_
  rw [skipBlanks_bind stops_nil]
  split_ifs <;> rfl

/-- Nothing moves at no distance from UTC. -/
theorem ofLocal?_zero {t : Instant} (h : t.Timed) : t.ofLocal? 0 = some t := by
  obtain ⟨year, month, day, hour, minute, second, nanos⟩ := t
  obtain ⟨hhour, hminute, hsecond, -⟩ := h
  simp only at hhour hminute hsecond
  have htotal : ((hour * 3600 + minute * 60 + second : Nat) : Int) - 0 = (hour * 3600 + minute * 60 + second : Nat) :=
    Int.sub_zero _
  have hclock : ((hour * 3600 + minute * 60 + second : Nat) : Int) % 86400 = (hour * 3600 + minute * 60 + second : Nat) := by
    omega
  simp only [ofLocal?, secondsPerDay, htotal, hclock, Int.toNat_natCast]
  rw [if_neg (by omega), if_neg (by omega)]
  congr 2
  · omega
  · omega
  · omega

theorem localTime_display {t : Instant} (h : t.Valid) : localTime t.display.toList = .ok ((t, 0), []) := by
  obtain ⟨year, month, day, hour, minute, second, nanos⟩ := t
  obtain ⟨⟨hhour, hminute, hsecond, hnanos⟩, hdate⟩ := h
  simp only at hdate hhour hminute hsecond hnanos
  rw [toList_display, onClock]
  split_ifs with hleap
  · obtain ⟨rfl, hnanos⟩ := hnanos.resolve_left (Nat.not_lt.mpr hleap)
    have hfraction : nanos - nanosPerSecond < nanosPerSecond := by omega
    have hrun := localTime_clockText (t := ⟨year, month, day, hour, minute, 60, nanos - nanosPerSecond⟩) hdate hhour
      hminute (Nat.le_refl 60) hfraction
    rw [if_pos rfl, Nat.sub_add_cancel hleap] at hrun
    exact hrun
  · rw [localTime_clockText hdate hhour hminute (Nat.le_of_lt hsecond) (Nat.not_le.mp hleap),
      if_neg (Nat.ne_of_lt hsecond)]

theorem read_display {t : Instant} (h : t.Valid) : read t.display = .ok t := by
  rw [read, localTime_display h]
  simp [h.date, secondsPerDay, ofLocal?_zero h.toTimed]

end AlloyGrade.Instant
