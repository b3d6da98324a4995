import AlloyGrade.Proofs.Time.Display
import Mathlib.Data.List.Induction

/-! What the reader of instants accepts. Whatever the offset, the instant read is a day of the calendar at a time
that a clock can show: an offset counts whole minutes, so it moves a leap second to the end of another minute. -/

namespace AlloyGrade.Instant

open Scan

/-! ### Numbers -/

theorem digitsValue_lt (ds : List Char) (h : ∀ c ∈ ds, c.isDigit) : digitsValue ds < Nat.pow 10 ds.length := by
  induction ds using List.reverseRecOn with
  | nil => decide
  | append_singleton ds c ih =>
    have hc : 48 ≤ c.toNat ∧ c.toNat ≤ 57 := Char.isDigit_iff_toNat.mp (h c (by simp))
    have hds := ih fun d hd => h d (by simp [hd])
    have hpow : Nat.pow 10 (ds.length + 1) = Nat.pow 10 ds.length * 10 := rfl
    simp only [digitsValue, List.foldl_append, List.foldl_cons, List.foldl_nil, List.length_append,
      List.length_singleton, hpow] at hds ⊢
    omega

theorem yields_digits (w : Nat) :
    Yields (fun ds => (∀ c ∈ ds, c.isDigit) ∧ ds.length ≤ w) (digits (some w)) := by
  intro cs ds rest h
  simp only [digits] at h
  split at h
  · cases h
  · cases h
  · cases h
    refine ⟨fun c hc => List.all_eq_true.mp List.all_takeWhile c hc, ?_⟩
    exact Nat.le_trans (List.takeWhile_prefix _).length_le (List.length_take_le w _)

theorem yields_number (width : Option Nat) (low high : Nat) :
    Yields (fun n => low ≤ n ∧ n ≤ high) (number width low high) :=
  .after _ fun _ => .of_ite (fun h => .of_pure h) fun _ => .of_fail _

theorem yields_twoDigits (low high : Nat) : Yields (fun n => low ≤ n ∧ n ≤ high) (twoDigits low high) :=
  .after _ fun _ => yields_number _ low high

theorem yields_fraction : Yields (· < nanosPerSecond) fraction := by
  refine .after _ fun next => ?_
  split
  · refine .after _ fun _ => (yields_digits 9).bind fun ds hds => .after _ fun _ => .of_pure ?_
    obtain ⟨hall, hlength⟩ := hds
    have hpos : 0 < 10 ^ (9 - ds.length) := Nat.pow_pos (by decide)
    calc digitsValue ds * 10 ^ (9 - ds.length)
        < 10 ^ ds.length * 10 ^ (9 - ds.length) := Nat.mul_lt_mul_of_pos_right (digitsValue_lt ds hall) hpos
      _ = nanosPerSecond := by rw [← Nat.pow_add, Nat.add_sub_cancel' hlength]; rfl
  · exact .of_pure (by decide)

theorem yields_offsetSeconds : Yields (fun n => n % 60 = 0) offsetSeconds := by
  refine .after _ fun hours => .after _ fun _ => .after _ fun minutes => .of_ite (fun _ => .of_fail _) fun _ => .of_pure ?_
  omega

theorem yields_offset : Yields (fun n => n % 60 = 0) offset := by
  intro cs n rest h
  unfold offset at h
  split at h
  · cases h
    rfl
  · split at h
    · cases h
    · split_ifs at h
      · cases h
        rfl
      all_goals
        split at h
        · cases h
        · rename_i seconds left hread
          cases h
          have := yields_offsetSeconds _ _ _ hread
          omega

/-- A local time, with an offset of whole minutes. -/
theorem yields_localTime : Yields (fun found => found.1.Timed ∧ found.2 % 60 = 0) localTime := by
  refine .after _ fun year => .after _ fun _ => .after _ fun month => .after _ fun _ => .after _ fun day => .after _ fun _ => ?_
  refine (yields_twoDigits 0 23).bind fun hour hhour => .after _ fun _ => ?_
  refine (yields_twoDigits 0 59).bind fun minute hminute => .after _ fun _ => ?_
  refine (yields_twoDigits 0 60).bind fun second hsecond => ?_
  refine yields_fraction.bind fun nanos hnanos => .after _ fun _ => ?_
  refine yields_offset.bind fun ahead hahead => .after _ fun _ => ?_
  refine .of_ite (fun hleap => .of_pure ?_) fun hplain => .of_pure ?_
  · have hnanos : nanos + nanosPerSecond < 2 * nanosPerSecond := by omega
    exact ⟨⟨Nat.lt_succ_of_le hhour.2, Nat.lt_succ_of_le hminute.2, Nat.lt_succ_self 59, .inr ⟨rfl, hnanos⟩⟩, hahead⟩
  · have hsecond : second < 60 := by omega
    exact ⟨⟨Nat.lt_succ_of_le hhour.2, Nat.lt_succ_of_le hminute.2, hsecond, .inl hnanos⟩, hahead⟩

/-! ### Days -/

/-- The same time of another day. -/
theorem Valid.on {t : Instant} (h : t.Valid) {year : Int} {month day : Nat} (hdate : isDate year month day) :
    ({ t with year := year, month := month, day := day } : Instant).Valid :=
  ⟨⟨h.hour, h.minute, h.second, h.nanos⟩, hdate⟩

theorem Valid.nextDay? {t next : Instant} (h : t.Valid) (hn : t.nextDay? = some next) : next.Valid := by
  obtain ⟨hyear, hmonth, hday⟩ := isDate_iff.mp h.date
  unfold Instant.nextDay? at hn
  split_ifs at hn with hwithin hmonths hyears
  · cases hn
    exact h.on (isDate_iff.mpr ⟨hyear, hmonth, by omega, hwithin⟩)
  · cases hn
    have := daysInMonth_bounds t.year (t.month + 1)
    exact h.on (isDate_iff.mpr ⟨hyear, by omega, by omega⟩)
  · cases hn
    exact h.on (isDate_iff.mpr ⟨by omega, by decide, Nat.le_refl 1, Nat.one_le_iff_ne_zero.mpr nofun⟩)

theorem Valid.previousDay? {t previous : Instant} (h : t.Valid) (hp : t.previousDay? = some previous) :
    previous.Valid := by
  obtain ⟨hyear, hmonth, hday⟩ := isDate_iff.mp h.date
  unfold Instant.previousDay? at hp
  split_ifs at hp with hwithin hmonths hyears
  · cases hp
    exact h.on (isDate_iff.mpr ⟨hyear, hmonth, by omega⟩)
  · cases hp
    have := daysInMonth_bounds t.year (t.month - 1)
    exact h.on (isDate_iff.mpr ⟨hyear, by omega, by omega⟩)
  · cases hp
    exact h.on (isDate_iff.mpr ⟨by omega, by decide, by decide, Nat.le_refl 31⟩)

theorem Timed.ofLocal? {t moment : Instant} (h : t.Timed) {ahead : Int} (hahead : ahead % 60 = 0)
    (hdate : isDate t.year t.month t.day) (hm : t.ofLocal? ahead = some moment) : moment.Valid := by
  obtain ⟨year, month, day, hour, minute, second, nanos⟩ := t
  obtain ⟨hhour, hminute, hsecond, hnanos⟩ := h
  simp only at hhour hminute hsecond hnanos
  simp only [Instant.ofLocal?] at hm
  generalize htotal : ((hour * 3600 + minute * 60 + second : Nat) : Int) - ahead = total at hm
  generalize hclock : (total % secondsPerDay).toNat = clock at hm
  unfold secondsPerDay at hclock
  -- Whole days and whole minutes leave the seconds as they are.
  have hkept : clock % 60 = second := by omega
  have hmoved : (⟨year, month, day, clock / 3600, clock / 60 % 60, clock % 60, nanos⟩ : Instant).Valid :=
    ⟨⟨by simp only; omega, by simp only; omega, by simp only; omega, by simpa only [hkept] using hnanos⟩, hdate⟩
  split_ifs at hm
  · exact hmoved.previousDay? hm
  · exact hmoved.nextDay? hm
  · cases hm
    exact hmoved

theorem valid_of_read {s : String} {t : Instant} (h : read s = .ok t) : t.Valid := by
  unfold read at h
  split at h
  · cases h
  · rename_i found ahead rest hfound
    split_ifs at h with _ hdate
    split at h
    · cases h
    · rename_i moment hmoment
      cases h
      obtain ⟨htimed, hahead⟩ := yields_localTime _ _ _ hfound
      exact htimed.ofLocal? hahead (by simpa using hdate) hmoment

end AlloyGrade.Instant
