import Compliance.Time.Date
import Mathlib.Algebra.Group.Int.Defs
import Mathlib.Tactic.Lemma

/-! Every day has a date of the calendar, and is the day of that date. -/

namespace Compliance.Time

/-- A day by its place in the calendar: eras of 400 years that begin in March, in them centuries, in
these cycles of four years, the year in its cycle, and the day of the year. -/
structure Place where
  era : ℤ
  century : ℤ
  cycle : ℤ
  year : ℤ
  day : ℤ

namespace Place

variable {p : Place} {n : ℤ}

/-- The last day of a leap year is there only in years that have a leap day. -/
structure Valid (p : Place) : Prop where
  century : 0 ≤ p.century ∧ p.century ≤ 3
  cycle : 0 ≤ p.cycle ∧ p.cycle ≤ 24
  year : 0 ≤ p.year ∧ p.year ≤ 3
  day : 0 ≤ p.day ∧ p.day ≤ 365
  leap : p.day = 365 → p.year = 3 ∧ (p.cycle < 24 ∨ p.century = 3)

def yearOfEra (p : Place) : ℤ := 100 * p.century + 4 * p.cycle + p.year

def dayOfEra (p : Place) : ℤ := 36524 * p.century + 1461 * p.cycle + 365 * p.year + p.day

def month (p : Place) : ℤ := (5 * p.day + 2) / 153

def date (p : Place) : Date where
  year := p.era * 400 + p.yearOfEra + if p.month < 10 then 0 else 1
  month := (if p.month < 10 then p.month + 3 else p.month - 9).toNat
  day := (p.day - (153 * p.month + 2) / 5 + 1).toNat

lemma exists_valid (n : ℤ) : ∃ p : Place, p.Valid ∧ n + 719468 = p.era * 146097 + p.dayOfEra := by
  obtain ⟨d, hd, hera⟩ : ∃ d, (0 ≤ d ∧ d ≤ 146096) ∧ n + 719468 = (n + 719468) / 146097 * 146097 + d :=
    ⟨(n + 719468) % 146097, by omega, by omega⟩
  obtain ⟨c, hc, hd₁⟩ : ∃ c, (0 ≤ c ∧ c ≤ 3) ∧ 36524 * c ≤ d ∧ (d < 36524 * (c + 1) ∨ c = 3) :=
    ⟨min (d / 36524) 3, by omega, by omega⟩
  obtain ⟨q, hq, hd₂⟩ : ∃ q, (0 ≤ q ∧ q ≤ 24) ∧ 1461 * q ≤ d - 36524 * c ∧
    d - 36524 * c < 1461 * (q + 1) :=
    ⟨(d - 36524 * c) / 1461, by omega, by omega⟩
  obtain ⟨r, hr, hd₃⟩ : ∃ r, (0 ≤ r ∧ r ≤ 3) ∧ 365 * r ≤ d - 36524 * c - 1461 * q ∧
      (d - 36524 * c - 1461 * q < 365 * (r + 1) ∨ r = 3) :=
    ⟨min ((d - 36524 * c - 1461 * q) / 365) 3, by omega, by omega⟩
  refine ⟨⟨(n + 719468) / 146097, c, q, r, d - 36524 * c - 1461 * q - 365 * r⟩, ⟨hc, hq, hr, ?_, ?_⟩, ?_⟩
  · simp only
    omega
  · simp only
    omega
  · simp only [dayOfEra]
    omega

/-- The days that cycles, centuries and the era gain or lose against years of 365 days cancel out. -/
lemma Valid.yearOfEra_eq (h : p.Valid) :
    (p.dayOfEra - p.dayOfEra / 1460 + p.dayOfEra / 36524 - p.dayOfEra / 146096) / 365 = p.yearOfEra := by
  obtain ⟨era, c, q, r, t⟩ := p
  obtain ⟨hc, hq, hr, ht, hleap⟩ := h
  simp only [dayOfEra, yearOfEra] at *
  generalize hd : 36524 * c + 1461 * q + 365 * r + t = d
  have hcycles : d / 1460 = 25 * c + q + (if 1460 ≤ 24 * c + q + 365 * r + t then 1 else 0) := by
    split <;> omega
  have hcenturies : d / 36524 - d / 146096 = c := by
    by_cases hlast : d = 146096
    · omega
    · have hera : d / 146096 = 0 := by omega
      have hcentury : d / 36524 = c := by omega
      omega
  have hyears : d - d / 1460 + d / 36524 - d / 146096 =
      36500 * c + 1460 * q + 365 * r + (t - if 1460 ≤ 24 * c + q + 365 * r + t then 1 else 0) := by omega
  rw [hyears]
  split <;> omega

lemma Valid.dayOfEra_le (h : p.Valid) : 0 ≤ p.dayOfEra ∧ p.dayOfEra ≤ 146096 := by
  obtain ⟨hcentury, hcycle, hyear, hday, -⟩ := h
  rw [dayOfEra]
  omega

lemma Valid.day_eq (h : p.Valid) :
    p.dayOfEra - (365 * p.yearOfEra + p.yearOfEra / 4 - p.yearOfEra / 100) = p.day := by
  obtain ⟨hcentury, hcycle, hyear, -, -⟩ := h
  have hcycles : p.yearOfEra / 4 = 25 * p.century + p.cycle := by
    rw [yearOfEra]
    omega
  have hcenturies : p.yearOfEra / 100 = p.century := by
    rw [yearOfEra]
    omega
  rw [hcycles, hcenturies, yearOfEra, dayOfEra]
  omega

lemma Valid.month_le (h : p.Valid) : 0 ≤ p.month ∧ p.month ≤ 11 := by
  have hday := h.day
  rw [month]
  omega

lemma Valid.ofDay_eq (h : p.Valid) (hn : n + 719468 = p.era * 146097 + p.dayOfEra) :
    Date.ofDay n = p.date := by
  have hbounds := h.dayOfEra_le
  have hera : (n + 719468) / 146097 = p.era := by omega
  have hday : n + 719468 - p.era * 146097 = p.dayOfEra := by omega
  have hmonth := h.month_le
  simp only [Date.ofDay, hera, hday, h.yearOfEra_eq, h.day_eq]
  refine (Date.mk.injEq ..).mpr ⟨?_, rfl, rfl⟩
  rw [← month]
  by_cases hlow : p.month < 10
  · rw [if_pos hlow, if_pos hlow, if_neg (by omega)]
    omega
  · rw [if_neg hlow, if_neg hlow, if_pos (by omega)]
    omega

lemma Valid.cast_month (h : p.Valid) :
    (p.date.month : ℤ) = if p.month < 10 then p.month + 3 else p.month - 9 := by
  have hmonth := h.month_le
  simp only [date]
  split <;> omega

lemma Valid.cast_day (h : p.Valid) : (p.date.day : ℤ) = p.day - (153 * p.month + 2) / 5 + 1 := by
  have hday := h.day
  simp only [date, month]
  omega

lemma Valid.toDay_date (h : p.Valid) : p.date.toDay = p.era * 146097 + p.dayOfEra - 719468 := by
  have hyears : 0 ≤ p.yearOfEra ∧ p.yearOfEra ≤ 399 := by
    obtain ⟨hcentury, hcycle, hyear, -, -⟩ := h
    rw [yearOfEra]
    omega
  have hmonth := h.month_le
  have hmonths := h.cast_month
  have hyear : (if p.date.month ≤ 2 then p.date.year - 1 else p.date.year) =
    p.era * 400 + p.yearOfEra := by
    by_cases hlow : p.month < 10
    · rw [if_pos hlow] at hmonths
      have hdate : p.date.year = p.era * 400 + p.yearOfEra + 0 := by rw [date, if_pos hlow]
      rw [if_neg (by omega), hdate, add_zero]
    · rw [if_neg hlow] at hmonths
      have hdate : p.date.year = p.era * 400 + p.yearOfEra + 1 := by rw [date, if_neg hlow]
      rw [if_pos (by omega), hdate, add_sub_cancel_right]
  have hfromMarch : (p.date.month + 9 : ℤ) % 12 = p.month := by
    rw [hmonths]
    split <;> omega
  have hera : (p.era * 400 + p.yearOfEra) / 400 = p.era := by omega
  have hleft : p.era * 400 + p.yearOfEra - p.era * 400 = p.yearOfEra := by omega
  have hof := h.day_eq
  rw [Date.toDay]
  simp only [hyear, hfromMarch, hera, hleft, h.cast_day]
  omega

lemma Valid.has_leap_day (h : p.Valid) (hday : p.day = 365) :
    isLeapYear (p.era * 400 + p.yearOfEra + 1) := by
  obtain ⟨hyear, hleap⟩ := h.leap hday
  have hcentury := h.century
  have hcycle := h.cycle
  simp only [isLeapYear, Bool.and_eq_true, Bool.or_eq_true, decide_eq_true_eq]
  rw [yearOfEra]
  omega

/-- February is the twelfth month from March, and the end of the year. -/
lemma Valid.day_le_monthLength (h : p.Valid) : p.date.day ≤ monthLength p.date.year p.date.month := by
  have hday := h.day
  have hmonths := h.cast_month
  have hdays := h.cast_day
  have hle := h.month_le
  have hmonth : p.month = (5 * p.day + 2) / 153 := rfl
  obtain hlast | hother : p.month = 11 ∨ p.month ≤ 10 := by omega
  · have hfebruary : p.date.month = 2 := by
      rw [hlast, if_neg (by decide)] at hmonths
      omega
    have hyear : p.date.year = p.era * 400 + p.yearOfEra + 1 := by rw [date, hlast, if_neg (by decide)]
    rw [monthLength, if_pos hfebruary, hyear]
    by_cases hleapDay : p.day = 365
    · rw [if_pos (h.has_leap_day hleapDay)]
      omega
    · have hlength : 28 ≤ if isLeapYear (p.era * 400 + p.yearOfEra + 1) then 29 else 28 := by
        split <;> omega
      omega
  · rw [monthLength, if_neg (by split at hmonths <;> omega)]
    split at hmonths <;> split <;> omega

lemma Valid.isValid_date (h : p.Valid) : p.date.isValid := by
  have hday := h.day
  have hmonth := h.month_le
  have hmonths := h.cast_month
  have hdays := h.cast_day
  simp only [Date.isValid, Bool.and_eq_true, decide_eq_true_eq]
  refine ⟨⟨⟨?_, ?_⟩, ?_⟩, h.day_le_monthLength⟩
  · split at hmonths <;> omega
  · split at hmonths <;> omega
  · rw [month] at hdays
    omega

end Place

theorem Date.toDay_ofDay (n : ℤ) : (ofDay n).toDay = n := by
  obtain ⟨p, hp, hn⟩ := Place.exists_valid n
  rw [hp.ofDay_eq hn, hp.toDay_date]
  omega

theorem Date.isValid_ofDay (n : ℤ) : (ofDay n).isValid := by
  obtain ⟨p, hp, hn⟩ := Place.exists_valid n
  rw [hp.ofDay_eq hn]
  exact hp.isValid_date

end Compliance.Time
