import Compliance.Proofs.Number.Digits
import Compliance.Proofs.Result
import Compliance.Proofs.Time.Calendar
import Compliance.Time.Timestamp
import Mathlib.Data.Nat.Digits.Defs

/-! A moment of a year of four digits reads back from its text. -/

namespace Compliance.Time

open Number Result

variable {width n : ℕ} {ds rest : List Char}

lemma isDigit_padded {c : Char} (hc : c ∈ padded width n) : isDigit c :=
  (List.mem_append.mp hc).elim isDigit_zeros isDigit_toDigits

lemma digitsValue_padded (width n : ℕ) : digitsValue (padded width n) = n := by
  rw [padded, digitsValue_append, digitsValue_zeros, digitsValue_toDigits, Nat.zero_mul, Nat.zero_add]

lemma length_padded (hwidth : 0 < width) (h : n < Nat.pow 10 width) :
    (padded width n).length = width := by
  have hle := Nat.toDigits_length 10 n width hwidth h
  rw [padded, List.length_append, List.length_replicate]
  omega

lemma exists_padded (width n : ℕ) : ∃ c digits, padded width n = c :: digits ∧ isDigit c := by
  obtain ⟨c, digits, h⟩ := List.exists_cons_of_ne_nil (List.append_ne_nil_of_right_ne_nil
    (List.replicate (width - (Nat.toDigits 10 n).length) '0') (Nat.toDigits_ne_nil (n := n) (b := 10)))
  exact ⟨c, digits, h, isDigit_padded (h ▸ List.mem_cons_self ..)⟩

namespace Timestamp

lemma skipBlanks_of_digit {c : Char} (hc : isDigit c) (rest : List Char) :
    skipBlanks (c :: rest) = c :: rest := by
  obtain ⟨n, hn, rfl⟩ := exists_of_isDigit hc
  interval_cases n <;> rfl

lemma skipBlanks_padded (width n : ℕ) (rest : List Char) : skipBlanks (padded width n ++ rest) =
    padded width n ++ rest := by
  obtain ⟨c, digits, h, hc⟩ := exists_padded width n
  rw [h]
  exact skipBlanks_of_digit hc _

lemma digits_append (hne : ds ≠ []) (hds : ∀ c ∈ ds, isDigit c) (hlength : ds.length ≤ width)
    (hrest : ds.length = width ∨ ∀ c ∈ rest.head?, isDigit c = false)
    (hvalue : (digitsValue ds : ℤ) ≤ maxInt64) :
    digits width (ds ++ rest) = .ok (digitsValue ds, rest) := by
  have hstop : (rest.take (width - ds.length)).takeWhile isDigit = [] := by
    obtain hwidth | hhead := hrest
    · rw [hwidth, Nat.sub_self]
      rfl
    · cases rest with
      | nil => rw [List.take_nil, List.takeWhile_nil]
      | cons c rest =>
        cases width - ds.length with
        | zero => rfl
        | succ k => simp [hhead c rfl]
  have htaken : ((ds ++ rest).take width).takeWhile isDigit = ds := by
    rw [List.take_append, List.take_of_length_le hlength, List.takeWhile_append_of_pos hds, hstop,
      List.append_nil]
  obtain ⟨c, more, rfl⟩ := List.exists_cons_of_ne_nil hne
  have hc := hds c (List.mem_cons_self ..)
  rw [List.cons_append, digits, if_pos hc]
  rw [List.cons_append] at htaken
  simp only [htaken]
  rw [if_pos hvalue]
  simp

lemma digits_padded {limit : ℕ} (hwidth : 0 < width) (hle : width ≤ limit) (hlimit : limit ≤ 9)
    (h : n < Nat.pow 10 width) (hrest : width = limit ∨ ∀ c ∈ rest.head?, isDigit c = false) :
    digits limit (padded width n ++ rest) = .ok (n, rest) := by
  have hlength := length_padded hwidth h
  have hvalue : (digitsValue (padded width n) : ℤ) ≤ maxInt64 := by
    have hmax : Nat.pow 10 width ≤ Nat.pow 10 9 := Nat.pow_le_pow_right (by decide) (hle.trans hlimit)
    have hbound : (Nat.pow 10 9 : ℤ) ≤ maxInt64 := by decide
    rw [digitsValue_padded]
    omega
  have hne : padded width n ≠ [] := List.ne_nil_of_length_pos (Nat.lt_of_lt_of_eq hwidth hlength.symm)
  rw [digits_append hne (fun _ => isDigit_padded) (hlength.trans_le hle)
    (hrest.imp_left hlength.trans) hvalue, digitsValue_padded]

lemma field_padded {low high : ℕ} (hlow : low ≤ n) (hhigh : n ≤ high) (h : high < 100)
    (rest : List Char) :
    field low high (padded 2 n ++ rest) = .ok (n, rest) := by
  rw [field, skipBlanks_padded, digits_padded (by decide) le_rfl (by decide) (by simp; omega)
    (.inl rfl), ok_bind]
  simp only [bounded, if_pos (And.intro hlow hhigh), ok_bind]
  rfl

lemma literal_cons {c : Char} (hc : Text.isBlank c = false) (rest : List Char) :
    literal c (skipBlanks (c :: rest)) = .ok rest := by
  rw [skipBlanks, List.dropWhile_cons_of_neg (by rw [hc]; exact Bool.false_ne_true), literal, if_pos rfl]

lemma readYear_append {year : ℤ} (hyear : 0 ≤ year ∧ year ≤ 9999) (rest : List Char) :
    readYear (yearChars year ++ rest) = .ok (year, rest) := by
  have hdigits : digits 4 (padded 4 year.toNat ++ rest) = .ok (year.toNat, rest) :=
    digits_padded (by decide) le_rfl (by decide) (by simp; omega) (.inl rfl)
  obtain ⟨c, more, h, hc⟩ := exists_padded 4 year.toNat
  have hminus := ne_of_isDigit hc (d := '-') rfl
  have hplus := ne_of_isDigit hc (d := '+') rfl
  rw [yearChars, if_pos hyear, readYear, skipBlanks_padded]
  rw [h, List.cons_append] at hdigits ⊢
  split
  next heq => exact absurd (List.cons.inj heq).1 hminus
  next heq => exact absurd (List.cons.inj heq).1 hplus
  next =>
    rw [hdigits]
    exact congrArg (fun n => Except.ok (n, rest)) (Int.toNat_of_nonneg hyear.1)

variable {f : Fields} {nanos : ℕ}

lemma readDate_append (hyear : 0 ≤ f.year ∧ f.year ≤ 9999) (hmonth : 1 ≤ f.month ∧ f.month ≤ 12)
    (hday : 1 ≤ f.day ∧ f.day ≤ 31) (rest : List Char) :
    readDate (dateChars f ++ rest) = .ok ((f.year, f.month, f.day), rest) := by
  have hrange : ¬ (f.year < -(Nat.pow 2 31) ∨ f.year ≥ Nat.pow 2 31) := by
    have hbound : (Nat.pow 2 31 : ℤ) = 2147483648 := rfl
    omega
  rw [dateChars, List.append_assoc, readDate, List.append_assoc, readYear_append hyear, ok_bind]
  simp only [if_neg hrange, List.cons_append, literal_cons (c := '-') rfl, ok_bind,
    field_padded hmonth.1 hmonth.2 (by decide), field_padded hday.1 hday.2 (by decide)]
  rfl

lemma readFraction_digits {width value : ℕ} (hwidth : 0 < width) (hle : width ≤ 9)
    (hvalue : value < Nat.pow 10 width) {c : Char} (hc : isDigit c = false) (rest : List Char) :
    readFraction ('.' :: padded width value ++ c :: rest) =
      .ok (value * Nat.pow 10 (9 - width), c :: rest) := by
  rw [List.cons_append, readFraction,
    digits_padded hwidth hle (by decide) hvalue (.inr (by simp [hc])), ok_bind]
  simp only [List.length_append, length_padded hwidth hvalue]
  rw [List.dropWhile_cons_of_neg (by simp [hc]), Nat.add_sub_cancel]
  rfl

lemma readFraction_append (h : nanos < 1000000000) {c : Char} (hc : isDigit c = false)
    (hpoint : c ≠ '.') (rest : List Char) :
    readFraction (fractionChars nanos ++ c :: rest) = .ok (nanos, c :: rest) := by
  rw [fractionChars]
  split_ifs with hnone hmillis hmicros
  · rw [List.nil_append, readFraction]
    · rw [hnone]
      rfl
    · rintro _ heq
      exact hpoint (List.cons.inj heq).1
  · have hvalue : nanos / 1000000 * Nat.pow 10 (9 - 3) = nanos :=
      Nat.div_mul_cancel (Nat.dvd_of_mod_eq_zero hmillis)
    rw [readFraction_digits (by decide) (by decide) (by simp; omega) hc, hvalue]
  · have hvalue : nanos / 1000 * Nat.pow 10 (9 - 6) = nanos :=
      Nat.div_mul_cancel (Nat.dvd_of_mod_eq_zero hmicros)
    rw [readFraction_digits (by decide) (by decide) (by simp; omega) hc, hvalue]
  · rw [readFraction_digits (by decide) (by decide) (by simpa using h) hc]
    exact congrArg (fun n => Except.ok (n, c :: rest)) (Nat.mul_one nanos)

lemma readTime_append (hhour : f.hour ≤ 23) (hminute : f.minute ≤ 59) (hsecond : f.second ≤ 60)
    (hnanos : f.nanos < 1000000000) {c : Char} (hc : isDigit c = false) (hpoint : c ≠ '.')
    (rest : List Char) :
    readTime (clockChars f ++ fractionChars f.nanos ++ c :: rest) =
      .ok ((f.hour, f.minute, f.second, f.nanos), c :: rest) := by
  rw [readTime, clockChars]
  simp only [List.cons_append, List.append_assoc, literal_cons (c := ':') rfl, ok_bind,
    field_padded (Nat.zero_le _) hhour (by decide), field_padded (Nat.zero_le _) hminute (by decide),
    field_padded (Nat.zero_le _) hsecond (by decide), readFraction_append hnanos hc hpoint]
  rfl

lemma ofFields_toFields {t : Timestamp} (hfirst : minYear ≤ t.toFields.year)
    (hlast : t.toFields.year ≤ maxYear)
    (hnanos : t.nanos < 1000000000 ∨ t.nanos < 2000000000 ∧ t.seconds % 60 = 59) :
    ofFields t.toFields 0 = .ok t := by
  have hdate : (⟨t.toFields.year, t.toFields.month, t.toFields.day⟩ : Date) =
    Date.ofDay (t.seconds / 86400) := rfl
  have hrest : ∃ rest : ℕ, (t.seconds - t.seconds / 86400 * 86400).toNat = rest ∧
      t.seconds = t.seconds / 86400 * 86400 + rest ∧ rest < 86400 := ⟨_, rfl, by omega, by omega⟩
  obtain ⟨rest, hof, hseconds, hlt⟩ := hrest
  have hclock : t.toFields.hour = rest / 3600 ∧ t.toFields.minute = rest % 3600 / 60 ∧
      t.toFields.second = rest % 60 + t.nanos / 1000000000 ∧
        t.toFields.nanos = t.nanos % 1000000000 := by
    simp only [toFields, hof, and_self]
  obtain ⟨hhour, hminute, hsecond, hrest⟩ := hclock
  rw [ofFields]
  simp only [hdate, Date.isValid_ofDay, Date.toDay_ofDay, hhour, hminute, hsecond, hrest]
  rw [if_neg (by simp; omega)]
  by_cases hleap : t.nanos < 1000000000
  · have hwhole : t.nanos / 1000000000 = 0 := Nat.div_eq_of_lt hleap
    have hsixty : rest % 60 ≠ 60 := by omega
    have hsum : t.seconds / 86400 * 86400 + (rest / 3600 : ℕ) * 3600 + (rest % 3600 / 60 : ℕ) * 60 +
      (rest % 60 : ℕ) - 0 = t.seconds := by omega
    rw [hwhole, Nat.add_zero, if_neg hsixty, if_neg hsixty, Nat.mod_eq_of_lt hleap, hsum]
  · obtain ⟨hnanos, hlast⟩ := hnanos.resolve_left hleap
    have hsixty : rest % 60 + t.nanos / 1000000000 = 60 := by omega
    have hof : t.nanos % 1000000000 + 1000000000 = t.nanos := by omega
    have hsum : t.seconds / 86400 * 86400 + (rest / 3600 : ℕ) * 3600 + (rest % 3600 / 60 : ℕ) * 60 +
      59 - 0 = t.seconds := by
      omega
    rw [if_pos hsixty, if_pos hsixty, hof, hsum]

structure IsPrintable (t : Timestamp) : Prop where
  year : 0 ≤ t.toFields.year ∧ t.toFields.year ≤ 9999
  nanos : t.nanos < 1000000000 ∨ t.nanos < 2000000000 ∧ t.seconds % 60 = 59

theorem read_write {t : Timestamp} (h : t.IsPrintable) : read t.write = .ok t := by
  obtain ⟨hyear, hnanos⟩ := h
  have hdate := Date.isValid_ofDay (t.seconds / 86400)
  simp only [Date.isValid, Bool.and_eq_true, decide_eq_true_eq] at hdate
  obtain ⟨⟨⟨hmonth, hmonth'⟩, hday⟩, hday'⟩ := hdate
  have hlength : ∀ year month, monthLength year month ≤ 31 := by
    intro year month
    rw [monthLength]
    split_ifs <;> omega
  have hdays : 1 ≤ t.toFields.day ∧ t.toFields.day ≤ 31 := ⟨hday, hday'.trans (hlength _ _)⟩
  have hclock : t.toFields.hour ≤ 23 ∧ t.toFields.minute ≤ 59 ∧ t.toFields.second ≤ 60 ∧
    t.toFields.nanos < 1000000000 := by
    simp only [toFields]
    omega
  obtain ⟨hhour, hminute, hsecond, hfraction⟩ := hclock
  have htime := readTime_append hhour hminute hsecond hfraction (c := 'Z') rfl (by decide) []
  rw [read, write, String.toList_ofList]
  simp only [List.append_assoc, List.cons_append] at htime ⊢
  rw [readDate_append hyear ⟨hmonth, hmonth'⟩ hdays]
  simp only [ok_bind, true_or, if_true, pure_bind, htime]
  exact ofFields_toFields (Int.le_trans (by decide) hyear.1) (Int.le_trans hyear.2 (by decide)) hnanos

end Timestamp

end Compliance.Time
