import Compliance.Proofs.Number.Rounding

/-! The decimal that is found for a double lies among the numbers that round to it. -/

namespace Compliance.Number

open Double

def Decimal.value (d : Decimal) : ℚ := d.digits * 10 ^ d.exponent

namespace Decimal

lemma ten_zpow_pos (k : ℤ) : (0 : ℚ) < 10 ^ k := zpow_pos (by norm_num) k

lemma quotient_shiftTen (num den : ℕ) (k : ℤ) : quotient (shiftTen num den k) = num / den * 10 ^ k := by
  rw [shiftTen]
  split_ifs with h
  · obtain ⟨n, rfl⟩ := Int.eq_ofNat_of_zero_le h
    simp [quotient]
    ring
  · obtain ⟨n, hn⟩ := Int.eq_ofNat_of_zero_le (show 0 ≤ -k by omega)
    obtain rfl : k = -n := by omega
    simp [quotient, div_eq_mul_inv]
    ring

lemma den_shiftTen_pos (num : ℕ) {den : ℕ} (hden : 0 < den) (k : ℤ) : 0 < (shiftTen num den k).2 := by
  rw [shiftTen]
  split_ifs
  · exact hden
  · exact Nat.mul_pos hden (Nat.pow_pos (by decide))

section
variable {m : ℕ} {e : ℤ}

lemma den_intervalOf_pos (m : ℕ) (e : ℤ) : 0 < (intervalOf m e).den := by
  rw [intervalOf]
  dsimp only
  split_ifs
  · exact Nat.one_pos
  · exact Nat.pow_pos (by decide)

lemma quotient_scale (n : ℕ) (e : ℤ) :
    ((if 0 ≤ e then n * Nat.pow 2 e.toNat else n : ℕ) / (if 0 ≤ e then 1 else Nat.pow 2 (-e).toNat :
      ℕ) : ℚ) = n * 2 ^ e := by
  split_ifs with h
  · obtain ⟨n, rfl⟩ := Int.eq_ofNat_of_zero_le h
    simp
  · obtain ⟨n, hn⟩ := Int.eq_ofNat_of_zero_le (show 0 ≤ -e by omega)
    obtain rfl : e = -n := by omega
    simp [div_eq_mul_inv]

lemma two_zpow_quarter (e : ℤ) : (2 : ℚ) ^ e = 2 ^ (e - 2) * 4 := by
  have h := two_zpow_add (e - 2) 2
  rw [Nat.cast_ofNat, sub_add_cancel] at h
  linarith

lemma low_intervalOf (hm : 0 < m) (e : ℤ) :
    4 * ((intervalOf m e).low / (intervalOf m e).den : ℚ) = (4 * m - quarters m e) * 2 ^ e := by
  have hbelow : (if m = Nat.pow 2 52 ∧ e > minExponent then 1 else 2) = quarters m e := rfl
  have hle : quarters m e ≤ 4 * m := by
    have : quarters m e ≤ 2 := by exact_mod_cast quarters_le m e
    omega
  rw [intervalOf]
  dsimp only
  rw [hbelow, quotient_scale, two_zpow_quarter e]
  push_cast [hle]
  ring

lemma value_intervalOf (m : ℕ) (e : ℤ) : ((intervalOf m e).value / (intervalOf m e).den : ℚ) =
    m * 2 ^ e := by
  rw [intervalOf]
  dsimp only
  rw [quotient_scale, two_zpow_quarter e]
  push_cast
  ring

lemma high_intervalOf (m : ℕ) (e : ℤ) :
    4 * ((intervalOf m e).high / (intervalOf m e).den : ℚ) = (4 * m + 2) * 2 ^ e := by
  rw [intervalOf]
  dsimp only
  rw [quotient_scale, two_zpow_quarter e]
  push_cast
  ring

lemma mul_le_iff_div_le {a b c d : ℕ} (hb : 0 < b) (hd : 0 < d) : a * d ≤ c * b ↔
    (a / b : ℚ) ≤ c / d := by
  rw [div_le_div_iff₀ (by exact_mod_cast hb) (by exact_mod_cast hd)]
  exact_mod_cast Iff.rfl

lemma mul_lt_iff_div_lt {a b c d : ℕ} (hb : 0 < b) (hd : 0 < d) : a * d < c * b ↔
    (a / b : ℚ) < c / d := by
  rw [div_lt_div_iff₀ (by exact_mod_cast hb) (by exact_mod_cast hd)]
  exact_mod_cast Iff.rfl

lemma holds_iff (hm : 0 < m) (n : ℕ) (k : ℤ) : (intervalOf m e).holds n k ↔
    RoundsTo m e (n * 10 ^ k) := by
  have hden := den_intervalOf_pos m e
  have hpoint := den_shiftTen_pos n Nat.one_pos k
  have hx : ((shiftTen n 1 k).1 / (shiftTen n 1 k).2 : ℚ) = n * 10 ^ k := by
    have h := quotient_shiftTen n 1 k
    rwa [quotient, Nat.cast_one, div_one] at h
  have hlow := low_intervalOf hm e
  have hhigh := high_intervalOf m e
  have hclosed : (intervalOf m e).closed = decide (m % 2 = 0) := rfl
  rw [Interval.holds, hclosed]
  by_cases heven : m % 2 = 0
  · rw [if_pos (decide_eq_true heven), Bool.and_eq_true, decide_eq_true_eq, decide_eq_true_eq,
      mul_le_iff_div_le hden hpoint, mul_le_iff_div_le hpoint hden, hx]
    constructor
    · rintro ⟨h, h'⟩
      exact ⟨by linarith, by linarith, fun hodd => by omega⟩
    · intro h
      exact ⟨by linarith [h.low], by linarith [h.high]⟩
  · rw [if_neg (by simpa using heven), Bool.and_eq_true, decide_eq_true_eq, decide_eq_true_eq,
      mul_lt_iff_div_lt hden hpoint, mul_lt_iff_div_lt hpoint hden, hx]
    constructor
    · rintro ⟨h, h'⟩
      exact ⟨by linarith, by linarith, fun _ => ⟨by linarith, by linarith⟩⟩
    · intro h
      obtain ⟨h, h'⟩ := h.odd (by omega)
      exact ⟨by linarith, by linarith⟩

end

lemma reachesTen_iff {num den : ℕ} (hden : 0 < den) (k : ℤ) : reachesTen num den k ↔
    (10 : ℚ) ^ k ≤ num / den := by
  have hpos := den_shiftTen_pos num hden (-k)
  have hquotient := quotient_shiftTen num den (-k)
  have hratio : (1 : ℚ) ≤ quotient (shiftTen num den (-k)) ↔
    (shiftTen num den (-k)).2 ≤ (shiftTen num den (-k)).1 := by
    rw [quotient, one_le_div (by exact_mod_cast hpos)]
    exact_mod_cast Iff.rfl
  rw [reachesTen, decide_eq_true_eq, ← hratio, hquotient, zpow_neg, ← div_eq_mul_inv,
    one_le_div (ten_zpow_pos k)]

lemma guess_checked : (List.range 2401).all (fun i =>
    let d : ℤ := i - 1200
    let low := (shiftTen 1 1 ((d * 30103).fdiv 100000 - 1), shiftRatio 1 1 (1 - d))
    let high := (shiftRatio 1 1 (-1 - d), shiftTen 1 1 ((d * 30103).fdiv 100000 + 3))
    low.1.1 * low.2.2 ≤ low.2.1 * low.1.2 && high.1.1 * high.2.2 ≤ high.2.1 * high.1.2) = true := by
  decide +kernel

lemma quotient_shiftTen_one (k : ℤ) : ((shiftTen 1 1 k).1 / (shiftTen 1 1 k).2 : ℚ) = 10 ^ k := by
  have h := quotient_shiftTen 1 1 k
  rwa [quotient, Nat.cast_one, div_one, one_mul] at h

lemma quotient_shiftRatio_one (e : ℤ) : ((shiftRatio 1 1 (-e)).1 / (shiftRatio 1 1 (-e)).2 : ℚ) =
    2 ^ e := by
  have h := quotient_shiftRatio 1 1 (-e)
  rwa [quotient, Nat.cast_one, div_one, zpow_neg, one_div, inv_inv] at h

lemma guess_bounds {d : ℤ} (hlow : -1200 ≤ d) (hhigh : d ≤ 1200) :
    (10 : ℚ) ^ ((d * 30103).fdiv 100000 - 1) ≤ 2 ^ (d - 1) ∧
      (2 : ℚ) ^ (d + 1) ≤ 10 ^ ((d * 30103).fdiv 100000 + 3) := by
  obtain ⟨i, hi⟩ := Int.eq_ofNat_of_zero_le (show 0 ≤ d + 1200 by omega)
  obtain rfl : d = i - 1200 := by omega
  have h := List.all_eq_true.mp guess_checked i (List.mem_range.mpr (by omega))
  obtain ⟨h, h'⟩ := Bool.and_eq_true_iff.mp h
  have h := of_decide_eq_true h
  have h' := of_decide_eq_true h'
  rw [mul_le_iff_div_le (den_shiftTen_pos 1 Nat.one_pos _) (den_shiftRatio_pos 1 Nat.one_pos _)] at h
  rw [mul_le_iff_div_le (den_shiftRatio_pos 1 Nat.one_pos _) (den_shiftTen_pos 1 Nat.one_pos _)] at h'
  rw [show (1 - (i - 1200) : ℤ) = -(i - 1200 - 1) by
    ring, quotient_shiftTen_one, quotient_shiftRatio_one] at h
  rw [show (-1 - (i - 1200) : ℤ) = -(i - 1200 + 1) by
    ring, quotient_shiftTen_one, quotient_shiftRatio_one] at h'
  exact ⟨h, h'⟩

lemma leadingExponent_spec {num den : ℕ} (hnum : 0 < num) (hden : 0 < den)
    (hlow : -1200 ≤ (num.log2 : ℤ) - den.log2) (hhigh : (num.log2 : ℤ) - den.log2 ≤ 1200) :
    (10 : ℚ) ^ leadingExponent num den ≤ num / den ∧
      (num / den : ℚ) < 10 ^ (leadingExponent num den + 4) := by
  obtain ⟨habove, hbelow⟩ := bounds_quotient hnum hden
  obtain ⟨hguess, hguess'⟩ := guess_bounds hlow hhigh
  rw [leadingExponent]
  generalize (((num.log2 : ℤ) - den.log2) * 30103).fdiv 100000 = guess at *
  have hhigh : ∀ k, guess - 1 ≤ k → (num / den : ℚ) < 10 ^ (k + 4) := fun k hk =>
    lt_of_lt_of_le hbelow (hguess'.trans (zpow_le_zpow_right₀ (by norm_num) (by omega)))
  split_ifs with h h h
  · exact ⟨(reachesTen_iff hden _).mp h, hhigh _ (by omega)⟩
  · exact ⟨(reachesTen_iff hden _).mp h, hhigh _ (by omega)⟩
  · exact ⟨(reachesTen_iff hden _).mp h, hhigh _ (by omega)⟩
  · exact ⟨hguess.trans habove.le, hhigh _ (by omega)⟩

section
variable {i : Interval} {k leading : ℤ} {digits n : ℕ}

def Interval.floor (i : Interval) (k : ℤ) : ℕ :=
  (shiftTen i.value i.den (-k)).1 / (shiftTen i.value i.den (-k)).2

lemma Interval.nearest?_eq_some (h : i.nearest? k = some n) : i.holds n k ∧ n ≤ i.floor k + 1 := by
  rw [nearest?, ← floor] at h
  cases hlow : i.holds (i.floor k) k <;> cases hhigh : i.holds (i.floor k + 1) k
    <;> rw [hlow, hhigh] at h
  · cases h
  · obtain rfl := Option.some.inj h
    exact ⟨hhigh, Nat.le_refl _⟩
  · obtain rfl := Option.some.inj h
    exact ⟨hlow, Nat.le_succ _⟩
  · obtain rfl := Option.some.inj h
    split_ifs
    · exact ⟨hhigh, Nat.le_refl _⟩
    · exact ⟨hlow, Nat.le_succ _⟩

lemma Interval.exists_nearest? (h : i.holds (i.floor k) k ∨ i.holds (i.floor k + 1) k) : ∃ n,
    i.nearest? k = some n := by
  rw [nearest?, ← floor]
  rcases h with h | h <;> rw [h]
  · cases i.holds (i.floor k + 1) k <;> exact ⟨_, rfl⟩
  · cases i.holds (i.floor k) k <;> exact ⟨_, rfl⟩

lemma Interval.search_eq (tries : ℕ)
    (h : ∃ j < tries, ∃ n, i.nearest? (leading + 1 - (digits + j : ℕ)) = some n) :
    ∃ j < tries, ∃ n, i.nearest? (leading + 1 - (digits + j : ℕ)) = some n ∧
      i.search leading digits tries = ⟨n, leading + 1 - (digits + j : ℕ)⟩ := by
  induction tries generalizing digits with
  | zero =>
    obtain ⟨j, hj, _⟩ := h
    omega
  | succ tries ih =>
    cases hnearest : i.nearest? (leading + 1 - digits) with
    | some n => exact ⟨0, Nat.succ_pos _, n, hnearest, by rw [search, hnearest]; rfl⟩
    | none =>
      have hstep : i.search leading digits (tries + 1) = i.search leading (digits + 1) tries := by
        rw [search, hnearest]
      obtain ⟨j, hj, n, hn⟩ := h
      have hlater : ∃ j < tries, ∃ n, i.nearest? (leading + 1 - (digits + 1 + j : ℕ)) = some n := by
        cases j with
        | zero => cases hnearest.symm.trans hn
        | succ j => exact ⟨j, Nat.lt_of_succ_lt_succ hj, n, by rwa [Nat.add_assoc, Nat.add_comm 1]⟩
      obtain ⟨j, hj, n, hn, hsearch⟩ := ih hlater
      rw [Nat.add_assoc, Nat.add_comm 1] at hn hsearch
      exact ⟨j + 1, Nat.succ_lt_succ hj, n, hn, hstep.trans hsearch⟩

end

section
variable {m : ℕ} {e k : ℤ}

lemma floor_bounds (m : ℕ) (e k : ℤ) : ((intervalOf m e).floor k : ℚ) ≤ m * 2 ^ e / 10 ^ k ∧
    (m * 2 ^ e / 10 ^ k : ℚ) < (intervalOf m e).floor k + 1 := by
  have hden := den_shiftTen_pos (intervalOf m e).value (den_intervalOf_pos m e) (-k)
  have hquotient := quotient_shiftTen (intervalOf m e).value (intervalOf m e).den (-k)
  rw [value_intervalOf, zpow_neg, ← div_eq_mul_inv] at hquotient
  have hlt := fun n => div_lt_iff_quotient hden n
  rw [hquotient] at hlt
  refine ⟨not_lt.mp (mt (hlt _).mpr (Nat.lt_irrefl _)), ?_⟩
  exact_mod_cast (hlt _).mp (Nat.lt_succ_self _)

lemma roundsTo_of_lt {x : ℚ} (hlow : (4 * m - quarters m e : ℚ) * 2 ^ e < 4 * x)
    (hhigh : 4 * x < (4 * m + 2) * 2 ^ e) :
    RoundsTo m e x := ⟨hlow.le, hhigh.le, fun _ => ⟨hlow, hhigh⟩⟩

lemma grid_lt (hc : IsCanonical m e) (hk : (10 : ℚ) ^ 16 * 10 ^ k ≤ m * 2 ^ e) :
    2 * (10 : ℚ) ^ k < quarters m e * 2 ^ e ∧ (quarters m e : ℚ) * 2 ^ e ≤ 2 * 2 ^ e := by
  have hP := two_zpow_pos e
  rw [quarters]
  split_ifs with h
  · rw [h.1] at hk
    push_cast at hk ⊢
    exact ⟨by linarith, by linarith⟩
  · have hm : (m : ℚ) + 1 ≤ 2 ^ 53 := by exact_mod_cast hc.lt
    have hmP : ((m : ℚ) + 1) * 2 ^ e ≤ 2 ^ 53 * 2 ^ e := mul_le_mul_of_nonneg_right hm hP.le
    push_cast
    exact ⟨by linarith, le_rfl⟩

lemma exists_nearest?_intervalOf (hm : 0 < m) (hc : IsCanonical m e)
    (hk : (10 : ℚ) ^ 16 * 10 ^ k ≤ m * 2 ^ e) :
    ∃ n, (intervalOf m e).nearest? k = some n := by
  have hT := ten_zpow_pos k
  obtain ⟨hgrid, hle⟩ := grid_lt hc hk
  obtain ⟨hlow, hhigh⟩ := floor_bounds m e k
  rw [le_div_iff₀ hT] at hlow
  rw [div_lt_iff₀ hT] at hhigh
  refine Interval.exists_nearest? ?_
  rw [holds_iff hm, holds_iff hm]
  push_cast
  -- one of the two neighbours is no further away than half a step of the grid
  by_cases hnear : 2 * (m * 2 ^ e - (intervalOf m e).floor k * 10 ^ k) ≤ (10 : ℚ) ^ k
  · exact .inl (roundsTo_of_lt (by linarith) (by linarith))
  · exact .inr (roundsTo_of_lt (by linarith) (by linarith))

end

section
variable {m : ℕ} {e : ℤ} {d : Decimal}

lemma value_strip (fuel : ℕ) (d : Decimal) : (strip fuel d).value = d.value := by
  induction fuel generalizing d with
  | zero => rfl
  | succ fuel ih =>
    rw [strip]
    split_ifs with h
    · have hdigits : (d.digits : ℚ) = 10 * (d.digits / 10 : ℕ) := by
        exact_mod_cast (by omega : d.digits = 10 * (d.digits / 10))
      rw [ih, value, value, hdigits, zpow_add₀ (by norm_num)]
      ring
    · rfl

lemma digits_strip_le (fuel : ℕ) (d : Decimal) : (strip fuel d).digits ≤ d.digits := by
  induction fuel generalizing d with
  | zero => exact Nat.le_refl _
  | succ fuel ih =>
    rw [strip]
    split_ifs
    · exact (ih _).trans (Nat.div_le_self _ _)
    · exact Nat.le_refl _

lemma log2_intervalOf (hm : 0 < m) (hc : IsCanonical m e) : 0 < (intervalOf m e).value ∧
    -1200 ≤ ((intervalOf m e).value.log2 : ℤ) - (intervalOf m e).den.log2 ∧
      ((intervalOf m e).value.log2 : ℤ) - (intervalOf m e).den.log2 ≤ 1200 := by
  have hP := two_zpow_pos e
  have hvalue := value_intervalOf m e
  have hm1 : (1 : ℚ) ≤ m := by exact_mod_cast hm
  have hlow : (2 : ℚ) ^ (-1074 : ℤ) ≤ m * 2 ^ e := calc
    (2 : ℚ) ^ (-1074 : ℤ) ≤ 2 ^ e := zpow_le_zpow_right₀ (by norm_num) hc.min
    _ ≤ m * 2 ^ e := le_mul_of_one_le_left hP.le hm1
  have hhigh : (m * 2 ^ e : ℚ) < 2 ^ (1024 : ℤ) := calc
    (m * 2 ^ e : ℚ) < 2 ^ 53 * 2 ^ e := mul_lt_mul_of_pos_right (by exact_mod_cast hc.lt) hP
    _ = 2 ^ (e + (53 : ℕ)) := by rw [two_zpow_add, mul_comm]
    _ ≤ 2 ^ (1024 : ℤ) :=
      zpow_le_zpow_right₀ (by norm_num) (by have := hc.max; rw [maxExponent] at this; omega)
  have hpos : 0 < (intervalOf m e).value := by
    refine Nat.pos_of_ne_zero fun hzero => ?_
    rw [hzero, Nat.cast_zero, zero_div] at hvalue
    exact absurd hvalue (mul_pos (by linarith) hP).ne
  obtain ⟨habove, hbelow⟩ := bounds_quotient hpos (den_intervalOf_pos m e)
  rw [hvalue] at habove hbelow
  have habove := (zpow_lt_zpow_iff_right₀ (by norm_num)).mp (habove.trans hhigh)
  have hbelow := (zpow_lt_zpow_iff_right₀ (by norm_num)).mp (hlow.trans_lt hbelow)
  exact ⟨hpos, by omega, by omega⟩

theorem shortest_spec (hm : 0 < m) (hc : IsCanonical m e) :
    RoundsTo m e (shortest m e).value ∧ (shortest m e).digits ≤ 10 ^ 21 := by
  obtain ⟨hpos, hlow, hhigh⟩ := log2_intervalOf hm hc
  obtain ⟨hleading, hleading'⟩ := leadingExponent_spec hpos (den_intervalOf_pos m e) hlow hhigh
  rw [value_intervalOf] at hleading hleading'
  rw [shortest, if_neg hm.ne']
  dsimp only
  generalize leadingExponent (intervalOf m e).value (intervalOf m e).den = leading at *
  have hten : ∀ (k : ℤ) (n : ℕ), (10 : ℚ) ^ (k + n) = 10 ^ n * 10 ^ k := fun k n => by
    rw [zpow_add₀ (by norm_num), zpow_natCast, mul_comm]
  -- the search has come to an end by the grid of 17 digits
  have hlast : ∃ n, (intervalOf m e).nearest? (leading + 1 - (1 + 16 : ℕ)) = some n := by
    refine exists_nearest?_intervalOf hm hc ?_
    have hexponent : leading + 1 - (1 + 16 : ℕ) + (16 : ℕ) = leading := by omega
    rwa [← hten, hexponent]
  obtain ⟨j, hj, n, hn, hsearch⟩ := Interval.search_eq 17 ⟨16, by decide, hlast⟩
  obtain ⟨hholds, hle⟩ := Interval.nearest?_eq_some hn
  rw [hsearch, value_strip]
  refine ⟨(holds_iff hm _ _).mp hholds, (digits_strip_le _ _).trans (hle.trans ?_)⟩
  have hexponent : leading + 1 - (1 + j : ℕ) + (4 + j : ℕ) = leading + 4 := by omega
  have hfloor : ((intervalOf m e).floor (leading + 1 - (1 + j : ℕ)) : ℚ) < (10 ^ 20 : ℕ) := calc
    ((intervalOf m e).floor (leading + 1 - (1 + j : ℕ)) : ℚ) ≤
      m * 2 ^ e / 10 ^ (leading + 1 - (1 + j : ℕ)) := (floor_bounds m e _).1
    _ < 10 ^ (4 + j) := by rwa [div_lt_iff₀ (ten_zpow_pos _), ← hten, hexponent]
    _ ≤ (10 ^ 20 : ℕ) := by exact_mod_cast Nat.pow_le_pow_right (by decide) (by omega)
  have hfloor : (intervalOf m e).floor (leading + 1 - (1 + j : ℕ)) < 10 ^ 20 := by exact_mod_cast hfloor
  omega

end

end Decimal

end Compliance.Number
