import Mathlib.Algebra.Order.Field.Power
import Mathlib.Algebra.Order.Field.Rat
import Mathlib.Tactic.FieldSimp
import Mathlib.Tactic.Lemma
import Mathlib.Tactic.Linarith
import Mathlib.Tactic.NormNum
import Mathlib.Tactic.Positivity
import Mathlib.Tactic.Ring
import Compliance.Number.Shortest

/-! A number that rounds to a double is read as that double. -/

namespace Compliance.Number

def quotient (ratio : ℕ × ℕ) : ℚ := ratio.1 / ratio.2

namespace Double

lemma quotient_shiftRatio (num den : ℕ) (e : ℤ) : quotient (shiftRatio num den e) =
    num / den / 2 ^ e := by
  rw [shiftRatio]
  split_ifs with h
  · obtain ⟨n, rfl⟩ := Int.eq_ofNat_of_zero_le h
    simp [quotient, div_div]
  · obtain ⟨n, hn⟩ := Int.eq_ofNat_of_zero_le (show 0 ≤ -e by omega)
    obtain rfl : e = -n := by omega
    simp [quotient]
    ring

lemma den_shiftRatio_pos (num : ℕ) {den : ℕ} (hden : 0 < den) (e : ℤ) :
    0 < (shiftRatio num den e).2 := by
  rw [shiftRatio]
  split_ifs
  · exact Nat.mul_pos hden (Nat.pow_pos (by decide))
  · exact hden

lemma divRound_eq {num den m : ℕ} (hden : 0 < den) (hlow : 2 * (den * m) ≤ 2 * num + den)
    (hhigh : 2 * num ≤ 2 * (den * m) + den)
    (htie : m % 2 = 1 → 2 * (den * m) < 2 * num + den ∧ 2 * num < 2 * (den * m) + den) :
    divRound num den = m := by
  have hsplit := Nat.div_add_mod num den
  have hr := Nat.mod_lt num hden
  rw [divRound]
  generalize num / den = q at *
  generalize num % den = r at *
  have hle : q ≤ m := by
    by_contra hlt
    have := Nat.mul_le_mul_left den (show m + 1 ≤ q by omega)
    rw [Nat.mul_add] at this
    omega
  have hge : m ≤ q + 1 := by
    by_contra hlt
    have := Nat.mul_le_mul_left den (show q + 2 ≤ m by omega)
    rw [Nat.mul_add] at this
    omega
  obtain rfl | rfl : m = q ∨ m = q + 1 := by omega
  · refine if_neg ?_
    rintro (hr | ⟨hr, hq⟩)
    · omega
    · have := htie hq
      omega
  · rw [Nat.mul_add] at hlow hhigh htie
    refine if_pos ?_
    by_cases hr : 2 * r > den
    · exact .inl hr
    · refine .inr ⟨by omega, ?_⟩
      by_contra hq
      have := htie (by omega)
      omega

lemma divRound_of_quotient {ratio : ℕ × ℕ} {m : ℕ} {y : ℚ} (hden : 0 < ratio.2) (hy : quotient ratio = y)
    (hlow : 2 * (m : ℚ) ≤ 2 * y + 1) (hhigh : 2 * y ≤ 2 * m + 1)
    (htie : m % 2 = 1 → 2 * (m : ℚ) < 2 * y + 1 ∧ 2 * y < 2 * m + 1) : divRound ratio.1 ratio.2 = m := by
  have hpos : (0 : ℚ) < ratio.2 := by exact_mod_cast hden
  have hnum : (ratio.1 : ℚ) = y * ratio.2 := by
    rw [← hy, quotient, div_mul_cancel₀ _ hpos.ne']
  have hle : ∀ {a b : ℚ}, a ≤ b → a * ratio.2 ≤ b * ratio.2 :=
    fun h => mul_le_mul_of_nonneg_right h hpos.le
  have hlt : ∀ {a b : ℚ}, a < b → a * ratio.2 < b * ratio.2 := fun h => mul_lt_mul_of_pos_right h hpos
  have hlow : (2 * (ratio.2 * m) : ℚ) ≤ 2 * ratio.1 + ratio.2 := by linarith [hle hlow]
  have hhigh : (2 * ratio.1 : ℚ) ≤ 2 * (ratio.2 * m) + ratio.2 := by linarith [hle hhigh]
  have htie : m % 2 = 1 → (2 * (ratio.2 * m) : ℚ) < 2 * ratio.1 + ratio.2 ∧
    (2 * ratio.1 : ℚ) < 2 * (ratio.2 * m) + ratio.2 :=
    fun hodd => ⟨by linarith [hlt (htie hodd).1], by linarith [hlt (htie hodd).2]⟩
  exact divRound_eq hden (by exact_mod_cast hlow) (by exact_mod_cast hhigh) (by exact_mod_cast htie)

lemma bounds_log2 {n : ℕ} (hn : 0 < n) : (2 : ℚ) ^ (n.log2 : ℤ) ≤ n ∧
    (n : ℚ) < 2 ^ ((n.log2 : ℤ) + 1) := by
  have hlow := Nat.log2_self_le hn.ne'
  have hhigh := Nat.lt_log2_self (n := n)
  rw [zpow_natCast, show ((n.log2 : ℤ) + 1) = ((n.log2 + 1 : ℕ) : ℤ) from rfl, zpow_natCast]
  exact ⟨by exact_mod_cast hlow, by exact_mod_cast hhigh⟩

lemma two_zpow_pos (e : ℤ) : (0 : ℚ) < 2 ^ e := zpow_pos (by norm_num) e

lemma two_zpow_add (e : ℤ) (n : ℕ) : (2 : ℚ) ^ (e + n) = 2 ^ e * 2 ^ n := by
  rw [zpow_add₀ (by norm_num), zpow_natCast]

lemma bounds_quotient {num den : ℕ} (hnum : 0 < num) (hden : 0 < den) :
    (2 : ℚ) ^ ((num.log2 : ℤ) - den.log2 - 1) < num / den ∧
      (num / den : ℚ) < 2 ^ ((num.log2 : ℤ) - den.log2 + 1) := by
  have hpos : (0 : ℚ) < den := by exact_mod_cast hden
  obtain ⟨hnlow, hnhigh⟩ := bounds_log2 hnum
  obtain ⟨hdlow, hdhigh⟩ := bounds_log2 hden
  rw [lt_div_iff₀ hpos, div_lt_iff₀ hpos]
  constructor
  · calc (2 : ℚ) ^ ((num.log2 : ℤ) - den.log2 - 1) * den
        < 2 ^ ((num.log2 : ℤ) - den.log2 - 1) * 2 ^ ((den.log2 : ℤ) + 1) :=
          mul_lt_mul_of_pos_left hdhigh (two_zpow_pos _)
      _ = 2 ^ (num.log2 : ℤ) := by rw [← zpow_add₀ (by norm_num)]; congr 1; ring
      _ ≤ num := hnlow
  · calc (num : ℚ) < 2 ^ ((num.log2 : ℤ) + 1) := hnhigh
      _ = 2 ^ ((num.log2 : ℤ) - den.log2 + 1) * 2 ^ (den.log2 : ℤ) := by
        rw [← zpow_add₀ (by norm_num)]; congr 1; ring
      _ ≤ 2 ^ ((num.log2 : ℤ) - den.log2 + 1) * den :=
        mul_le_mul_of_nonneg_left hdlow (two_zpow_pos _).le

lemma div_lt_iff_quotient {ratio : ℕ × ℕ} (hden : 0 < ratio.2) (n : ℕ) : ratio.1 / ratio.2 < n ↔
    quotient ratio < n := by
  have hpos : (0 : ℚ) < ratio.2 := by exact_mod_cast hden
  rw [Nat.div_lt_iff_lt_mul hden, quotient, div_lt_iff₀ hpos]
  exact_mod_cast Iff.rfl

lemma ratioExponent_spec {num den : ℕ} (hnum : 0 < num) (hden : 0 < den) :
    minExponent ≤ ratioExponent num den ∧ (num / den : ℚ) < 2 ^ 53 * 2 ^ ratioExponent num den ∧
      (2 ^ 52 * 2 ^ ratioExponent num den ≤ (num / den : ℚ) ∨ ratioExponent num den = minExponent) := by
  obtain ⟨hlow, hhigh⟩ := bounds_quotient hnum hden
  rw [ratioExponent]
  generalize hguess : (num.log2 : ℤ) - den.log2 - 52 = guess
  have hshift := div_lt_iff_quotient (den_shiftRatio_pos num hden guess) (Nat.pow 2 52)
  rw [quotient_shiftRatio, div_lt_iff₀ (two_zpow_pos _), Nat.pow_eq, Nat.cast_pow,
    Nat.cast_ofNat] at hshift
  generalize (num / den : ℚ) = x at *
  rw [show (num.log2 : ℤ) - den.log2 - 1 = guess + (51 : ℕ) by omega, two_zpow_add] at hlow
  rw [show (num.log2 : ℤ) - den.log2 + 1 = guess + (53 : ℕ) by omega, two_zpow_add] at hhigh
  -- the exponent that is tried is the right one or one too great
  have hexact : ∀ e : ℤ,
    (if (shiftRatio num den guess).1 / (shiftRatio num den guess).2 < Nat.pow 2 52 then guess - 1
      else guess) = e → x < 2 ^ 53 * 2 ^ e ∧ 2 ^ 52 * 2 ^ e ≤ x := by
    rintro e rfl
    split_ifs with h
    · have hx := hshift.mp h
      have hpred : (2 : ℚ) ^ guess = 2 ^ (guess - 1) * 2 ^ 1 := by rw [← two_zpow_add]; congr 1; omega
      rw [hpred] at hx hlow
      exact ⟨by linarith, by linarith⟩
    · have hx := not_lt.mp (mt hshift.mpr h)
      exact ⟨by linarith, hx⟩
  generalize (if (shiftRatio num den guess).1 / (shiftRatio num den guess).2 < Nat.pow 2 52
    then guess - 1 else guess) = e
    at hexact ⊢
  obtain ⟨hbelow, habove⟩ := hexact e rfl
  refine ⟨le_max_left _ _, ?_, ?_⟩
  · have hle : (2 : ℚ) ^ e ≤ 2 ^ max minExponent e :=
      zpow_le_zpow_right₀ (by norm_num) (le_max_right _ _)
    linarith
  · rcases le_total e minExponent with he | he
    · exact .inr (max_eq_left he)
    · exact .inl (by rwa [max_eq_right he])

structure IsCanonical (m : ℕ) (e : ℤ) : Prop where
  lt : m < 2 ^ 53
  min : minExponent ≤ e
  max : e ≤ maxExponent
  normal : 2 ^ 52 ≤ m ∨ e = minExponent

/-- How many quarters of the mantissa's unit lie between the double and the end of what rounds to it
from below. -/
def quarters (m : ℕ) (e : ℤ) : ℕ := if m = 2 ^ 52 ∧ minExponent < e then 1 else 2

structure RoundsTo (m : ℕ) (e : ℤ) (x : ℚ) : Prop where
  low : (4 * m - quarters m e : ℚ) * 2 ^ e ≤ 4 * x
  high : 4 * x ≤ (4 * m + 2) * 2 ^ e
  odd : m % 2 = 1 → (4 * m - quarters m e : ℚ) * 2 ^ e < 4 * x ∧ 4 * x < (4 * m + 2) * 2 ^ e

section
variable {m : ℕ} {e f : ℤ} {x : ℚ}

lemma exponent_unique (he : x < 2 ^ 53 * 2 ^ e) (he' : 2 ^ 52 * 2 ^ e ≤ x ∨ e = minExponent)
    (hemin : minExponent ≤ e) (hf : x < 2 ^ 53 * 2 ^ f) (hf' : 2 ^ 52 * 2 ^ f ≤ x ∨ f = minExponent)
    (hfmin : minExponent ≤ f) : f = e := by
  have hlt : ∀ {e f : ℤ}, e < f → x < 2 ^ 53 * 2 ^ e → x < 2 ^ 52 * 2 ^ f := by
    intro e f hef hx
    have hle : (2 : ℚ) ^ (e + (1 : ℕ)) ≤ 2 ^ f := zpow_le_zpow_right₀ (by norm_num) hef
    rw [two_zpow_add] at hle
    linarith
  rcases lt_trichotomy f e with h | h | h
  · rcases he' with he' | rfl
    · exact absurd he' (not_le.mpr (hlt h hf))
    · omega
  · exact h
  · rcases hf' with hf' | rfl
    · exact absurd hf' (not_le.mpr (hlt h he))
    · omega

lemma quarters_le (m : ℕ) (e : ℤ) : (quarters m e : ℚ) ≤ 2 := by
  rw [quarters]
  split_ifs <;> norm_num

lemma RoundsTo.pos (h : RoundsTo m e x) (hm : 0 < m) : 2 ^ e ≤ 2 * x := by
  have hm : (1 : ℚ) ≤ m := by exact_mod_cast hm
  have hq := quarters_le m e
  have hle : 2 * (2 : ℚ) ^ e ≤ (4 * m - quarters m e) * 2 ^ e :=
    mul_le_mul_of_nonneg_right (by linarith) (two_zpow_pos e).le
  linarith [h.low]

lemma RoundsTo.lt (h : RoundsTo m e x) (hc : IsCanonical m e) : x < 2 ^ 53 * 2 ^ e := by
  have hm : (m : ℚ) + 1 ≤ 2 ^ 53 := by exact_mod_cast hc.lt
  have hlt : (4 * m + 2 : ℚ) * 2 ^ e < 4 * 2 ^ 53 * 2 ^ e :=
    mul_lt_mul_of_pos_right (by linarith) (two_zpow_pos e)
  linarith [h.high]

lemma RoundsTo.eq_of_lt (h : RoundsTo m e x) (hc : IsCanonical m e) (hx : x < 2 ^ 52 * 2 ^ e)
    (he : e ≠ minExponent) :
    m = 2 ^ 52 ∧ (4 * 2 ^ 52 - 1) * 2 ^ e ≤ 4 * x := by
  have hnormal := hc.normal.resolve_right he
  have hm : m = 2 ^ 52 := by
    by_contra hne
    have hm : (2 ^ 52 + 1 : ℚ) ≤ m := by exact_mod_cast (by omega : 2 ^ 52 + 1 ≤ m)
    have hq := quarters_le m e
    have hle : 4 * 2 ^ 52 * (2 : ℚ) ^ e ≤ (4 * m - quarters m e) * 2 ^ e :=
      mul_le_mul_of_nonneg_right (by linarith) (two_zpow_pos e).le
    linarith [h.low]
  have hlow := h.low
  rw [quarters, if_pos ⟨hm, lt_of_le_of_ne hc.min (Ne.symm he)⟩, hm] at hlow
  exact ⟨hm, by exact_mod_cast hlow⟩

end

theorem ofRatio_eq (negative : Bool) {num den m : ℕ} {e : ℤ} (hden : 0 < den) (hm : 0 < m)
    (hc : IsCanonical m e) (h : RoundsTo m e (num / den)) :
    ofRatio negative num den = finite negative m e := by
  have hP := two_zpow_pos e
  have hnum : num ≠ 0 := by
    rintro rfl
    have := h.pos hm
    simp at this
    linarith
  obtain ⟨hmin, hhigh, hlow⟩ := ratioExponent_spec (Nat.pos_of_ne_zero hnum) hden
  have hquotient := quotient_shiftRatio num den
  have hdens := den_shiftRatio_pos num hden
  rw [ofRatio, if_neg hnum]
  dsimp only
  generalize ratioExponent num den = f at *
  generalize (num / den : ℚ) = x at *
  -- the fraction has the exponent of the double, or the one below it if it is just short of the double
  by_cases hx : 2 ^ 52 * 2 ^ e ≤ x ∨ e = minExponent
  · obtain rfl := exponent_unique (h.lt hc) hx hc.min hhigh hlow hmin
    have hround : divRound (shiftRatio num den f).1 (shiftRatio num den f).2 = m := by
      have hq := quarters_le m f
      obtain ⟨y, rfl⟩ : ∃ y, x = y * 2 ^ f := ⟨x / 2 ^ f, (div_mul_cancel₀ x hP.ne').symm⟩
      have hlow : 4 * m - quarters m f ≤ 4 * y := le_of_mul_le_mul_right (by linarith [h.low]) hP
      have hhigh : 4 * y ≤ 4 * m + 2 := le_of_mul_le_mul_right (by linarith [h.high]) hP
      refine divRound_of_quotient (hdens f) ((hquotient f).trans (mul_div_cancel_right₀ y hP.ne'))
        (by linarith) (by linarith)
        fun hodd => ?_
      have hlow : 4 * m - quarters m f < 4 * y :=
        lt_of_mul_lt_mul_right (by linarith [(h.odd hodd).1]) hP.le
      have hhigh : 4 * y < 4 * m + 2 := lt_of_mul_lt_mul_right (by linarith [(h.odd hodd).2]) hP.le
      exact ⟨by linarith, by linarith⟩
    have hne : m ≠ mantissaBound := Nat.ne_of_lt hc.lt
    rw [hround, if_neg hne]
    exact if_neg (not_lt.mpr hc.max)
  · obtain ⟨hx, he⟩ := not_or.mp hx
    have hx := not_le.mp hx
    obtain ⟨rfl, hnear⟩ := h.eq_of_lt hc hx he
    have hpred : (2 : ℚ) ^ e = 2 ^ (e - 1) * 2 ^ 1 := by rw [← two_zpow_add]; congr 1; omega
    rw [hpred] at hx hnear
    have hP := two_zpow_pos (e - 1)
    obtain rfl : f = e - 1 := exponent_unique (by linarith) (.inl (by linarith))
      (by have := hc.min; omega) hhigh hlow hmin
    have hround : divRound (shiftRatio num den (e - 1)).1 (shiftRatio num den (e - 1)).2 =
      mantissaBound := by
      obtain ⟨y, rfl⟩ : ∃ y, x = y * 2 ^ (e - 1) := ⟨x / 2 ^ (e - 1), (div_mul_cancel₀ x hP.ne').symm⟩
      have hlow : (4 * 2 ^ 53 - 2 : ℚ) ≤ 4 * y := le_of_mul_le_mul_right (by linarith) hP
      have hhigh : y < 2 ^ 53 := lt_of_mul_lt_mul_right hhigh hP.le
      have hcast : (mantissaBound : ℚ) = 2 ^ 53 := by rw [mantissaBound, Nat.pow_eq]; norm_num
      refine divRound_of_quotient (hdens (e - 1))
        ((hquotient _).trans (mul_div_cancel_right₀ y hP.ne')) ?_ ?_ fun hodd => ?_
      · rw [hcast]
        linarith
      · rw [hcast]
        linarith
      · exact absurd hodd (by decide)
    rw [hround, if_pos rfl, sub_add_cancel]
    exact if_neg (not_lt.mpr hc.max)

lemma two_le_ten {k : ℤ} (hk : 0 ≤ k) : (2 : ℚ) ^ (3 * k) ≤ 10 ^ k := by
  obtain ⟨n, rfl⟩ := Int.eq_ofNat_of_zero_le hk
  rw [zpow_mul, zpow_natCast, zpow_natCast]
  exact pow_le_pow_left₀ (by norm_num) (by norm_num) n

section
variable {digits m : ℕ} {k e : ℤ}

lemma RoundsTo.digits_ne_zero (h : RoundsTo m e (digits * 10 ^ k)) (hm : 0 < m) : digits ≠ 0 := by
  rintro rfl
  have := h.pos hm
  rw [Nat.cast_zero, zero_mul, mul_zero] at this
  exact absurd this (not_le.mpr (two_zpow_pos e))

lemma RoundsTo.magnitude_le (h : RoundsTo m e (digits * 10 ^ k)) (hm : 0 < m) (hc : IsCanonical m e)
    (hdigits : digits < 2 ^ 200) :
    k + (digits.log2 : ℤ) / 3 ≤ 400 := by
  by_contra hgt
  have hlog : digits.log2 < 200 := (Nat.log2_lt (h.digits_ne_zero hm)).mpr hdigits
  have hk : 0 ≤ k := by omega
  have hle : (2 : ℚ) ^ ((digits.log2 : ℤ) + 3 * k) ≤ digits * 10 ^ k := calc
    (2 : ℚ) ^ ((digits.log2 : ℤ) + 3 * k) = 2 ^ (digits.log2 : ℤ) * 2 ^ (3 * k) :=
      zpow_add₀ (by norm_num) _ _
    _ ≤ digits * 10 ^ k :=
      mul_le_mul (bounds_log2 (Nat.pos_of_ne_zero (h.digits_ne_zero hm))).1 (two_le_ten hk)
      (two_zpow_pos _).le (Nat.cast_nonneg _)
  have hlt : (digits * 10 ^ k : ℚ) < 2 ^ (e + (53 : ℕ)) := by
    rw [two_zpow_add, mul_comm (2 ^ e)]
    exact h.lt hc
  have hexponent := (zpow_lt_zpow_iff_right₀ (by norm_num)).mp (hle.trans_lt hlt)
  have hmax := hc.max
  rw [maxExponent] at hmax
  omega

lemma RoundsTo.le_magnitude (h : RoundsTo m e (digits * 10 ^ k)) (hm : 0 < m) (hc : IsCanonical m e) :
    -400 ≤ k + (digits.log2 : ℤ) := by
  by_contra hlt
  have hk : 0 ≤ -k := by omega
  have hdigits := (bounds_log2 (Nat.pos_of_ne_zero (h.digits_ne_zero hm))).2
  have hle : (2 : ℚ) ^ (e + 3 * -k) ≤ 2 * digits := calc
    (2 : ℚ) ^ (e + 3 * -k) = 2 ^ e * 2 ^ (3 * -k) := zpow_add₀ (by norm_num) _ _
    _ ≤ 2 * (digits * 10 ^ k) * 10 ^ (-k) := mul_le_mul (h.pos hm) (two_le_ten hk) (two_zpow_pos _).le
      (by positivity)
    _ = 2 * digits := by
      rw [mul_assoc, mul_assoc, ← zpow_add₀ (by norm_num), add_neg_cancel, zpow_zero, mul_one]
  have hlt : (2 * digits : ℚ) < 2 ^ ((digits.log2 : ℤ) + 1 + (1 : ℕ)) := by
    rw [two_zpow_add]
    linarith
  have hexponent := (zpow_lt_zpow_iff_right₀ (by norm_num)).mp (hle.trans_lt hlt)
  have hmin := hc.min
  rw [minExponent] at hmin
  omega

theorem ofDecimal_eq (negative : Bool) (hm : 0 < m) (hc : IsCanonical m e) (hdigits : digits < 2 ^ 200)
    (h : RoundsTo m e (digits * 10 ^ k)) : ofDecimal negative digits k = finite negative m e := by
  rw [ofDecimal, if_neg (h.digits_ne_zero hm), if_neg (not_lt.mpr (h.magnitude_le hm hc hdigits)),
    if_neg (not_lt.mpr (h.le_magnitude hm hc))]
  split_ifs with hk
  · obtain ⟨n, rfl⟩ := Int.eq_ofNat_of_zero_le hk
    refine ofRatio_eq negative Nat.one_pos hm hc ?_
    simpa using h
  · obtain ⟨n, hn⟩ := Int.eq_ofNat_of_zero_le (show 0 ≤ -k by omega)
    obtain rfl : k = -n := by omega
    refine ofRatio_eq negative (Nat.pow_pos (by decide)) hm hc ?_
    simpa [div_eq_mul_inv] using h

end

end Double

end Compliance.Number
