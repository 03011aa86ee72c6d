import Compliance.Proofs.Number.Shortest
import Compliance.Proofs.Number.Spelling

/-! The doubles of 64 bits: whole numbers round to them, and the text of one in a report reads back
as it. -/

namespace Compliance.Number

def Double.isProper : Double → Bool
  | finite _ m e =>
    m < mantissaBound && minExponent ≤ e && e ≤ maxExponent && (Nat.pow 2 52 ≤ m || e = minExponent)
  | _ => false

variable {negative : Bool} {m : ℕ} {e : ℤ} {x : Double} {s : Spelling} {d : Decimal}

lemma Double.isCanonical_of_isProper (h : (finite negative m e).isProper) : IsCanonical m e := by
  simp only [isProper, Bool.and_eq_true, Bool.or_eq_true, decide_eq_true_eq] at h
  obtain ⟨⟨⟨hlt, hmin⟩, hmax⟩, hnormal⟩ := h
  exact ⟨hlt, hmin, hmax, hnormal⟩

namespace Double

lemma isFinite_of_isProper (h : x.isProper) : x.isFinite := by
  cases x with
  | finite => rfl
  | nan | infinite => cases h

lemma isProper_of_isCanonical (h : IsCanonical m e) : (finite negative m e).isProper := by
  have hlt : m < mantissaBound := h.lt
  have hnormal : Nat.pow 2 52 ≤ m ∨ e = minExponent := h.normal
  simp only [isProper, Bool.and_eq_true, Bool.or_eq_true, decide_eq_true_eq]
  exact ⟨⟨⟨hlt, h.min⟩, h.max⟩, hnormal⟩

lemma divRound_bounds (num den : ℕ) : num / den ≤ divRound num den ∧
    divRound num den ≤ num / den + 1 := by
  rw [divRound]
  split_ifs <;> omega

lemma isProper_ofRatio (negative : Bool) {num den : ℕ} (hden : 0 < den)
    (hmax : ratioExponent num den < maxExponent) :
    (ofRatio negative num den).isProper := by
  rcases Nat.eq_zero_or_pos num with rfl | hnum
  · rw [ofRatio, if_pos rfl]
    rfl
  obtain ⟨hmin, hhigh, hlow⟩ := ratioExponent_spec hnum hden
  rw [ofRatio, if_neg hnum.ne']
  dsimp only
  generalize ratioExponent num den = e at *
  obtain ⟨hge, hle⟩ := divRound_bounds (shiftRatio num den e).1 (shiftRatio num den e).2
  have hbelow (n : ℕ) : (shiftRatio num den e).1 / (shiftRatio num den e).2 < n ↔
    (num / den : ℚ) < n * 2 ^ e := by
    rw [div_lt_iff_quotient (den_shiftRatio_pos num hden e), quotient_shiftRatio,
      div_lt_iff₀ (two_zpow_pos e)]
  generalize divRound (shiftRatio num den e).1 (shiftRatio num den e).2 = m at *
  have hm : m ≤ 2 ^ 53 := by
    have hlt := (hbelow (2 ^ 53)).mpr (by exact_mod_cast hhigh)
    omega
  have hnormal : 2 ^ 52 ≤ m ∨ e = minExponent := by
    refine hlow.imp_left fun hlow => ?_
    have hnlt := mt (hbelow (2 ^ 52)).mp (by rw [not_lt]; exact_mod_cast hlow)
    omega
  -- a mantissa that rounds up to 54 bits gives the next power of two
  by_cases hcarry : m = mantissaBound
  · rw [if_pos hcarry, if_neg (by dsimp only; omega)]
    have hcanonical : IsCanonical (2 ^ 52) (e + 1) := ⟨by decide, by omega, by omega, .inl le_rfl⟩
    exact isProper_of_isCanonical hcanonical
  · rw [if_neg hcarry, if_neg (by dsimp only; omega)]
    exact isProper_of_isCanonical ⟨lt_of_le_of_ne hm hcarry, hmin, hmax.le, hnormal⟩

lemma isProper_ofInt {n : ℤ} (h : n.natAbs ≤ maxNat64) : (ofInt n).isProper := by
  refine isProper_ofRatio _ Nat.one_pos ?_
  rcases Nat.eq_zero_or_pos n.natAbs with hzero | hpos
  · rw [hzero]
    decide
  obtain ⟨_, _, hlow | hlow⟩ := ratioExponent_spec hpos Nat.one_pos
  · by_contra hge
    have hn : (n.natAbs : ℚ) < 2 ^ 64 := by exact_mod_cast Nat.lt_succ_of_le h
    have hexponent : (2 : ℚ) ^ (12 : ℤ) ≤ 2 ^ ratioExponent n.natAbs 1 := by
      refine zpow_le_zpow_right₀ (by norm_num) ?_
      rw [maxExponent] at hge
      omega
    rw [Nat.cast_one, div_one] at hlow
    norm_num at hexponent
    linarith
  · rw [hlow]
    decide

end Double

lemma Spelling.Spells.value_eq (h : s.Spells d) : (s.digits * 10 ^ s.unit : ℚ) = d.value := by
  obtain ⟨zeros, _, hdigits, hunit⟩ := h.value
  rw [hdigits, hunit, Nat.cast_mul, Nat.pow_eq, Nat.cast_pow, Nat.cast_ofNat, Decimal.value,
    ← zpow_natCast, mul_assoc, ← zpow_add₀ (by norm_num), add_sub_cancel]

lemma Spelling.Spells.digits_lt (h : s.Spells d) (hd : d.digits ≤ 10 ^ 21) : s.digits < 2 ^ 200 := by
  obtain ⟨zeros, hzeros, hdigits, _⟩ := h.value
  calc s.digits = d.digits * Nat.pow 10 zeros := hdigits
    _ ≤ 10 ^ 21 * 10 ^ 16 := Nat.mul_le_mul hd (Nat.pow_le_pow_right (by decide) hzeros)
    _ < 2 ^ 200 := by decide

namespace Decimal

lemma exponent_shortest (hc : Double.IsCanonical m e) (h : (shortest m e).digits = 0) :
    (shortest m e).exponent = 0 := by
  rcases Nat.eq_zero_or_pos m with rfl | hm
  · rfl
  · have hpos := (shortest_spec hm hc).1.pos hm
    rw [value, h, Nat.cast_zero, zero_mul, mul_zero] at hpos
    exact absurd hpos (not_le.mpr (Double.two_zpow_pos e))

lemma ofDecimal_shortest (hc : Double.IsCanonical m e) (hs : s.Spells (shortest m e)) :
    Double.ofDecimal negative s.digits s.unit = .finite negative m e := by
  rcases Nat.eq_zero_or_pos m with rfl | hm
  · obtain rfl : e = Double.minExponent := hc.normal.resolve_left (by decide)
    obtain ⟨zeros, _, hdigits, _⟩ := hs.value
    rw [Double.ofDecimal, if_pos (hdigits.trans (Nat.zero_mul _))]
  · obtain ⟨hrounds, hdigits⟩ := shortest_spec hm hc
    rw [← hs.value_eq] at hrounds
    exact Double.ofDecimal_eq negative hm hc (hs.digits_lt hdigits) hrounds

end Decimal

theorem exists_spelling (h : x.isProper) : ∃ s : Spelling, s.Valid ∧
    (s.fraction ≠ [] ∨ s.exponent.isSome) ∧
    (Notation.report.write x).toList = (if x.isNegative then ['-'] else []) ++ s.chars ∧
    double? (Notation.report.write x).toList = some x := by
  cases x with
  | nan | infinite => cases h
  | finite negative m e =>
    have hc := Double.isCanonical_of_isProper h
    obtain ⟨s, hs, hmagnitude⟩ := exists_spells (Decimal.exponent_shortest hc)
    have htext : (Notation.report.write (.finite negative m e)).toList =
      (if negative then ['-'] else []) ++ s.chars := by
      rw [Notation.write, hmagnitude, String.toList_ofList]
    exact ⟨s, hs.valid, hs.notWhole,
      htext, by rw [htext, hs.valid.double?, Decimal.ofDecimal_shortest hc hs]⟩

end Compliance.Number
