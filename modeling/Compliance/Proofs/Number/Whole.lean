import Compliance.Proofs.Number.RoundTrip

/-! Whole numbers as doubles. Beyond the signed words, up to 64 bits, the doubles are the multiples
of 2048, and a number goes to the nearest of them. -/

namespace Compliance.Number

namespace Double

def value? : Double → Option ℚ
  | finite negative m e => some ((if negative then -1 else 1) * m * 2 ^ e)
  | _ => none

lemma divRound_spec (num : ℕ) {den : ℕ} (hden : 0 < den) :
    2 * (den * divRound num den) ≤ 2 * num + den ∧ 2 * num ≤ 2 * (den * divRound num den) + den := by
  have hsplit := Nat.div_add_mod num den
  have hmod := Nat.mod_lt num hden
  rw [divRound]
  split_ifs with hup
  · rw [Nat.mul_add]
    omega
  · omega

lemma mul_divRound_eq_iff {num den : ℕ} (hden : 0 < den) : den * divRound num den = num ↔ den ∣ num := by
  constructor
  · intro h
    exact ⟨divRound num den, h.symm⟩
  · rintro ⟨q, rfl⟩
    rw [divRound_eq hden (m := q)] <;> intros <;> omega

section
variable {n : ℕ}

lemma ratioExponent_long (hlow : 2 ^ 63 ≤ n) (hhigh : n < 2 ^ 64) : ratioExponent n 1 = 11 := by
  have hlog : n.log2 = 63 := (Nat.log2_eq_iff (by omega)).mpr ⟨hlow, hhigh⟩
  have hone : Nat.log2 1 = 0 := by decide
  have hshift : shiftRatio n 1 11 = (n, 2048) := rfl
  have hnormal : ¬ n / 2048 < Nat.pow 2 52 := by
    rw [Nat.pow_eq]
    omega
  rw [ratioExponent, hlog, hone, show ((63 : ℕ) : ℤ) - (0 : ℕ) - 52 = 11 by rfl, hshift, if_neg hnormal]
  rfl

lemma ofInt_long (hlow : 2 ^ 63 ≤ n) (hhigh : n < 2 ^ 64) :
    ofInt n = if divRound n 2048 = 2 ^ 53 then finite false (2 ^ 52) 12
      else finite false (divRound n 2048) 11 := by
  have hshift : shiftRatio n 1 11 = (n, 2048) := rfl
  have hsign : decide ((n : ℤ) < 0) = false := by simp
  rw [ofInt, ofRatio, Int.natAbs_natCast, if_neg (by omega), ratioExponent_long hlow hhigh]
  dsimp only
  rw [hshift, hsign]
  by_cases hcarry : divRound n 2048 = 2 ^ 53
  · rw [if_pos hcarry, if_pos (show divRound n 2048 = mantissaBound from hcarry)]
    rfl
  · rw [if_neg hcarry, if_neg (show divRound n 2048 ≠ mantissaBound from hcarry)]
    rfl

lemma value?_ofInt_long (hlow : 2 ^ 63 ≤ n) (hhigh : n < 2 ^ 64) :
    (ofInt n).value? = some ((2048 * divRound n 2048 : ℕ) : ℚ) := by
  rw [ofInt_long hlow hhigh]
  split_ifs with hcarry
  · rw [hcarry]
    norm_num [value?]
  · rw [value?, Option.some_inj]
    norm_num
    ring

lemma ofInt_long_inj {m : ℕ} (hlow : 2 ^ 63 ≤ n) (hhigh : n < 2 ^ 64) (hlow' : 2 ^ 63 ≤ m)
    (hhigh' : m < 2 ^ 64) :
    ofInt n = ofInt m ↔ divRound n 2048 = divRound m 2048 := by
  constructor
  · intro h
    have hvalue := congrArg value? h
    rw [value?_ofInt_long hlow hhigh, value?_ofInt_long hlow' hhigh', Option.some_inj,
      Nat.cast_inj] at hvalue
    omega
  · intro h
    rw [ofInt_long hlow hhigh, ofInt_long hlow' hhigh', h]

end

end Double

end Compliance.Number
