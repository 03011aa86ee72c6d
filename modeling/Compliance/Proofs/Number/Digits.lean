import Mathlib.Data.Int.Notation
import Mathlib.Data.List.Basic
import Mathlib.Tactic.IntervalCases
import Mathlib.Tactic.Lemma
import Compliance.Number.Reading

/-! Whole numbers in decimal digits read back as they are. -/

namespace Compliance.Number

lemma isDigit_eq (c : Char) : isDigit c = c.isDigit := rfl

lemma isDigit_toDigits {n : ℕ} {c : Char} (hc : c ∈ Nat.toDigits 10 n) : isDigit c := by
  rw [isDigit_eq]
  exact Nat.isDigit_of_mem_toDigits (by decide) (by decide) hc

lemma ne_of_isDigit {c d : Char} (hc : isDigit c) (hd : isDigit d = false) : c ≠ d := by
  rintro rfl
  exact absurd hc (Bool.not_eq_true _ ▸ hd)

lemma exists_of_isDigit {c : Char} (hc : isDigit c) : ∃ n < 10, c = Char.ofNat (48 + n) := by
  obtain ⟨hlow, hhigh⟩ := Bool.and_eq_true_iff.mp hc
  have hlow : 48 ≤ c.toNat := of_decide_eq_true hlow
  have hhigh : c.toNat ≤ 57 := of_decide_eq_true hhigh
  exact ⟨c.toNat - 48, by omega, by rw [Nat.add_sub_cancel' hlow, Char.ofNat_toNat]⟩

lemma exists_toDigits (n : ℕ) : ∃ c digits, Nat.toDigits 10 n = c :: digits ∧ isDigit c := by
  obtain ⟨c, digits, h⟩ := List.exists_cons_of_ne_nil (Nat.toDigits_ne_nil (n := n) (b := 10))
  exact ⟨c, digits, h, isDigit_toDigits (h ▸ List.mem_cons_self ..)⟩

lemma head?_toDigits {n : ℕ} (hn : n ≠ 0) : (Nat.toDigits 10 n).head? ≠ some '0' := by
  induction n using Nat.strongRecOn with
  | ind n ih =>
    rw [Nat.toDigits_eq_if (by decide)]
    split_ifs with hlt
    · rw [List.head?_singleton]
      intro h
      exact hn (Nat.digitChar_eq_zero.mp (Option.some.inj h))
    · have hpos : 0 < n / 10 := Nat.div_pos (Nat.le_of_not_lt hlt) (by decide)
      rw [List.head?_append_of_ne_nil _ Nat.toDigits_ne_nil]
      exact ih (n / 10) (Nat.div_lt_self (Nat.pos_of_ne_zero hn) (by decide)) (Nat.ne_of_gt hpos)

lemma digitsValue_eq (digits : List Char) : digitsValue digits = Nat.ofDigitChars 10 digits 0 := rfl

lemma digitsValue_append (digits more : List Char) :
    digitsValue (digits ++ more) = digitsValue digits * Nat.pow 10 more.length + digitsValue more := by
  rw [digitsValue_eq, digitsValue_eq, digitsValue_eq, Nat.ofDigitChars_append,
    Nat.ofDigitChars_eq_ofDigitChars_zero, Nat.mul_comm]
  rfl

lemma digitsValue_toDigits (n : ℕ) : digitsValue (Nat.toDigits 10 n) = n := by
  rw [digitsValue_eq, Nat.ofDigitChars_ten_toDigits]

lemma digitsValue_zeros (n : ℕ) : digitsValue (List.replicate n '0') = 0 := by
  rw [digitsValue_eq, Nat.ofDigitChars_replicate_zero, Nat.mul_zero]

lemma isDigit_zeros {n : ℕ} {c : Char} (hc : c ∈ List.replicate n '0') : isDigit c := by
  rw [List.eq_of_mem_replicate hc]
  rfl

lemma natOfDigits?_toDigits (n : ℕ) : natOfDigits? (Nat.toDigits 10 n) = some n := by
  rw [natOfDigits?, if_pos ⟨Nat.toDigits_ne_nil, List.all_eq_true.mpr fun c hc =>
    isDigit_toDigits hc⟩, digitsValue_toDigits]

lemma nat64?_toDigits {n : ℕ} (h : n ≤ maxNat64) : nat64? (Nat.toDigits 10 n) = some n := by
  obtain ⟨c, digits, hdigits, hc⟩ := exists_toDigits n
  have hplus := ne_of_isDigit hc (d := '+') rfl
  have hvalue := natOfDigits?_toDigits n
  rw [hdigits] at hvalue ⊢
  simp [nat64?, hplus, hvalue, h]

lemma int64?_neg_toDigits {n : ℕ} (h : minInt64 ≤ -(n : ℤ)) : int64? ('-' :: Nat.toDigits 10 n) =
    some (-(n : ℤ)) := by
  have hmax : -(n : ℤ) ≤ maxInt64 := by
    have : (0 : ℤ) ≤ maxInt64 := by decide
    omega
  simp [int64?, natOfDigits?_toDigits, h, hmax]

lemma exponent?_toDigits (e : ℤ) :
    exponent? ((if e < 0 then '-' else '+') :: Nat.toDigits 10 e.natAbs) = some e := by
  split_ifs with h
  · have hvalue : -(e.natAbs : ℤ) = e := by omega
    simp only [exponent?, natOfDigits?_toDigits]
    exact congrArg some hvalue
  · simp only [exponent?, natOfDigits?_toDigits]
    exact congrArg some (Int.natAbs_of_nonneg (Int.not_lt.mp h))

inductive Denotes : List Char → ℤ → Prop
  | plain {digits : List Char} {n : ℕ} : natOfDigits? digits = some n → Denotes digits n
  | plus {digits : List Char} {n : ℕ} : natOfDigits? digits = some n → Denotes ('+' :: digits) n
  | minus {digits : List Char} {n : ℕ} : natOfDigits? digits = some n → Denotes ('-' :: digits) (-n)

lemma natOfDigits?_eq_some_iff {digits : List Char} {n : ℕ} :
    natOfDigits? digits = some n ↔ digits ≠ [] ∧ (∀ c ∈ digits, isDigit c) ∧ digitsValue digits = n := by
  rw [natOfDigits?, Option.ite_none_right_eq_some, Option.some.injEq, List.all_eq_true, and_assoc]

lemma int64?_eq_some_iff {text : List Char} {n : ℤ} : int64? text = some n ↔
    Denotes text n ∧ minInt64 ≤ n ∧ n ≤ maxInt64 := by
  unfold int64?
  rw [Option.filter_eq_some_iff, decide_eq_true_eq]
  refine and_congr_left fun _ => ⟨fun h => ?_, fun h => ?_⟩
  · split at h
    all_goals obtain ⟨_, hm, rfl⟩ := Option.map_eq_some_iff.mp h
    · obtain ⟨_, hdigits, heq⟩ := Option.bind_eq_some_iff.mp hm
      cases heq
      exact .minus hdigits
    · exact .plus hm
    · exact .plain hm
  · cases h with
    | plus hm => exact Option.map_eq_some_iff.mpr ⟨_, hm, rfl⟩
    | minus hm => exact Option.map_eq_some_iff.mpr ⟨_, Option.bind_eq_some_iff.mpr ⟨_, hm, rfl⟩, rfl⟩
    | plain hm =>
      obtain ⟨hne, hdigits, _⟩ := natOfDigits?_eq_some_iff.mp hm
      obtain ⟨c, digits, rfl⟩ := List.exists_cons_of_ne_nil hne
      have hc := hdigits c (List.mem_cons_self ..)
      have hminus := ne_of_isDigit hc (d := '-') rfl
      have hplus := ne_of_isDigit hc (d := '+') rfl
      simp [hminus, hplus, hm]

lemma nat64?_eq_some_iff {text : List Char} {n : ℕ} : nat64? text = some n ↔
    ∃ sign digits, text = sign ++ digits ∧ (sign = [] ∨ sign = ['+']) ∧
      natOfDigits? digits = some n ∧ n ≤ maxNat64 := by
  unfold nat64?
  rw [Option.filter_eq_some_iff, decide_eq_true_eq]
  constructor
  · rintro ⟨h, hmax⟩
    split at h
    · exact ⟨['+'], _, rfl, .inr rfl, h, hmax⟩
    · exact ⟨[], _, rfl, .inl rfl, h, hmax⟩
  · rintro ⟨sign, digits, rfl, rfl | rfl, hn, hmax⟩
    · obtain ⟨hne, hdigits, _⟩ := natOfDigits?_eq_some_iff.mp hn
      obtain ⟨c, digits, rfl⟩ := List.exists_cons_of_ne_nil hne
      have hplus := ne_of_isDigit (hdigits c (List.mem_cons_self ..)) (d := '+') rfl
      simp [hplus, hn, hmax]
    · exact ⟨hn, hmax⟩

end Compliance.Number
