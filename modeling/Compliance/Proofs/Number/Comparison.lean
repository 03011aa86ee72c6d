import Compliance.Proofs.Number.Whole
import Compliance.Proofs.Rule.Operator
import Mathlib.Order.WithBot

/-! Doubles compare as the rational numbers that they stand for, with an infinity at either end. -/

namespace Compliance.Number.Double

variable {x y : Double} {v w : ℚ}

lemma scaled_mul (negative : Bool) (m : ℕ) {e f : ℤ} (h : f ≤ e) :
    (scaled negative m e f : ℚ) * 2 ^ f = (if negative then -1 else 1) * m * 2 ^ e := by
  obtain ⟨n, hn⟩ := Int.eq_ofNat_of_zero_le (show 0 ≤ e - f by omega)
  obtain rfl : e = f + n := by omega
  have hpower : (f + n - f).toNat = n := by omega
  rw [two_zpow_add, scaled, hpower]
  cases negative <;> simp <;> ring

lemma compare_of_strictMono {α β : Type} [LinearOrder α] [LinearOrder β] {f : α → β}
    (hf : StrictMono f) (a b : α) :
    compare (f a) (f b) = compare a b := by
  rw [← cmp_eq_compare, ← cmp_eq_compare, hf.cmp_map_eq]

lemma compare?_of_value? (hx : x.value? = some v) (hy : y.value? = some w) :
    compare? x y = some (compare v w) := by
  cases x with
  | finite negative m e =>
    cases y with
    | finite other n f =>
      obtain rfl := Option.some.inj hx
      obtain rfl := Option.some.inj hy
      -- both are whole numbers of units of the lesser power
      have hmono : StrictMono fun k : ℤ => (k : ℚ) * 2 ^ min e f :=
        Int.cast_strictMono.mul_const (two_zpow_pos _)
      rw [← scaled_mul negative m (min_le_left e f), ← scaled_mul other n (min_le_right e f),
        compare_of_strictMono hmono]
      rfl
    | nan => cases hy
    | infinite other => cases hy
  | nan => cases hx
  | infinite negative => cases hx

def extended? : Double → Option (WithBot (WithTop ℚ))
  | nan => none
  | infinite negative => some (if negative then ⊥ else ⊤)
  | finite negative m e => some (((if negative then -1 else 1) * m * 2 ^ e : ℚ) : WithTop ℚ)

lemma compare?_of_extended? {v w : WithBot (WithTop ℚ)} (hx : x.extended? = some v)
    (hy : y.extended? = some w) :
    compare? x y = some (compare v w) := by
  have hmono : StrictMono fun v : ℚ => ((v : WithTop ℚ) : WithBot (WithTop ℚ)) :=
    WithBot.coe_strictMono.comp WithTop.coe_strictMono
  cases x with
  | nan => cases hx
  | infinite negative =>
    obtain rfl := Option.some.inj hx
    cases y with
    | nan => cases hy
    | infinite other =>
      obtain rfl := Option.some.inj hy
      cases negative <;> cases other <;> rfl
    | finite other n f =>
      obtain rfl := Option.some.inj hy
      cases negative <;> rfl
  | finite negative m e =>
    obtain rfl := Option.some.inj hx
    cases y with
    | nan => cases hy
    | infinite other =>
      obtain rfl := Option.some.inj hy
      cases other <;> rfl
    | finite other n f =>
      obtain rfl := Option.some.inj hy
      exact (compare?_of_value? rfl rfl).trans (congrArg some (compare_of_strictMono hmono _ _).symm)

lemma value?_ofInt_one : (ofInt 1).value? = some 1 := by
  have hone : ofInt 1 = finite false (2 ^ 52) (-52) := by decide +kernel
  rw [hone, value?]
  norm_num

end Compliance.Number.Double
