import Compliance.Proofs.Number.Comparison
import Compliance.Proofs.Text.Bytes

/-! An operator and its inverse differ exactly where the operands compare, and for equality
everywhere. -/

namespace Compliance.Rule.Operator

open Number (Double)

variable {α : Type} {compare? : α → α → Option Ordering} {l r : α}

lemma holds_ne_invert_iff (compare? : α → α → Option Ordering) (op : Operator) (l r : α) :
    op.holds compare? l r ≠ op.invert.holds compare? l r ↔
      (compare? l r).isSome ∨ op = equal ∨ op = notEqual := by
  cases h : compare? l r with
  | some order => simp [holds_invert_of_comparable h]
  | none =>
    rw [holds_of_incomparable h, holds_of_incomparable h]
    cases op <;> decide

lemma not_holds_of_holds_eq_invert {op : Operator}
    (h : op.holds compare? l r = op.invert.holds compare? l r) :
    op.holds compare? l r = false ∧ op.invert.holds compare? l r = false := by
  rw [← h, and_self]
  cases horder : compare? l r with
  | some order => simp [holds_invert_of_comparable horder] at h
  | none =>
    rw [holds_of_incomparable horder, holds_of_incomparable horder] at h
    rw [holds_of_incomparable horder]
    cases op with
    | notEqual => simp [invert] at h
    | _ => rfl

lemma neither_holds_iff (compare? : α → α → Option Ordering) (op : Operator) (l r : α) :
    op.holds compare? l r = false ∧ op.invert.holds compare? l r = false ↔
      compare? l r = none ∧ op ≠ equal ∧ op ≠ notEqual := by
  rw [← Option.not_isSome_iff_eq_none, ← not_or, ← not_or, ← holds_ne_invert_iff, not_not]
  exact ⟨fun h => h.1.trans h.2.symm, not_holds_of_holds_eq_invert⟩

theorem invert_complements (op : Operator) :
    (∀ {α : Type} (compare? : α → α → Option Ordering) (l r : α),
      (op.holds compare? l r ≠ op.invert.holds compare? l r ↔
        (compare? l r).isSome ∨ op = equal ∨ op = notEqual) ∧
      (op.holds compare? l r = op.invert.holds compare? l r →
        op.holds compare? l r = false ∧ op.invert.holds compare? l r = false)) ∧
    (∀ l r : ℤ, (op.holds (fun a b => some (compare a b)) l r ↔ op.Relates l r) ∧
      (op.invert.holds (fun a b => some (compare a b)) l r ↔ ¬ op.Relates l r)) ∧
    (∀ l r : String, (op.holds (fun a b => some (compare a b)) l r ↔
      op.Relates (Text.bytes l) (Text.bytes r)) ∧
      (op.invert.holds (fun a b => some (compare a b)) l r ↔
        ¬ op.Relates (Text.bytes l) (Text.bytes r))) ∧
    (∀ x y : Double, (op.holds Double.compare? x y = false ∧
      op.invert.holds Double.compare? x y = false ↔
        (x.isNaN ∨ y.isNaN) ∧ op ≠ equal ∧ op ≠ notEqual) ∧
      ∀ v w, x.extended? = some v → y.extended? = some w →
        (op.holds Double.compare? x y ↔ op.Relates v w) ∧
          (op.invert.holds Double.compare? x y ↔ ¬ op.Relates v w)) := by
  have htotal : ∀ {α β : Type} [LinearOrder β] {compare? : α → α → Option Ordering} {l r : α} {a b : β},
      compare? l r = some (compare a b) →
        (op.holds compare? l r ↔ op.Relates a b) ∧
          (op.invert.holds compare? l r ↔ ¬ op.Relates a b) := by
    intro α β _ compare? l r a b h
    refine ⟨holds_iff_relates h op, ?_⟩
    rw [holds_invert_of_comparable h, Bool.not_eq_true', ← holds_iff_relates h op, Bool.not_eq_true]
  refine ⟨fun compare? l r => ⟨holds_ne_invert_iff compare? op l r, not_holds_of_holds_eq_invert⟩,
    fun l r => htotal rfl, fun l r => ?_, fun x y =>
      ⟨?_, fun v w hv hw => htotal (Double.compare?_of_extended? hv hw)⟩⟩
  · rw [relates_of_strictMono Text.strictMono_bytes]
    exact htotal rfl
  · rw [neither_holds_iff, Double.compare?_eq_none_iff]
    cases x <;> cases y <;> simp [Double.isNaN]

theorem invert_complements_nan :
    (less.holds Double.compare? .nan .zero = less.invert.holds Double.compare? .nan .zero ∧
      less.holds Double.compare? .nan .zero = false ∧
        less.invert.holds Double.compare? .nan .zero = false) ∧
    (Double.extended? .zero = some 0 ∧ Double.extended? (.infinite false) = some ⊤ ∧
      less.holds Double.compare? .zero (.infinite false)) := by
  have hzero : Double.extended? .zero = some 0 := by simp [Double.zero, Double.extended?]
  obtain ⟨hgeneral, -, -, hdouble⟩ := invert_complements less
  refine ⟨⟨rfl, (hgeneral Double.compare? .nan .zero).2 rfl⟩, hzero, rfl, ?_⟩
  exact ((hdouble .zero (.infinite false)).2 0 ⊤ hzero rfl).1.mpr
    (WithBot.coe_lt_coe.mpr (WithTop.coe_lt_top 0))

end Compliance.Rule.Operator
