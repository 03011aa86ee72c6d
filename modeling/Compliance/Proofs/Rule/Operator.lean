import Compliance.Rule.Operator
import Mathlib.Order.Compare
import Mathlib.Order.Lattice
import Mathlib.Order.Monotone.Basic
import Mathlib.Tactic.Lemma

/-! What the operators say of two values of an order. -/

namespace Compliance.Rule.Operator

variable {α β : Type} {compare? : α → α → Option Ordering} {l r : α}

def Relates [LinearOrder β] : Operator → β → β → Prop
  | greater, a, b => b < a
  | greaterOrEqual, a, b => b ≤ a
  | less, a, b => a < b
  | lessOrEqual, a, b => a ≤ b
  | equal, a, b => a = b
  | notEqual, a, b => a ≠ b

lemma relates_of_strictMono {γ : Type} [LinearOrder β] [LinearOrder γ] {f : β → γ}
    (hf : StrictMono f) (op : Operator) (a b : β) : op.Relates (f a) (f b) ↔ op.Relates a b := by
  cases op with
  | greater | less => exact hf.lt_iff_lt
  | greaterOrEqual | lessOrEqual => exact hf.le_iff_le
  | equal => exact hf.injective.eq_iff
  | notEqual => exact not_congr hf.injective.eq_iff

lemma holds_iff_relates [LinearOrder β] {a b : β} (h : compare? l r = some (compare a b))
    (op : Operator) :
    op.holds compare? l r ↔ op.Relates a b := by
  rw [holds, h]
  cases op with
  | greater => simp [holdsOf, Relates, compare_gt_iff_gt]
  | greaterOrEqual => simp [holdsOf, Relates, compare_gt_iff_gt, le_iff_lt_or_eq, eq_comm (a := b)]
  | less => simp [holdsOf, Relates, compare_lt_iff_lt]
  | lessOrEqual => simp [holdsOf, Relates, compare_lt_iff_lt, le_iff_lt_or_eq]
  | equal | notEqual => simp [holdsOf, Relates]

lemma holds_invert_of_comparable {order : Ordering} (h : compare? l r = some order) (op : Operator) :
    op.invert.holds compare? l r = !op.holds compare? l r := by
  rw [holds, holds, h]
  exact op.holdsOf_invert_of_comparable order

lemma holds_of_incomparable (h : compare? l r = none) (op : Operator) :
    op.holds compare? l r = decide (op = notEqual) := by
  rw [holds, h]
  exact op.holdsOf_incomparable

end Compliance.Rule.Operator
