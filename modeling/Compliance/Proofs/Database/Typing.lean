import Compliance.Proofs.Result
import Compliance.Database.Select

/-! The types of the values in a relation, and what they promise about comparisons. -/

namespace Compliance.Database

open Result

namespace Value

def Fits (type : ColumnType) : Value → Prop
  | null => True
  | integer _ => type = .integer ∨ type = .bigint
  | real _ => type = .double
  | boolean _ => type = .boolean
  | text _ => type = .text
  | date _ => type = .date
  | timestamp _ => type = .timestamp

lemma fits_ofLiteral (literal : Rule.Literal) :
    (ofLiteral literal).1.Fits (ofLiteral literal).2 ∧ (ofLiteral literal).1 ≠ null := by
  cases literal <;> simp [ofLiteral, Fits]

lemma fits_ofText? {type : ColumnType} {s : String} {v : Value} (h : ofText? type s = some v) :
    v.Fits type ∧ v ≠ null := by
  cases type with
  | text =>
    cases h
    exact ⟨rfl, nofun⟩
  | integer | bigint | double | boolean | date | timestamp =>
    obtain ⟨_, _, rfl⟩ := Option.map_eq_some_iff.mp h
    exact ⟨by simp [Fits], nofun⟩

lemma convert?_of_fits {type : ColumnType} {v : Value} (h : v.Fits type) : v.convert? type = some v := by
  cases v with
  | null => rfl
  | text s =>
    obtain rfl := h
    rfl
  | integer n => rcases h with rfl | rfl <;> rfl
  | boolean b =>
    obtain rfl := h
    rfl
  | real x => rfl
  | date day =>
    obtain rfl := h
    rfl
  | timestamp moment => rfl

lemma fits_convert? {own other common : ColumnType} {v w : Value} (hv : v.Fits own)
    (ht : ColumnType.common? own other = some common ∨ ColumnType.common? other own = some common)
    (hw : v.convert? common = some w) : w.Fits common ∧ (w = null ↔ v = null) := by
  cases v with
  | null =>
    cases hw
    simp [Fits]
  | text s =>
    have h := fits_ofText? hw
    exact ⟨h.1, by simp [h.2]⟩
  | integer n =>
    cases hw
    rcases hv with rfl | rfl <;> cases other <;> simp [ColumnType.common?, ColumnType.rank] at ht
      <;> subst ht <;> simp [Fits]
  | real x =>
    cases hw
    obtain rfl := hv
    cases other <;> simp [ColumnType.common?, ColumnType.rank] at ht <;> subst ht <;> simp [Fits]
  | boolean b =>
    obtain rfl := hv
    cases other <;> simp [ColumnType.common?, ColumnType.rank] at ht <;> subst ht <;> cases hw
      <;> simp [Fits]
  | date day =>
    obtain rfl := hv
    cases hw
    cases other <;> simp [ColumnType.common?] at ht <;> subst ht <;> simp [Fits]
  | timestamp moment =>
    obtain rfl := hv
    cases hw
    cases other <;> simp [ColumnType.common?] at ht <;> subst ht <;> simp [Fits]

lemma order_isSome {type : ColumnType} {v w : Value} (hv : v.Fits type) (hw : w.Fits type)
    (hvn : v ≠ null) (hwn : w ≠ null) : ∃ order, v.order w = some order := by
  cases v <;> cases w <;> simp_all [Fits, order]

end Value

structure Relation.Proper (r : Relation) : Prop where
  distinct : hasRepeatedName r.columnNames = false
  fits : ∀ rows, r.source = .stored rows →
    ∀ row ∈ rows, List.Forall₂ (fun column v => v.Fits column.type) r.columns row

lemma Relation.fits_stored {find : Lookup} (hf : ∀ name r, find name = some r → r.Proper) {fuel : ℕ}
    {r : Relation} (hr : r.Proper) {rows : List (List Value)}
    (h : r.stored find fuel = .ok (some rows)) :
    ∀ row ∈ rows, List.Forall₂ (fun column v => v.Fits column.type) r.columns row := by
  induction fuel generalizing r with
  | zero =>
    obtain ⟨name, columns, rows' | of | _⟩ := r
    · cases h
      exact hr.fits rows rfl
    all_goals cases h
  | succ fuel ih =>
    obtain ⟨name, columns, rows' | of | _⟩ := r
    · cases h
      exact hr.fits rows rfl
    · rw [stored] at h
      split at h
      · cases h
      next relation hfind =>
        split_ifs at h with hc
        obtain rfl := hc
        have hrow := ih (hf of relation hfind) h
        exact hrow
    · cases h

lemma fits_readCell {type : ColumnType} {cell : Option String} {v : Value}
    (h : readCell type cell = .ok v) :
    v.Fits type := by
  cases cell with
  | none =>
    cases h
    trivial
  | some s =>
    rw [readCell] at h
    split at h
    next hv =>
      cases h
      exact (Value.fits_ofText? hv).1
    next => cases h

lemma fits_readRow {columns : List Column} {cells : List (Option String)} {row : List Value}
    (h : readRow columns cells = .ok row) :
    List.Forall₂ (fun column v => v.Fits column.type) columns row := by
  rw [readRow] at h
  split_ifs at h with hl
  have hm := mapM_eq_ok.mp h
  clear h
  rw [ne_eq, not_not] at hl
  induction columns generalizing cells row with
  | nil =>
    obtain rfl := List.forall₂_nil_left_iff.mp hm
    exact .nil
  | cons column columns ih =>
    obtain ⟨cell, cells, rfl⟩ := List.exists_cons_of_length_eq_add_one hl
    obtain ⟨v, row, hv, hrow, rfl⟩ := List.forall₂_cons_left_iff.mp hm
    exact .cons (fits_readCell hv) (ih (by simpa using hl) hrow)

end Compliance.Database
