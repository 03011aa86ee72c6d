import Compliance.Proofs.Query.Confinement
import Compliance.Proofs.Query.Reading

/-! The query of a table whose names have no quotes in them: whatever conditions it is filtered by,
its text is read as their tree, so that it is never refused. -/

namespace Compliance

def TableSchema.IsUnquoted (table : TableSchema) : Prop :=
  '"' ∉ table.name.toList ∧ ∀ column ∈ table.columns, '"' ∉ column.toList

def Sql.Token.slot? : Sql.Token → Option ℕ
  | .placeholder n => some n
  | _ => none

namespace Query

open Result
open Sql (Token Piece)

def Predicate.IsUnquoted (p : Predicate) : Prop := ∀ column ∈ p.columns, '"' ∉ column.toList

variable {table : TableSchema} {subject : Subject} {p : Predicate} {ps : List Predicate}

lemma isUnquoted_violation {condition : Rule.Condition} (ht : table.IsUnquoted)
    (h : violation table condition = .ok p) :
    p.IsUnquoted := fun column hcolumn => ht.2 column (mem_of_violation h column hcolumn)

section
variable (ht : table.IsUnquoted) (hp : ∀ p' ∈ p :: ps, p'.IsUnquoted)
include ht hp

lemma read_textOf : Token.read (textOf table (p :: ps)).toList =
    .ok (Piece.tokens (layout table (p :: ps))) := by
  apply (read_layout_iff table (p :: ps)).mpr
  intro name hname
  rw [names_layout] at hname
  apply Sql.Identifier.quotable_of_no_quote
  simp only [List.mem_append, List.mem_flatMap, List.mem_cons, List.not_mem_nil, or_false,
    or_self] at hname
  rcases hname with ⟨column, hcolumn, rfl⟩ | rfl | ⟨p', hp', hcolumn⟩
  · exact ht.2 _ hcolumn
  · exact ht.1
  · exact hp p' (List.mem_cons.mpr hp') name hcolumn

lemma readSelect_textOf (hc : table.columns ≠ []) : Sql.readSelect (textOf table (p :: ps)) =
    .ok (queryOf table p ps none) := by
  apply readSelect_eq hc
  rw [read_textOf ht hp, limitTokens, List.append_nil]

lemma checkSelect_textOf (hc : table.columns ≠ []) : Sql.checkSelect (textOf table (p :: ps)) =
    .ok () := by
  rw [Sql.checkSelect, readSelect_textOf ht hp hc]
  rfl

end

lemma build_eq_ok (ht : subject.table.IsUnquoted) (hc : subject.table.columns ≠ [])
    (hp : ∀ p' ∈ p :: ps, p'.IsUnquoted) :
    build subject (p :: ps) = .ok (ofText subject (p :: ps)) := by
  rw [build_eq (List.cons_ne_nil p ps), checkSelect_textOf ht hp hc]
  rfl

lemma slots_predicate (p : Predicate) (n : ℕ) :
    (Piece.tokens (p.layout n)).filterMap Token.slot? = List.range' n p.binds.length := by
  cases p <;> rfl

lemma slots_andTokens (ps : List Predicate) (n : ℕ) : (andTokens n ps).filterMap Token.slot? =
    List.range' n (bindCount ps) := by
  induction ps generalizing n with
  | nil => rfl
  | cons p ps ih =>
    rw [andTokens, List.cons_append, List.filterMap_cons_none rfl, List.filterMap_append,
      slots_predicate, ih, bindCount_cons, List.range'_append_1]

lemma slots_itemsLayout (columns : List String) :
    (Piece.tokens (itemsLayout columns)).filterMap Token.slot? = [] := by
  match columns with
  | [] => rfl
  | [c] => rfl
  | c :: d :: columns =>
    have ih := slots_itemsLayout (d :: columns)
    rw [tokens_itemsLayout, List.filterMap_append, List.filterMap_cons_none rfl, ih]
    rfl

lemma slots_layout (table : TableSchema) (p : Predicate) (ps : List Predicate) :
    (Piece.tokens (layout table (p :: ps))).filterMap Token.slot? =
      List.range (bindCount (p :: ps)) := by
  have hfilter : (Piece.tokens (filterLayout 0 (p :: ps))).filterMap Token.slot? =
    List.range (bindCount (p :: ps)) := by
    rw [tokens_filterLayout, List.filterMap_append, slots_predicate, slots_andTokens,
      List.range'_append_1, bindCount_cons, List.range_eq_range']
  rw [tokens_layout, ← hfilter, List.filterMap_cons_none rfl, List.filterMap_append,
    slots_itemsLayout, List.nil_append]
  rfl

end Query

end Compliance
