import Compliance.Proofs.Sql.Writing
import Compliance.Query.Basic

/-! The text of a query, token by token. -/

namespace Compliance.Query

open Sql (Token Piece)
open Sql.Piece (writeAll tokens Stand)

def castLayout (column : String) : List Piece :=
  [.word "CAST", .symbol "(", .name column, .blank, .word "AS", .blank, .word "VARCHAR", .symbol ")"]

def shownLayout (column : String) : List Piece :=
  castLayout column ++ [.blank, .word "AS", .blank, .name column]

def Predicate.layout (n : ℕ) : Predicate → List Piece
  | compare column operator _ => [.name column, .blank, .symbol operator.symbol, .blank, .placeholder n]
  | blank column =>
    [.symbol "(", .name column, .blank, .word "IS", .blank, .word "NULL", .blank, .word "OR",
      .blank] ++ castLayout column
      ++ [.blank, .symbol "=", .blank, .text "", .symbol ")"]
  | daysExceed start finish _ =>
    [.word "date_diff", .symbol "(", .text "day", .symbol ",", .blank, .name start, .symbol ",",
      .blank, .name finish, .symbol ")", .blank, .symbol ">", .blank, .placeholder n]
  | notMatching column _ =>
    [.word "NOT", .blank, .word "regexp_matches", .symbol "("] ++ castLayout column
      ++ [.symbol ",", .blank, .placeholder n, .symbol ")"]

def filterLayout : ℕ → List Predicate → List Piece
  | _, [] => []
  | n, [p] => p.layout n
  | n, p :: ps => p.layout n ++ [.blank, .word "AND", .blank] ++ filterLayout (n + p.binds.length) ps

def itemsLayout (columns : List String) : List Piece :=
  [.symbol ",", .blank].intercalate (columns.map shownLayout)

def layout (table : TableSchema) (predicates : List Predicate) : List Piece :=
  [.word "SELECT", .blank] ++ itemsLayout table.columns
    ++ [.blank, .word "FROM", .blank, .name table.name, .blank, .word "WHERE", .blank] ++
      filterLayout 0 predicates

def limitLayout (rows : ℕ) : List Piece := [.blank, .word "LIMIT", .blank, .number (toString rows)]

lemma toList_quote (name : String) : (Sql.Identifier.quote name).toList =
    Sql.Identifier.quoteChars name.toList :=
  String.toList_ofList

lemma toList_asText (column : String) : (asText (Sql.Identifier.quote column)).toList =
    writeAll (castLayout column) := by
  simp [asText, castLayout, toList_quote, writeAll, Sql.Piece.write, Token.write]

lemma toList_shownColumn (column : String) :
    (shownColumn column).toList = writeAll (shownLayout column) := by
  simp only [shownColumn, String.toList_append, toList_asText, shownLayout,
    Sql.Piece.writeAll_append, List.append_assoc]
  simp [writeAll, Sql.Piece.write, Token.write, toList_quote]

lemma Predicate.toList_text (p : Predicate) (n : ℕ) : p.text.toList = writeAll (p.layout n) := by
  unfold text
  cases p with
  | compare column operator value =>
    simp [layout, toList_quote, writeAll, Sql.Piece.write, Token.write]
  | blank column =>
    simp only [layout, String.toList_append, toList_asText, Sql.Piece.writeAll_append]
    simp [writeAll, Sql.Piece.write, Token.write, toList_quote]
  | daysExceed start finish days =>
    simp [layout, toList_quote, writeAll, Sql.Piece.write, Token.write]
  | notMatching column pattern =>
    simp only [layout, String.toList_append, toList_asText, Sql.Piece.writeAll_append]
    simp [writeAll, Sql.Piece.write, Token.write]

lemma toList_items (columns : List String) :
    (", ".intercalate (columns.map shownColumn)).toList = writeAll (itemsLayout columns) := by
  match columns with
  | [] => rfl
  | [c] => simp [itemsLayout, toList_shownColumn]
  | c :: d :: rest =>
    have ih := toList_items (d :: rest)
    simp only [itemsLayout, List.map_cons, String.intercalate_cons_cons, List.intercalate_cons_cons,
      String.toList_append, Sql.Piece.writeAll_append, toList_shownColumn] at ih ⊢
    rw [ih]
    rfl

lemma toList_filter (predicates : List Predicate) (n : ℕ) :
    (" AND ".intercalate (predicates.map Predicate.text)).toList =
      writeAll (filterLayout n predicates) := by
  match predicates with
  | [] => rfl
  | [p] => simp [filterLayout, p.toList_text n]
  | p :: q :: rest =>
    have ih := toList_filter (q :: rest) (n + p.binds.length)
    simp only [filterLayout, List.map_cons, String.intercalate_cons_cons, String.toList_append,
      Sql.Piece.writeAll_append, p.toList_text n] at ih ⊢
    rw [ih]
    rfl

theorem toList_textOf (table : TableSchema) (predicates : List Predicate) :
    (textOf table predicates).toList = writeAll (layout table predicates) := by
  simp only [textOf, layout, String.toList_append, toList_items, toList_filter predicates 0,
    toList_quote, Sql.Piece.writeAll_append]
  simp [writeAll, Sql.Piece.write, Token.write]

theorem toList_limited (q : Query) (rows : ℕ) :
    (q.limited rows).toList = q.sql.toList ++ writeAll (limitLayout rows) := by
  simp [limited, limitLayout, writeAll, Sql.Piece.write, Token.write]

lemma stand_castLayout (column : String) (n : ℕ) {rest : List Piece} (h : Stand n rest)
    (hb : (Token.symbol ")").standsBefore (writeAll rest).head?) : Stand n (castLayout column ++ rest) :=
  ⟨rfl, by simp, rfl, by simp, rfl, by simp, rfl, by simp, rfl, by simp, hb, by simp, h⟩

lemma stand_shownLayout (column : String) (n : ℕ) {rest : List Piece} (h : Stand n rest)
    (hb : (Token.name column).standsBefore (writeAll rest).head?) :
    Stand n (shownLayout column ++ rest) := by
  rw [shownLayout, List.append_assoc]
  exact stand_castLayout column n ⟨rfl, by simp, hb, by simp, h⟩ rfl

def Closes (rest : List Piece) : Prop := (Token.symbol ")").standsBefore (writeAll rest).head?

lemma placeholder_number {n i : ℕ} (h : Token.placeholder n = .placeholder i) : i = n :=
  (Token.placeholder.inj h).symm

lemma Predicate.stand_layout (p : Predicate) (n : ℕ) {rest : List Piece}
    (h : Stand (n + p.binds.length) rest) (hb : Closes rest) : Stand n (p.layout n ++ rest) := by
  cases p with
  | compare column operator value =>
    have ho : ((Token.symbol operator.symbol).standsBefore (some ' ')) = true := by
      cases operator <;> rfl
    exact ⟨rfl, by simp, ho, by simp, rfl, fun _ => placeholder_number, h⟩
  | blank column =>
    rw [layout, List.append_assoc, List.append_assoc]
    refine ⟨rfl, by simp, rfl, by simp, rfl, by simp, rfl, by simp, rfl, by simp, ?_⟩
    exact stand_castLayout column n ⟨rfl, by simp, rfl, by simp, hb, by simp, h⟩ rfl
  | daysExceed start finish days =>
    exact ⟨rfl, by
      simp, rfl, by
        simp, rfl, by simp, rfl, by simp, rfl, by simp, rfl, by simp, rfl, by simp, rfl, by simp,
      rfl, by simp, rfl, fun _ => placeholder_number, h⟩
  | notMatching column pattern =>
    rw [layout, List.append_assoc, List.append_assoc]
    refine ⟨rfl, by simp, rfl, by simp, rfl, by simp, ?_⟩
    exact stand_castLayout column n ⟨rfl, by simp, rfl, fun _ => placeholder_number, hb, by simp, h⟩ rfl

def bindCount (predicates : List Predicate) : ℕ := (predicates.flatMap Predicate.binds).length

lemma bindCount_cons (p : Predicate) (predicates : List Predicate) :
    bindCount (p :: predicates) = p.binds.length + bindCount predicates := by
  simp [bindCount]

lemma stand_filterLayout {predicates : List Predicate} {n : ℕ} {rest : List Piece}
    (h : Stand (n + bindCount predicates) rest) (hb : Closes rest) :
    Stand n (filterLayout n predicates ++ rest) := by
  match predicates with
  | [] => exact h
  | [p] => exact p.stand_layout n (by simpa [bindCount] using h) hb
  | p :: q :: ps =>
    have hq : Stand (n + p.binds.length) (filterLayout (n + p.binds.length) (q :: ps) ++ rest) := by
      refine stand_filterLayout ?_ hb
      rwa [bindCount_cons, ← Nat.add_assoc] at h
    rw [filterLayout, List.append_assoc, List.append_assoc]
    · exact p.stand_layout n ⟨rfl, by simp, hq⟩ rfl
    · simp

lemma stand_itemsLayout (columns : List String) (n : ℕ) {rest : List Piece} (h : Stand n rest)
    (hb : ∀ c, (Token.name c).standsBefore (writeAll rest).head?) :
    Stand n (itemsLayout columns ++ rest) := by
  match columns with
  | [] => exact h
  | [c] => simpa [itemsLayout] using stand_shownLayout c n h (hb c)
  | c :: d :: columns =>
    have ih := stand_itemsLayout (d :: columns) n h hb
    simp only [itemsLayout, List.map_cons, List.intercalate_cons_cons, List.append_assoc] at ih ⊢
    exact stand_shownLayout c n ⟨rfl, by simp, ih⟩ rfl

lemma stand_layout (table : TableSchema) (predicates : List Predicate) {rest : List Piece}
    (h : Stand (bindCount predicates) rest) (hb : Closes rest) :
    Stand 0 (layout table predicates ++ rest) := by
  have hf : Stand 0 (filterLayout 0 predicates ++ rest) := stand_filterLayout (by simpa using h) hb
  simp only [layout, List.append_assoc]
  exact ⟨rfl, by
    simp, stand_itemsLayout table.columns 0 ⟨rfl, by simp, rfl, by simp, rfl, by simp, hf⟩ fun _ => rfl⟩

lemma stand_limitLayout (rows n : ℕ) : Stand n (limitLayout rows) := by
  refine ⟨rfl, by simp, ?_, by simp, trivial⟩
  have hd : ∀ c ∈ Nat.toDigits 10 rows, Number.isDigit c := fun c hc => by
    have h := Nat.isDigit_of_mem_toDigits (by decide) (by decide) hc
    rw [Char.isDigit, Bool.and_eq_true, decide_eq_true_eq, decide_eq_true_eq] at h
    rw [Number.isDigit, Bool.and_eq_true, decide_eq_true_eq, decide_eq_true_eq]
    exact h
  simp only [Token.standsBefore, Nat.toString_eq_repr, Nat.toList_repr]
  simpa [writeAll] using hd

def andTokens : ℕ → List Predicate → List Token
  | _, [] => []
  | n, p :: ps => .word "AND" :: tokens (p.layout n) ++ andTokens (n + p.binds.length) ps

lemma tokens_filterLayout (n : ℕ) (p : Predicate) (ps : List Predicate) :
    tokens (filterLayout n (p :: ps)) = tokens (p.layout n) ++ andTokens (n + p.binds.length) ps := by
  induction ps generalizing n p with
  | nil => simp [filterLayout, andTokens]
  | cons q ps ih =>
    rw [filterLayout, Sql.Piece.tokens_append, Sql.Piece.tokens_append, ih, List.append_assoc]
    · rfl
    · simp

lemma tokens_itemsLayout (c d : String) (columns : List String) :
    tokens (itemsLayout (c :: d :: columns)) =
      tokens (shownLayout c) ++ .symbol "," :: tokens (itemsLayout (d :: columns)) := by
  simp only [itemsLayout, List.map_cons, List.intercalate_cons_cons, Sql.Piece.tokens_append,
    List.append_assoc]
  rfl

lemma tokens_layout (table : TableSchema) (p : Predicate) (ps : List Predicate) :
    tokens (layout table (p :: ps)) =
      .word "SELECT" :: (tokens (itemsLayout table.columns) ++ .word "FROM" ::
      .name table.name :: .word "WHERE" :: tokens (filterLayout 0 (p :: ps))) := by
  simp only [layout, Sql.Piece.tokens_append, List.append_assoc]
  rfl

def Predicate.columns : Predicate → List String
  | compare column _ _ | notMatching column _ => [column]
  | blank column => [column, column]
  | daysExceed start finish _ => [start, finish]

lemma names_predicate (p : Predicate) (n : ℕ) : (tokens (p.layout n)).filterMap Token.name? =
    p.columns := by
  cases p <;> rfl

lemma names_andTokens (predicates : List Predicate) (n : ℕ) :
    (andTokens n predicates).filterMap Token.name? = predicates.flatMap Predicate.columns := by
  induction predicates generalizing n with
  | nil => rfl
  | cons p ps ih =>
    rw [andTokens, List.filterMap_append, ih, List.flatMap_cons]
    exact congrArg (· ++ _) (names_predicate p n)

lemma names_itemsLayout (columns : List String) :
    (tokens (itemsLayout columns)).filterMap Token.name? = columns.flatMap fun c => [c, c] := by
  match columns with
  | [] => rfl
  | [c] => rfl
  | c :: d :: columns =>
    rw [tokens_itemsLayout, List.filterMap_append, List.flatMap_cons, ← names_itemsLayout (d :: columns)]
    rfl

lemma names_layout (table : TableSchema) (p : Predicate) (ps : List Predicate) :
    (tokens (layout table (p :: ps))).filterMap Token.name? =
      (table.columns.flatMap fun c => [c, c]) ++ table.name :: (p :: ps).flatMap Predicate.columns := by
  have hf : (tokens (filterLayout 0 (p :: ps))).filterMap Token.name? =
    (p :: ps).flatMap Predicate.columns := by
    rw [tokens_filterLayout, List.filterMap_append, names_predicate, names_andTokens, List.flatMap_cons]
  rw [tokens_layout, ← hf, ← names_itemsLayout, List.filterMap_cons_none rfl, List.filterMap_append]
  rfl

lemma placeholders_predicate (p : Predicate) (n : ℕ) :
    (tokens (p.layout n)).countP Token.isPlaceholder = p.binds.length := by
  cases p <;> rfl

lemma placeholders_andTokens (predicates : List Predicate) (n : ℕ) :
    (andTokens n predicates).countP Token.isPlaceholder = bindCount predicates := by
  induction predicates generalizing n with
  | nil => rfl
  | cons p ps ih =>
    rw [andTokens, List.countP_append, ih, bindCount_cons, List.countP_cons_of_neg (by decide),
      placeholders_predicate]

lemma placeholders_itemsLayout (columns : List String) :
    (tokens (itemsLayout columns)).countP Token.isPlaceholder = 0 := by
  match columns with
  | [] => rfl
  | [c] => rfl
  | c :: d :: columns =>
    have ih := placeholders_itemsLayout (d :: columns)
    rw [tokens_itemsLayout, List.countP_append, List.countP_cons_of_neg (by decide), ih]
    rfl

lemma placeholders_layout (table : TableSchema) (p : Predicate) (ps : List Predicate) :
    (tokens (layout table (p :: ps))).countP Token.isPlaceholder = bindCount (p :: ps) := by
  have hf : (tokens (filterLayout 0 (p :: ps))).countP Token.isPlaceholder = bindCount (p :: ps) := by
    rw [tokens_filterLayout, List.countP_append, placeholders_predicate, placeholders_andTokens,
      bindCount_cons]
  rw [tokens_layout, ← hf, List.countP_cons_of_neg (by decide), List.countP_append,
    placeholders_itemsLayout, Nat.zero_add]
  rfl

end Compliance.Query
