import Compliance.Proofs.Query.Layout
import Compliance.Proofs.Result
import Compliance.Sql.Parser

/-! The tree that the tokens of a query are read as. -/

namespace Compliance.Query

open Result
open Sql (Token Piece Expr Item)
open Sql.Piece (tokens)
open Sql.Parser

def Predicate.expr (n : ℕ) : Predicate → Expr
  | compare column operator _ => .compare operator (.column [column]) (.placeholder n)
  | blank column =>
    .or (.isNull (.column [column])) (.compare .equal (.cast (.column [column]) "VARCHAR") (.text ""))
  | daysExceed start finish _ =>
    .compare .greater (.call "date_diff" [.text "day", .column [start], .column [finish]])
      (.placeholder n)
  | notMatching column _ =>
    .not (.call "regexp_matches" [.cast (.column [column]) "VARCHAR", .placeholder n])

def filterExpr : ℕ → Expr → List Predicate → Expr
  | _, e, [] => e
  | n, e, p :: ps => filterExpr (n + p.binds.length) (.and e (p.expr n)) ps

def shownItem (column : String) : Item := ⟨.cast (.column [column]) "VARCHAR", some column⟩

def limitTokens : Option ℕ → List Token
  | none => []
  | some rows => [.word "LIMIT", .number (toString rows)]

def Ends (strength : Strength) (rest : List Token) : Prop :=
  ∀ fuel e, readInfix (fuel + 2) strength e rest = .ok (e, rest)

lemma ends_limitTokens (strength : Strength) (rows : Option ℕ) : Ends strength (limitTokens rows) := by
  cases rows <;> exact fun _ _ => rfl

lemma infix_and (rest : List Token) : infix? (.word "AND" :: rest) = some (.and, .and, rest) := rfl

lemma ends_and {strength : Strength} (h : Strength.and.rank ≤ strength.rank) (rest : List Token) :
    Ends strength (.word "AND" :: rest) := by
  intro fuel e
  simp only [readInfix, infix_and, h, if_true]

lemma readInfix_and (fuel : ℕ) (e : Expr) (rest : List Token) :
    readInfix (fuel + 1) .lowest e (.word "AND" :: rest) =
      (readExpr fuel .and rest >>= fun x => readInfix fuel .lowest (.and e x.1) x.2) := by
  rw [readInfix, infix_and]
  rfl

section
variable (n fuel : ℕ) (strength : Strength) {rest : List Token}

lemma readExpr_compare (column : String) (operator : Rule.Operator) (value : Rule.Literal)
    (hs : strength.rank ≤ Strength.and.rank) (h : Ends .comparison rest) :
    readExpr (fuel + 12) strength (tokens ((Predicate.compare column operator value).layout n) ++ rest) =
      readInfix (fuel + 10) strength ((Predicate.compare column operator value).expr n) rest := by
  have hp : readExpr (fuel + 10) .comparison (.placeholder n :: rest) =
    .ok (.placeholder n, rest) := h _ _
  have ho : infixSymbol? operator.symbol = some (.comparison, .compare operator) := by
    cases operator <;> rfl
  have hn : ¬ Strength.comparison.rank ≤ strength.rank := fun hc => absurd (hc.trans hs) (by decide)
  have hi : readExpr (fuel + 12) strength
    (tokens ((Predicate.compare column operator value).layout n) ++ rest) =
      readInfix (fuel + 11) strength (.column [column])
        (.symbol operator.symbol :: .placeholder n :: rest) := by
    cases operator <;> rfl
  rw [hi, readInfix]
  simp only [infix?, ho, Option.map_some, if_neg hn, hp, ok_bind]
  rfl

lemma readExpr_blank (column : String) :
    readExpr (fuel + 12) strength (tokens ((Predicate.blank column).layout n) ++ rest) =
      readInfix (fuel + 11) strength ((Predicate.blank column).expr n) rest := by
  rfl

lemma readExpr_daysExceed (start finish : String) (days : ℤ) (hs : strength.rank ≤ Strength.and.rank)
    (h : Ends .comparison rest) :
    readExpr (fuel + 12) strength (tokens ((Predicate.daysExceed start finish days).layout n) ++ rest) =
      readInfix (fuel + 10) strength ((Predicate.daysExceed start finish days).expr n) rest := by
  have hp : readExpr (fuel + 10) .comparison (.placeholder n :: rest) =
    .ok (.placeholder n, rest) := h _ _
  have ho : infixSymbol? ">" = some (.comparison, .compare .greater) := rfl
  have hn : ¬ Strength.comparison.rank ≤ strength.rank := fun hc => absurd (hc.trans hs) (by decide)
  have hi : readExpr (fuel + 12) strength
    (tokens ((Predicate.daysExceed start finish days).layout n) ++ rest) =
      readInfix (fuel + 11) strength (.call "date_diff" [.text "day", .column [start], .column [finish]])
        (.symbol ">" :: .placeholder n :: rest) := rfl
  rw [hi, readInfix]
  simp only [infix?, ho, Option.map_some, if_neg hn, hp, ok_bind]
  rfl

lemma readExpr_notMatching (column pattern : String) (h : Ends .not rest)
    (ho : keyword? "OVER" rest = none) :
    readExpr (fuel + 12) strength (tokens ((Predicate.notMatching column pattern).layout n) ++ rest) =
      readInfix (fuel + 11) strength ((Predicate.notMatching column pattern).expr n) rest := by
  let call : Expr := .call "regexp_matches" [.cast (.column [column]) "VARCHAR", .placeholder n]
  let written : List Token :=
    .word "regexp_matches" :: .symbol "(" :: tokens (castLayout column) ++
      .symbol "," :: .placeholder n :: .symbol ")" :: rest
  have hc : readExpr (fuel + 10) .not written = .ok (call, rest) := by
    have hover : readOver (fuel + 7) call rest = .ok (call, rest) := by rw [readOver, ho]
    change (readOver (fuel + 7) call rest >>= fun x => readInfix (fuel + 9) .not x.1 x.2) = _
    rw [hover, ok_bind, h]
  have hi : readExpr (fuel + 12) strength
    (tokens ((Predicate.notMatching column pattern).layout n) ++ rest) =
      ((readExpr (fuel + 10) .not written >>= fun x => pure (.not x.1, x.2)) >>= fun x =>
        readInfix (fuel + 11) strength x.1 x.2) := rfl
  rw [hi, hc]
  rfl

lemma readExpr_predicate (p : Predicate) (hs : strength.rank ≤ Strength.and.rank)
    (hc : Ends .comparison rest) (hn : Ends .not rest) (ho : keyword? "OVER" rest = none) :
    ∃ more, readExpr (fuel + 12) strength (tokens (p.layout n) ++ rest) =
      readInfix (fuel + more + 10) strength (p.expr n) rest := by
  cases p with
  | compare column operator value =>
    exact ⟨0, readExpr_compare n fuel strength column operator value hs hc⟩
  | blank column => exact ⟨1, readExpr_blank n fuel strength column⟩
  | daysExceed start finish days =>
    exact ⟨0, readExpr_daysExceed n fuel strength start finish days hs hc⟩
  | notMatching column pattern => exact ⟨1, readExpr_notMatching n fuel strength column pattern hn ho⟩

end

section
variable (rows : Option ℕ)

lemma ends_andTokens {strength : Strength} (h : Strength.and.rank ≤ strength.rank) (n : ℕ)
    (ps : List Predicate) :
    Ends strength (andTokens n ps ++ limitTokens rows) := by
  cases ps with
  | nil => exact ends_limitTokens strength rows
  | cons p ps => exact ends_and h _

lemma over_andTokens (n : ℕ) (ps : List Predicate) :
    keyword? "OVER" (andTokens n ps ++ limitTokens rows) = none := by
  cases ps with
  | nil => cases rows <;> rfl
  | cons p ps => rfl

lemma readExpr_before (n fuel : ℕ) {strength : Strength} (hs : strength.rank ≤ Strength.and.rank)
    (p : Predicate) (m : ℕ) (ps : List Predicate) :
    ∃ more, readExpr (fuel + 12) strength (tokens (p.layout n) ++ (andTokens m ps ++ limitTokens rows)) =
      readInfix (fuel + more + 10) strength (p.expr n) (andTokens m ps ++ limitTokens rows) :=
  readExpr_predicate n fuel strength p hs (ends_andTokens rows (by decide) m ps)
    (ends_andTokens rows (by decide) m ps)
    (over_andTokens rows m ps)

lemma readInfix_andTokens (fuel n : ℕ) (e : Expr) (ps : List Predicate) :
    readInfix (fuel + ps.length + 12) .lowest e (andTokens n ps ++ limitTokens rows) =
      .ok (filterExpr n e ps, limitTokens rows) := by
  induction ps generalizing n e with
  | nil => exact ends_limitTokens .lowest rows _ e
  | cons p ps ih =>
    obtain ⟨more, hp⟩ := readExpr_before rows n (fuel + ps.length) (le_refl Strength.and.rank) p
      (n + p.binds.length) ps
    have he := ends_andTokens rows (le_refl Strength.and.rank) (n + p.binds.length) ps
    rw [andTokens, List.cons_append, List.cons_append, List.append_assoc, List.length_cons,
      ← Nat.add_assoc, Nat.add_right_comm, readInfix_and, hp, he (fuel + ps.length + more + 8),
      ok_bind, ih]
    rfl

lemma readExpr_filter (fuel n : ℕ) (p : Predicate) (ps : List Predicate) :
    readExpr (fuel + ps.length + 14) .lowest (tokens (filterLayout n (p :: ps)) ++ limitTokens rows) =
      .ok (filterExpr (n + p.binds.length) (p.expr n) ps, limitTokens rows) := by
  have hl : Strength.lowest.rank ≤ Strength.and.rank := by decide
  obtain ⟨more, hp⟩ := readExpr_before rows n (fuel + ps.length + 2) hl p (n + p.binds.length) ps
  rw [tokens_filterLayout, List.append_assoc, hp,
    show fuel + ps.length + 2 + more + 10 = (fuel + more) + ps.length + 12 by omega, readInfix_andTokens]

end

lemma cast_itemsLayout (c : String) (columns : List String) :
    ∃ more, tokens (itemsLayout (c :: columns)) = .word "CAST" :: more := by
  cases columns with
  | nil => exact ⟨_, rfl⟩
  | cons d columns => exact ⟨_, tokens_itemsLayout c d columns⟩

lemma readItem_shown (fuel : ℕ) (column : String) (rest : List Token) :
    readItem (fuel + 10) (tokens (shownLayout column) ++ rest) = .ok (shownItem column, rest) := by
  rfl

lemma readItems_layout (fuel : ℕ) (column : String) (columns : List String) (rest : List Token) :
    Sql.Parser.readItems (fuel + columns.length + 11)
      (tokens (itemsLayout (column :: columns)) ++ .word "FROM" :: rest) =
      .ok (shownItem column :: columns.map shownItem, .word "FROM" :: rest) := by
  induction columns generalizing column with
  | nil =>
    rw [show tokens (itemsLayout [column]) = tokens (shownLayout column) by
      rfl, Sql.Parser.readItems, readItem_shown]
    rfl
  | cons d columns ih =>
    obtain ⟨more, hm⟩ := cast_itemsLayout d columns
    have hc : symbol? ","
      (.symbol "," :: (tokens (itemsLayout (d :: columns)) ++ .word "FROM" :: rest)) =
        some (tokens (itemsLayout (d :: columns)) ++ .word "FROM" :: rest) := rfl
    have he : endsList (tokens (itemsLayout (d :: columns)) ++ .word "FROM" :: rest) = false := by
      rw [hm]
      rfl
    rw [tokens_itemsLayout, List.append_assoc, List.cons_append, List.length_cons, ← Nat.add_assoc,
      Nat.add_right_comm, Sql.Parser.readItems, readItem_shown, ok_bind]
    simp only [hc, he, ih, ok_bind]
    rfl

lemma readSources_table (fuel : ℕ) (name : String) (rest : List Token) :
    readSources (fuel + 2) (.name name :: .word "WHERE" :: rest) =
      .ok (some [[name]], .word "WHERE" :: rest) := by
  rfl

def selectOf (table : TableSchema) (p : Predicate) (ps : List Predicate) : Sql.Select where
  items := table.columns.map shownItem
  tables := [[table.name]]
  filter := some (filterExpr p.binds.length (p.expr 0) ps)
  plain := true

lemma readSelect_layout {fuel : ℕ} {table : TableSchema} (hc : table.columns ≠ []) (p : Predicate)
    (ps : List Predicate) (rows : Option ℕ) (h : table.columns.length + ps.length + 14 ≤ fuel) :
    Sql.Parser.readSelect (fuel + 1)
      (tokens (itemsLayout table.columns) ++ .word "FROM" :: .name table.name ::
      .word "WHERE" :: (tokens (filterLayout 0 (p :: ps)) ++ limitTokens rows)) =
      .ok (selectOf table p ps, limitTokens rows) := by
  obtain ⟨c, columns, hcs⟩ := List.exists_cons_of_ne_nil hc
  obtain ⟨more, hm⟩ := cast_itemsLayout c columns
  have hl : table.columns.length = columns.length + 1 := by rw [hcs, List.length_cons]
  let filter : List Token := tokens (filterLayout 0 (p :: ps)) ++ limitTokens rows
  let after : List Token := .name table.name :: .word "WHERE" :: filter
  -- one part after the other, each with the fuel written as its own bound needs it
  have hi : Sql.Parser.readItems fuel (.word "CAST" :: (more ++ .word "FROM" :: after)) =
      .ok (table.columns.map shownItem, .word "FROM" :: after) := by
    obtain ⟨k, rfl⟩ : ∃ k, fuel = k + columns.length + 11 := ⟨fuel - columns.length - 11, by omega⟩
    rw [hcs, ← List.cons_append, ← hm, readItems_layout, List.map_cons]
  have hs : readSources fuel after = .ok (some [[table.name]], .word "WHERE" :: filter) := by
    obtain ⟨k, rfl⟩ : ∃ k, fuel = k + 2 := ⟨fuel - 2, by omega⟩
    exact readSources_table k table.name filter
  have hf : readExpr fuel .lowest filter = .ok (filterExpr p.binds.length (p.expr 0) ps,
    limitTokens rows) := by
    obtain ⟨k, rfl⟩ : ∃ k, fuel = k + ps.length + 14 := ⟨fuel - ps.length - 14, by omega⟩
    rw [readExpr_filter, Nat.zero_add]
  have hg : readGrouping fuel (limitTokens rows) = .ok (false, limitTokens rows) := by
    obtain ⟨k, rfl⟩ : ∃ k, fuel = k + 1 := ⟨fuel - 1, by omega⟩
    cases rows <;> rfl
  rw [hcs, hm, List.cons_append]
  change (Sql.Parser.readItems fuel (.word "CAST" :: (more ++ .word "FROM" :: after)) >>= fun x => _) = _
  rw [hi, ok_bind]
  change ((readSources fuel after).map (fun x => (some x.1, x.2)) >>= fun x => _) = _
  rw [hs]
  change ((readExpr fuel .lowest filter).map (fun x => (some x.1, x.2)) >>= fun x => _) = _
  rw [hf]
  change (readGrouping fuel (limitTokens rows) >>= fun x => _) = _
  rw [hg]
  rfl

lemma length_itemsLayout (columns : List String) :
    columns.length ≤ (tokens (itemsLayout columns)).length := by
  match columns with
  | [] => exact Nat.zero_le _
  | [c] => exact (by decide : 1 ≤ 8)
  | c :: d :: columns =>
    have ih := length_itemsLayout (d :: columns)
    rw [tokens_itemsLayout, List.length_append]
    simp only [List.length_cons] at ih ⊢
    omega

lemma length_andTokens (n : ℕ) (ps : List Predicate) : ps.length ≤ (andTokens n ps).length := by
  induction ps generalizing n with
  | nil => exact Nat.zero_le _
  | cons p ps ih =>
    have hp := ih (n + p.binds.length)
    rw [andTokens, List.length_append, List.length_cons, List.length_cons]
    omega

def queryOf (table : TableSchema) (p : Predicate) (ps : List Predicate) (rows : Option ℕ) :
    Sql.Query where
  body := .select (selectOf table p ps)
  limit := rows.map fun n => .number (toString n)
  plain := true

lemma readTail_limitTokens (fuel : ℕ) (rows : Option ℕ) :
    readTail (fuel + 4) (limitTokens rows) = .ok ((rows.map fun n => .number (toString n), false),
      []) := by
  cases rows <;> rfl

lemma readQuery_layout {fuel : ℕ} {table : TableSchema} (hc : table.columns ≠ []) (p : Predicate)
    (ps : List Predicate) (rows : Option ℕ) (h : table.columns.length + ps.length + 14 ≤ fuel) :
    readQuery (fuel + 3) (tokens (layout table (p :: ps)) ++ limitTokens rows) =
      .ok (queryOf table p ps rows, []) := by
  let items : List Token := tokens (itemsLayout table.columns) ++ .word "FROM" :: .name table.name ::
    .word "WHERE" :: (tokens (filterLayout 0 (p :: ps)) ++ limitTokens rows)
  have ht : tokens (layout table (p :: ps)) ++ limitTokens rows = .word "SELECT" :: items := by
    rw [tokens_layout, List.cons_append, List.append_assoc]
    rfl
  have hs : Sql.Parser.readSelect (fuel + 1) items = .ok (selectOf table p ps, limitTokens rows) :=
    readSelect_layout hc p ps rows h
  have hb : readBody (fuel + 2) (.word "SELECT" :: items) =
    .ok (.select (selectOf table p ps), limitTokens rows) := by
    change ((Sql.Parser.readSelect (fuel + 1) items).map (fun x => (Sql.Body.select x.1, x.2)) >>=
      fun x => _) = _
    rw [hs]
    cases rows <;> rfl
  rw [ht]
  change (readBody (fuel + 2) (.word "SELECT" :: items) >>= fun x => _) = _
  rw [hb, ok_bind]
  change (readTail (fuel + 2) (limitTokens rows) >>= fun x => _) = _
  obtain ⟨k, rfl⟩ : ∃ k, fuel = k + 2 := ⟨fuel - 2, by omega⟩
  rw [readTail_limitTokens]
  rfl

lemma readStatements_one {depth fuel : ℕ} {w : String} {rest : List Token} {statement : Sql.Statement}
    (h : readStatement depth (.word w :: rest) = .ok (statement, [])) :
    Sql.Parser.readStatements depth (fuel + 1) (.word w :: rest) = .ok [statement] := by
  change (readStatement depth (.word w :: rest) >>= fun x => _) = _
  rw [h]
  rfl

theorem readSelect_eq {text : String} {table : TableSchema} {p : Predicate} {ps : List Predicate}
    {rows : Option ℕ} (hc : table.columns ≠ [])
    (h : Token.read text.toList = .ok (tokens (layout table (p :: ps)) ++ limitTokens rows)) :
    Sql.readSelect text = .ok (queryOf table p ps rows) := by
  let all : List Token := tokens (layout table (p :: ps)) ++ limitTokens rows
  have hn : table.columns.length + ps.length + 2 ≤ all.length := by
    have hi := length_itemsLayout table.columns
    have ha := length_andTokens (0 + p.binds.length) ps
    simp only [all, tokens_layout, tokens_filterLayout, List.length_append, List.length_cons]
    omega
  have hq : readQuery (Sql.fuelFor all) all = .ok (queryOf table p ps rows, []) := by
    obtain ⟨k, hk⟩ : ∃ k, Sql.fuelFor all = k + 3 := ⟨Sql.fuelFor all - 3, by rw [Sql.fuelFor]; omega⟩
    rw [hk]
    refine readQuery_layout hc p ps rows ?_
    rw [Sql.fuelFor] at hk
    omega
  obtain ⟨rest, hr⟩ : ∃ rest, all = .word "SELECT" :: rest := by
    simp only [all, tokens_layout, List.cons_append]
    exact ⟨_, rfl⟩
  have hs : readStatement (Sql.fuelFor all) all = .ok (.query (queryOf table p ps rows), []) := by
    have hb : beginsQuery all = true := by rw [hr]; rfl
    rw [readStatement, if_pos (.inl hb), hq]
    rfl
  have hss : Sql.readStatements text = .ok [.query (queryOf table p ps rows)] := by
    rw [Sql.readStatements, h]
    change (Sql.Parser.readStatements (Sql.fuelFor all) (all.length + 1) all).mapError _ = _
    rw [hr] at hs ⊢
    rw [readStatements_one hs]
    rfl
  rw [Sql.readSelect, hss]
  rfl

end Compliance.Query
