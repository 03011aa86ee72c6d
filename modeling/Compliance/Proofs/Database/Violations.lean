import Compliance.Proofs.Database.Typing
import Compliance.Proofs.Number.Digits
import Compliance.Proofs.Query.Confinement
import Compliance.Proofs.Query.Reading

/-! The rows that violate a rule, and the rows that its query answers with. -/

namespace Compliance.Database

open Query (Predicate Subject)
open Result
open Rule (Condition Literal Operator)

/-! What violates a rule -/

def cell (columns : List Column) (row : List Value) (name : String) : Value :=
  ((columns.findIdx? fun column => equalIgnoringCase column.name name).bind (row[·]?)).getD .null

def typeOf (columns : List Column) (name : String) : ColumnType :=
  ((columns.find? fun column => equalIgnoringCase column.name name).map (·.type)).getD .text

def complies (operator : Operator) (literal : Literal) (type : ColumnType) (v : Value) : Bool :=
  match ColumnType.common? type (Value.ofLiteral literal).2 with
  | some common =>
    match v.convert? common, (Value.ofLiteral literal).1.convert? common with
    | some left, some right => operator.holdsOf (left.order right)
    | _, _ => false
  | none => false

def dayOf? : Value → Option ℤ
  | .date (.finite day) => some day
  | .timestamp (.finite moment) => some (moment / Instant.microsPerDay)
  | _ => none

def violates (columns : List Column) (row : List Value) : Condition → Bool
  | .threshold column operator literal =>
    cell columns row column ≠ .null && !complies operator literal (typeOf columns column)
      (cell columns row column)
  | .dateDifference start finish maxDays =>
    match dayOf? (cell columns row start), dayOf? (cell columns row finish) with
    | some a, some b => (maxDays : ℤ) < b - a
    | _, _ => false
  | .notNull column =>
    match (cell columns row column).text? with
    | some s => s = ""
    | none => true
  | .pattern column regex =>
    match (cell columns row column).text?, Search.Expression.ofText? regex with
    | some s, some e => !e.matchesText s
    | _, _ => false

def fulfils (columns : List Column) (row : List Value) : Predicate → Bool
  | .compare column operator literal =>
    cell columns row column ≠ .null && complies operator literal (typeOf columns column)
      (cell columns row column)
  | .blank column =>
    match (cell columns row column).text? with
    | some s => s = ""
    | none => true
  | .daysExceed start finish days =>
    match dayOf? (cell columns row start), dayOf? (cell columns row finish) with
    | some a, some b => days < b - a
    | _, _ => false
  | .notMatching column regex =>
    match (cell columns row column).text?, Search.Expression.ofText? regex with
    | some s, some e => !e.matchesText s
    | _, _ => false

lemma find?_of_findIdx? {columns : List Column} {p : Column → Bool} {i : ℕ}
    (h : columns.findIdx? p = some i) :
    ∃ hi : i < columns.length, columns.find? p = some columns[i] := by
  obtain ⟨hi, hp, hbefore⟩ := List.findIdx?_eq_some_iff_getElem.mp h
  exact ⟨hi, List.find?_eq_some_iff_getElem.mpr ⟨hp, i, hi, rfl,
    fun j hj => by simpa using hbefore j hj⟩⟩

lemma scope_column {columns : List Column} {relation name : String} {binds : List Literal}
    {term : Term × ColumnType} (h : Scope.column ⟨relation, columns, binds⟩ name = .ok term) :
    ∃ i, term = (.column i, typeOf columns name) ∧
      ∀ row, row[i]?.getD .null = cell columns row name := by
  rw [Scope.column] at h
  split at h
  next => cases h
  next i hidx =>
    obtain ⟨hi, hfound⟩ := find?_of_findIdx? hidx
    simp only [List.getElem?_eq_getElem hi, Except.ok.injEq] at h
    refine ⟨i, ?_, fun row => ?_⟩
    · rw [← h, typeOf, hfound, Option.map_some, Option.getD_some]
    · rw [cell, hidx, Option.bind_some]

section
variable {name c : String} (h : equalIgnoringCase c name)
include h

lemma equalIgnoringCase_congr :
    (fun column : Column => equalIgnoringCase column.name c) = fun column =>
      equalIgnoringCase column.name name := by
  funext column
  rw [Bool.eq_iff_iff, equalIgnoringCase_iff, equalIgnoringCase_iff, equalIgnoringCase_iff.mp h]

lemma cell_congr (columns : List Column) (row : List Value) :
    cell columns row c = cell columns row name := by
  rw [cell, cell, equalIgnoringCase_congr h]

lemma typeOf_congr (columns : List Column) : typeOf columns c = typeOf columns name := by
  rw [typeOf, typeOf, equalIgnoringCase_congr h]

end

lemma fits_cell {columns : List Column} {row : List Value}
    (h : List.Forall₂ (fun column v => v.Fits column.type) columns row) (name : String) :
    (cell columns row name).Fits (typeOf columns name) := by
  cases hidx : columns.findIdx? fun column => equalIgnoringCase column.name name with
  | none =>
    rw [cell, hidx]
    trivial
  | some i =>
    obtain ⟨hi, hfound⟩ := find?_of_findIdx? hidx
    obtain ⟨hl, hfits⟩ := List.forall₂_iff_get.mp h
    rw [cell, hidx, typeOf, hfound, Option.bind_some, List.getElem?_eq_getElem (hl ▸ hi)]
    exact hfits i hi (hl ▸ hi)

/-! The filter of a query is true of the rows that violate the rule -/

lemma value_column {row : List Value} {i : ℕ} {v : Value} (h : row[i]?.getD .null = v) :
    (Term.column i).value row = .ok v := congrArg Except.ok h

lemma value_convert {type : ColumnType} {t : Term} {row : List Value} {v w : Value}
    (hv : t.value row = .ok v) (hw : (Term.convert type t).value row = .ok w) :
    v.convert? type = some w := by
  obtain ⟨u, hu, hw⟩ := bind_eq_ok.mp hw
  obtain rfl := Except.ok.inj (hv.symm.trans hu)
  split at hw
  next converted hc =>
    obtain rfl := Except.ok.inj hw
    exact hc
  next => cases hw

lemma value_asText {t : Term} {row : List Value} {v u : Value} (hv : t.value row = .ok v)
    (hu : (Term.asText t).value row = .ok u) : u = Term.toText v := by
  obtain ⟨w, hw, hu⟩ := bind_eq_ok.mp hu
  obtain rfl := Except.ok.inj (hv.symm.trans hw)
  exact (Except.ok.inj hu).symm

lemma value_inType {common own : ColumnType} {t t' : Term} {row : List Value} {v w : Value}
    (h : Term.inType common (t, own) = .ok t') (hv : t.value row = .ok v) (hf : v.Fits own)
    (hw : t'.value row = .ok w) :
    v.convert? common = some w := by
  rw [Term.inType] at h
  split_ifs at h with ht
  · obtain rfl : own = common := ht
    obtain rfl := Except.ok.inj h
    obtain rfl := Except.ok.inj (hv.symm.trans hw)
    exact Value.convert?_of_fits hf
  · split at h
    next _ value hliteral =>
      obtain rfl : t = .literal value := hliteral
      obtain rfl := Except.ok.inj hv
      split at h
      next converted hc =>
        obtain rfl := Except.ok.inj h
        obtain rfl := Except.ok.inj hw
        exact hc
      next => cases h
    next =>
      obtain rfl := Except.ok.inj h
      exact value_convert hv hw

lemma compared_eq_true {operator : Operator} {type : ColumnType} {left right : Value}
    (hl : left.Fits type) (hr : right.Fits type) (hn : right ≠ .null) :
    Term.compared operator left right = .boolean true ↔
      left ≠ .null ∧ operator.holdsOf (left.order right) := by
  by_cases hnull : left = .null
  · subst hnull
    simp [Term.compared]
  · obtain ⟨order, ho⟩ := Value.order_isSome hl hr hnull hn
    have hc : Term.compared operator left right = .boolean (operator.holdsOf (left.order right)) := by
      cases left <;> cases right <;> first | rfl | contradiction
    rw [hc, Value.boolean.injEq]
    simp [hnull]

section
variable {columns : List Column} {relation : String} {term : Term × ColumnType} {row : List Value}
  {w : Value} {i j : ℕ}

structure Compares (operator : Operator) (literal : Literal) (type : ColumnType) (v w : Value)
    (common : ColumnType) (left right : Value) : Prop where
  common? : ColumnType.common? type (Value.ofLiteral literal).2 = some common
  left? : v.convert? common = some left
  right? : (Value.ofLiteral literal).1.convert? common = some right
  fits_left : left.Fits common
  fits_right : right.Fits common
  null_iff : left = .null ↔ v = .null
  right_ne : right ≠ .null
  value : w = Term.compared operator left right

lemma compares_comparison {column : String} {operator : Operator} {literal : Literal}
    (ht : Term.comparison operator (.column i, typeOf columns column)
      (.literal (Value.ofLiteral literal).1, (Value.ofLiteral literal).2) = .ok term)
    (hi : row[i]?.getD .null = cell columns row column)
    (hf : (cell columns row column).Fits (typeOf columns column)) (hw : term.1.value row = .ok w) :
    ∃ common left right, Compares operator literal (typeOf columns column)
      (cell columns row column) w common left right := by
  rw [Term.comparison] at ht
  split at ht
  next => cases ht
  next common hc =>
    obtain ⟨left, hl, ht⟩ := bind_eq_ok.mp ht
    obtain ⟨right, hr, ht⟩ := bind_eq_ok.mp ht
    obtain rfl := Except.ok.inj ht
    obtain ⟨a, ha, hw⟩ := bind_eq_ok.mp hw
    obtain ⟨b, hb, hw⟩ := bind_eq_ok.mp hw
    obtain rfl := Except.ok.inj hw
    obtain ⟨hlit, hnull⟩ := Value.fits_ofLiteral literal
    have hleft := value_inType hl (value_column hi) hf ha
    have hright := value_inType hr rfl hlit hb
    obtain ⟨hfa, hna⟩ := Value.fits_convert? hf (.inl hc) hleft
    obtain ⟨hfb, hnb⟩ := Value.fits_convert? hlit (.inr hc) hright
    exact ⟨common, a, b, hc, hleft, hright, hfa, hfb, hna, fun h => hnull (hnb.mp h), rfl⟩

section
variable {operator : Operator} {literal : Literal} {type common : ColumnType} {v left right : Value}

lemma Compares.complies_eq (h : Compares operator literal type v w common left right)
    (operator' : Operator) :
    complies operator' literal type v = operator'.holdsOf (left.order right) := by
  rw [complies, h.common?]
  simp only [h.left?, h.right?]

lemma Compares.eq_true_iff (h : Compares operator literal type v w common left right) :
    w = .boolean true ↔ (v ≠ .null && complies operator literal type v) := by
  rw [h.value, compared_eq_true h.fits_left h.fits_right h.right_ne, h.complies_eq, ne_eq, h.null_iff]
  simp

lemma Compares.complies_invert (h : Compares operator literal type v w common left right)
    (hv : v ≠ .null) (operator' : Operator) : complies operator'.invert literal type v =
      !complies operator' literal type v := by
  obtain ⟨order, ho⟩ := Value.order_isSome h.fits_left h.fits_right (mt h.null_iff.mp hv) h.right_ne
  rw [h.complies_eq, h.complies_eq, ho, Operator.holdsOf_invert_of_comparable]

end

lemma dayOf?_ofDay (day : Instant) : dayOf? (.timestamp day.ofDay) = dayOf? (.date day) := by
  cases day with
  | finite n =>
    have hn : n * Instant.microsPerDay / Instant.microsPerDay = n := Int.mul_ediv_cancel n (by decide)
    rw [Instant.ofDay, Instant.map, dayOf?, dayOf?, hn]
  | past | future => rfl

lemma dayOf?_momentOf {t t' : Term} {type : ColumnType} {v w : Value}
    (ht : Term.momentOf (t, type) = .ok t') (hv : t.value row = .ok v) (hf : v.Fits type)
    (hw : t'.value row = .ok w) :
    w.Fits .timestamp ∧ dayOf? w = dayOf? v := by
  rw [Term.momentOf] at ht
  split at ht
  next hd =>
    obtain rfl : type = .date := hd
    have hc := value_inType ht hv hf hw
    have hcommon : ColumnType.common? .date .timestamp = some .timestamp := rfl
    refine ⟨(Value.fits_convert? hf (.inl hcommon) hc).1, ?_⟩
    cases v with
    | null =>
      cases hc
      rfl
    | date day =>
      cases hc
      exact dayOf?_ofDay day
    | integer n => rcases hf with h | h <;> cases h
    | real x | boolean b | text s | timestamp moment => cases hf
  next hm =>
    obtain rfl : type = .timestamp := hm
    have hc := value_inType ht hv hf hw
    rw [Value.convert?_of_fits hf, Option.some_inj] at hc
    exact ⟨hc ▸ hf, by rw [hc]⟩
  next => cases ht

lemma midnights_eq {v w : Value} (hv : v.Fits .timestamp) (hw : w.Fits .timestamp) :
    Term.midnights v w = match dayOf? v, dayOf? w with
      | some a, some b => .integer (b - a)
      | _, _ => .null := by
  cases v with
  | null => rfl
  | timestamp m =>
    cases w with
    | null => cases m <;> rfl
    | timestamp m' => cases m <;> cases m' <;> rfl
    | integer n => rcases hw with h | h <;> cases h
    | real x | boolean b | text s | date day => cases hw
  | integer n => rcases hv with h | h <;> cases h
  | real x | boolean b | text s | date day => cases hv

lemma daysExceed_fulfilled {start finish : String} {limit : ℤ} {a b : Term}
    (ha : Term.momentOf (.column i, typeOf columns start) = .ok a)
    (hb : Term.momentOf (.column j, typeOf columns finish) = .ok b)
    (ht : Term.comparison .greater (.daysBetween a b, .bigint)
      (.literal (.integer limit), .bigint) = .ok term)
    (hi : row[i]?.getD .null = cell columns row start)
    (hj : row[j]?.getD .null = cell columns row finish)
    (hfi : (cell columns row start).Fits (typeOf columns start))
    (hfj : (cell columns row finish).Fits (typeOf columns finish)) (hw : term.1.value row = .ok w) :
    w = .boolean true ↔ fulfils columns row (.daysExceed start finish limit) := by
  obtain rfl := Except.ok.inj ht
  obtain ⟨days, hdays, hw⟩ := bind_eq_ok.mp hw
  obtain ⟨u, hu, hdays⟩ := bind_eq_ok.mp hdays
  obtain ⟨v, hv, hdays⟩ := bind_eq_ok.mp hdays
  obtain rfl := Except.ok.inj hdays
  obtain rfl := Except.ok.inj hw
  obtain ⟨hfu, hdu⟩ := dayOf?_momentOf ha (value_column hi) hfi hu
  obtain ⟨hfv, hdv⟩ := dayOf?_momentOf hb (value_column hj) hfj hv
  rw [midnights_eq hfu hfv, hdu, hdv, fulfils]
  split
  next x y _ _ =>
    simp only [Term.compared, Value.order, Operator.holdsOf, Value.boolean.injEq, decide_eq_true_eq,
      Option.some_inj]
    exact Int.compare_eq_gt
  next => simp [Term.compared]

lemma value_textOf {t : Term} {type : ColumnType} {v u : Value} (hv : t.value row = .ok v)
    (hf : v.Fits type) (hu : (Term.textOf (t, type)).1.value row = .ok u) : u = Term.toText v := by
  rw [Term.textOf] at hu
  split_ifs at hu with ht
  · obtain rfl : type = .text := ht
    obtain rfl := Except.ok.inj (hv.symm.trans hu)
    cases v with
    | null | text s => rfl
    | integer n => rcases hf with h | h <;> cases h
    | real x | boolean b | date day | timestamp moment => cases hf
  · exact value_asText hv hu

lemma blank_fulfilled {column : String} {text : Term}
    (htext : (Term.textOf (.column i, typeOf columns column)).1 = text)
    (ht : term = (.or (.isNull (.column i)) (.compare .equal text (.literal (.text ""))), .boolean))
    (hi : row[i]?.getD .null = cell columns row column)
    (hf : (cell columns row column).Fits (typeOf columns column)) (hw : term.1.value row = .ok w) :
    w = .boolean true ↔ fulfils columns row (.blank column) := by
  subst ht
  obtain ⟨a, ha, hw⟩ := bind_eq_ok.mp hw
  obtain ⟨b, hb, hw⟩ := bind_eq_ok.mp hw
  obtain rfl := Except.ok.inj hw
  obtain rfl := Except.ok.inj ha
  obtain ⟨u, hu, hb⟩ := bind_eq_ok.mp hb
  obtain rfl := Except.ok.inj hb
  obtain rfl := value_textOf (value_column hi) hf (htext ▸ hu)
  rw [hi, fulfils]
  generalize cell columns row column = v
  cases hs : v.text? with
  | none =>
    obtain rfl : v = .null := by cases v <;> first | rfl | cases hs
    simp [Term.disjunction]
  | some s =>
    have hn : v ≠ .null := by
      rintro rfl
      cases hs
    rw [Term.toText, hs]
    simp only [Term.compared, Value.order, Operator.holdsOf, Option.some_inj, Std.compare_eq_iff_eq]
    by_cases he : s = "" <;> simp [he, hn, Term.disjunction]

lemma notMatching_fulfilled {column regex : String}
    (ht : Term.searchIn (Term.textOf (.column i, typeOf columns column))
      (.literal (.text regex), .text) = .ok term)
    (hi : row[i]?.getD .null = cell columns row column)
    (hf : (cell columns row column).Fits (typeOf columns column))
    (hw : (Term.not term.1).value row = .ok w) :
    w = .boolean true ↔ fulfils columns row (.notMatching column regex) := by
  rw [Term.searchIn] at ht
  split at ht
  next pattern htype hpattern =>
    obtain rfl := Value.text.inj (Term.literal.inj hpattern)
    split at ht
    next e he =>
      obtain rfl := Except.ok.inj ht
      obtain ⟨a, ha, hw⟩ := bind_eq_ok.mp hw
      obtain rfl := Except.ok.inj hw
      obtain ⟨u, hu, ha⟩ := bind_eq_ok.mp ha
      obtain rfl := Except.ok.inj ha
      obtain rfl := value_textOf (value_column hi) hf hu
      rw [fulfils, he, Term.toText]
      cases (cell columns row column).text? with
      | none => simp [Term.found, Term.negated]
      | some s => simp [Term.found, Term.negated]
    next => cases ht
  next => cases ht

end

lemma varchar : ColumnType.ofName? "VARCHAR" = some .text := by decide +kernel

lemma ofExpr_cast {scope : Scope} {e : Sql.Expr} {term : Term × ColumnType}
    (h : Term.ofExpr scope e = .ok term) :
    Term.ofExpr scope (.cast e "VARCHAR") = .ok (Term.textOf term) := by
  rw [Term.ofExpr, h, ok_bind, varchar]
  rfl

lemma type_textOf (term : Term × ColumnType) : (Term.textOf term).2 = .text := by
  rw [Term.textOf]
  split_ifs with h
  · exact h
  · rfl

lemma comparison_text (operator : Operator) (term : Term × ColumnType) (s : String) :
    Term.comparison operator (Term.textOf term) (.literal (.text s), .text) =
      .ok (.compare operator (Term.textOf term).1 (.literal (.text s)), .boolean) := by
  have hc : ColumnType.common? (Term.textOf term).2 .text = some .text := by
    rw [type_textOf]
    rfl
  have hi : Term.inType .text (Term.textOf term) = .ok (Term.textOf term).1 := by
    rw [Term.inType, if_pos (type_textOf term)]
  rw [Term.comparison, hc]
  simp only [hi]
  rfl

lemma condition_eq_ok {function : String} {term : Term × ColumnType} {t : Term}
    (h : Term.condition function term = .ok t) : t = term.1 := by
  rw [Term.condition] at h
  split_ifs at h
  exact (Except.ok.inj h).symm

def ownTerm (relation : String) (columns : List Column) (p : Predicate) :
    Except Fault (Term × ColumnType) :=
  Term.ofExpr ⟨relation, columns, p.binds⟩ (p.expr 0)

section
variable {columns : List Column} {relation : String} {term : Term × ColumnType}
  {row : List Value} {w : Value}
variable (hrow : List.Forall₂ (fun column v => v.Fits column.type) columns row)
  (hw : term.1.value row = .ok w)
include hrow hw

lemma compares_ownTerm {column : String} {operator : Operator} {literal : Literal}
    (ht : ownTerm relation columns (.compare column operator literal) = .ok term) :
    ∃ common left right, Compares operator literal (typeOf columns column)
      (cell columns row column) w common left right := by
  obtain ⟨left, hl, ht⟩ := bind_eq_ok.mp ht
  obtain ⟨right, hr, ht⟩ := bind_eq_ok.mp ht
  obtain ⟨i, rfl, hi⟩ := scope_column hl
  obtain rfl := Except.ok.inj hr
  exact compares_comparison ht (hi row) (fits_cell hrow column) hw

lemma ownTerm_fulfilled {p : Predicate} (ht : ownTerm relation columns p = .ok term) :
    w = .boolean true ↔ fulfils columns row p := by
  -- in each case the columns are found, then the tree is resolved from its leaves up
  cases p with
  | compare column operator literal =>
    obtain ⟨_, _, _, hcompares⟩ := compares_ownTerm hrow hw ht
    exact hcompares.eq_true_iff
  | daysExceed start finish days =>
    obtain ⟨days, hdays, ht⟩ := bind_eq_ok.mp ht
    obtain ⟨bound, hbound, ht⟩ := bind_eq_ok.mp ht
    obtain rfl := Except.ok.inj hbound
    rw [Term.ofExpr] at hdays
    obtain ⟨left, hl, hdays⟩ := bind_eq_ok.mp hdays
    obtain ⟨u, hu, hdays⟩ := bind_eq_ok.mp hdays
    obtain ⟨right, hr, hdays⟩ := bind_eq_ok.mp hdays
    obtain ⟨v, hv, hdays⟩ := bind_eq_ok.mp hdays
    obtain rfl := Except.ok.inj hdays
    obtain ⟨i, rfl, hi⟩ := scope_column hl
    obtain ⟨j, rfl, hj⟩ := scope_column hr
    exact daysExceed_fulfilled hu hv ht (hi row) (hj row) (fits_cell hrow start)
      (fits_cell hrow finish) hw
  | blank column =>
    obtain ⟨l, hl, ht⟩ := bind_eq_ok.mp ht
    obtain ⟨l', hl', ht⟩ := bind_eq_ok.mp ht
    obtain ⟨r, hr, ht⟩ := bind_eq_ok.mp ht
    obtain ⟨r', hr', ht⟩ := bind_eq_ok.mp ht
    obtain rfl := Except.ok.inj ht
    obtain rfl := condition_eq_ok hl'
    obtain rfl := condition_eq_ok hr'
    obtain ⟨shown, hshown, hl⟩ := bind_eq_ok.mp hl
    have hcast := ofExpr_cast (e := .column [column]) hshown
    obtain ⟨i, rfl, hi⟩ := scope_column hshown
    obtain rfl := Except.ok.inj hl
    obtain ⟨text, htext, hr⟩ := bind_eq_ok.mp hr
    obtain rfl := Except.ok.inj (hcast.symm.trans htext)
    obtain ⟨empty, hempty, hr⟩ := bind_eq_ok.mp hr
    obtain rfl := Except.ok.inj hempty
    obtain rfl := Except.ok.inj ((comparison_text _ _ _).symm.trans hr)
    exact blank_fulfilled rfl rfl (hi row) (fits_cell hrow column) hw
  | notMatching column regex =>
    obtain ⟨found, hfound, ht⟩ := bind_eq_ok.mp ht
    obtain ⟨negated, hnegated, ht⟩ := bind_eq_ok.mp ht
    obtain rfl := Except.ok.inj ht
    obtain rfl := condition_eq_ok hnegated
    rw [Term.ofExpr] at hfound
    obtain ⟨text, htext, hfound⟩ := bind_eq_ok.mp hfound
    obtain ⟨bound, hbound, hfound⟩ := bind_eq_ok.mp hfound
    obtain rfl := Except.ok.inj hbound
    obtain ⟨shown, hshown, _⟩ := bind_eq_ok.mp htext
    obtain rfl := Except.ok.inj ((ofExpr_cast hshown).symm.trans htext)
    obtain ⟨i, rfl, hi⟩ := scope_column hshown
    exact notMatching_fulfilled hfound (hi row) (fits_cell hrow column) hw

lemma fulfils_violation {table : TableSchema} {condition : Condition} {p : Predicate}
    (hp : Query.violation table condition = .ok p) (ht : ownTerm relation columns p = .ok term) :
    fulfils columns row p = violates columns row condition := by
  cases condition with
  | threshold column operator literal =>
    obtain ⟨c, hc, hp⟩ := bind_eq_ok.mp hp
    obtain rfl := Except.ok.inj hp
    have hname := (TableSchema.column_mem hc).2
    obtain ⟨_, _, _, hcompares⟩ := compares_ownTerm hrow hw ht
    rw [cell_congr hname, typeOf_congr hname] at hcompares
    rw [fulfils, violates, cell_congr hname, typeOf_congr hname]
    by_cases hnull : cell columns row column = .null
    · simp [hnull]
    · rw [hcompares.complies_invert hnull]
  | dateDifference start finish maxDays =>
    obtain ⟨a, ha, hp⟩ := bind_eq_ok.mp hp
    obtain ⟨b, hb, hp⟩ := bind_eq_ok.mp hp
    obtain rfl := Except.ok.inj hp
    rw [fulfils, violates, cell_congr (TableSchema.column_mem ha).2,
      cell_congr (TableSchema.column_mem hb).2]
  | notNull column | pattern column =>
    obtain ⟨c, hc, hp⟩ := bind_eq_ok.mp hp
    obtain rfl := Except.ok.inj hp
    rw [fulfils, violates, cell_congr (TableSchema.column_mem hc).2]

end

/-! The rows that are shown -/

lemma pairwise_of_distinct {names : List String} (h : hasRepeatedName names = false) :
    names.Pairwise fun a b => equalIgnoringCase a b = false := by
  induction names with
  | nil => exact .nil
  | cons name names ih =>
    rw [hasRepeatedName, Bool.or_eq_false_iff, List.any_eq_false] at h
    exact .cons (fun b hb => Bool.eq_false_iff.mpr (h.1 b hb)) (ih h.2)

lemma scope_get {columns : List Column} (hd : hasRepeatedName (columns.map (·.name)) = false)
    (relation : String) (binds : List Literal) {i : ℕ} (hi : i < columns.length) :
    Scope.column ⟨relation, columns, binds⟩ columns[i].name = .ok (.column i, columns[i].type) := by
  have hp := List.pairwise_iff_getElem.mp (List.pairwise_map.mp (pairwise_of_distinct hd))
  have hidx : columns.findIdx? (fun column => equalIgnoringCase column.name columns[i].name) =
    some i := by
    refine List.findIdx?_eq_some_iff_getElem.mpr ⟨hi, equalIgnoringCase_iff.mpr rfl, fun j hj => ?_⟩
    rw [hp j i (hj.trans hi) hi hj]
    exact Bool.false_ne_true
  rw [Scope.column, hidx]
  simp only [List.getElem?_eq_getElem hi]

lemma text?_toText (v : Value) : (Term.toText v).text? = v.text? := by
  rw [Term.toText]
  split
  next h => exact h.symm
  next h => exact h.symm

lemma shown_eq {columns : List Column} (hd : hasRepeatedName (columns.map (·.name)) = false)
    {relation : String} {binds : List Literal} {plan : Plan}
    (hitems : ((columns.map (·.name)).map Query.shownItem).mapM
      (fun item => do return (Term.textOf
        (← Term.ofExpr ⟨relation, columns, binds⟩ item.value)).1) = .ok plan.items)
    {row : List Value} (hrow : List.Forall₂ (fun column v => v.Fits column.type) columns row)
    {texts : List (Option String)} (h : plan.shown row = .ok texts) : texts = row.map Value.text? := by
  obtain ⟨hl, hitem⟩ := List.forall₂_iff_get.mp (mapM_eq_ok.mp hitems)
  obtain ⟨hl', htext⟩ := List.forall₂_iff_get.mp (mapM_eq_ok.mp h)
  obtain ⟨hl'', hfits⟩ := List.forall₂_iff_get.mp hrow
  rw [List.length_map, List.length_map] at hl
  refine List.ext_getElem (by rw [List.length_map]; omega) fun i hi hi' => ?_
  have hcolumn : i < columns.length := by omega
  obtain ⟨term, hterm, he⟩ := bind_eq_ok.mp (hitem i (by simpa using hcolumn) (by omega))
  obtain ⟨v, hv, hshown⟩ := bind_eq_ok.mp (htext i (by omega) hi)
  have hcast := ofExpr_cast (e := .column [columns[i].name]) (scope_get hd relation binds hcolumn)
  simp only [List.get_eq_getElem, List.getElem_map, Query.shownItem] at hterm
  obtain rfl := Except.ok.inj (hcast.symm.trans hterm)
  -- an item is a cast to text already, and the answer casts it once more
  have ht : Term.textOf (Term.textOf (.column i, columns[i].type)) =
    Term.textOf (.column i, columns[i].type) :=
    if_pos (type_textOf _)
  have hrowi : row[i]?.getD .null = row[i] := by
    rw [List.getElem?_eq_getElem (by omega), Option.getD_some]
  rw [ht] at he
  rw [← Except.ok.inj he] at hv
  have hcell : (Term.column i).value row = .ok row[i] := value_column hrowi
  have hvalue := value_textOf hcell (hfits i hcolumn (by omega)) hv
  have hs : v.text? = texts[i] := Except.ok.inj hshown
  rw [← hs, hvalue, text?_toText, List.getElem_map]

lemma kept_eq {plan : Plan} {p : List Value → Bool} {rows kept : List (List Value)}
    (hp : ∀ row ∈ rows, ∀ b, plan.keeps row = .ok b → b = p row) (h : plan.kept rows = .ok kept) :
    kept = rows.filter p := by
  induction rows generalizing kept with
  | nil =>
    cases h
    rfl
  | cons row rows ih =>
    obtain ⟨keep, hkeep, h⟩ := bind_eq_ok.mp h
    obtain ⟨rest, hrest, h⟩ := bind_eq_ok.mp h
    obtain rfl := Except.ok.inj h
    obtain rfl := hp row (List.mem_cons_self ..) keep hkeep
    rw [ih (fun row hrow => hp row (List.mem_cons_of_mem _ hrow)) hrest, List.filter_cons]

lemma limitOf_map (limit : Option ℕ) : Plan.limitOf (limit.map fun n => .number (toString n)) =
    .ok limit := by
  cases limit with
  | none => rfl
  | some n =>
    have hdigits : (toString n).toList = Nat.toDigits 10 n := Nat.toList_repr
    rw [Option.map_some, Plan.limitOf, hdigits, Number.natOfDigits?_toDigits]

lemma ofQuery_eq_ok {scope : Scope} {table : TableSchema} {p : Predicate} {limit : Option ℕ}
    {plan : Plan} (h : Plan.ofQuery scope (Query.queryOf table p [] limit)
      (Query.selectOf table p []) = .ok plan) :
    ∃ term, Term.ofExpr scope (p.expr 0) = .ok term ∧ plan.filter = some term.1 ∧ plan.limit = limit ∧
      (table.columns.map Query.shownItem).mapM
        (fun item => do return (Term.textOf (← Term.ofExpr scope item.value)).1) = .ok plan.items := by
  obtain ⟨items, hitems, h⟩ := bind_eq_ok.mp h
  obtain ⟨term, hterm, h⟩ := bind_eq_ok.mp h
  obtain ⟨t, ht, h⟩ := bind_eq_ok.mp h
  obtain rfl := condition_eq_ok ht
  obtain ⟨filter, hfilter, h⟩ := bind_eq_ok.mp h
  obtain rfl := Except.ok.inj hfilter
  obtain ⟨rows, hrows, h⟩ := bind_eq_ok.mp h
  obtain rfl := Except.ok.inj h
  exact ⟨term, hterm, rfl, Except.ok.inj (hrows.symm.trans (limitOf_map limit)), hitems⟩

def cut {α : Type} (limit : Option ℕ) (rows : List α) : List α := limit.elim rows rows.take

lemma mem_of_mem_cut {α : Type} {limit : Option ℕ} {rows : List α} {row : α}
    (h : row ∈ cut limit rows) : row ∈ rows := by
  cases limit with
  | none => exact h
  | some n => exact List.mem_of_mem_take h

lemma map_cut {α β : Type} (f : α → β) (limit : Option ℕ) (rows : List α) :
    (cut limit rows).map f = cut limit (rows.map f) := by
  cases limit with
  | none => rfl
  | some n => exact List.map_take

lemma rows_eq_violating {table : TableSchema} {columns : List Column}
    (hn : columns.map (·.name) = table.columns)
    (hd : hasRepeatedName (columns.map (·.name)) = false) {condition : Condition} {p : Predicate}
    (hp : Query.violation table condition = .ok p) {relation : String} {limit : Option ℕ}
    {plan : Plan}
    (hplan : Plan.ofQuery ⟨relation, columns, p.binds⟩ (Query.queryOf table p [] limit)
      (Query.selectOf table p []) = .ok plan)
    {rows : List (List Value)}
    (hrows : ∀ row ∈ rows, List.Forall₂ (fun column v => v.Fits column.type) columns row)
    {shown : List (List (Option String))} (h : plan.rows rows = .ok shown) :
    shown =
      cut limit ((rows.filter fun row => violates columns row condition).map (·.map Value.text?)) := by
  obtain ⟨term, hterm, hfilter, hlimit, hitems⟩ := ofQuery_eq_ok hplan
  have hcut : plan.rows rows = plan.kept rows >>= fun kept => (cut limit kept).mapM plan.shown := by
    rw [Plan.rows, hlimit]
    cases limit <;> rfl
  rw [hcut] at h
  obtain ⟨kept, hkept, h⟩ := bind_eq_ok.mp h
  have hk : kept = rows.filter fun row => violates columns row condition := by
    refine kept_eq (fun row hrow keep hkeep => ?_) hkept
    rw [Plan.keeps, hfilter] at hkeep
    obtain ⟨w, hw, hkeep⟩ := bind_eq_ok.mp hkeep
    obtain rfl := Except.ok.inj hkeep
    rw [← fulfils_violation (hrows row hrow) hw hp hterm, Bool.eq_iff_iff, decide_eq_true_iff]
    exact ownTerm_fulfilled (hrows row hrow) hw hterm
  subst hk
  rw [← map_cut]
  refine eq_map_of_mapM (fun row hrow texts htexts => ?_) h
  rw [← hn] at hitems
  exact shown_eq hd hitems (hrows row (List.mem_filter.mp (mem_of_mem_cut hrow)).1) htexts

structure Describes (catalog : Catalog) (find : Lookup) : Prop where
  found : ∀ table ∈ catalog.tables, ∃ r, find table.name = some r ∧ r.columnNames = table.columns
  proper : ∀ name r, find name = some r → r.Proper

def Unquoted (catalog : Catalog) : Prop :=
  ∀ table ∈ catalog.tables, '"' ∉ table.name.toList ∧ ∀ column ∈ table.columns, '"' ∉ column.toList

lemma runQuery_queryOf {text : String} {table : TableSchema} {p : Predicate} {limit : Option ℕ}
    (h : Sql.readSelect text = .ok (Query.queryOf table p [] limit)) (find : Lookup) (depth : ℕ)
    (binds : List Literal) :
    runQuery find depth text binds =
      match find table.name with
      | none => .error (.unknownTable table.name)
      | some relation => do
        let plan ← Plan.ofQuery ⟨relation.name, relation.columns, binds⟩ (Query.queryOf table p [] limit)
          (Query.selectOf table p [])
        match ← relation.stored find depth with
        | some rows => return .rows (← plan.rows rows)
        | none => return .endless := by
  rw [runQuery, h]
  have hread : readRelation find depth (Query.selectOf table p []).tables =
      match find table.name with
      | none => .error (.unknownTable table.name)
      | some relation => .ok relation := rfl
  change (do
    let relation ← readRelation find depth (Query.selectOf table p []).tables
    let plan ← Plan.ofQuery ⟨relation.name, relation.columns, binds⟩ (Query.queryOf table p [] limit)
      (Query.selectOf table p [])
    match ← relation.stored find depth with
    | some rows => return .rows (← plan.rows rows)
    | none => return .endless : Except Fault Answer) = _
  rw [hread]
  cases find table.name <;> rfl

lemma quotable_of_unquoted {catalog : Catalog} {subject : Query.Subject} {condition : Condition}
    {p : Predicate} (hu : Unquoted catalog) (hmem : subject.table ∈ catalog.tables)
    (hv : Query.violation subject.table condition = .ok p) :
    ∀ name ∈ (Query.template subject p).filterMap Sql.Token.name?, Sql.Identifier.Quotable name := by
  obtain ⟨hname, hnames⟩ := hu subject.table hmem
  refine (Query.quotable_template hv).mpr ⟨?_, fun c hc => ?_⟩
  · exact Sql.Identifier.quotable_of_no_quote hname
  · exact Sql.Identifier.quotable_of_no_quote (hnames c hc)

lemma runQuery_eq_violating {catalog : Catalog} {find : Lookup} {subject : Query.Subject}
    {condition : Condition} {p : Predicate} {limit : Option ℕ} {depth : ℕ} {text : String}
    {answer : Answer} (hd : Describes catalog find) (hmem : subject.table ∈ catalog.tables)
    (hne : subject.table.columns ≠ []) (hv : Query.violation subject.table condition = .ok p)
    (hread : Sql.Token.read text.toList = .ok (Query.template subject p ++ Query.limitTokens limit))
    (h : runQuery find depth text p.binds = .ok answer) :
    ∃ relation, find subject.table.name = some relation ∧ relation.columnNames = subject.table.columns ∧
      ((∃ rows, relation.stored find depth = .ok (some rows) ∧
        answer = .rows (cut limit ((rows.filter fun row => violates relation.columns row condition).map
          (·.map Value.text?)))) ∨
      (relation.stored find depth = .ok none ∧ answer = .endless)) := by
  obtain ⟨relation, hr, hcolumns⟩ := hd.found subject.table hmem
  refine ⟨relation, hr, hcolumns, ?_⟩
  rw [runQuery_queryOf (Query.readSelect_eq hne hread), hr] at h
  obtain ⟨plan, hplan, h⟩ := bind_eq_ok.mp h
  obtain ⟨stored, hstored, h⟩ := bind_eq_ok.mp h
  cases stored with
  | none => exact .inr ⟨hstored, (Except.ok.inj h).symm⟩
  | some rows =>
    obtain ⟨shown, hshown, h⟩ := bind_eq_ok.mp h
    obtain rfl := Except.ok.inj h
    have hproper := hd.proper _ relation hr
    have hfits := Relation.fits_stored hd.proper hproper hstored
    exact .inl ⟨rows, hstored, by rw [rows_eq_violating hcolumns hproper.distinct hv hplan hfits hshown]⟩

/-- The query of a rule answers with the rows that violate it, in their order and each as often as
it is there, and shows all their values as text. -/
theorem answer_eq_violating {catalog : Catalog} {find : Lookup} {rule : Rule} {q : Query}
    {depth : ℕ} {answer : Answer} (hd : Describes catalog find) (hu : Unquoted catalog)
    (hq : Query.compile catalog rule = .ok q) (h : runQuery find depth q.sql q.binds = .ok answer) :
    ∃ spec table relation, rule.spec = .ok spec ∧ catalog.table spec.target.table = .ok table ∧
      find table.name = some relation ∧ relation.columnNames = table.columns ∧
      ((∃ rows, relation.stored find depth = .ok (some rows) ∧
        answer = .rows ((rows.filter fun row => violates relation.columns row spec.condition).map
          (·.map Value.text?))) ∨
      (relation.stored find depth = .ok none ∧ answer = .endless)) := by
  obtain ⟨spec, subject, p, hs, hf, hv, rfl, _⟩ := Query.compile_eq_ok hq
  obtain ⟨htable, _⟩ := Query.Subject.find_eq_ok hf
  obtain ⟨hmem, hne⟩ := Catalog.mem_tables htable
  have hread : Sql.Token.read (Query.textOf subject.table [p]).toList =
      .ok (Query.template subject p ++ Query.limitTokens none) := by
    rw [Query.limitTokens, List.append_nil]
    exact (Query.read_textOf_iff subject p).mpr (quotable_of_unquoted hu hmem hv)
  rw [Query.ofText, show [p].flatMap Predicate.binds = p.binds from List.flatMap_singleton ..] at h
  obtain ⟨relation, hanswer⟩ := runQuery_eq_violating hd hmem hne hv hread h
  exact ⟨spec, subject.table, relation, hs, htable, hanswer⟩

def people : Relation where
  name := "People"
  columns := [⟨"Id", .text⟩, ⟨"Age", .integer⟩]
  source := .stored [[.text "a", .integer 18], [.text "b", .null], [.text "c", .integer 17]]

def findPeople : Lookup := fun name => if name = "People" then some people else none

def ageQuery : Query where
  sql :=
    "SELECT CAST(\"Id\" AS VARCHAR) AS \"Id\", CAST(\"Age\" AS VARCHAR) AS \"Age\" FROM \"People\" WHERE \"Age\" != ?"
  binds := [.integer 18]
  table := "People"
  columns := ["Id", "Age"]
  primaryKey := "Id"

theorem answer_ageQuery :
    Query.compile Query.peopleCatalog Query.ageRule = .ok ageQuery ∧
      runQuery findPeople 0 ageQuery.sql ageQuery.binds = .ok (.rows [[some "c", some "17"]]) ∧
      ∃ spec table relation, Query.ageRule.spec = .ok spec ∧
        Query.peopleCatalog.table spec.target.table = .ok table ∧
        findPeople table.name = some relation ∧ relation.columnNames = table.columns ∧
        ((∃ rows, relation.stored findPeople 0 = .ok (some rows) ∧
          Answer.rows [[some "c", some "17"]] =
            .rows ((rows.filter fun row => violates relation.columns row spec.condition).map
              (·.map Value.text?))) ∨
        (relation.stored findPeople 0 = .ok none ∧ Answer.rows [[some "c", some "17"]] = .endless)) := by
  have hd : Describes Query.peopleCatalog findPeople := by
    refine ⟨fun table ht => ?_, fun name r hr => ?_⟩
    · obtain rfl := List.mem_singleton.mp ht
      exact ⟨people, rfl, rfl⟩
    · rw [findPeople] at hr
      split_ifs at hr
      obtain rfl := Option.some.inj hr
      refine ⟨by decide +kernel, fun rows hrows row hrow => ?_⟩
      obtain rfl := Source.stored.inj hrows
      simp only [List.mem_cons, List.not_mem_nil, or_false] at hrow
      rcases hrow with rfl | rfl | rfl <;> simp [people, Value.Fits]
  have hu : Unquoted Query.peopleCatalog := by
    unfold Unquoted
    decide +kernel
  have hq : Query.compile Query.peopleCatalog Query.ageRule = .ok ageQuery := by decide +kernel
  have ha : runQuery findPeople 0 ageQuery.sql ageQuery.binds =
    .ok (.rows [[some "c", some "17"]]) := by decide +kernel
  exact ⟨hq, ha, answer_eq_violating hd hu hq ha⟩

end Compliance.Database
