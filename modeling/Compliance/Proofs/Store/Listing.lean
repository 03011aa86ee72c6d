import Compliance.Proofs.Store.Recording
import Compliance.Proofs.Store.Rules

/-! Listings of violations: one with a filter leaves out some of what the one without a filter
shows, in the same order. -/

namespace Compliance

open Database ListFacts Result

def Violation.Filter.selects (filter : Violation.Filter) (v : Violation) : Bool :=
  filter.severity.all (· = v.severity) && filter.status.all (· = v.status)

def Violation.Filter.everything : Violation.Filter := ⟨none, none⟩

namespace Store

namespace ViolationRow

lemma before_iff {a b : ViolationRow} :
    a.before b ↔ b.createdAt.order a.createdAt = .lt ∨ a.createdAt = b.createdAt ∧ a.id ≤ b.id := by
  rw [before, ← Instant.order_eq_eq, ← Instant.order_eq_gt]
  cases a.createdAt.order b.createdAt <;> simp

lemma before_trans (a b c : ViolationRow) (hab : a.before b) (hbc : b.before c) : a.before c := by
  rw [before_iff] at hab hbc ⊢
  exact lex_trans (r := fun a b => Instant.order b a = .lt)
    (fun _ _ _ h h' => Instant.order_lt_trans h' h) hab hbc

lemma before_total (a b : ViolationRow) : (a.before b || b.before a) = true := by
  rw [Bool.or_eq_true, before_iff, before_iff]
  have htrichotomy := Instant.order_trichotomy b.createdAt a.createdAt
  exact lex_total (r := fun a b => Instant.order b a = .lt) (by rwa [@eq_comm _ a.createdAt]) a.id b.id

end ViolationRow

def listed (rules : List RuleRow) (rows : List ViolationRow) : List (ViolationRow × RuleRow) :=
  (rows.flatMap (joined rules)).mergeSort fun a b => a.1.before b.1

variable {s : Store} {table : RuleTable} {rows : List ViolationRow} {rules : List RuleRow}
  {filter : Violation.Filter}

lemma mem_listed {pair : ViolationRow × RuleRow} :
    pair ∈ listed rules rows ↔ pair.1 ∈ rows ∧ pair.2 ∈ rules ∧ pair.2.id = pair.1.ruleId := by
  obtain ⟨row, rule⟩ := pair
  simp only [listed, List.mem_mergeSort, List.mem_flatMap, joined, List.mem_map, List.mem_filter,
    decide_eq_true_eq, Prod.mk.injEq]
  constructor
  · rintro ⟨row', hrow, rule', ⟨hrule, hid⟩, rfl, rfl⟩
    exact ⟨hrow, hrule, hid⟩
  · rintro ⟨hrow, hrule, hid⟩
    exact ⟨row, hrow, rule, ⟨hrule, hid⟩, rfl, rfl⟩

lemma pairwise_listed (rules : List RuleRow) (rows : List ViolationRow) :
    (listed rules rows).Pairwise fun a b => a.1.before b.1 :=
  List.pairwise_mergeSort (fun a b c => ViolationRow.before_trans a.1 b.1 c.1)
    (fun a b => ViolationRow.before_total a.1 b.1) _

lemma flatMap_joined_filter (p : ViolationRow → Bool) (rules : List RuleRow) (rows : List ViolationRow) :
    (rows.filter p).flatMap (joined rules) = (rows.flatMap (joined rules)).filter (p ·.1) := by
  induction rows with
  | nil => rfl
  | cons row rows ih =>
    have hrow : (joined rules row).filter (p ·.1) = if p row then joined rules row else [] := by
      rw [joined, List.filter_map]
      cases hp : p row <;> simp [Function.comp_def, hp]
    rw [List.flatMap_cons, List.filter_append, hrow, List.filter_cons, ← ih]
    split_ifs
    · rfl
    · rfl

lemma listViolations_eq (hs : s.rules = some table) (hrows : s.violations = some rows)
    (filter : Violation.Filter) :
    s.listViolations filter = ((listed table.rows rows).filter (accepts filter ·.1)).mapM viewOf := by
  rw [listed, filter_mergeSort (fun a b c => ViolationRow.before_trans a.1 b.1 c.1)
    (fun a b => ViolationRow.before_total a.1 b.1), ← flatMap_joined_filter]
  rw [listViolations, violationRows_eq_ok.mpr hrows, ruleTable, hs]
  rfl

lemma accepts_everything (row : ViolationRow) : accepts .everything row := rfl

lemma listViolations_everything (hs : s.rules = some table) (hrows : s.violations = some rows) :
    s.listViolations .everything = (listed table.rows rows).mapM viewOf := by
  have hall : (listed table.rows rows).filter (accepts .everything ·.1) = listed table.rows rows :=
    List.filter_eq_self.mpr fun pair _ => accepts_everything pair.1
  rw [listViolations_eq hs hrows, hall]

lemma viewOf_eq_ok {pair : ViolationRow × RuleRow} {view : Violation.View} : viewOf pair = .ok view ↔
    ∃ v, pair.1.toViolation = .ok v ∧ view = ⟨v, pair.2.name, pair.2.kind⟩ := by
  rw [viewOf, bind_eq_ok]
  simp only [pure_eq_ok, @eq_comm _ view]

lemma toViolation_eq_ok {row : ViolationRow} {v : Violation} : row.toViolation = .ok v ↔
    Violation.Severity.ofName? row.severity = some v.severity ∧
      Violation.Status.ofName? row.status = some v.status ∧
      ViolationRow.readEvidence row.evidence = .ok v.evidence ∧
        readInstant violationsName row.createdAt = .ok v.createdAt ∧
      v.id = row.id ∧ v.ruleId = row.ruleId ∧ v.recordId = row.recordId ∧ v.table = row.table ∧
      v.explanation = row.explanation := by
  have hname :
    ∀ {α : Type} {read : String → Option α} {message : String → String} {text : String} {a : α},
      ViolationRow.readName read message text = .ok a ↔ read text = some a := by
    intro α read message text a
    rw [ViolationRow.readName]
    cases read text <;> simp
  obtain ⟨id, ruleId, recordId, tableName, severity, status, evidence, explanation, createdAt⟩ := v
  simp only [ViolationRow.toViolation, bind_eq_ok, hname, pure_eq_ok, Violation.mk.injEq]
  grind

end Store

end Compliance
