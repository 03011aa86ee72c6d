import Mathlib.Logic.Relation
import Compliance.Proofs.Rule.Import
import Compliance.Proofs.Store.Findings
import Compliance.Proofs.Store.Rows
import Compliance.Store.Tables

/-! What the program does to a store: it adds rows after those that are there and changes none. -/

namespace Compliance.Store

open Database ListFacts Result Scan

structure Finding where
  rule : Rule
  violation : Violation

/-- What may happen to a store, and what has been found by it. An operation that fails leaves the
store as it was and is none. The clock shows a time of our era. -/
inductive Operation : Store → List Finding → Store → Prop
  | bootstraps {s s' : Store} (h : s.bootstrap = .ok s') : Operation s [] s'
  | imports {s s' : Store} {newId : ℕ → String} {now : Time.Timestamp} {entries : List Rule.Entry}
    {summary : Rule.ImportSummary}
    (hclock : now.IsOfEra)
      (h : Rule.Import.run insertRules newId now entries s = .ok (summary, s')) : Operation s [] s'
  | scans {s s' : Store} {refusals : Refusals} {newId : ℕ → String} {settings : Settings} {clock : Clock}
    {moments : List Moment} {evaluations : List Evaluation} {report : Report} {rules : List Rule}
      {findings : List Finding}
    (hclock : clock.startedAt.IsOfEra)
    (hended : ((Process.begin (Session.opened s)).run (ports refusals newId clock.startedAt)
      settings clock moments).stage = .ended evaluations (.ok report))
    (hstate : ((Process.begin (Session.opened s)).run (ports refusals newId clock.startedAt)
      settings clock moments).state = .opened s')
    (hrecorded : persist newId clock.startedAt (evaluations.flatMap (·.outcome.candidates))
      settings.dedup s = .ok (findings.map (·.violation), s'))
    (hfetched : s.fetchRules Rule.Status.scannable = .ok rules)
    (hfound : ∀ finding ∈ findings, finding.rule ∈ rules ∧ finding.rule.id = finding.violation.ruleId) :
    Operation s findings s'
  | changesData (s : Store) (relations : List Relation) : Operation s [] { s with relations }

variable {s s' : Store} {table table' : RuleTable} {rules : List Rule} {findings : List Finding}

lemma exists_rule_of_recorded {newId : ℕ → String} {settings : Settings} {startedAt : Time.Timestamp}
    {evaluations : List Evaluation} {report : Report} {catalog : Catalog} {recorded : List Violation}
    (h : Records newId settings startedAt s s' evaluations report rules catalog recorded)
    {v : Violation} (hv : v ∈ recorded) :
    ∃ rule ∈ rules, rule.id = v.ruleId := by
  obtain ⟨rule, hrule, _, _, hof, _, hc, _, rfl⟩ := h.exists_source hv
  exact ⟨rule, hrule, hof.ruleId_eq.symm.trans (hof.candidate_ruleId hc).symm⟩

theorem exists_operation {refusals : Refusals} {newId : ℕ → String} {settings : Settings} {clock : Clock}
    {moments : List Moment} {evaluations : List Evaluation} {report : Report}
    (hclock : clock.startedAt.IsOfEra)
    (hended : ((Process.begin (Session.opened s)).run (ports refusals newId clock.startedAt)
      settings clock moments).stage = .ended evaluations (.ok report)) :
    ∃ findings s', Operation s findings s' ∧
      ((Process.begin (Session.opened s)).run (ports refusals newId clock.startedAt)
        settings clock moments).state = .opened s' := by
  obtain ⟨s', rules, catalog, recorded, h, hstate⟩ := exists_records hended
  have hrule : ∀ l : List Violation, (∀ v ∈ l, v ∈ recorded) →
      ∃ findings : List Finding, findings.map (·.violation) = l ∧
        ∀ finding ∈ findings, finding.rule ∈ rules ∧ finding.rule.id = finding.violation.ruleId := by
    intro l
    induction l with
    | nil => exact fun _ => ⟨[], rfl, fun _ hf => nomatch hf⟩
    | cons v l ih =>
      intro hl
      obtain ⟨findings, rfl, hfindings⟩ := ih fun w hw => hl w (List.mem_cons_of_mem _ hw)
      obtain ⟨rule, hmem, hid⟩ := exists_rule_of_recorded h (hl v (List.mem_cons_self ..))
      exact ⟨⟨rule, v⟩ :: findings, rfl, List.forall_mem_cons.mpr ⟨⟨hmem, hid⟩, hfindings⟩⟩
  obtain ⟨findings, rfl, hfound⟩ := hrule recorded fun _ hv => hv
  exact ⟨findings, s', .scans hclock hended hstate h.persisted h.fetched hfound, hstate⟩

structure Extends (table table' : RuleTable) (added : List RuleRow) : Prop where
  rows_eq : table'.rows = table.rows ++ added
  source : table.hasSource → table'.hasSource
  fresh : ∀ row ∈ added, ∀ r ∈ table.rows, r.id ≠ row.id
  distinct : (added.map (·.id)).Nodup

lemma addRule_eq_ok {rule : Rule} (h : addRule table rule = .ok table') :
    table.hasSource ∧ ∃ row, rowOfRule rule = .ok row ∧ (∀ r ∈ table.rows, r.id ≠ row.id) ∧
      table' = { table with rows := table.rows ++ [row] } := by
  rw [addRule] at h
  cases hsource : table.hasSource with
  | false =>
    rw [hsource] at h
    cases h
  | true =>
    rw [hsource] at h
    obtain ⟨row, hrow, h⟩ := bind_eq_ok.mp h
    obtain ⟨rows, hrows, h⟩ := bind_eq_ok.mp h
    obtain ⟨hfresh, rfl⟩ := addRow_eq_ok.mp hrows
    exact ⟨rfl, row, hrow, hfresh, (pure_eq_ok.mp h).symm⟩

lemma addRules_eq_ok (h : rules.foldlM addRule table = .ok table') :
    ∃ added, List.Forall₂ (fun rule row => rowOfRule rule = .ok row) rules added ∧
      Extends table table' added ∧
      (rules ≠ [] → table'.hasSource) := by
  induction rules generalizing table with
  | nil =>
    obtain rfl := pure_eq_ok.mp h
    exact ⟨[], .nil, ⟨(List.append_nil _).symm, id, (fun _ hr => nomatch hr), List.nodup_nil⟩,
      fun hne => absurd rfl hne⟩
  | cons rule rules ih =>
    rw [List.foldlM_cons] at h
    obtain ⟨between, hfirst, h⟩ := bind_eq_ok.mp h
    obtain ⟨hsource, row, hrow, hfresh, rfl⟩ := addRule_eq_ok hfirst
    obtain ⟨added, hadded, hextends, _⟩ := ih h
    refine ⟨row :: added, .cons hrow hadded, ⟨?_, fun _ => hextends.source hsource, ?_, ?_⟩,
      fun _ => hextends.source hsource⟩
    · rw [hextends.rows_eq, List.append_assoc]
      rfl
    · refine List.forall_mem_cons.mpr ⟨hfresh, fun r hr other hother => ?_⟩
      exact hextends.fresh r hr other (List.mem_append_left _ hother)
    · refine List.nodup_cons.mpr ⟨fun hmem => ?_, hextends.distinct⟩
      obtain ⟨r, hr, hid⟩ := List.mem_map.mp hmem
      exact hextends.fresh r hr row (List.mem_append_right _ (List.mem_singleton_self row)) hid.symm

lemma exists_table_of_insertRules (h : insertRules rules s = .ok s') (hne : rules ≠ []) : ∃ table,
    s.rules = some table := by
  have h := mapError_eq_ok.mp h
  rw [if_neg hne] at h
  obtain ⟨table, htable, _⟩ := bind_eq_ok.mp h
  rw [ruleTable] at htable
  cases hs : s.rules with
  | some table => exact ⟨table, rfl⟩
  | none =>
    rw [hs] at htable
    cases htable

lemma insertRules_eq_ok (h : insertRules rules s = .ok s') (hs : s.rules = some table) :
    ∃ table' added, List.Forall₂ (fun rule row => rowOfRule rule = .ok row) rules added ∧
      Extends table table' added ∧
      (rules ≠ [] → table'.hasSource) ∧ s' = { s with rules := some table' } := by
  have h := mapError_eq_ok.mp h
  split_ifs at h with hrules
  · obtain rfl := Except.ok.inj h
    have hnone : rules.foldlM addRule table = .ok table := by
      rw [hrules]
      rfl
    obtain ⟨added, hadded, hextends, hsource⟩ := addRules_eq_ok hnone
    exact ⟨table, added, hadded, hextends, hsource, by cases s; exact congrArg (Store.mk · _ _) hs⟩
  · obtain ⟨found, hfound, h⟩ := bind_eq_ok.mp h
    obtain ⟨table', htable', h⟩ := bind_eq_ok.mp h
    obtain rfl : found = table := by
      rw [ruleTable, hs] at hfound
      exact (Except.ok.inj hfound).symm
    obtain ⟨added, hadded, hextends, hsource⟩ := addRules_eq_ok htable'
    exact ⟨table', added, hadded, hextends, hsource, (pure_eq_ok.mp h).symm⟩

lemma withViolations_eq_ok (h : s.withViolations = .ok s') :
    s'.rules = s.rules ∧ ∀ rows, s.violations = some rows → s'.violations = some rows := by
  rw [withViolations] at h
  split at h
  · obtain rfl := Except.ok.inj h
    exact ⟨rfl, fun _ hrows => hrows⟩
  next hnone =>
    split at h
    · cases h
    · obtain rfl := Except.ok.inj h
      exact ⟨rfl, fun _ hrows => by cases hnone.symm.trans hrows⟩

lemma bootstrap_eq_ok (h : s.bootstrap = .ok s') (hs : s.rules = some table) :
    s'.rules = some { table with hasSource := true } ∧ ∀ rows, s.violations = some rows →
      s'.violations = some rows := by
  rw [bootstrap, withRules, hs, ok_bind] at h
  exact withViolations_eq_ok h

def IsStored (row : RuleRow) : Prop := ∃ rule : Rule, rule.createdAt.IsOfEra ∧ rowOfRule rule = .ok row

lemma IsStored.exists_toRule {row : RuleRow} (h : IsStored row) : ∃ rule, row.toRule = .ok rule := by
  obtain ⟨rule, hera, hrow⟩ := h
  obtain ⟨instant, hinstant, rfl⟩ := rowOfRule_eq_ok.mp hrow
  rw [RuleRow.toRule, readStatus_eq_ok.mpr rule.status.ofName?_name,
    readInstant_ofTimestamp rulesName hinstant hera]
  exact ⟨_, rfl⟩

lemma import_eq_ok {newId : ℕ → String} {now : Time.Timestamp} {entries : List Rule.Entry}
    {summary : Rule.ImportSummary}
    (h : Rule.Import.run insertRules newId now entries s = .ok (summary, s')) :
    summary = Rule.Import.sort newId now entries ∧ insertRules summary.accepted s = .ok s' := by
  rw [Rule.Import.run] at h
  split_ifs at h with hempty
  · obtain ⟨rfl, rfl⟩ := Prod.ext_iff.mp (pure_eq_ok.mp h)
    rw [insertRules, if_pos (List.isEmpty_iff.mp hempty)]
    exact ⟨rfl, rfl⟩
  · obtain ⟨found, hinsert, h⟩ := bind_eq_ok.mp h
    obtain ⟨rfl, rfl⟩ := Prod.ext_iff.mp (pure_eq_ok.mp h)
    exact ⟨rfl, hinsert⟩

lemma Operation.rules_extend (h : Operation s findings s') (hs : s.rules = some table) :
    ∃ table' added, s'.rules = some table' ∧ Extends table table' added ∧
      ∀ row ∈ added, IsStored row := by
  have hnone : ∀ table' : RuleTable, table'.rows = table.rows →
    (table.hasSource → table'.hasSource) → Extends table table' [] :=
    fun table' hrows hsource =>
      ⟨by rw [hrows, List.append_nil], hsource, (fun _ hr => nomatch hr), List.nodup_nil⟩
  cases h with
  | bootstraps h =>
    exact ⟨{ table with hasSource := true }, [], (bootstrap_eq_ok h hs).1, hnone _ rfl fun _ => rfl,
      fun _ hr => nomatch hr⟩
  | imports hclock h =>
    obtain ⟨rfl, hinsert⟩ := import_eq_ok h
    obtain ⟨table', added, hadded, hextends, _, rfl⟩ := insertRules_eq_ok hinsert hs
    refine ⟨table', added, rfl, hextends, fun row hrow => ?_⟩
    obtain ⟨rule, hrule, hstored⟩ := exists_left hadded hrow
    obtain ⟨_, _, proposal, _, _, _, heq⟩ := Rule.exists_entry_of_accepted hrule
    exact ⟨rule, heq ▸ hclock, hstored⟩
  | scans _ _ _ hrecorded =>
    obtain ⟨_, _, _, rfl⟩ := persist_eq_ok hrecorded
    exact ⟨table, [], hs, hnone table rfl id, fun _ hr => nomatch hr⟩
  | changesData => exact ⟨table, [], hs, hnone table rfl id, fun _ hr => nomatch hr⟩

end Compliance.Store
