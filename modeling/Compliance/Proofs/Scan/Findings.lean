import Compliance.Proofs.Scan.Cancellation

/-! Where the evaluations of a scan come from: each is its rule's, and what it has found are rows of
the rule's own query. -/

namespace Compliance.Scan

open Result
open Violation (Candidate)

inductive Outcome.IsOf (catalog : Catalog) (rule : Rule) : Outcome → Prop
  | matched {query : Query} (h : Query.compile catalog rule = .ok query) (rows : List Row)
    (truncated : Bool) :
    IsOf catalog rule (.matched (Candidate.ofRows rule query rows) truncated)
  | compileFailed {cause : Rule.CompileError} (h : Query.compile catalog rule = .error cause) :
    IsOf catalog rule (.compileFailed cause)
  | executionFailed {query : Query} (h : Query.compile catalog rule = .ok query)
    (cause : ExecutionError) :
    IsOf catalog rule (.executionFailed cause)
  | skipped : IsOf catalog rule .skipped

structure Evaluation.IsOf (catalog : Catalog) (rule : Rule) (e : Evaluation) : Prop where
  ruleId_eq : e.ruleId = rule.id
  ruleName_eq : e.ruleName = rule.name
  outcome : e.outcome.IsOf catalog rule

variable {catalog : Catalog} {rule : Rule} {rules : List Rule} {e : Evaluation}
  {evaluations : List Evaluation}

lemma Outcome.isOf_ofAnswer {query : Query} (h : Query.compile catalog rule = .ok query)
    (maxRows : ℕ) (answer : Answer) :
    (ofAnswer rule query maxRows answer).IsOf catalog rule := by
  rcases answer with (_ | _ | _ | _) | rows
  case error.cancelled => exact .skipped
  case ok => exact .matched h _ _
  all_goals exact .executionFailed h _

lemma Pass.Moves.evaluation_isOf {p : Pass} {event : Event} {slot slot' : Slot}
    (h : p.Moves event slot slot') (hs : slot.IsOf p.catalog rule) (hnone : slot.evaluation? = none)
    (he : slot'.evaluation? = some e) :
    e.IsOf p.catalog rule := by
  cases h with
  | stays =>
    rw [hnone] at he
    cases he
  | starts =>
    cases hs
    rw [startSlot] at he
    split_ifs at he
    · obtain rfl := Option.some.inj he
      exact ⟨rfl, rfl, .skipped⟩
    · cases hq : Query.compile p.catalog rule with
      | ok query =>
        rw [hq] at he
        cases he
      | error cause =>
        rw [hq] at he
        obtain rfl := Option.some.inj he
        exact ⟨rfl, rfl, .compileFailed hq⟩
  | looks | returns => cases he
  | skips =>
    cases hs
    obtain rfl := Option.some.inj he
    exact ⟨rfl, rfl, .skipped⟩
  | ends _ _ _ _ _ hpolls =>
    obtain ⟨rfl, hq⟩ := hpolls.compile_eq hs
    obtain rfl := Option.some.inj he
    exact ⟨rfl, rfl, Outcome.isOf_ofAnswer hq _ _⟩

lemma Evaluation.IsOf.candidate_eq (h : e.IsOf catalog rule) {c : Candidate}
    (hc : c ∈ e.outcome.candidates) :
    ∃ query row, Query.compile catalog rule = .ok query ∧ c = Candidate.ofRow rule query row := by
  obtain ⟨id, name, outcome⟩ := e
  cases h.outcome with
  | @matched query hq rows truncated =>
    obtain ⟨row, _, rfl⟩ := List.mem_map.mp hc
    exact ⟨query, row, hq, rfl⟩
  | compileFailed | executionFailed | skipped => cases hc

lemma Evaluation.IsOf.candidate_ruleId (h : e.IsOf catalog rule) {c : Candidate}
    (hc : c ∈ e.outcome.candidates) :
    c.ruleId = e.ruleId := by
  obtain ⟨query, row, _, rfl⟩ := h.candidate_eq hc
  exact h.ruleId_eq.symm

namespace Process

variable {S : Type} {ports : Ports S} {settings : Settings} {clock : Clock} {state : S}
  {moments : List Moment} {i : ℕ}

lemma isOf_run (he : ((begin state).run ports settings clock moments).evaluation? i = some e) :
    ∃ rules catalog rule, ports.fetch Rule.Status.scannable state = .ok rules ∧
      ports.catalog state = .ok catalog ∧
      rules[i]? = some rule ∧ e.IsOf catalog rule := by
  induction moments using List.reverseRecOn with
  | nil => cases he
  | append_singleton moments moment ih =>
    rw [run_concat] at he
    rcases evaluation?_step ports settings clock ((begin state).run ports settings clock moments)
      moment i with
      h | ⟨pass, event, slot, slot', hstage, rfl, hs, hnone, hmoves, h⟩
    · exact ih (h ▸ he)
    · obtain ⟨rules, catalog, hev⟩ := exists_evaluates hstage
      obtain ⟨rule, hr, hof⟩ := hev.isOver.isOf hs
      rw [← hev.isOver.catalog_eq] at hof
      have hend := hmoves.evaluation_isOf hof hnone (h ▸ he)
      exact ⟨rules, catalog, rule, hev.fetched, hev.loaded, hr, hev.isOver.catalog_eq ▸ hend⟩

theorem evaluations_isOf (hfetch : ports.fetch Rule.Status.scannable state = .ok rules)
    (hne : rules ≠ []) (hcatalog : ports.catalog state = .ok catalog) {result : Except ScanError Report}
    (h : ((begin state).run ports settings clock moments).stage = .ended evaluations result) :
    List.Forall₂ (fun rule e => e.IsOf catalog rule) rules evaluations := by
  refine List.forall₂_iff_get.mpr ⟨(length_evaluations hfetch hne hcatalog h).symm, fun i hi hi' => ?_⟩
  have he : ((begin state).run ports settings clock moments).evaluation? i = some evaluations[i] := by
    rw [evaluation?, h]
    exact List.getElem?_eq_getElem hi'
  obtain ⟨rules', catalog', rule, hfetch', hcatalog', hr, hof⟩ := isOf_run he
  obtain rfl := Except.ok.inj (hfetch.symm.trans hfetch')
  obtain rfl := Except.ok.inj (hcatalog.symm.trans hcatalog')
  obtain ⟨_, rfl⟩ := List.getElem?_eq_some_iff.mp hr
  exact hof

end Process

end Compliance.Scan
