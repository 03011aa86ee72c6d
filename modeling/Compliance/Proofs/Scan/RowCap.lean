import Compliance.Proofs.Scan.Schedule

/-! The cap on the rows of a rule is exact, up to the largest. -/

namespace Compliance.Scan

open Violation (Candidate)

variable {maxRows : ℕ} {rule : Rule} {query : Query} {full : List Row}

lemma rowLimit_le (maxRows : ℕ) : rowLimit maxRows ≤ maxRowCount := Nat.min_le_right _ _

lemma le_rowLimit (h : maxRows ≤ maxRowCount) : maxRows ≤ rowLimit maxRows :=
  Nat.le_min.mpr ⟨Nat.le_succ _, h⟩

lemma lt_rowLimit_iff : maxRows < rowLimit maxRows ↔ maxRows < maxRowCount := by
  rw [rowLimit, Nat.lt_min]
  exact and_iff_right (Nat.lt_succ_self _)

lemma ofAnswer_take (h : maxRows ≤ maxRowCount) (rule : Rule) (query : Query) (full : List Row) :
    Outcome.ofAnswer rule query maxRows (.ok (full.take (rowLimit maxRows))) =
      .matched (Candidate.ofRows rule query (full.take maxRows))
        (decide (maxRows < maxRowCount ∧ maxRows < full.length)) := by
  rw [Outcome.ofAnswer, List.take_take, min_eq_left (le_rowLimit h), List.length_take]
  simp only [Nat.lt_min, lt_rowLimit_iff]

lemma ofEvaluation_capped (rule : Rule) (query : Query) (full : List Row) (maxRows : ℕ)
    (truncated : Bool) :
    RuleLine.ofEvaluation ⟨rule.id, rule.name,
      .matched (Candidate.ofRows rule query (full.take maxRows)) truncated⟩ =
      ⟨rule.id, rule.name, "matched", min full.length maxRows, truncated, none⟩ := by
  simp [RuleLine.ofEvaluation, Outcome.label, Outcome.candidates, Outcome.isTruncated,
    Outcome.error?, Candidate.ofRows, min_comm]

section
variable {S : Type} {store : Store S} {state : S} {rules : List Rule} {catalog : Catalog}
  {settings : Settings} {i workers : ℕ} {answers : ℕ → Answer} {events : List Event}

/-- A runner that gives as many of the rows of a query as it is asked for makes the rule's line in
the report, and its part of what is recorded, go by the first `maxRows` of them, and the line says
whether there were more. At the largest cap, which no count of rows exceeds, one row more is not
asked for. -/
theorem row_cap_exact (hfetch : store.fetch Rule.Status.scannable state = .ok rules)
    (hcatalog : store.catalog state = .ok catalog) (hcap : settings.maxRows ≤ maxRowCount)
    (hrule : rules[i]? = some rule) (hquery : Query.compile catalog rule = .ok query)
    (runner : Query → ℕ → Answer) (hrunner : ∀ k ≤ maxRowCount, runner query k = .ok (full.take k))
    (hanswer : answers i = runner query (rowLimit settings.maxRows)) :
    rowLimit settings.maxRows ≤ maxRowCount ∧
    (settings.maxRows < maxRowCount → rowLimit settings.maxRows = settings.maxRows + 1) ∧
    ∃ truncated : Bool,
      (settings.maxRows < maxRowCount ∨ full.length ≤ maxRowCount →
        (truncated ↔ settings.maxRows < full.length)) ∧
      (settings.maxRows = maxRowCount → truncated = false) ∧
      ∀ workers events, 1 ≤ workers → Undisturbed settings.timeout answers events →
        (∃ rest, Undisturbed settings.timeout answers rest ∧
          ((passOf settings workers catalog rules).run (events ++ rest)).isDone) ∧
        ∀ pass, (passOf settings workers catalog rules).run events = pass → pass.isDone →
          pass.evaluations[i]? =
            some ⟨rule.id, rule.name,
              .matched (Candidate.ofRows rule query (full.take settings.maxRows)) truncated⟩ ∧
          (∀ clock, run store (.ofEvents events) { settings with maxWorkers := workers } clock state =
            ((store.persist pass.candidates settings.dedup state).mapError .persistence).map
              fun (recorded, state) =>
              (Report.ofEvaluations clock.startedAt clock.durationMillis pass.evaluations recorded
                false, state)) ∧
          ∀ startedAt millis recorded,
            (Report.ofEvaluations startedAt millis pass.evaluations recorded false).rules[i]? =
            some ⟨rule.id, rule.name, "matched", min full.length settings.maxRows, truncated, none⟩ := by
  refine ⟨rowLimit_le _, fun hlt => min_eq_left hlt,
    decide (settings.maxRows < maxRowCount ∧ settings.maxRows < full.length), fun hcount => ?_,
    fun hlargest => ?_, fun workers events hworkers hevents =>
      ⟨exists_isDone_of_events hworkers answers events, ?_⟩⟩
  · rw [decide_eq_true_eq]
    omega
  · rw [decide_eq_false_iff_not]
    omega
  rintro pass rfl hdone
  have hline : ((passOf settings workers catalog rules).run events).evaluations[i]? =
      some ⟨rule.id, rule.name, .matched (Candidate.ofRows rule query (full.take settings.maxRows))
        (decide (settings.maxRows < maxRowCount ∧ settings.maxRows < full.length))⟩ := by
    rw [evaluations_of_undisturbed hevents hdone, List.getElem?_mapIdx, hrule, Option.map_some,
      Evaluation.alone, hquery, hanswer, hrunner _ (rowLimit_le _), ← ofAnswer_take hcap]
  have hne : rules ≠ [] := by
    rintro rfl
    cases hrule
  have hcancelled : ((passOf settings workers catalog rules).run events).cancelled = false :=
    Pass.cancelled_run rfl fun event he => (hevents event he).1
  refine ⟨hline, fun clock => run_eq hfetch hne hcatalog (Prod.ext rfl hcancelled) clock,
    fun startedAt millis recorded => ?_⟩
  rw [Report.ofEvaluations, List.getElem?_map, hline, Option.map_some, ofEvaluation_capped]

end

/-! Two rows under a cap of one -/

def twoRows : List Row := [[some "c", some "17"], [some "d", some "16"]]

def cappedSettings : Settings := { Settings.usual with maxRows := 1 }

def cappedAnswers : ℕ → Answer
  | 0 => .ok twoRows
  | _ => .error (.query "locked")

def cappedEvents : List Event :=
  [.start, .start, .start, .turn 2 (some (cappedAnswers 2)) false, .turn 0 none false,
  .turn 0 (some (cappedAnswers 0)) true]

lemma undisturbed_cappedEvents : Undisturbed cappedSettings.timeout cappedAnswers cappedEvents := by
  simp [Undisturbed, cappedEvents, Event.Agrees, Execution.poll]

theorem row_cap_exact_twoRows :
    (Report.ofEvaluations default 0
      ((passOf cappedSettings 2 Query.peopleCatalog threeRules).run cappedEvents).evaluations []
      false).rules[0]? = some ⟨Query.ageRule.id, Query.ageRule.name, "matched", 1, true, none⟩ := by
  have hfetch : batchStore.fetch Rule.Status.scannable [] = .ok threeRules := rfl
  have hcatalog : batchStore.catalog [] = .ok Query.peopleCatalog := rfl
  have hcap : cappedSettings.maxRows ≤ maxRowCount := by decide
  have hcompiles : (Query.compile Query.peopleCatalog Query.ageRule).toOption.isSome := by decide +kernel
  obtain ⟨query, hquery⟩ : ∃ query, Query.compile Query.peopleCatalog Query.ageRule = .ok query := by
    cases hquery : Query.compile Query.peopleCatalog Query.ageRule with
    | ok query => exact ⟨query, rfl⟩
    | error error => simp [hquery, Except.toOption] at hcompiles
  let runner : Query → ℕ → Answer := fun _ k => .ok (twoRows.take k)
  have hanswer : cappedAnswers 0 = runner query (rowLimit cappedSettings.maxRows) := rfl
  obtain ⟨_, _, truncated, htruncated, _, h⟩ :=
    row_cap_exact hfetch hcatalog hcap rfl hquery runner (fun _ _ => rfl) hanswer
  obtain rfl : truncated = true := (htruncated (.inl (by decide))).mpr (by decide)
  obtain ⟨_, hdone⟩ := h 2 cappedEvents (by decide) undisturbed_cappedEvents
  exact (hdone _ rfl (by decide +kernel)).2.2 default 0 []

end Compliance.Scan
