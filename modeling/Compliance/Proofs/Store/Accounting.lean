import Compliance.Proofs.Store.Findings

/-! The report of a scan accounts for every rule and for every violation that the scan has recorded. -/

namespace Compliance.Store

open Database ListFacts Result Scan
open Violation (Candidate DedupPolicy)

lemma outcome_skipped (e : Evaluation) : (RuleLine.ofEvaluation e).outcome = "skipped" ↔
    e.outcome.isSkipped := by
  obtain ⟨_, _, _ | _ | (_ | _ | _ | _) | _⟩ :=
    e <;> simp [RuleLine.ofEvaluation, Outcome.label, Outcome.isSkipped]

lemma outcome_failed (e : Evaluation) :
    (RuleLine.ofEvaluation e).outcome ∈ ["compile_failed", "execution_failed", "timed_out"] ↔
      e.outcome.isFailure := by
  obtain ⟨_, _, _ | _ | (_ | _ | _ | _) | _⟩ :=
    e <;> simp [RuleLine.ofEvaluation, Outcome.label, Outcome.isFailure]

lemma isSome_error (e : Evaluation) : (RuleLine.ofEvaluation e).error.isSome ↔ e.outcome.isFailure := by
  obtain ⟨_, _, _ | _ | _ | _⟩ := e <;> simp [RuleLine.ofEvaluation, Outcome.error?, Outcome.isFailure]

lemma outcome_matched {e : Evaluation} (h : 0 < e.outcome.candidates.length ∨ e.outcome.isTruncated) :
    (RuleLine.ofEvaluation e).outcome = "matched" := by
  obtain ⟨_, _, _ | _ | _ | _⟩ := e
  case matched => rfl
  all_goals simp [Outcome.candidates, Outcome.isTruncated] at h

section
variable (startedAt : Time.Timestamp) (millis : ℕ) (evaluations : List Evaluation)
  (recorded : List Violation) (cancelled : Bool)

lemma rulesEvaluated_add :
    (Report.ofEvaluations startedAt millis evaluations recorded cancelled).rulesEvaluated +
    (evaluations.map RuleLine.ofEvaluation).countP (·.outcome = "skipped") = evaluations.length := by
  have hskipped : (evaluations.map RuleLine.ofEvaluation).countP (·.outcome = "skipped") =
      evaluations.countP (·.outcome.isSkipped) := by
    rw [List.countP_map]
    exact List.countP_congr fun e _ => by simpa using outcome_skipped e
  have hsum :=
    List.length_eq_countP_add_countP (fun e : Evaluation => e.outcome.isSkipped) (l := evaluations)
  rw [hskipped, hsum, Nat.add_comm]
  congr 1
  exact List.countP_congr fun e _ => by simp

lemma rulesFailed_eq :
    (Report.ofEvaluations startedAt millis evaluations recorded cancelled).rulesFailed =
    (evaluations.map RuleLine.ofEvaluation).countP
      (·.outcome ∈ ["compile_failed", "execution_failed", "timed_out"]) := by
  rw [List.countP_map]
  exact List.countP_congr fun e _ => by
    simpa only [Function.comp, decide_eq_true_eq] using (outcome_failed e).symm

lemma sum_matchedRows : ((evaluations.map RuleLine.ofEvaluation).map (·.matchedRows)).sum =
    (evaluations.flatMap (·.outcome.candidates)).length := by
  rw [List.length_flatMap, List.map_map]
  rfl

end

lemma ruleNameOf_eq {evaluations : List Evaluation} (hids : (evaluations.map (·.ruleId)).Nodup)
    {e : Evaluation} (he : e ∈ evaluations) : ruleNameOf evaluations e.ruleId = e.ruleName := by
  rw [← List.nodup_reverse, ← List.map_reverse] at hids
  rw [ruleNameOf, find?_of_nodup hids (List.mem_reverse.mpr he)]
  rfl

lemma readStatus_ne_disabled {text : String} (h : Rule.Status.scannable.any (·.name = text)) :
    RuleRow.readStatus text ≠ .ok .disabled := by
  obtain ⟨status, hstatus, rfl⟩ : ∃ status ∈ Rule.Status.scannable, status.name = text := by
    simpa using h
  revert status
  decide +kernel

structure Tells (lines : List RuleLine) (v : NewViolation) (row : ViolationRow) : Prop where
  id_eq : v.id = row.id
  table_eq : v.table = row.table
  recordId_eq : v.recordId = row.recordId
  line : ∃ line ∈ lines, line.ruleId = row.ruleId ∧ line.ruleName = v.rule ∧ line.outcome = "matched"

variable {newId : ℕ → String} {settings : Settings} {startedAt : Time.Timestamp} {s s' : Store}
  {table : RuleTable} {evaluations : List Evaluation} {report : Report} {rules : List Rule}
    {catalog : Catalog} {recorded : List Violation}
  {added : List ViolationRow}

lemma Records.exists_candidate (h :
    Records newId settings startedAt s s' evaluations report rules catalog recorded)
    {id : String} (hid : id ∈ recorded.map (·.ruleId)) :
    ∃ e ∈ evaluations, e.ruleId = id ∧ 0 < e.outcome.candidates.length := by
  obtain ⟨v, hv, rfl⟩ := List.mem_map.mp hid
  obtain ⟨_, _, e, he, hof, c, hc, _, rfl⟩ := h.exists_source hv
  exact ⟨e, he, (hof.candidate_ruleId hc).symm, List.length_pos_of_mem hc⟩

lemma Records.tells (h : Records newId settings startedAt s s' evaluations report rules catalog recorded)
    (hids : (rules.map (·.id)).Nodup)
    (hadded : List.Forall₂ (fun v row => rowOfViolation v = .ok row) recorded added) :
    List.Forall₂ (Tells report.rules) report.newViolations added := by
  obtain ⟨millis, cancelled, rfl⟩ := h.reported
  have hmem : ∀ v ∈ recorded, v.ruleId ∈ recorded.map (·.ruleId) := fun v hv => List.mem_map_of_mem hv
  have hids := ruleIds_evaluations h.evaluated ▸ hids
  refine List.forall₂_map_left_iff.mpr (List.forall₂_iff_get.mpr ⟨hadded.length_eq, fun i hi hi' => ?_⟩)
  obtain ⟨_, _, hrow⟩ := rowOfViolation_eq_ok.mp (hadded.get hi hi')
  obtain ⟨e, he, hid, hpos⟩ := h.exists_candidate (hmem _ (List.get_mem recorded ⟨i, hi⟩))
  rw [hrow]
  refine ⟨rfl, rfl, rfl, RuleLine.ofEvaluation e, List.mem_map_of_mem he, hid, ?_,
    outcome_matched (.inl hpos)⟩
  rw [← hid, ruleNameOf_eq hids he]
  rfl

lemma Records.countP_le (h : Records newId settings startedAt s s' evaluations report rules catalog
    recorded)
    (hids : (rules.map (·.id)).Nodup)
    (hadded : List.Forall₂ (fun v row => rowOfViolation v = .ok row) recorded added)
    {line : RuleLine} (hline : line ∈ report.rules) :
    added.countP (·.ruleId = line.ruleId) ≤ line.matchedRows ∧
      (settings.dedup = .append → added.countP (·.ruleId = line.ruleId) = line.matchedRows) := by
  obtain ⟨millis, cancelled, rfl⟩ := h.reported
  obtain ⟨e, he, rfl⟩ := List.mem_map.mp hline
  have hadded : added.countP (·.ruleId = e.ruleId) =
    (chosen settings.dedup (hasOpen (s.violations.getD []))
      (evaluations.flatMap (·.outcome.candidates))).countP (·.ruleId = e.ruleId) := by
    have hids := congrArg (List.countP (· = e.ruleId)) ((ruleIds_added hadded).trans h.ruleIds)
    rwa [List.countP_map, List.countP_map] at hids
  have hall := countP_candidates h.evaluated hids he
  have hle := (chosen_sublist settings.dedup (hasOpen (s.violations.getD []))
    (evaluations.flatMap (·.outcome.candidates))).countP_le (p := (·.ruleId = e.ruleId))
  refine ⟨(hadded.trans_le hle).trans_eq hall, fun happend => ?_⟩
  rw [happend] at hadded
  exact hadded.trans hall

lemma Records.violationsFound (h :
    Records newId settings startedAt s s' evaluations report rules catalog recorded) :
    report.violationsFound ≤ (report.rules.map (·.matchedRows)).sum ∧
      (settings.dedup = .append → report.violationsFound = (report.rules.map (·.matchedRows)).sum) := by
  have hlength : recorded.length = (chosen settings.dedup (hasOpen (s.violations.getD []))
      (evaluations.flatMap (·.outcome.candidates))).length := by
    have hids := congrArg List.length h.ruleIds
    rwa [List.length_map, List.length_map] at hids
  obtain ⟨millis, cancelled, rfl⟩ := h.reported
  have hsum : ((Report.ofEvaluations startedAt millis evaluations recorded cancelled).rules.map
    (·.matchedRows)).sum =
      (evaluations.flatMap (·.outcome.candidates)).length := sum_matchedRows evaluations
  rw [hsum]
  refine ⟨hlength.trans_le (chosen_sublist ..).length_le, fun happend => ?_⟩
  rw [happend] at hlength
  exact hlength

/-- Whatever is refused to a scan, however its queries behave and whenever it is cancelled: a report
that it ends with has a line for each rule that is to be scanned, its counts are those of its lines,
and every violation that it tells of has been added for a rule whose line has matched, as many of
each rule as its line says, or fewer where open findings are skipped. -/
theorem report_accounts {refusals : Refusals} {clock : Clock} {moments : List Moment}
    (hs : s.rules = some table) (hids : (table.rows.map (·.id)).Nodup)
    (hended : ((Process.begin (Session.opened s)).run (ports refusals newId clock.startedAt)
      settings clock moments).stage = .ended evaluations (.ok report)) :
    report.rules.map (fun line => (line.ruleId, line.ruleName)) =
      (selected Rule.Status.scannable table.rows).map (fun row => (row.id, row.name)) ∧
    report.rulesEvaluated + report.rules.countP (·.outcome = "skipped") = report.rules.length ∧
    report.rulesFailed =
      report.rules.countP (·.outcome ∈ ["compile_failed", "execution_failed", "timed_out"]) ∧
    (∀ line ∈ report.rules, line.error.isSome ↔
      line.outcome ∈ ["compile_failed", "execution_failed", "timed_out"]) ∧
    (∀ line ∈ report.rules, 0 < line.matchedRows ∨ line.truncated → line.outcome = "matched") ∧
    report.violationsFound ≤ (report.rules.map (·.matchedRows)).sum ∧
    (settings.dedup = .append → report.violationsFound = (report.rules.map (·.matchedRows)).sum) ∧
    report.violationsFound = report.newViolations.length ∧
    ∃ added : List ViolationRow,
      ((Process.begin (Session.opened s)).run (ports refusals newId clock.startedAt) settings clock
        moments).state =
        .opened { s with violations := s.violations.map (· ++ added) } ∧
      (s.violations = none → added = []) ∧
      List.Forall₂ (Tells report.rules) report.newViolations added ∧
      (∀ line ∈ report.rules, added.countP (·.ruleId = line.ruleId) ≤ line.matchedRows ∧
        (settings.dedup = .append → added.countP (·.ruleId = line.ruleId) = line.matchedRows)) ∧
      ∀ row ∈ added, ∀ rule ∈ table.rows, rule.id = row.ruleId →
        RuleRow.readStatus rule.status ≠ .ok .disabled := by
  obtain ⟨s', rules, catalog, recorded, h, hstate⟩ := exists_records hended
  have hrules := selected_of_fetchRules hs h.fetched
  have hruleIds := ids_fetchRules_nodup hs hids h.fetched
  obtain ⟨hrecorded, added, hadded, rfl⟩ := persist_eq_ok h.persisted
  obtain ⟨hfound, hfoundAppend⟩ := h.violationsFound
  have htells := h.tells hruleIds hadded
  have hcounts := fun (line : RuleLine) (hline : line ∈ report.rules) =>
    h.countP_le hruleIds hadded hline
  have hnone : s.violations = none → added = [] := fun hnone => by
    rcases violations_of_persist h.persisted with ⟨_, rfl, _⟩ | ⟨rows, hrows⟩
    · exact List.forall₂_nil_left_iff.mp hadded
    · cases hnone.symm.trans hrows
  have hdisabled : ∀ row ∈ added, ∀ rule ∈ table.rows, rule.id = row.ruleId →
      RuleRow.readStatus rule.status ≠ .ok .disabled := by
    intro row hrow rule hrule hid
    obtain ⟨e, he, heid, _⟩ := h.exists_candidate (ruleIds_added hadded ▸ List.mem_map_of_mem hrow)
    obtain ⟨rule', hrule', hof⟩ := exists_left h.evaluated he
    obtain ⟨row', hrow', hread⟩ := exists_left hrules hrule'
    have hrow' := List.mem_filter.mp (List.mem_mergeSort.mp hrow')
    have hsame : row'.id = rule.id := by rw [hid, ← heid, hof.ruleId_eq, id_of_toRule hread]
    obtain rfl := List.inj_on_of_nodup_map hids hrow'.1 hrule hsame
    exact readStatus_ne_disabled hrow'.2
  obtain ⟨millis, cancelled, rfl⟩ := h.reported
  refine ⟨?_, ?_, rulesFailed_eq .., ?_, ?_, hfound, hfoundAppend, (List.length_map _).symm, added,
    hstate, hnone, htells, hcounts, hdisabled⟩
  · change (evaluations.map RuleLine.ofEvaluation).map _ = _
    rw [List.map_map, map_eq_map hrules fun row rule hread =>
      congrArg₂ Prod.mk (id_of_toRule hread).symm (name_of_toRule hread).symm]
    exact (map_eq_map h.evaluated fun rule e hof =>
      congrArg₂ Prod.mk hof.ruleId_eq.symm hof.ruleName_eq.symm).symm
  · rw [show (Report.ofEvaluations _ _ _ _ _).rules =
      evaluations.map RuleLine.ofEvaluation from rfl, List.length_map]
    exact rulesEvaluated_add ..
  · intro line hline
    obtain ⟨e, _, rfl⟩ := List.mem_map.mp hline
    exact (isSome_error e).trans (outcome_failed e).symm
  · intro line hline h
    obtain ⟨e, _, rfl⟩ := List.mem_map.mp hline
    exact outcome_matched h

/-! Two rules, of which one finds two rows, the second of them open from before, and the other is
disabled -/

def mixedStore : Store where
  rules := some ⟨[
    ⟨"r1", "named", "not_null", "", "\x7b\"table\":\"people\",\"column\":\"name\"\x7d", .zero,
      "pending", .finite 0, none⟩,
    ⟨"r2", "unused", "not_null", "", "", .zero, "disabled", .finite 1, none⟩], true⟩
  violations := some [⟨"v", "r1", "", "people", "high", "open", "", "", .finite 3⟩]
  relations := [⟨"people", [⟨"name", .text⟩], .stored []⟩]

def freshOnly : Settings := { Settings.usual with dedup := .skipOpen }

def report? {S : Type} (p : Process S) : Option Report :=
  match p.stage with
  | .ended _ (.ok report) => some report
  | _ => none

lemma exists_ended_of_report? {S : Type} {p : Process S} {report : Report}
    (h : report? p = some report) :
    ∃ evaluations, p.stage = .ended evaluations (.ok report) := by
  rw [report?] at h
  split at h
  next evaluations _ hstage =>
    obtain rfl := Option.some.inj h
    exact ⟨evaluations, hstage⟩
  next => cases h

theorem report_accounts_mixedStore :
    let last :=
      (Process.begin (Session.opened mixedStore)).run (ports (fun _ => none) countedId
        Time.Timestamp.epoch) freshOnly ⟨Time.Timestamp.epoch, 0⟩ twoNameless
    ∃ report added, report? last = some report ∧ report.rules.map (·.outcome) = ["matched"] ∧
      report.rules.map (·.matchedRows) = [2] ∧ report.rulesFailed = 0 ∧ report.violationsFound = 1 ∧
      last.state =
        .opened { mixedStore with violations := mixedStore.violations.map (· ++ added) } ∧
          added.length = 1 ∧
      ∀ row ∈ added, row.ruleId ≠ "r2" := by
  intro last
  have hfacts : (report? last).map (fun report =>
    (report.rules.map (·.outcome), report.rules.map (·.matchedRows),
      report.rulesFailed, report.violationsFound)) = some (["matched"], [2], 0, 1) := by decide +kernel
  obtain ⟨report, hreport, hfacts⟩ := Option.map_eq_some_iff.mp hfacts
  obtain ⟨houtcomes, hfacts⟩ := Prod.ext_iff.mp hfacts
  obtain ⟨hmatched, hfacts⟩ := Prod.ext_iff.mp hfacts
  obtain ⟨hfailed, hfound⟩ := Prod.ext_iff.mp hfacts
  obtain ⟨evaluations, hended⟩ := exists_ended_of_report? hreport
  obtain ⟨_, _, _, _, _, _, _, hlength, added, hstate, _, htells, _, hdisabled⟩ :=
    report_accounts (s := mixedStore) rfl (by decide +kernel) hended
  refine ⟨report, added, hreport, houtcomes, hmatched, hfailed, hfound, hstate, ?_,
    fun row hrow hid => ?_⟩
  · rw [← htells.length_eq, ← hlength]
    exact hfound
  · exact hdisabled row hrow ⟨"r2", "unused", "not_null", "", "", .zero, "disabled", .finite 1,
      none⟩ (by simp) hid.symm
      (by decide +kernel)

end Compliance.Store
