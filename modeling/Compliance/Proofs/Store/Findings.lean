import Compliance.Proofs.Scan.Findings
import Compliance.Proofs.Store.Rules
import Compliance.Proofs.Store.Scan

/-! What a scan of the store that ends with a report has recorded, rule by rule. -/

namespace Compliance.Store

open Database ListFacts Result Scan
open Violation (Candidate DedupPolicy)

structure Records (newId : ℕ → String) (settings : Settings) (startedAt : Time.Timestamp) (s s' : Store)
    (evaluations : List Evaluation) (report : Report) (rules : List Rule) (catalog : Catalog)
    (recorded : List Violation) :
    Prop where
  fetched : s.fetchRules Rule.Status.scannable = .ok rules
  loaded : s.catalog = .ok catalog
  evaluated : List.Forall₂ (fun rule e => e.IsOf catalog rule) rules evaluations
  persisted : persist newId startedAt (evaluations.flatMap (·.outcome.candidates)) settings.dedup
    s = .ok (recorded, s')
  reported : ∃ millis cancelled,
    report = Report.ofEvaluations startedAt millis evaluations recorded cancelled

variable {refusals : Refusals} {newId : ℕ → String} {settings : Settings} {clock : Clock} {s s' : Store}
  {moments : List Moment} {evaluations : List Evaluation} {report : Report} {rules : List Rule}
    {catalog : Catalog}
  {recorded : List Violation}

lemma fetch_ports_eq_ok {now : Time.Timestamp}
    (h : (ports refusals newId now).fetch Rule.Status.scannable (.opened s) = .ok rules) :
    s.fetchRules Rule.Status.scannable = .ok rules := (Action.of_look_eq_ok (Prod.ext h rfl)).1

lemma catalog_ports_eq_ok {now : Time.Timestamp}
    (h : (ports refusals newId now).catalog (.opened s) = .ok catalog) :
    s.catalog = .ok catalog := (Action.of_look_eq_ok (Prod.ext h rfl)).1

theorem exists_records
    (hended : ((Process.begin (Session.opened s)).run (ports refusals newId clock.startedAt)
      settings clock moments).stage = .ended evaluations (.ok report)) :
    ∃ s' rules catalog recorded,
      Records newId settings clock.startedAt s s' evaluations report rules catalog recorded ∧
      ((Process.begin (Session.opened s)).run (ports refusals newId clock.startedAt)
        settings clock moments).state = .opened s' := by
  rcases Process.run_cases (ports refusals newId clock.startedAt) settings clock (.opened s) moments with
    hunder | ⟨within, rest, hmoments, hwithin, hends⟩
  · generalize (Process.begin (Session.opened s)).run (ports refusals newId clock.startedAt)
      settings clock moments = p
      at hunder hended
    cases hunder <;> cases hended
  have hstate := Process.state_eq hwithin
  cases hends with
  | unavailable _ _ hstage => cases hended.symm.trans hstage
  | empty hfetch hlast hstage =>
    obtain ⟨rfl, hreport⟩ := Stage.ended.inj (hended.symm.trans hstage)
    rw [hstate] at hfetch
    exact ⟨s, [], _, [],
      ⟨fetch_ports_eq_ok hfetch, rfl, .nil, rfl, 0, false, Except.ok.inj hreport⟩, hlast.trans hstate⟩
  | @concluded pass hstage hdone hconcludes =>
    obtain ⟨rules, catalog, hev⟩ := Process.exists_evaluates hstage
    have hne : rules ≠ [] := by
      generalize (Process.begin (Session.opened s)).run (ports refusals newId clock.startedAt)
        settings clock within = p
        at hstage hwithin
      cases hwithin with
      | fetching | loading => cases hstage
      | evaluating hfetch hne => exact Except.ok.inj (hev.fetched.symm.trans hfetch) ▸ hne
    have hevaluated := Process.evaluations_isOf hev.fetched hne hev.loaded hended
    cases hconcludes with
    | discarded _ _ _ hq => cases hended.symm.trans hq
    | recorded _ hlast hq =>
      rw [hstate] at hlast hq
      obtain ⟨rfl, hreport⟩ := Stage.ended.inj (hended.symm.trans hq)
      rcases persist_ports_cases refusals newId clock.startedAt pass.candidates settings.dedup s with
        ⟨failure, hr⟩ | ⟨recorded, s', hpersist, hr⟩
      · rw [hr] at hreport
        cases hreport
      · rw [hr] at hlast hreport
        exact ⟨s', rules, catalog, recorded,
          ⟨fetch_ports_eq_ok hev.fetched, catalog_ports_eq_ok hev.loaded, hevaluated, hpersist, _,
            _, Except.ok.inj hreport⟩, hlast⟩

lemma ruleIds_recordedAs (newId : ℕ → String) (now : Time.Timestamp) (taken : ℕ)
    (batch : List Candidate) :
    (recordedAs newId now taken batch).map (·.ruleId) = batch.map (·.ruleId) := by
  induction batch generalizing taken with
  | nil => rfl
  | cons c batch ih =>
    rw [recordedAs_cons, List.map_cons, ih]
    rfl

lemma ruleIds_added {added : List ViolationRow}
    (h : List.Forall₂ (fun v row => rowOfViolation v = .ok row) recorded added) :
    added.map (·.ruleId) = recorded.map (·.ruleId) := by
  refine (map_eq_map h fun v row hrow => ?_).symm
  obtain ⟨_, _, rfl⟩ := rowOfViolation_eq_ok.mp hrow
  rfl

lemma Records.ruleIds {startedAt : Time.Timestamp}
    (h : Records newId settings startedAt s s' evaluations report rules catalog recorded) :
    recorded.map (·.ruleId) = (chosen settings.dedup (hasOpen (s.violations.getD []))
      (evaluations.flatMap (·.outcome.candidates))).map (·.ruleId) := by
  rw [(persist_eq_ok h.persisted).1, ruleIds_recordedAs]

lemma Records.exists_source {startedAt : Time.Timestamp}
    (h : Records newId settings startedAt s s' evaluations report rules catalog recorded)
    {v : Violation} (hv : v ∈ recorded) :
    ∃ rule ∈ rules, ∃ e ∈ evaluations, e.IsOf catalog rule ∧ ∃ c ∈ e.outcome.candidates, ∃ id,
      v = c.record id startedAt := by
  rw [(persist_eq_ok h.persisted).1] at hv
  obtain ⟨i, hi, rfl⟩ := List.mem_mapIdx.mp hv
  obtain ⟨e, he, hc⟩ := List.mem_flatMap.mp ((chosen_sublist ..).subset (List.getElem_mem hi))
  obtain ⟨rule, hrule, hof⟩ := exists_left h.evaluated he
  exact ⟨rule, hrule, e, he, hof, _, hc, _, rfl⟩

lemma ruleIds_evaluations (h : List.Forall₂ (fun rule e => e.IsOf catalog rule) rules evaluations) :
    evaluations.map (·.ruleId) = rules.map (·.id) :=
  (map_eq_map h fun _ _ hof => hof.ruleId_eq.symm).symm

lemma countP_candidates (h : List.Forall₂ (fun rule e => e.IsOf catalog rule) rules evaluations)
    (hids : (rules.map (·.id)).Nodup) {e : Evaluation} (he : e ∈ evaluations) :
    (evaluations.flatMap (·.outcome.candidates)).countP (·.ruleId = e.ruleId) =
      e.outcome.candidates.length := by
  have hof : ∀ e ∈ evaluations, ∀ c ∈ e.outcome.candidates, c.ruleId = e.ruleId := by
    intro e he c hc
    obtain ⟨rule, _, hr⟩ := exists_left h he
    exact hr.candidate_ruleId hc
  rw [← ruleIds_evaluations h] at hids
  clear h
  obtain ⟨before, after, rfl⟩ := List.append_of_mem he
  have hother : ∀ other ∈ before ++ after, other.ruleId ≠ e.ruleId := by
    rw [List.map_append, List.map_cons, List.nodup_middle, List.nodup_cons, ← List.map_append] at hids
    exact fun other hmem heq => hids.1 (heq ▸ List.mem_map_of_mem hmem)
  have hnone : ∀ es : List Evaluation, (∀ other ∈ es, other ∈ before ++ after) →
      (es.flatMap (·.outcome.candidates)).countP (·.ruleId = e.ruleId) = 0 := by
    intro es hes
    refine List.countP_eq_zero.mpr fun c hc => ?_
    obtain ⟨other, hmem, hc⟩ := List.mem_flatMap.mp hc
    have hmem' : other ∈ before ++ e :: after := by
      rcases List.mem_append.mp (hes other hmem) with h | h
      · exact List.mem_append_left _ h
      · exact List.mem_append_right _ (List.mem_cons_of_mem _ h)
    rw [hof other hmem' c hc, decide_eq_true_eq]
    exact hother other (hes other hmem)
  have hall : e.outcome.candidates.countP (·.ruleId = e.ruleId) = e.outcome.candidates.length :=
    List.countP_eq_length.mpr fun c hc => decide_eq_true (hof e he c hc)
  rw [List.flatMap_append, List.flatMap_cons, List.countP_append, List.countP_append, hall,
    hnone before fun other h => List.mem_append_left _ h, hnone after fun other h =>
      List.mem_append_right _ h]
  omega

end Compliance.Store
