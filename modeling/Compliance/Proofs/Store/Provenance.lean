import Compliance.Proofs.Catalog
import Compliance.Proofs.Store.Isolation

/-! Two stores that differ in where their rules come from: scans of them find and record the same,
but for what is told of the rules. -/

namespace Compliance

open ListFacts Result

def Rule.bare (rule : Rule) : Rule :=
  { rule with name := "", description := "", confidence := .zero, status := .pending, source := none }

def Violation.Candidate.bare (c : Candidate) : Candidate := { c with ruleName := "", explanation := "" }

namespace Scan

def Outcome.bare : Outcome → Outcome
  | .matched candidates truncated => .matched (candidates.map .bare) truncated
  | outcome => outcome

def Evaluation.bare (e : Evaluation) : Evaluation := { e with ruleName := "", outcome := e.outcome.bare }

/-- The report without the names of rules, generated identities and times. -/
def Report.bare (r : Report) : Report := { r with
  startedAt := Time.Timestamp.epoch
  durationMillis := 0
  newViolations := r.newViolations.map fun v => { v with id := "", rule := "" }
  rules := r.rules.map fun line => { line with ruleName := "" } }

end Scan

namespace Store

open Database Scan
open Rule (Status)
open Sql.Identifier (Quotable)
open Violation (Candidate DedupPolicy explanationOf)

/-- The row without what is told of its rule; of the statuses, those of rules that are scanned count
as one. -/
def RuleRow.bare (row : RuleRow) : RuleRow := { row with
  name := ""
  description := ""
  confidence := .zero
  status := if Status.scannable.any (·.name = row.status) then Status.pending.name else row.status
  source := none }

def ViolationRow.bare (row : ViolationRow) : ViolationRow := { unmarked row with explanation := "" }

structure Alike (s s' : Store) : Prop where
  relations : s'.relations = s.relations
  contents : ∀ r ∈ s.relations, r.stored s'.find? s.relations.length =
    r.stored s.find? s.relations.length
  violations : s'.violations = s.violations

def Quotes (s : Store) : Prop :=
  ∀ rules catalog, s.fetchRules Status.scannable = .ok rules → s.catalog = .ok catalog →
    ∀ rule ∈ rules, ∀ query, Query.compile catalog rule = .ok query →
      Quotable query.table ∧ ∀ column ∈ query.columns, Quotable column

/-- What the query of a rule is answered: if the rule is late nothing, so that it times out, and
otherwise what is stored. -/
def timedAnswer (s : Store) (settings : Settings) (late : String → Bool) (catalog : Catalog)
    (rule : Rule) : Scan.Answer :=
  answerOf settings.timeout catalog
    (fun query => if late rule.id then none else s.reply (rowLimit settings.maxRows) query) rule

structure Timed (s : Store) (settings : Settings) (late : String → Bool)
    (events : List Event) : Prop where
  answered : ∀ rules catalog, s.fetchRules Status.scannable = .ok rules → s.catalog = .ok catalog →
    Undisturbed settings.timeout
      (fun i => (rules[i]?.map (s.timedAnswer settings late catalog)).getD
        (.error (.timeout settings.timeout))) events
  done : ∀ rules catalog, s.fetchRules Status.scannable = .ok rules → s.catalog = .ok catalog →
    ((Pass.begin settings catalog rules false).run events).isDone

variable {s s' t : Store} {table table' : RuleTable} {row : RuleRow} {rules rules' : List Rule}
  {rule : Rule} {catalog : Catalog} {settings : Settings} {late : String → Bool} {events : List Event}

lemma any_status_bare (row : RuleRow) :
    Status.scannable.any (·.name = row.bare.status) = Status.scannable.any (·.name = row.status) := by
  rw [RuleRow.bare]
  dsimp only
  split_ifs with h
  · rw [h]
    decide +kernel
  · rfl

lemma selected_bare (rows : List RuleRow) :
    selected Status.scannable (rows.map .bare) = (selected Status.scannable rows).map .bare := by
  have hfilter : (rows.map RuleRow.bare).filter (fun row => Status.scannable.any (·.name = row.status)) =
      (rows.filter fun row => Status.scannable.any (·.name = row.status)).map .bare := by
    rw [List.filter_map]
    simp only [Function.comp_def, any_status_bare]
  have hbefore : ∀ a b : RuleRow, a.before b = a.bare.before b.bare := fun _ _ => rfl
  rw [selected, selected, hfilter, List.map_mergeSort fun a _ b _ => hbefore a b]

lemma toRule_bare (h : Status.scannable.any (·.name = row.status)) :
    row.bare.toRule = row.toRule.map Rule.bare := by
  obtain ⟨status, hstatus⟩ := readStatus_scannable h
  have hbare : row.bare.status = Status.pending.name := if_pos h
  have hpending : RuleRow.readStatus row.bare.status = .ok .pending := by
    rw [hbare]
    decide +kernel
  rw [RuleRow.toRule, RuleRow.toRule, hstatus, hpending, ok_bind, ok_bind]
  cases hread : readInstant rulesName row.createdAt with
  | error cause =>
    have hread' : readInstant rulesName row.bare.createdAt = .error cause := hread
    rw [hread']
    rfl
  | ok time =>
    have hread' : readInstant rulesName row.bare.createdAt = .ok time := hread
    rw [hread']
    rfl

lemma map_fetchRules (hs : s.rules = some table) :
    (s.fetchRules Status.scannable).map (List.map Rule.bare) =
    if table.hasSource then (selected Status.scannable (table.rows.map .bare)).mapM RuleRow.toRule
    else .error (.database (Fault.unknownColumn "source_document").message) := by
  rw [fetchRules_eq hs (by decide : Status.scannable ≠ [])]
  split_ifs
  · rw [selected_bare]
    refine (mapM_map fun row hrow => toRule_bare ?_).symm
    exact (List.mem_filter.mp (List.mem_mergeSort.mp hrow)).2
  · rfl

lemma map_fetchRules_eq (hs : s.rules = some table) (hs' : s'.rules = some table')
    (hsource : table'.hasSource = table.hasSource) (hids : (table.rows.map (·.id)).Nodup)
    (hrows : (table'.rows.map .bare).Perm (table.rows.map RuleRow.bare)) :
    (s'.fetchRules Status.scannable).map (List.map Rule.bare) =
      (s.fetchRules Status.scannable).map (List.map Rule.bare) := by
  have hids' : ((table.rows.map RuleRow.bare).map (·.id)).Nodup := by
    rw [List.map_map]
    exact hids
  rw [map_fetchRules hs, map_fetchRules hs', hsource, selected_eq_of_perm hids' hrows.symm]

def evaluationOf (s : Store) (settings : Settings) (late : String → Bool) (catalog : Catalog)
    (rule : Rule) : Evaluation :=
  .alone settings.maxRows catalog rule (s.timedAnswer settings late catalog rule)

lemma compile_bare (catalog : Catalog) (rule : Rule) : Query.compile catalog rule.bare =
    Query.compile catalog rule := rfl

lemma bare_ofAnswer (rule : Rule) (query : Query) (maxRows : ℕ) (answer : Scan.Answer) :
    (Outcome.ofAnswer rule.bare query maxRows answer).bare =
      (Outcome.ofAnswer rule query maxRows answer).bare := by
  rcases answer with (_ | _ | _ | _) | found
  case ok =>
    rw [Outcome.ofAnswer, Outcome.ofAnswer, Outcome.bare, Outcome.bare, Candidate.ofRows,
      Candidate.ofRows, List.map_map, List.map_map]
    rfl
  all_goals rfl

lemma bare_evaluationOf (s : Store) (settings : Settings) (late : String → Bool) (catalog : Catalog)
    (rule : Rule) :
    (s.evaluationOf settings late catalog rule.bare).bare =
      (s.evaluationOf settings late catalog rule).bare := by
  have hanswer : s.timedAnswer settings late catalog rule.bare =
    s.timedAnswer settings late catalog rule := rfl
  rw [evaluationOf, evaluationOf, hanswer, Evaluation.alone, Evaluation.alone, compile_bare]
  cases Query.compile catalog rule with
  | error cause => rfl
  | ok query =>
    rw [Evaluation.bare, Evaluation.bare]
    dsimp only
    rw [bare_ofAnswer]
    rfl

lemma Isolated.quotes (hs : Isolated s) : s.Quotes :=
  fun _ _ _ hcatalog _ _ _ hq => (quotable_query hs hcatalog hq).2

lemma Isolated.alike (hs : Isolated s) (hrelations : s'.relations = s.relations)
    (hviolations : s'.violations = s.violations) :
    Alike s s' :=
  ⟨hrelations, fun r hr => stored_eq_stored hs hrelations hviolations _ (hs.views r hr), hviolations⟩

lemma mem_relations_of_find? {name : String}
    (hkept : ∀ kept ∈ [rulesName, violationsName], equalIgnoringCase name kept = false)
    {r : Relation} (hr : s.find? name = some r) : r ∈ s.relations := by
  have hname : equalIgnoringCase r.name name = true := by simpa using List.find?_some hr
  have hne : ∀ kept ∈ [rulesName, violationsName], r.name ≠ kept := by
    rintro _ hmem rfl
    rw [equalIgnoringCase_comm, hkept _ hmem] at hname
    exact nomatch hname
  obtain ⟨table, rfl⟩ | ⟨rows, rfl⟩ | hmem := mem_allRelations (List.mem_of_find?_eq_some hr)
  · exact absurd rfl (hne rulesName (by simp))
  · exact absurd rfl (hne violationsName (by simp))
  · exact hmem

lemma Alike.evaluationOf_eq (h : Alike s s') (hcatalog : s.catalog = .ok catalog)
    (hquotes : ∀ query, Query.compile catalog rule = .ok query →
      Quotable query.table ∧ ∀ column ∈ query.columns, Quotable column) (settings : Settings)
        (late : String → Bool) :
    s'.evaluationOf settings late catalog rule = s.evaluationOf settings late catalog rule := by
  rw [evaluationOf, evaluationOf, timedAnswer, timedAnswer, answerOf_congr fun query hq => ?_]
  have hkept : ∀ kept ∈ [rulesName, violationsName], equalIgnoringCase query.table kept = false :=
    fun kept hkept => (ne_kept_of_compile hcatalog hq hkept).2
  have hfind := find?_eq_find? h.relations h.violations (hkept rulesName (by simp))
  have hstored : ∀ r, s.find? query.table = some r →
      r.stored s'.find? s.relations.length = r.stored s.find? s.relations.length :=
    fun r hr => h.contents r (mem_relations_of_find? hkept hr)
  rw [reply, reply, behaviour, behaviour, answer_congr hq (hquotes query hq) h.relations hfind hstored]

lemma Alike.map_bare_evaluations (h : Alike s s') (hquotes : s.Quotes)
    (hfetch : s.fetchRules Status.scannable = .ok rules) (hcatalog : s.catalog = .ok catalog)
    (hrules : rules'.map Rule.bare = rules.map Rule.bare) (settings : Settings)
    (late : String → Bool) : (rules'.map (s'.evaluationOf settings late catalog)).map Evaluation.bare =
      (rules.map (s.evaluationOf settings late catalog)).map Evaluation.bare := by
  have hsame : ∀ rule' ∈ rules', s'.evaluationOf settings late catalog rule' =
    s.evaluationOf settings late catalog rule' := by
    intro rule' hrule'
    obtain ⟨rule, hrule, hbare⟩ : ∃ rule ∈ rules, rule.bare = rule'.bare :=
      List.mem_map.mp (hrules ▸ List.mem_map_of_mem hrule')
    refine h.evaluationOf_eq hcatalog (fun query hq =>
      hquotes rules catalog hfetch hcatalog rule hrule query ?_) settings late
    rw [← compile_bare, hbare, compile_bare, hq]
  have hbare : ∀ rules : List Rule,
    (rules.map (s.evaluationOf settings late catalog)).map Evaluation.bare =
      (rules.map Rule.bare).map fun rule => (s.evaluationOf settings late catalog rule).bare := by
    intro rules
    rw [List.map_map, List.map_map]
    exact List.map_congr_left fun rule _ => (bare_evaluationOf s settings late catalog rule).symm
  rw [List.map_congr_left hsame, hbare, hbare, hrules]

variable {newId : ℕ → String} {clock : Clock} {report : Report} {rows : List ViolationRow}

lemma evaluate_timed (h : Timed s settings late events)
    (hfetch : s.fetchRules Status.scannable = .ok rules) (hcatalog : s.catalog = .ok catalog) :
    Evaluate.ofEvents events settings catalog rules =
      (rules.map (s.evaluationOf settings late catalog), false) := by
  have hanswered := h.answered rules catalog hfetch hcatalog
  have hdone : ((passOf settings settings.maxWorkers catalog rules).run events).isDone :=
    h.done rules catalog hfetch hcatalog
  refine Prod.ext ((evaluations_of_undisturbed hanswered hdone).trans ?_)
    (Pass.cancelled_run rfl fun event he => (hanswered event he).1)
  exact mapIdx_getElem? (Evaluation.alone settings.maxRows catalog) _ _ rules

lemma run_timed (h : Timed s settings late events) (hfetch : s.fetchRules Status.scannable = .ok rules)
    (hcatalog : s.catalog = .ok catalog) (newId : ℕ → String) (clock : Clock) :
    Scan.run (scanStore newId clock.startedAt) (.ofEvents events) settings clock s =
      ((persist newId clock.startedAt
        ((rules.map (s.evaluationOf settings late catalog)).flatMap (·.outcome.candidates))
        settings.dedup s).mapError .persistence).map fun (recorded, t) =>
          (Report.ofEvaluations clock.startedAt (if rules = [] then 0 else clock.durationMillis)
            (rules.map (s.evaluationOf settings late catalog)) recorded false, t) := by
  split_ifs with hne
  · subst hne
    exact Scan.run_of_fetch_nil hfetch _ _ _
  · exact Scan.run_eq hfetch hne hcatalog (evaluate_timed h hfetch hcatalog) clock

lemma run_eq_unavailable (h : Timed s settings late events) {cause : Failure} :
    Scan.run (scanStore newId clock.startedAt) (.ofEvents events) settings clock s =
      .error (.storeUnavailable cause) ↔
      s.fetchRules Status.scannable = .error cause := by
  cases hfetch : s.fetchRules Status.scannable with
  | error cause' =>
    rw [Scan.run_of_fetch_error hfetch]
    simp
  | ok rules =>
    rw [run_timed h hfetch rfl]
    cases persist newId clock.startedAt _ settings.dedup s <;> simp [Except.mapError, Except.map]

lemma exists_run (h : Timed s settings late events) (hfetch : s.fetchRules Status.scannable = .ok rules)
    (hrows : s.violations = some rows) (hid : Fresh newId rows)
    (hclock : (Instant.ofTimestamp? clock.startedAt).isSome) :
    ∃ report t, Scan.run (scanStore newId clock.startedAt) (.ofEvents events) settings clock s =
      .ok (report, t) := by
  obtain ⟨catalog, hcatalog⟩ : ∃ catalog, s.catalog = .ok catalog := ⟨_, rfl⟩
  obtain ⟨recorded, t, hpersist⟩ := exists_persist hrows hid hclock
    ((rules.map (s.evaluationOf settings late catalog)).flatMap (·.outcome.candidates)) settings.dedup
  rw [run_timed h hfetch hcatalog, hpersist]
  exact ⟨_, _, rfl⟩

lemma exists_recorded (h : Timed s settings late events)
    (hfetch : s.fetchRules Status.scannable = .ok rules) (hcatalog : s.catalog = .ok catalog)
    (hrun : Scan.run (scanStore newId clock.startedAt) (.ofEvents events) settings clock s =
      .ok (report, t)) :
    ∃ recorded millis,
      persist newId clock.startedAt
        ((rules.map (s.evaluationOf settings late catalog)).flatMap (·.outcome.candidates))
        settings.dedup s = .ok (recorded, t) ∧
      report = .ofEvaluations clock.startedAt millis
        (rules.map (s.evaluationOf settings late catalog)) recorded false := by
  rw [run_timed h hfetch hcatalog] at hrun
  obtain ⟨⟨recorded, t'⟩, hpersist, hrun⟩ := map_eq_ok.mp hrun
  obtain ⟨rfl, rfl⟩ := Prod.ext_iff.mp hrun
  exact ⟨recorded, _, mapError_eq_ok.mp hpersist, rfl⟩

lemma exists_timed (hworkers : 1 ≤ settings.maxWorkers) (s : Store) (late : String → Bool) :
    ∃ events, Timed s settings late events := by
  cases hfetch : s.fetchRules Status.scannable with
  | error cause =>
    exact ⟨[], ⟨fun _ _ h => (nomatch hfetch.symm.trans h), fun _ _ h => (nomatch hfetch.symm.trans h)⟩⟩
  | ok rules =>
    obtain ⟨catalog, hcatalog⟩ : ∃ catalog, s.catalog = .ok catalog := ⟨_, rfl⟩
    obtain ⟨events, hevents, hdone⟩ := exists_isDone_of_events hworkers
      (fun i => (rules[i]?.map (s.timedAnswer settings late catalog)).getD
        (.error (.timeout settings.timeout))) []
    refine ⟨events, fun rules' catalog' h h' => ?_, fun rules' catalog' h h' => ?_⟩
    all_goals
      obtain rfl := Except.ok.inj (hfetch.symm.trans h)
      obtain rfl := Except.ok.inj (hcatalog.symm.trans h')
    · exact hevents
    · exact hdone

lemma candidates_bare (o : Outcome) : o.bare.candidates = o.candidates.map .bare := by
  cases o <;> rfl

lemma candidates_of_bare {evaluations evaluations' : List Evaluation}
    (h : evaluations'.map Evaluation.bare = evaluations.map Evaluation.bare) :
    (evaluations'.flatMap (·.outcome.candidates)).map Candidate.bare =
      (evaluations.flatMap (·.outcome.candidates)).map Candidate.bare := by
  have hbare : ∀ evaluations : List Evaluation,
    (evaluations.flatMap (·.outcome.candidates)).map Candidate.bare =
      (evaluations.map Evaluation.bare).flatMap (·.outcome.candidates) := by
    intro evaluations
    rw [List.map_flatMap, List.flatMap_map]
    exact congrArg (evaluations.flatMap ·) (funext fun e => (candidates_bare e.outcome).symm)
  rw [hbare, hbare, h]

lemma line_bare (e : Evaluation) :
    { RuleLine.ofEvaluation e with ruleName := "" } = RuleLine.ofEvaluation e.bare := by
  rw [RuleLine.ofEvaluation, RuleLine.ofEvaluation, Evaluation.bare]
  cases e.outcome with
  | matched candidates truncated =>
    simp [Outcome.bare, Outcome.candidates, Outcome.label, Outcome.isTruncated, Outcome.error?]
  | _ => rfl

def told (v : Violation) : NewViolation := ⟨"", "", v.table, v.recordId⟩

lemma map_told (newId : ℕ → String) (now : Time.Timestamp) (taken : ℕ) (batch : List Candidate) :
    (recordedAs newId now taken batch).map told = (batch.map Candidate.bare).map fun c =>
      ⟨"", "", c.table, c.recordId⟩ := by
  induction batch generalizing taken with
  | nil => rfl
  | cons c batch ih =>
    rw [recordedAs_cons, List.map_cons, ih]
    rfl

lemma report_bare (startedAt : Time.Timestamp) (millis : ℕ) (evaluations : List Evaluation)
    (recorded : List Violation) :
    (Report.ofEvaluations startedAt millis evaluations recorded false).bare =
      { Report.ofEvaluations Time.Timestamp.epoch 0 (evaluations.map .bare) [] false with
        violationsFound := (recorded.map told).length
        newViolations := recorded.map told } := by
  have hskipped : ∀ e : Evaluation, e.bare.outcome.isSkipped = e.outcome.isSkipped := by
    rintro ⟨_, _, outcome⟩
    cases outcome <;> rfl
  have hfailure : ∀ e : Evaluation, e.bare.outcome.isFailure = e.outcome.isFailure := by
    rintro ⟨_, _, outcome⟩
    cases outcome <;> rfl
  simp only [Report.bare, Report.ofEvaluations, List.map_map, List.length_map, List.countP_map,
    Function.comp_def, hskipped, hfailure, line_bare]
  rfl

lemma map_bare_added {now : Time.Timestamp} {taken : ℕ} {batch : List Candidate}
    {added : List ViolationRow}
    (h : List.Forall₂ (fun v row => rowOfViolation v = .ok row)
      (recordedAs newId now taken batch) added) :
    added.map .bare = (batch.map Candidate.bare).map openRow := by
  have htold : added.map ViolationRow.bare = (added.map unmarked).map fun row =>
    { row with explanation := "" } := by
    rw [List.map_map]
    rfl
  rw [htold, map_unmarked h, List.map_map, List.map_map]
  rfl

lemma explanation_of_mem {now : Time.Timestamp} {taken : ℕ} {policy : DedupPolicy}
    {reported : String × String × String → Bool} {added : List ViolationRow}
    (hs : s.rules = some table) (hfetch : s.fetchRules Status.scannable = .ok rules)
    (h : List.Forall₂ (fun v row => rowOfViolation v = .ok row)
      (recordedAs newId now taken (chosen policy reported
      ((rules.map (s.evaluationOf settings late catalog)).flatMap (·.outcome.candidates)))) added)
    {v : ViolationRow} (hv : v ∈ added) :
    ∃ row ∈ table.rows, row.id = v.ruleId ∧ v.explanation = explanationOf row.description := by
  have hmem : unmarked v ∈ added.map unmarked := List.mem_map_of_mem hv
  rw [map_unmarked h] at hmem
  obtain ⟨c, hc, hopen⟩ := List.mem_map.mp hmem
  obtain ⟨e, he, hc⟩ := List.mem_flatMap.mp ((chosen_sublist ..).subset hc)
  obtain ⟨rule, hrule, rfl⟩ := List.mem_map.mp he
  obtain ⟨row, hrow, hread⟩ := exists_row_of_mem_fetchRules hs hfetch hrule
  obtain ⟨hid, hexplanation⟩ := rule_of_mem_alone hc
  refine ⟨row, hrow, ?_, ?_⟩
  · rw [← id_of_toRule hread, ← hid]
    exact congrArg ViolationRow.ruleId hopen
  · rw [← description_of_toRule hread, ← hexplanation]
    exact congrArg ViolationRow.explanation hopen.symm

/-- Two stores have the same tables and violations, and their rules the same identities, times,
kinds and parameters; what is told of the rules may differ, and whether a rule is pending or active.
The names in the queries can be quoted. Then scans that nobody cancels and in which the same queries
are late both find the store unavailable, or neither does; their reports are the same but for names
of rules, identities and times; and they record the same violations, each explained by the
description that its rule has in its own store. -/
theorem scan_regardless_of_provenance {s s' : Store} {table table' : RuleTable}
    (halike : Alike s s') (hquotes : s.Quotes) (hs : s.rules = some table)
    (hs' : s'.rules = some table') (hsource : table'.hasSource = table.hasSource)
    (hids : (table.rows.map (·.id)).Nodup)
    (hrows : (table'.rows.map .bare).Perm (table.rows.map RuleRow.bare)) {settings : Settings}
    {late : String → Bool} {events events' : List Event} (hevents : s.Timed settings late events)
    (hevents' : s'.Timed settings late events') (newId newId' : ℕ → String) (clock clock' : Clock) :
    let scan := Scan.run (scanStore newId clock.startedAt) (.ofEvents events) settings clock s
    let scan' := Scan.run (scanStore newId' clock'.startedAt) (.ofEvents events') settings clock' s'
    (∀ cause, scan' = .error (.storeUnavailable cause) ↔ scan = .error (.storeUnavailable cause)) ∧
    (∀ report t rows, scan = .ok (report, t) → s.violations = some rows → Fresh newId' rows →
      (Instant.ofTimestamp? clock'.startedAt).isSome → ∃ report' t', scan' = .ok (report', t')) ∧
    ∀ report t report' t', scan = .ok (report, t) → scan' = .ok (report', t') →
      report'.bare = report.bare ∧
      ∃ added added',
        t = { s with violations := s.violations.map (· ++ added) } ∧
        t' = { s' with violations := s'.violations.map (· ++ added') } ∧
        added'.map .bare = added.map ViolationRow.bare ∧
        (∀ v ∈ added, ∃ row ∈ table.rows, row.id = v.ruleId ∧
          v.explanation = explanationOf row.description) ∧
        ∀ v ∈ added', ∃ row ∈ table'.rows, row.id = v.ruleId ∧
          v.explanation = explanationOf row.description := by
  intro scan scan'
  obtain ⟨catalog, hcatalog⟩ : ∃ catalog, s.catalog = .ok catalog := ⟨_, rfl⟩
  have hcatalog' : s'.catalog = .ok catalog := by
    rw [← hcatalog, Store.catalog, Store.catalog, halike.relations]
  have hfetched := map_fetchRules_eq hs hs' hsource hids hrows
  obtain ⟨cause, hfetch', hfetch⟩ | ⟨rules', rules, hfetch', hfetch, hrules⟩ :=
    cases_of_map_eq_map hfetched
  · have hscan : scan = .error (.storeUnavailable cause) := (run_eq_unavailable hevents).mpr hfetch
    have hscan' : scan' = .error (.storeUnavailable cause) := (run_eq_unavailable hevents').mpr hfetch'
    rw [hscan, hscan']
    exact ⟨fun _ => Iff.rfl, nofun, nofun⟩
  have hevaluations := halike.map_bare_evaluations hquotes hfetch hcatalog hrules settings late
  refine ⟨fun cause => ?_, fun _ _ rows _ hviolations hfresh hclock => ?_,
    fun report t report' t' hscan hscan' => ?_⟩
  · rw [run_eq_unavailable hevents, run_eq_unavailable hevents', hfetch, hfetch']
    simp
  · exact exists_run hevents' hfetch' (halike.violations.trans hviolations) hfresh hclock
  obtain ⟨recorded, millis, hpersist, rfl⟩ := exists_recorded hevents hfetch hcatalog hscan
  obtain ⟨recorded', millis', hpersist', rfl⟩ := exists_recorded hevents' hfetch' hcatalog' hscan'
  obtain ⟨rfl, added, hadded, rfl⟩ := persist_eq_ok hpersist
  obtain ⟨rfl, added', hadded', rfl⟩ := persist_eq_ok hpersist'
  -- candidates are chosen by their keys, so the same are chosen in both stores
  have hchosen : (chosen settings.dedup (hasOpen (s'.violations.getD []))
        ((rules'.map (s'.evaluationOf settings late catalog)).flatMap (·.outcome.candidates))).map
          Candidate.bare =
      (chosen settings.dedup (hasOpen (s.violations.getD []))
        ((rules.map (s.evaluationOf settings late catalog)).flatMap (·.outcome.candidates))).map
          Candidate.bare := by
    have hkey : ∀ c : Candidate, c.bare.key = c.key := fun _ => rfl
    rw [map_chosen hkey, map_chosen hkey, halike.violations, candidates_of_bare hevaluations]
  refine ⟨?_, added, added', rfl, rfl, ?_, fun v hv => explanation_of_mem hs hfetch hadded hv,
    fun v hv => explanation_of_mem hs' hfetch' hadded' hv⟩
  · rw [report_bare, report_bare, hevaluations, map_told, map_told, hchosen]
  · rw [map_bare_added hadded, map_bare_added hadded', hchosen]

/-! A table whose name ends its quotes and goes on to read the rules, and a rule told of in two ways -/

/-- In a query this name reads as that of a shorter table, next to which the rules are read. -/
def eavesdropper : String := "t\\\", compliance_rules WHERE status = 'active' --"

def eavesdropped (status : String) : Store where
  rules := some ⟨[⟨"r1", "no blanks", "not_null", "", "", .zero, status, .finite 0, none⟩], true⟩
  violations := some []
  relations :=
    [⟨"t\\", [⟨"a", .integer⟩], .stored [[.integer 1]]⟩,
      ⟨eavesdropper, [⟨"a", .integer⟩], .stored [[.integer 2]]⟩]

/-- Such a query finds nothing as long as the rule is pending, and a row once it is active. -/
example :
    let catalog := Catalog.ofColumns [("t\\", "a"), (eavesdropper, "a")]
    let rule := Query.bareRule "not_null" [("table", .text eavesdropper), ("column", .text "a")]
    ((Query.compile catalog rule).toOption.map fun query =>
      ["pending", "active"].map fun status => ((eavesdropped status).answer query 1).toOption) =
        some [some (.rows []), some (.rows [[some "1"]])] := by
  decide +kernel

def retoldStore : Store := { guestStore with
  rules := some ⟨[⟨"r1", "no blanks", "not_null", "A guest has a name",
    "\x7b\"table\":\"guests\",\"column\":\"name\"\x7d", Number.Double.ofInt 1, "pending", .finite 0,
    some "house rules"⟩], true⟩ }

lemma matchedRows_ofEvaluations (startedAt : Time.Timestamp) (millis : ℕ) (evaluations : List Evaluation)
    (recorded : List Violation) :
    (Report.ofEvaluations startedAt millis evaluations recorded false).rules.map (·.matchedRows) =
      evaluations.map (·.outcome.candidates.length) := List.map_map

def guestCatalog : Catalog := .ofColumns [("guests", "name")]

theorem scan_regardless_of_provenance_retoldStore :
    ∃ events events' report report' t t',
      Scan.run (scanStore countedId epochClock.startedAt)
        (.ofEvents events) Settings.usual epochClock guestStore =
        .ok (report, t) ∧
      Scan.run (scanStore countedId epochClock.startedAt)
        (.ofEvents events') Settings.usual epochClock retoldStore =
        .ok (report', t') ∧
      report'.bare = report.bare ∧ report.rules.map (·.matchedRows) = [1] ∧
      ∀ v ∈ t'.violations.getD [], v.explanation = "Violation of rule: A guest has a name" := by
  have hclock : (Instant.ofTimestamp? epochClock.startedAt).isSome := by decide +kernel
  have hworkers : 1 ≤ Settings.usual.maxWorkers := by decide
  have halike : Alike guestStore retoldStore := isolated_guestStore.alike rfl rfl
  have hmatched : (guestStore.fetchRules Status.scannable).toOption.map (fun rules =>
      (rules.map (guestStore.evaluationOf Settings.usual (fun _ => false) guestCatalog)).map
        (·.outcome.candidates.length)) = some [1] := by
    decide +kernel
  obtain ⟨rules, hfetch⟩ :=
    exists_of_isOk (x := guestStore.fetchRules Status.scannable) (by decide +kernel)
  have hcatalog : guestStore.catalog = .ok guestCatalog := by decide +kernel
  obtain ⟨events, hevents⟩ := exists_timed hworkers guestStore (fun _ => false)
  obtain ⟨events', hevents'⟩ := exists_timed hworkers retoldStore (fun _ => false)
  obtain ⟨report, t, hscan⟩ := exists_run hevents hfetch rfl fresh_countedId hclock
  obtain ⟨_, hruns, hsame⟩ := scan_regardless_of_provenance halike isolated_guestStore.quotes rfl rfl rfl
    (List.nodup_singleton "r1") (by decide +kernel) hevents hevents' countedId countedId epochClock
      epochClock
  obtain ⟨report', t', hscan'⟩ := hruns report t [] hscan rfl fresh_countedId hclock
  obtain ⟨hreport, added, added', _, rfl, _, _, hexplained⟩ := hsame report t report' t' hscan hscan'
  refine ⟨events, events', report, report', t, _, hscan, hscan', hreport, ?_, fun v hv => ?_⟩
  · obtain ⟨recorded, millis, _, rfl⟩ := exists_recorded hevents hfetch hcatalog hscan
    rw [hfetch, Except.toOption, Option.map_some, Option.some.injEq] at hmatched
    rw [matchedRows_ofEvaluations]
    exact hmatched
  · obtain ⟨row, hrow, _, hexplanation⟩ := hexplained v hv
    obtain rfl := List.mem_singleton.mp hrow
    exact hexplanation.trans (by decide +kernel)

end Store

end Compliance
