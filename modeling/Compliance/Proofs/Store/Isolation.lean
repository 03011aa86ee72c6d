import Compliance.Proofs.Store.Rules
import Compliance.Proofs.Store.Scan
import Compliance.Proofs.Store.Typing

/-! One more rule in the store: what the others come to and what is recorded of them stays as it is,
as long as the row of the rule reads as one. -/

namespace Compliance

open Result ListFacts

namespace Catalog

def NamedFrom (pairs : List (String × String)) (c : Catalog) : Prop :=
  ∀ table ∈ c.tables, table.name ∈ pairs.map (·.1) ∧ ∀ column ∈ table.columns, column ∈ pairs.map (·.2)

variable {pairs : List (String × String)} {c : Catalog}

lemma NamedFrom.insertKey (h : c.NamedFrom pairs) (key : String) {table : TableSchema}
    (htable : table.name ∈ pairs.map (·.1) ∧ ∀ column ∈ table.columns, column ∈ pairs.map (·.2)) :
    NamedFrom pairs ⟨Compliance.insertKey key table c.entries⟩ := by
  intro other hother
  obtain ⟨entry, hentry, rfl⟩ := List.mem_map.mp hother
  rcases mem_insertKey hentry with rfl | hentry
  · exact htable
  · exact h _ (List.mem_map_of_mem hentry)

lemma NamedFrom.addColumn (h : c.NamedFrom pairs) {pair : String × String} (hpair : pair ∈ pairs) :
    (c.addColumn pair.1 pair.2).NamedFrom pairs := by
  have hname : pair.1 ∈ pairs.map (·.1) := List.mem_map_of_mem hpair
  have hcolumn : pair.2 ∈ pairs.map (·.2) := List.mem_map_of_mem hpair
  rw [Catalog.addColumn]
  split
  next schema hlookup =>
    obtain ⟨before, after, he, _⟩ := List.lookup_eq_some_iff.mp hlookup
    obtain ⟨hschema, hcolumns⟩ := h schema (by rw [tables, he]; simp)
    refine h.insertKey _ ⟨hschema, fun column hc => ?_⟩
    rcases List.mem_append.mp hc with hc | hc
    · exact hcolumns column hc
    · exact List.mem_singleton.mp hc ▸ hcolumn
  next => exact h.insertKey _ ⟨hname, fun column hc => List.mem_singleton.mp hc ▸ hcolumn⟩

lemma namedFrom_ofColumns (pairs : List (String × String)) : (ofColumns pairs).NamedFrom pairs := by
  have hfold : ∀ (more : List (String × String)) (c : Catalog), (∀ pair ∈ more, pair ∈ pairs) →
    NamedFrom pairs c →
      NamedFrom pairs (more.foldl (fun c pair => c.addColumn pair.1 pair.2) c) := by
    intro more
    induction more with
    | nil => exact fun c _ h => h
    | cons pair more ih =>
      intro c hmem h
      exact ih _ (fun p hp => hmem p (List.mem_cons_of_mem _ hp))
        (h.addColumn (hmem pair (List.mem_cons_self ..)))
  exact hfold pairs empty (fun _ h => h) nofun

lemma NamedFrom.eraseAll (h : c.NamedFrom pairs) (names : List String) :
    (c.eraseAll names).NamedFrom pairs := by
  induction names generalizing c with
  | nil => exact h
  | cons name names ih =>
    refine ih fun table htable => ?_
    obtain ⟨entry, hentry, rfl⟩ := List.mem_map.mp htable
    exact h _ (List.mem_map_of_mem (List.mem_of_mem_filter hentry))

end Catalog

namespace Store

open Database Scan
open Query (Predicate queryOf)
open Sql.Identifier (Quotable)
open Violation (Candidate DedupPolicy)

structure Isolated (s : Store) : Prop where
  names : ∀ r ∈ s.relations, equalIgnoringCase r.name rulesName = false
  views : ∀ r ∈ s.relations, ∀ of, r.source = .view of → equalIgnoringCase of rulesName = false
  quotable : ∀ r ∈ s.relations, Quotable r.name ∧ ∀ column ∈ r.columnNames, Quotable column

def undisturbed : Disturbance := ⟨false, none⟩

def comesTo (s : Store) (settings : Settings) (catalog : Catalog) (rule : Rule) : Evaluation :=
  .alone settings.maxRows catalog rule
    (answerOf settings.timeout catalog (s.reply (rowLimit settings.maxRows)) rule)

def evaluations (s : Store) (settings : Settings) : Except Failure (List Evaluation) := do
  let rules ← s.fetchRules Rule.Status.scannable
  return (s.evaluate undisturbed settings (← s.catalog) rules).1

def unmarked (row : ViolationRow) : ViolationRow := { row with id := "", createdAt := .finite 0 }

def openRow (c : Candidate) : ViolationRow where
  id := ""
  ruleId := c.ruleId
  recordId := c.recordId
  table := c.table
  severity := c.severity.name
  status := Violation.Status.opened.name
  evidence := (Json.object c.evidence).compact
  explanation := c.explanation
  createdAt := .finite 0

variable {s : Store} {row : RuleRow} {catalog : Catalog}

lemma quotable_catalog (hs : Isolated s) (hcatalog : s.catalog = .ok catalog) {table : TableSchema}
    (htable : table ∈ catalog.tables) :
    equalIgnoringCase table.name rulesName = false ∧ Quotable table.name ∧ ∀ column ∈ table.columns,
      Quotable column := by
  obtain rfl := Except.ok.inj hcatalog
  obtain ⟨hname, hcolumns⟩ := (Catalog.namedFrom_ofColumns _).eraseAll _ table htable
  have hpair :
    ∀ pair ∈ (s.relations.mergeSort fun a b => a.name ≤ b.name).flatMap
        fun r => r.columnNames.map (r.name, ·),
      ∃ r ∈ s.relations, pair.1 = r.name ∧ pair.2 ∈ r.columnNames := by
    intro pair hp
    obtain ⟨r, hr, hp⟩ := List.mem_flatMap.mp hp
    obtain ⟨column, hcolumn, rfl⟩ := List.mem_map.mp hp
    exact ⟨r, List.mem_mergeSort.mp hr, rfl, hcolumn⟩
  obtain ⟨pair, hp, hpname⟩ := List.mem_map.mp hname
  obtain ⟨r, hr, hrname, _⟩ := hpair pair hp
  rw [← hpname, hrname]
  refine ⟨hs.names r hr, (hs.quotable r hr).1, fun column hc => ?_⟩
  obtain ⟨pair, hp, rfl⟩ := List.mem_map.mp (hcolumns column hc)
  obtain ⟨r, hr, _, hc⟩ := hpair pair hp
  exact (hs.quotable r hr).2 _ hc

lemma quotable_query (hs : Isolated s) (hcatalog : s.catalog = .ok catalog) {rule : Rule} {query : Query}
    (hq : Query.compile catalog rule = .ok query) : equalIgnoringCase query.table rulesName = false ∧
      Quotable query.table ∧ ∀ column ∈ query.columns, Quotable column := by
  obtain ⟨_, subject, p, _, hf, _, rfl, _⟩ := Query.compile_eq_ok hq
  exact quotable_catalog hs hcatalog (Catalog.mem_tables (Query.Subject.find_eq_ok hf).1).1

lemma equalIgnoringCase_comm (a b : String) : equalIgnoringCase a b = equalIgnoringCase b a := by
  rw [equalIgnoringCase, equalIgnoringCase]
  simp only [eq_comm]

lemma find?_eq_find? {s' : Store} (hrelations : s'.relations = s.relations)
    (hviolations : s'.violations = s.violations) {name : String}
    (h : equalIgnoringCase name rulesName = false) : s'.find? name = s.find? name := by
  have hskip : ∀ table, equalIgnoringCase (rulesRelation table).name name = false :=
    fun _ => equalIgnoringCase_comm .. ▸ h
  have hothers : ∀ t : Store, t.find? name =
      ((t.violations.map violationsRelation).toList ++ t.relations).find?
        (equalIgnoringCase ·.name name) := by
    rintro ⟨rules, violations, relations⟩
    cases rules with
    | none => rfl
    | some table =>
      simp only [find?, allRelations, Option.map_some, Option.toList_some, List.cons_append,
        List.find?_cons, hskip, List.nil_append]
  rw [hothers, hothers, hrelations, hviolations]

lemma view_of_find? (hs : Isolated s) {name : String} {r : Relation} (hr : s.find? name = some r)
    {of : String} (hof : r.source = .view of) : equalIgnoringCase of rulesName = false := by
  obtain ⟨table, rfl⟩ | ⟨rows, rfl⟩ | hmem := mem_allRelations (List.mem_of_find?_eq_some hr)
  · exact nomatch hof
  · exact nomatch hof
  · exact hs.views r hmem of hof

lemma stored_eq_stored (hs : Isolated s) {s' : Store} (hrelations : s'.relations = s.relations)
    (hviolations : s'.violations = s.violations) (fuel : ℕ) {r : Relation}
    (hr : ∀ of, r.source = .view of → equalIgnoringCase of rulesName = false) :
    r.stored s'.find? fuel = r.stored s.find? fuel := by
  induction fuel generalizing r with
  | zero => obtain ⟨name, columns, rows | of | _⟩ := r <;> rfl
  | succ fuel ih =>
    obtain ⟨name, columns, rows | of | _⟩ := r
    · rfl
    · have hof := hr of rfl
      rw [Relation.stored, Relation.stored, find?_eq_find? hrelations hviolations hof]
      cases hfind : s.find? of with
      | none => rfl
      | some relation =>
        dsimp only
        rw [ih fun of' hof' => view_of_find? hs hfind hof']
    · rfl

lemma runQuery_congr {find find' : Lookup} {depth : ℕ} {text : String} {table : TableSchema}
    {p : Predicate} {limit : Option ℕ}
    (hread : Sql.readSelect text = .ok (queryOf table p [] limit))
    (hfind : find table.name = find' table.name)
    (hstored : ∀ r, find' table.name = some r → r.stored find depth = r.stored find' depth)
    (binds : List Rule.Literal) :
    runQuery find depth text binds = runQuery find' depth text binds := by
  rw [runQuery_queryOf hread, runQuery_queryOf hread, hfind]
  cases hr : find' table.name with
  | none => rfl
  | some relation =>
    dsimp only
    rw [hstored relation hr]

lemma answer_congr {s' : Store} {rule : Rule} {query : Query}
    (hq : Query.compile catalog rule = .ok query)
    (hquotable : Quotable query.table ∧ ∀ column ∈ query.columns, Quotable column)
    (hrelations : s'.relations = s.relations) (hfind : s'.find? query.table = s.find? query.table)
    (hstored : ∀ r, s.find? query.table = some r →
      r.stored s'.find? s.relations.length = r.stored s.find? s.relations.length) (limit : ℕ) :
    s'.answer query limit = s.answer query limit := by
  obtain ⟨_, subject, p, _, hf, hv, rfl, _⟩ := Query.compile_eq_ok hq
  obtain ⟨_, hne⟩ := Catalog.mem_tables (Query.Subject.find_eq_ok hf).1
  have hread : Sql.readSelect ((Query.ofText subject [p]).limited limit) =
    .ok (queryOf subject.table p [] (some limit)) :=
    Query.readSelect_eq hne
      ((Query.read_limited_iff subject p limit).mpr ((Query.quotable_template hv).mpr hquotable))
  rw [answer, answer, hrelations]
  exact runQuery_congr hread hfind hstored _

lemma answer_withRuleRow (hs : Isolated s) (row : RuleRow) (hcatalog : s.catalog = .ok catalog)
    {rule : Rule} {query : Query} (hq : Query.compile catalog rule = .ok query) (limit : ℕ) :
    (s.withRuleRow row).answer query limit = s.answer query limit := by
  obtain ⟨hname, hquotable⟩ := quotable_query hs hcatalog hq
  have hrelations : (s.withRuleRow row).relations = s.relations := rfl
  have hviolations : (s.withRuleRow row).violations = s.violations := rfl
  exact answer_congr hq hquotable hrelations (find?_eq_find? hrelations hviolations hname)
    (fun r hr => stored_eq_stored hs hrelations hviolations _ fun of hof => view_of_find? hs hr hof)
      limit

lemma comesTo_withRuleRow (hs : Isolated s) (row : RuleRow) (hcatalog : s.catalog = .ok catalog)
    (settings : Settings) (rule : Rule) : (s.withRuleRow row).comesTo settings catalog rule =
      s.comesTo settings catalog rule := by
  rw [comesTo, comesTo, answerOf_congr fun query hq => ?_]
  rw [reply, reply, behaviour, behaviour, answer_withRuleRow hs row hcatalog hq]

lemma evaluate_undisturbed (s : Store) {settings : Settings} (hworkers : 1 ≤ settings.maxWorkers)
    (catalog : Catalog) (rules : List Rule) : s.evaluate undisturbed settings catalog rules =
      (rules.map (s.comesTo settings catalog), false) := by
  obtain ⟨_, _, hcalm⟩ :=
    Cooperative.evaluate_prompt (s.reply (rowLimit settings.maxRows)) none hworkers catalog rules false
  obtain ⟨hcancelled, hevaluations⟩ := hcalm rfl rfl
  rw [evaluate_eq]
  exact Prod.ext hevaluations hcancelled

lemma evaluations_eq {settings : Settings} (hworkers : 1 ≤ settings.maxWorkers) {rules : List Rule}
    (hfetch : s.fetchRules Rule.Status.scannable = .ok rules) (hcatalog : s.catalog = .ok catalog) :
    s.evaluations settings = .ok (rules.map (s.comesTo settings catalog)) := by
  rw [evaluations, hfetch, hcatalog, ok_bind, ok_bind, evaluate_undisturbed s hworkers]
  rfl

lemma rule_of_mem_alone {maxRows : ℕ} {rule : Rule} {answer : Scan.Answer} {c : Candidate}
    (h : c ∈ (Evaluation.alone maxRows catalog rule answer).outcome.candidates) :
    c.ruleId = rule.id ∧ c.explanation = Violation.explanationOf rule.description := by
  rw [Evaluation.alone] at h
  cases hq : Query.compile catalog rule with
  | error _ =>
    rw [hq] at h
    cases h
  | ok query =>
    rw [hq] at h
    rcases answer with (_ | _ | _ | _) | found
    case ok =>
      obtain ⟨_, _, rfl⟩ := List.mem_map.mp h
      exact ⟨rfl, rfl⟩
    all_goals cases h

variable {newId : ℕ → String} {clock : Clock} {settings : Settings} {rows : List ViolationRow}
  {rules : List Rule}

lemma map_unmarked {now : Time.Timestamp} {taken : ℕ} {batch : List Candidate}
    {added : List ViolationRow}
    (h : List.Forall₂ (fun v row => rowOfViolation v = .ok row)
      (recordedAs newId now taken batch) added) :
    added.map unmarked = batch.map openRow := by
  induction batch generalizing taken added with
  | nil =>
    obtain rfl := List.forall₂_nil_left_iff.mp h
    rfl
  | cons c batch ih =>
    rw [recordedAs_cons] at h
    obtain ⟨row, rest, hrow, hrest, rfl⟩ := List.forall₂_cons_left_iff.mp h
    obtain ⟨_, _, rfl⟩ := rowOfViolation_eq_ok.mp hrow
    rw [List.map_cons, List.map_cons, ih hrest]
    rfl

lemma filter_unreported (p : String → Bool) {reported reported' : String × String × String → Bool}
    (h : ∀ key, p key.1 → reported key = reported' key) (batch : List Candidate) :
    (unreported reported batch).filter (p ·.ruleId) =
      unreported reported' (batch.filter (p ·.ruleId)) := by
  induction batch generalizing reported reported' with
  | nil => rfl
  | cons c batch ih =>
    rw [unreported_cons]
    by_cases hp : p c.ruleId
    · have hcons : ∀ more : List Candidate, (c :: more).filter (p ·.ruleId) =
        c :: more.filter (p ·.ruleId) :=
        fun more => List.filter_cons_of_pos hp
      rw [hcons, unreported_cons, ← h c.key hp]
      split_ifs
      · exact ih h
      · rw [hcons, ih fun key hkey => by rw [h key hkey]]
    · have hcons : ∀ more : List Candidate, (c :: more).filter (p ·.ruleId) = more.filter (p ·.ruleId) :=
        fun more => List.filter_cons_of_neg hp
      have hother : ∀ key : String × String × String, p key.1 → c.key ≠ key := by
        rintro _ hkey rfl
        exact hp hkey
      rw [hcons]
      split_ifs
      · exact ih h
      · exact (hcons _).trans (ih fun key hkey => by simp [h key hkey, hother key hkey])

lemma filter_chosen (p : String → Bool) (policy : DedupPolicy)
    (reported : String × String × String → Bool) (batch : List Candidate) :
    (chosen policy reported batch).filter (p ·.ruleId) =
      chosen policy reported (batch.filter (p ·.ruleId)) := by
  cases policy with
  | append => rfl
  | skipOpen => exact filter_unreported p (fun _ _ => rfl) batch

lemma scan_of_fetch_error {cause : Failure} (h : s.fetchRules Rule.Status.scannable = .error cause)
    (newId : ℕ → String) (clock : Clock) (settings : Settings) :
    s.scan newId clock settings undisturbed = .error (.storeUnavailable cause) :=
  Scan.run_of_fetch_error h _ settings clock

lemma scan_of_fetch_nil (h : s.fetchRules Rule.Status.scannable = .ok []) (newId : ℕ → String)
    (clock : Clock) (settings : Settings) : s.scan newId clock settings undisturbed =
      .ok (Report.empty clock.startedAt, s) :=
  Scan.run_of_fetch_nil h _ settings clock

lemma scan_of_fetch_ne_nil (hworkers : 1 ≤ settings.maxWorkers)
    (hfetch : s.fetchRules Rule.Status.scannable = .ok rules) (hne : rules ≠ [])
    (hcatalog : s.catalog = .ok catalog) (newId : ℕ → String) (clock : Clock) :
    s.scan newId clock settings undisturbed =
      ((persist newId clock.startedAt
        ((rules.map (s.comesTo settings catalog)).flatMap (·.outcome.candidates))
        settings.dedup s).mapError .persistence).map fun (recorded, t) =>
          (Report.ofEvaluations clock.startedAt clock.durationMillis
            (rules.map (s.comesTo settings catalog)) recorded false, t) :=
  Scan.run_of_evaluate hfetch hne hcatalog (evaluate_undisturbed s hworkers catalog rules) clock

lemma exists_scan (hworkers : 1 ≤ settings.maxWorkers)
    (hfetch : s.fetchRules Rule.Status.scannable = .ok rules) (hcatalog : s.catalog = .ok catalog)
    (hrows : s.violations = some rows) (hid : Fresh newId rows)
    (hclock : (Instant.ofTimestamp? clock.startedAt).isSome) :
    ∃ report t, s.scan newId clock settings undisturbed = .ok (report, t) := by
  by_cases hne : rules = []
  · exact ⟨_, _, scan_of_fetch_nil (hne ▸ hfetch) newId clock settings⟩
  · rw [scan_of_fetch_ne_nil hworkers hfetch hne hcatalog]
    obtain ⟨recorded, t, h⟩ := exists_persist hrows hid hclock
      ((rules.map (s.comesTo settings catalog)).flatMap (·.outcome.candidates)) settings.dedup
    rw [h]
    exact ⟨_, _, rfl⟩

lemma exists_added_of_scan {report : Report} {t : Store} (hworkers : 1 ≤ settings.maxWorkers)
    (hfetch : s.fetchRules Rule.Status.scannable = .ok rules) (hcatalog : s.catalog = .ok catalog)
    (hrows : s.violations = some rows) (h : s.scan newId clock settings undisturbed = .ok (report, t)) :
    report.rules = (rules.map (s.comesTo settings catalog)).map RuleLine.ofEvaluation ∧
      ∃ added, t = { s with violations := some (rows ++ added) } ∧
        added.map unmarked = (chosen settings.dedup (hasOpen rows)
          ((rules.map (s.comesTo settings catalog)).flatMap (·.outcome.candidates))).map openRow := by
  by_cases hne : rules = []
  · subst hne
    rw [scan_of_fetch_nil hfetch] at h
    obtain ⟨rfl, rfl⟩ := Prod.ext_iff.mp (Except.ok.inj h)
    refine ⟨rfl, [], ?_, by rw [List.map_nil, List.map_nil, List.flatMap_nil, chosen_nil]; rfl⟩
    cases s
    simpa using hrows
  · rw [scan_of_fetch_ne_nil hworkers hfetch hne hcatalog] at h
    obtain ⟨⟨recorded, t'⟩, hpersist, h⟩ := map_eq_ok.mp h
    obtain ⟨rfl, rfl⟩ := Prod.ext_iff.mp h
    obtain ⟨rfl, added, hadded, rfl⟩ := persist_eq_ok (mapError_eq_ok.mp hpersist)
    refine ⟨rfl, added, by rw [hrows]; rfl, ?_⟩
    rw [hrows] at hadded
    exact map_unmarked hadded

lemma filter_candidates {earlier later : List Rule} {rule : Rule}
    (h : ∀ other ∈ earlier ++ later, other.id ≠ rule.id) :
    (((earlier ++ rule :: later).map (s.comesTo settings catalog)).flatMap (·.outcome.candidates)).filter
        (·.ruleId ≠ rule.id) =
      ((earlier ++ later).map (s.comesTo settings catalog)).flatMap (·.outcome.candidates) := by
  have hkept : ∀ rules : List Rule, (∀ other ∈ rules, other.id ≠ rule.id) →
      ((rules.map (s.comesTo settings catalog)).flatMap (·.outcome.candidates)).filter
        (·.ruleId ≠ rule.id) =
        (rules.map (s.comesTo settings catalog)).flatMap (·.outcome.candidates) := by
    intro rules hrules
    refine List.filter_eq_self.mpr fun c hc => decide_eq_true ?_
    obtain ⟨e, he, hc⟩ := List.mem_flatMap.mp hc
    obtain ⟨other, hother, rfl⟩ := List.mem_map.mp he
    exact (rule_of_mem_alone hc).1 ▸ hrules other hother
  have hnone : (s.comesTo settings catalog rule).outcome.candidates.filter (·.ruleId ≠ rule.id) = [] :=
    List.filter_eq_nil_iff.mpr fun c hc => by simp [(rule_of_mem_alone hc).1]
  rw [List.map_append, List.map_cons, List.flatMap_append, List.flatMap_cons, List.filter_append,
    List.filter_append, hnone, hkept earlier fun other ho => h other (List.mem_append_left _ ho),
    hkept later fun other ho => h other (List.mem_append_right _ ho), List.nil_append,
    List.map_append, List.flatMap_append]

/-- A store is given one more rule that is to be scanned, and what rules look at is isolated from
what is kept of them. If the time of the rule's row reads as none, no rule at all is scanned any
more. Otherwise, whatever else the row holds, the scan comes to its end as before, every other rule
comes to the same, and the same is recorded of it, identities and times aside; the added rule adds
its own line and its own violations. -/
theorem scan_withRuleRow {s t : Store} {table : RuleTable} {rows : List ViolationRow}
    {settings : Settings} {newId : ℕ → String} {clock : Clock} {report : Report} (hs : Isolated s)
    (htable : s.rules = some table) (hids : (table.rows.map (·.id)).Nodup)
    (hrows : s.violations = some rows) (hworkers : 1 ≤ settings.maxWorkers)
    (hscan : s.scan newId clock settings undisturbed = .ok (report, t)) (row : RuleRow)
    (hfresh : ∀ r ∈ table.rows, r.id ≠ row.id)
    (hstatus : Rule.Status.scannable.any (·.name = row.status)) (newId' : ℕ → String)
    (hunused : Fresh newId' rows) (clock' : Clock)
    (hclock : (Instant.ofTimestamp? clock'.startedAt).isSome) :
    match readInstant rulesName row.createdAt with
    | .error cause =>
      (s.withRuleRow row).scan newId' clock' settings undisturbed = .error (.storeUnavailable cause)
    | .ok _ => ∃ before e after report' added added',
        s.evaluations settings = .ok (before ++ after) ∧
        (s.withRuleRow row).evaluations settings = .ok (before ++ e :: after) ∧
        e.ruleId = row.id ∧ (∀ other ∈ before ++ after, other.ruleId ≠ row.id) ∧
        report.rules = (before ++ after).map RuleLine.ofEvaluation ∧
        t = { s with violations := some (rows ++ added) } ∧
        (s.withRuleRow row).scan newId' clock' settings undisturbed =
          .ok (report', { s.withRuleRow row with violations := some (rows ++ added') }) ∧
        report'.rules = (before ++ e :: after).map RuleLine.ofEvaluation ∧
        (added'.filter (·.ruleId ≠ row.id)).map unmarked = added.map unmarked := by
  obtain ⟨rules, hfetch, _⟩ := bind_eq_ok.mp hscan
  have hfetch : s.fetchRules Rule.Status.scannable = .ok rules := mapError_eq_ok.mp hfetch
  obtain ⟨catalog, hcatalog⟩ : ∃ catalog, s.catalog = .ok catalog := ⟨_, rfl⟩
  have hcatalog' : (s.withRuleRow row).catalog = .ok catalog := hcatalog
  have hrows' : (s.withRuleRow row).violations = some rows := hrows
  have hadd := fetchRules_withRuleRow htable hids hfresh hstatus hfetch
  cases hread : readInstant rulesName row.createdAt with
  | error cause =>
    rw [toRule_eq_error hstatus hread] at hadd
    exact scan_of_fetch_error hadd newId' clock' settings
  | ok _ =>
    obtain ⟨rule, hrule⟩ := exists_toRule hstatus hread
    rw [hrule] at hadd
    obtain ⟨earlier, later, rfl, hfetch'⟩ := hadd
    have hid := id_of_toRule hrule
    have hothers : ∀ other ∈ earlier ++ later, other.id ≠ rule.id := by
      intro other hother
      obtain ⟨r, hr, hread⟩ := exists_row_of_mem_fetchRules htable hfetch hother
      rw [id_of_toRule hread, hid]
      exact hfresh r hr
    -- both scans come to what each rule comes to by itself, which the new row does not change
    have hsame : (s.withRuleRow row).comesTo settings catalog = s.comesTo settings catalog :=
      funext (comesTo_withRuleRow hs row hcatalog settings)
    obtain ⟨report', t', hscan'⟩ := exists_scan hworkers hfetch' hcatalog' hrows' hunused hclock
    obtain ⟨hlines, added, rfl, hadded⟩ := exists_added_of_scan hworkers hfetch hcatalog hrows hscan
    obtain ⟨hlines', added', rfl, hadded'⟩ :=
      exists_added_of_scan hworkers hfetch' hcatalog' hrows' hscan'
    rw [hsame] at hlines' hadded'
    have hevaluations' := evaluations_eq hworkers hfetch' hcatalog'
    rw [hsame] at hevaluations'
    refine ⟨earlier.map (s.comesTo settings catalog), s.comesTo settings catalog rule,
      later.map (s.comesTo settings catalog), report', added, added', ?_, ?_, hid,
      fun other hother => ?_, ?_, rfl, hscan',
      ?_, ?_⟩
    · rw [evaluations_eq hworkers hfetch hcatalog, List.map_append]
    · rw [hevaluations', List.map_append, List.map_cons]
    · rw [← List.map_append] at hother
      obtain ⟨rule', hrule', rfl⟩ := List.mem_map.mp hother
      exact hid ▸ hothers rule' hrule'
    · rw [hlines, List.map_append (f := s.comesTo settings catalog)]
    · rw [hlines', List.map_append (f := s.comesTo settings catalog),
        List.map_cons (f := s.comesTo settings catalog)]
    · have hfilter : ∀ vs : List ViolationRow, (vs.filter (·.ruleId ≠ row.id)).map unmarked =
          (vs.map unmarked).filter (·.ruleId ≠ row.id) := fun vs => by rw [List.filter_map]; rfl
      have hopen : ∀ cs : List Candidate, (cs.map openRow).filter (·.ruleId ≠ row.id) =
          (cs.filter (·.ruleId ≠ row.id)).map openRow := fun cs => by rw [List.filter_map]; rfl
      rw [hfilter, hadded', hopen, filter_chosen (· ≠ row.id), hadded, ← hid, filter_candidates hothers]

/-! A rule of no known kind, whose parameters are no JSON -/

def guestStore : Store where
  rules := some ⟨[⟨"r1", "named", "not_null", "",
    "\x7b\"table\":\"guests\",\"column\":\"name\"\x7d", .zero, "active", .finite 0, none⟩], true⟩
  violations := some []
  relations := [⟨"guests", [⟨"name", .text⟩], .stored [[.text "Ann"], [.null]]⟩]

def retiredRow (createdAt : Instant) : RuleRow :=
  ⟨"r0", "old", "retired", "", "\x7b", .zero, "pending", createdAt, none⟩

lemma isolated_guestStore : Isolated guestStore where
  names r hr := by
    obtain rfl := List.mem_singleton.mp hr
    decide +kernel
  views r hr of hof := by
    obtain rfl := List.mem_singleton.mp hr
    exact nomatch hof
  quotable r hr := by
    obtain rfl := List.mem_singleton.mp hr
    decide +kernel

def epochClock : Clock := ⟨Time.Timestamp.epoch, 0⟩

theorem scan_withRuleRow_retiredRow :
    ∃ report t, guestStore.scan countedId epochClock Settings.usual undisturbed = .ok (report, t) ∧
      (∃ report' t', (guestStore.withRuleRow (retiredRow (.finite 5))).scan countedId epochClock
        Settings.usual undisturbed =
        .ok (report', t') ∧ report'.rules.length = report.rules.length + 1) ∧
      (guestStore.withRuleRow (retiredRow .future)).scan countedId epochClock Settings.usual
        undisturbed =
        .error (.storeUnavailable (.corruptRow rulesName
          "bad timestamp 'infinity': input contains invalid characters")) := by
  have hclock : (Instant.ofTimestamp? epochClock.startedAt).isSome := by decide +kernel
  obtain ⟨rules, hfetch⟩ : ∃ rules, guestStore.fetchRules Rule.Status.scannable = .ok rules := by
    have hok : (guestStore.fetchRules Rule.Status.scannable).toOption.isSome := by decide +kernel
    cases h : guestStore.fetchRules Rule.Status.scannable with
    | ok rules => exact ⟨rules, rfl⟩
    | error cause =>
      rw [h] at hok
      exact nomatch hok
  obtain ⟨report, t, hscan⟩ : ∃ report t,
    guestStore.scan countedId epochClock Settings.usual undisturbed = .ok (report, t) :=
    exists_scan (by decide) hfetch rfl rfl fresh_countedId hclock
  have hstatus : Rule.Status.scannable.any (·.name = "pending") := by decide +kernel
  have hadd := fun createdAt =>
    scan_withRuleRow isolated_guestStore rfl (List.nodup_singleton "r1") rfl (by decide) hscan
      (retiredRow createdAt) (by simp [retiredRow]) hstatus countedId fresh_countedId epochClock
      hclock
  have hmessage : "bad timestamp '" ++ Instant.future.momentText ++ "': " ++
    Time.ReadError.invalid.message =
      "bad timestamp 'infinity': input contains invalid characters" := by decide +kernel
  refine ⟨report, t, hscan, ?_, hmessage ▸ hadd .future⟩
  obtain ⟨before, e, after, report', added, added', _, _, _, _, hlines, _, hscan', hlines', _⟩ :=
    hadd (.finite 5)
  refine ⟨report', _, hscan', ?_⟩
  rw [hlines, hlines']
  simp only [List.length_map, List.length_append, List.length_cons]
  omega

end Store

end Compliance
