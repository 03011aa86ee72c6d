import Compliance.Proofs.Scan.Progress
import Compliance.Proofs.Store.Accounting
import Compliance.Proofs.Store.Statuses

/-! Compiling the rules without running them foretells what a scan says of them. -/

namespace Compliance

open Database ListFacts Result Scan
open Query (Listed)
open Rule (Status)

namespace Scan

variable {maxRows : ℕ} {catalog : Catalog} {rule : Rule} {answer : Answer}

lemma line_of_compile_error {cause : Rule.CompileError} (h : Query.compile catalog rule = .error cause) :
    (RuleLine.ofEvaluation (.alone maxRows catalog rule answer)).outcome = "compile_failed" ∧
      (RuleLine.ofEvaluation (.alone maxRows catalog rule answer)).error = some cause.message := by
  rw [Evaluation.alone, h]
  exact ⟨rfl, rfl⟩

lemma line_of_compile_ok {query : Query} (h : Query.compile catalog rule = .ok query)
    (hanswer : answer ≠ .error .cancelled) :
    (RuleLine.ofEvaluation (.alone maxRows catalog rule answer)).outcome ∈
      ["matched", "execution_failed", "timed_out"] := by
  rw [Evaluation.alone, h]
  rcases answer with (_ | _ | _ | _) | found
  case error.cancelled => exact absurd rfl hanswer
  case ok => exact List.mem_cons_self ..
  all_goals simp [RuleLine.ofEvaluation, Outcome.ofAnswer, Outcome.label]

end Scan

namespace Store

variable {s : Store} {rows : List RuleRow} {catalog : Catalog} {rule : Rule} {listed : List Listed}
  {id : String}

def activated (id : String) (s : Store) : Store :=
  { s with rules := s.rules.map fun table =>
      { table with
        rows := table.rows.map fun row =>
          if row.id = id then { row with status := Status.active.name } else row } }

lemma exists_table (h : s.ruleRows = .ok rows) : ∃ table, s.rules = some table ∧ table.hasSource ∧
    table.rows = rows := by
  rw [ruleRows, asFailure, mapError_eq_ok] at h
  obtain ⟨table, htable, h⟩ := bind_eq_ok.mp h
  have hs : s.rules = some table := by
    rw [ruleTable] at htable
    split at htable
    next hs => exact Except.ok.inj htable ▸ hs
    next => cases htable
  cases hsource : table.hasSource with
  | false =>
    rw [hsource] at h
    cases h
  | true =>
    rw [hsource] at h
    exact ⟨table, hs, hsource, Except.ok.inj h⟩

lemma compileRules_none (hcatalog : s.catalog = .ok catalog) : s.compileRules none = .ok listed ↔
    ∃ rules, s.fetchRules Status.scannable = .ok rules ∧ rules.map (Listed.ofRule catalog) = listed := by
  rw [compileRules, bind_eq_ok]
  simp only [hcatalog, ok_bind, pure_eq_ok]
  rfl

lemma compileRules_some (hcatalog : s.catalog = .ok catalog) (id : String) : s.compileRules (some id) =
    match s.rule? id with
    | .ok (some rule) => .ok [.ofRule catalog rule]
    | .ok none => .error (.domain (.ruleNotFound id))
    | .error failure => .error failure := by
  rw [compileRules, rulesToCompile, hcatalog]
  rcases s.rule? id with failure | _ | rule <;> rfl

lemma corrupt_of_toRule_error {row : RuleRow} {failure : Failure} (h : row.toRule = .error failure) :
    ∃ message, failure = .corruptRow rulesName message := by
  rcases bind_eq_error.mp h with h | ⟨status, _, h⟩
  · rw [RuleRow.readStatus] at h
    split at h <;> cases h
    exact ⟨_, rfl⟩
  · rcases bind_eq_error.mp h with h | ⟨createdAt, _, h⟩
    · rw [readInstant] at h
      split at h <;> cases h
      exact ⟨_, rfl⟩
    · cases h

lemma rule?_eq_find (hrows : s.ruleRows = .ok rows) (id : String) : s.rule? id =
    match rows.find? (·.id = id) with
    | some row => row.toRule.map some
    | none => .ok none := by
  rw [rule?, hrows, ok_bind]
  cases rows.find? (·.id = id) with
  | none => rfl
  | some row =>
    change (row.toRule >>= fun rule => pure (some rule)) = row.toRule.map some
    cases row.toRule <;> rfl

lemma compileRules_ruleNotFound (hrows : s.ruleRows = .ok rows) (id : String) :
    s.compileRules (some id) = .error (.domain (.ruleNotFound id)) ↔ ∀ row ∈ rows, row.id ≠ id := by
  obtain ⟨catalog, hcatalog⟩ : ∃ catalog, s.catalog = .ok catalog := ⟨_, rfl⟩
  rw [compileRules_some hcatalog, rule?_eq_find hrows]
  cases hfind : rows.find? (·.id = id) with
  | none => exact iff_of_true rfl fun row hrow => by simpa using List.find?_eq_none.mp hfind row hrow
  | some row =>
    have hid : row.id = id := by simpa using List.find?_some hfind
    refine iff_of_false ?_ fun h => h row (List.mem_of_find?_eq_some hfind) hid
    dsimp only
    cases hread : row.toRule with
    | ok rule => exact nofun
    | error failure =>
      obtain ⟨message, rfl⟩ := corrupt_of_toRule_error hread
      exact nofun

section
variable (hrows : s.ruleRows = .ok rows) (hids : (rows.map (·.id)).Nodup)
include hrows hids

lemma rule?_iff {id : String} {rule : Rule} : s.rule? id = .ok (some rule) ↔
    ∃ row ∈ rows, row.id = id ∧ row.toRule = .ok rule := by
  obtain ⟨table, hs, hsource, rfl⟩ := exists_table hrows
  exact rule?_eq_some hs hsource hids

lemma compileRules_one (hcatalog : s.catalog = .ok catalog)
    (hlisted : s.compileRules none = .ok listed) {entry : Listed} (hentry : entry ∈ listed) :
    s.compileRules (some entry.rule.id) = .ok [entry] := by
  obtain ⟨table, hs, _, rfl⟩ := exists_table hrows
  obtain ⟨rules, hfetch, rfl⟩ := (compileRules_none hcatalog).mp hlisted
  obtain ⟨rule, hrule, rfl⟩ := List.mem_map.mp hentry
  obtain ⟨row, hrow, hread⟩ := exists_row_of_mem_fetchRules hs hfetch hrule
  have hfound : s.rule? rule.id = .ok (some rule) :=
    (rule?_iff hrows hids).mpr ⟨row, hrow, (id_of_toRule hread).symm, hread⟩
  rw [compileRules_some hcatalog]
  change (match s.rule? rule.id with | .ok (some rule) => _ | .ok none => _ | .error failure => _) = _
  rw [hfound]

end

lemma listed_iff (hrows : s.ruleRows = .ok rows) (hlisted : s.compileRules none = .ok listed)
    (id : String) :
    (∃ entry ∈ listed, entry.rule.id = id) ↔
      ∃ row ∈ rows, row.id = id ∧ ∃ status ∈ Status.scannable, row.status = status.name := by
  obtain ⟨table, hs, _, rfl⟩ := exists_table hrows
  obtain ⟨catalog, hcatalog⟩ : ∃ catalog, s.catalog = .ok catalog := ⟨_, rfl⟩
  obtain ⟨rules, hfetch, rfl⟩ := (compileRules_none hcatalog).mp hlisted
  constructor
  · rintro ⟨entry, hentry, rfl⟩
    obtain ⟨rule, hrule, rfl⟩ := List.mem_map.mp hentry
    obtain ⟨row, hrow, hstatus, hread⟩ := (mem_fetchRules hs hfetch).mp hrule
    exact ⟨row, hrow, (id_of_toRule hread).symm, hstatus⟩
  · rintro ⟨row, hrow, rfl, hstatus⟩
    have hmem : row ∈ selected Status.scannable table.rows :=
      List.mem_mergeSort.mpr (List.mem_filter.mpr ⟨hrow, any_name_iff.mpr hstatus⟩)
    obtain ⟨rule, hrule, hread⟩ := exists_right (selected_of_fetchRules hs hfetch) hmem
    exact ⟨_, List.mem_map_of_mem hrule, id_of_toRule hread⟩

lemma ruleRows_activated (hrows : s.ruleRows = .ok rows) (id : String) : (s.activated id).ruleRows =
    .ok (rows.map fun row => if row.id = id then { row with status := Status.active.name }
      else row) := by
  obtain ⟨table, hs, hsource, rfl⟩ := exists_table hrows
  have hs' : (s.activated id).rules = some { table with
      rows :=
        table.rows.map fun row => if row.id = id then { row with status := Status.active.name }
          else row } := by
    rw [activated, hs]
    rfl
  exact ruleRows_eq hs' hsource

lemma toRule_active {row : RuleRow} (h : row.toRule = .ok rule) :
    RuleRow.toRule { row with status := Status.active.name } = .ok { rule with status := .active } := by
  obtain ⟨status, _, h⟩ := bind_eq_ok.mp h
  obtain ⟨createdAt, hread, h⟩ := bind_eq_ok.mp h
  obtain rfl := pure_eq_ok.mp h
  rw [RuleRow.toRule, readStatus_eq_ok.mpr (Status.ofName?_name .active), ok_bind, hread]
  rfl

lemma compileRules_activated (hrows : s.ruleRows = .ok rows) (hids : (rows.map (·.id)).Nodup)
    {id : String} {entries : List Listed} (h : s.compileRules (some id) = .ok entries) :
    ∃ entry, entries = [entry] ∧ entry.rule.id = id ∧
      (s.activated id).compileRules (some id) =
        .ok [{ entry with rule := { entry.rule with status := .active } }] ∧
      ∀ listed, (s.activated id).compileRules none = .ok listed →
        { entry with rule := { entry.rule with status := .active } } ∈ listed := by
  obtain ⟨catalog, hcatalog⟩ : ∃ catalog, s.catalog = .ok catalog := ⟨_, rfl⟩
  have hcatalog' : (s.activated id).catalog = .ok catalog := hcatalog
  have hrows' := ruleRows_activated hrows id
  have hids' : ((rows.map fun row =>
      if row.id = id then { row with status := Status.active.name } else row).map (·.id)).Nodup := by
    rw [List.map_map]
    convert hids using 2
    funext row
    dsimp only [Function.comp]
    split_ifs <;> rfl
  rw [compileRules_some hcatalog] at h
  split at h
  next rule hrule =>
    obtain rfl := Except.ok.inj h
    obtain ⟨row, hrow, hid, hread⟩ := (rule?_iff hrows hids).mp hrule
    have hrule' : (s.activated id).rule? id = .ok (some { rule with status := .active }) := by
      refine (rule?_iff hrows' hids').mpr ⟨_, List.mem_map_of_mem hrow, ?_, ?_⟩
      · rw [if_pos hid]
        exact hid
      · rw [if_pos hid]
        exact toRule_active hread
    have hone : (s.activated id).compileRules (some id) =
      .ok [.ofRule catalog { rule with status := .active }] := by
      rw [compileRules_some hcatalog', hrule']
    refine ⟨.ofRule catalog rule, rfl, (id_of_toRule hread).trans hid, hone, fun listed hlisted => ?_⟩
    -- the row is spelled as an active one, so that the listing has its entry, which is the one by
    -- its identity
    obtain ⟨entry, hentry, hentryId⟩ : ∃ entry ∈ listed, entry.rule.id = id := by
      refine (listed_iff hrows' hlisted id).mpr ⟨_, List.mem_map_of_mem hrow, ?_, .active, by decide, ?_⟩
      · rw [if_pos hid]
        exact hid
      · rw [if_pos hid]
    have hsame := compileRules_one hrows' hids' hcatalog' hlisted hentry
    rw [hentryId, hone] at hsame
    obtain rfl := List.singleton_inj.mp (Except.ok.inj hsame)
    exact hentry
  next => cases h
  next => cases h

section
variable {refusals : Refusals} {newId : ℕ → String} {settings : Settings} {clock : Clock}
  {moments : List Moment} {evaluations : List Evaluation} {report : Report} (hcalm : Calm moments)
  (hlisted : s.compileRules none = .ok listed)
  (hscan : ((Process.begin (.opened s)).run (ports refusals newId clock.startedAt)
    settings clock moments).stage = .ended evaluations (.ok report))
include hcalm hlisted hscan

lemma line_of_entry : report.rules.length = listed.length ∧
    ∀ (i : ℕ) (entry : Listed), listed[i]? = some entry →
    ∃ line, report.rules[i]? = some line ∧ line.ruleId = entry.rule.id ∧
      line.ruleName = entry.rule.name ∧
      (∀ cause, entry.result = .error cause → line.outcome = "compile_failed" ∧
        line.error = some cause.message) ∧
      (∀ query, entry.result = .ok query → line.outcome ∈ ["matched", "execution_failed", "timed_out"]) ∧
      ∀ query, entry.result = .ok query ↔ ∃ within pass rule, within <+: moments ∧
        ((Process.begin (.opened s)).run (ports refusals newId clock.startedAt)
          settings clock within).stage = .evaluating pass ∧
            pass.slots[i]? = some (.running rule query) := by
  obtain ⟨catalog, hcatalog⟩ : ∃ catalog, s.catalog = .ok catalog := ⟨_, rfl⟩
  obtain ⟨rules, hfetch, rfl⟩ := (compileRules_none hcatalog).mp hlisted
  obtain ⟨rules', hfetch', hlength, hlines⟩ := Process.report_of_calm hcalm hscan
  obtain rfl := Except.ok.inj (hfetch.symm.trans (fetch_ports_eq_ok hfetch'))
  refine ⟨hlength.trans (List.length_map _).symm, fun i entry hentry => ?_⟩
  rw [List.getElem?_map] at hentry
  obtain ⟨rule, hr, rfl⟩ := Option.map_eq_some_iff.mp hentry
  obtain ⟨catalog', answer, hcatalog', hanswer, hline, hrun⟩ := hlines i rule hr
  obtain rfl := Except.ok.inj (hcatalog.symm.trans (catalog_ports_eq_ok hcatalog'))
  refine ⟨_, hline, rfl, rfl, fun cause h => line_of_compile_error h, fun query h =>
    line_of_compile_ok h hanswer, fun query => ⟨fun h => ?_, ?_⟩⟩
  · obtain ⟨within, pass, hwithin, hstage, hs⟩ := hrun query h
    exact ⟨within, pass, rule, hwithin, hstage, hs⟩
  · rintro ⟨within, pass, rule', _, hstage, hs⟩
    obtain ⟨rules', catalog', hev⟩ := Process.exists_evaluates hstage
    obtain rfl := Except.ok.inj (hfetch.symm.trans (fetch_ports_eq_ok hev.fetched))
    obtain rfl := Except.ok.inj (hcatalog.symm.trans (catalog_ports_eq_ok hev.loaded))
    obtain ⟨rule'', hr', hof⟩ := hev.isOver.isOf hs
    obtain rfl := Option.some.inj (hr.symm.trans hr')
    cases hof with
    | running hq => exact hq

end

/-- The listing that compiles the rules without running them, and a scan of the same store that
nothing cancels, speak of the same rules in the same order. An entry with an error has a line that
says so in the same words, and no other entry has; the query of any other is the one that was run,
and the only one. By its identity a rule has the entry that it has in the listing, which holds the
rules that are spelled as pending or active; any other rule has the entry that it would have if it
were active; and that there is no such rule is said of the identities that no row has. -/
theorem listing_foretells_scan {s : Store} {rows : List RuleRow} (hrows : s.ruleRows = .ok rows)
    (hids : (rows.map (·.id)).Nodup) :
    (∀ listed, s.compileRules none = .ok listed →
      (∀ refusals newId settings clock moments evaluations report, Calm moments →
        ((Process.begin (.opened s)).run (ports refusals newId clock.startedAt)
          settings clock moments).stage = .ended evaluations (.ok report) →
        report.rules.map (fun line => (line.ruleId, line.ruleName)) =
          listed.map (fun entry => (entry.rule.id, entry.rule.name)) ∧
        ∀ (i : ℕ) entry line, listed[i]? = some entry → report.rules[i]? = some line →
          (∀ message, (∃ cause, entry.result = .error cause ∧ cause.message = message) ↔
            line.outcome = "compile_failed" ∧ line.error = some message) ∧
          ∀ query, (entry.result = .ok query ↔ ∃ within pass rule, within <+: moments ∧
              ((Process.begin (.opened s)).run (ports refusals newId clock.startedAt)
                settings clock within).stage = .evaluating pass ∧
                  pass.slots[i]? = some (.running rule query)) ∧
            (entry.result = .ok query → line.outcome ∈ ["matched", "execution_failed", "timed_out"])) ∧
      (∀ entry ∈ listed, s.compileRules (some entry.rule.id) = .ok [entry]) ∧
      ∀ id, (∃ entry ∈ listed, entry.rule.id = id) ↔
        ∃ row ∈ rows, row.id = id ∧ ∃ status ∈ Status.scannable, row.status = status.name) ∧
    (∀ id entries, s.compileRules (some id) = .ok entries → ∃ entry, entries = [entry] ∧
      entry.rule.id = id ∧
      (s.activated id).compileRules (some id) =
        .ok [{ entry with rule := { entry.rule with status := .active } }] ∧
      ∀ listed, (s.activated id).compileRules none = .ok listed →
        { entry with rule := { entry.rule with status := .active } } ∈ listed) ∧
    ∀ id, s.compileRules (some id) = .error (.domain (.ruleNotFound id)) ↔
      ∀ row ∈ rows, row.id ≠ id := by
  refine ⟨fun listed hlisted =>
    ⟨fun refusals newId settings clock moments evaluations report hcalm hscan => ?_,
      fun entry hentry => compileRules_one hrows hids rfl hlisted hentry, listed_iff hrows hlisted⟩,
    fun id entries h => compileRules_activated hrows hids h, compileRules_ruleNotFound hrows⟩
  obtain ⟨hlength, hlines⟩ := line_of_entry hcalm hlisted hscan
  refine ⟨List.ext_getElem? fun i => ?_, fun i entry line hentry hline => ?_⟩
  · rw [List.getElem?_map, List.getElem?_map]
    cases hentry : listed[i]? with
    | none => rw [List.getElem?_eq_none (hlength ▸ List.getElem?_eq_none_iff.mp hentry)]; rfl
    | some entry =>
      obtain ⟨line, hline, hid, hname, _⟩ := hlines i entry hentry
      rw [hline, Option.map_some, Option.map_some, hid, hname]
  obtain ⟨line', hline', _, _, herror, hok, hquery⟩ := hlines i entry hentry
  obtain rfl := Option.some.inj (hline.symm.trans hline')
  refine ⟨fun message => ⟨?_, fun ⟨houtcome, hmessage⟩ => ?_⟩, fun query => ⟨hquery query, hok query⟩⟩
  · rintro ⟨cause, hcause, rfl⟩
    exact herror cause hcause
  · cases hresult : entry.result with
    | error cause =>
      exact ⟨cause, rfl, Option.some.inj ((herror cause hresult).2.symm.trans hmessage)⟩
    | ok query =>
      have hother := hok query hresult
      rw [houtcome] at hother
      exact absurd hother (by decide)

/-! A rule to be scanned, and one that is disabled and has no parameters -/

lemma calm_twoNameless : Calm twoNameless := ⟨by simp [twoNameless], by simp [twoNameless]⟩

theorem listing_foretells_mixedStore : ∃ listed report,
    mixedStore.compileRules none = .ok listed ∧
    report? ((Process.begin (.opened mixedStore)).run
      (ports (fun _ => none) countedId Time.Timestamp.epoch)
      freshOnly ⟨Time.Timestamp.epoch, 0⟩ twoNameless) = some report ∧
    report.rules.map (fun line => (line.ruleId, line.ruleName)) =
      listed.map (fun entry => (entry.rule.id, entry.rule.name)) ∧
    (∃ entry ∈ listed, entry.rule.id = "r1" ∧ mixedStore.compileRules (some "r1") = .ok [entry]) ∧
    (¬ ∃ entry ∈ listed, entry.rule.id = "r2") ∧
    (∃ entry, (mixedStore.activated "r2").compileRules (some "r2") = .ok [entry]) ∧
    mixedStore.compileRules (some "r3") = .error (.domain (.ruleNotFound "r3")) := by
  have hrows : mixedStore.ruleRows = .ok _ := rfl
  obtain ⟨hlisting, hactivated, hmissing⟩ := listing_foretells_scan hrows (by decide)
  obtain ⟨listed, hlisted⟩ := exists_of_isOk (x := mixedStore.compileRules none) (by decide +kernel)
  obtain ⟨paused, hpaused⟩ :=
    exists_of_isOk (x := mixedStore.compileRules (some "r2")) (by decide +kernel)
  obtain ⟨hscan, hone, hlistedIff⟩ := hlisting listed hlisted
  have hsome :
    (report? ((Process.begin (.opened mixedStore)).run
      (ports (fun _ => none) countedId Time.Timestamp.epoch)
      freshOnly ⟨Time.Timestamp.epoch, 0⟩ twoNameless)).isSome := by decide +kernel
  obtain ⟨report, hreport⟩ := Option.isSome_iff_exists.mp hsome
  obtain ⟨evaluations, hended⟩ := exists_ended_of_report? hreport
  obtain ⟨entry, hentry, hid⟩ :=
    (hlistedIff "r1").mpr ⟨_, List.mem_cons_self .., rfl, .pending, by decide, rfl⟩
  obtain ⟨_, _, _, hone', _⟩ := hactivated "r2" paused hpaused
  refine ⟨listed, report, hlisted, hreport,
    (hscan _ _ freshOnly ⟨Time.Timestamp.epoch, 0⟩ _ _ _ calm_twoNameless hended).1,
    ⟨entry, hentry, hid, hid ▸ hone entry hentry⟩, fun h => ?_, ⟨_, hone'⟩,
    (hmissing "r3").mpr (by decide)⟩
  exact absurd ((hlistedIff "r2").mp h) (by decide)

end Store

end Compliance
