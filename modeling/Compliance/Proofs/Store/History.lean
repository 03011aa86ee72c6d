import Compliance.Proofs.Store.Accounting
import Compliance.Proofs.Store.Operations

/-! Whatever imports and scans follow the making of the bookkeeping, every violation that has been
recorded is listed, once and as it was recorded. -/

namespace Compliance

open Database ListFacts Result

def Time.Timestamp.IsAfter (t t' : Time.Timestamp) : Prop :=
  t'.seconds < t.seconds ∨ t.seconds = t'.seconds ∧ t'.nanos < t.nanos

def Violation.View.IsBefore (a b : Violation.View) : Prop :=
  a.violation.createdAt.IsAfter b.violation.createdAt ∨
    a.violation.createdAt = b.violation.createdAt ∧ a.violation.id ≤ b.violation.id

namespace Store

def Finding.view (finding : Finding) : Violation.View :=
  ⟨{ finding.violation with createdAt := finding.violation.createdAt.toMicros }, finding.rule.name,
    finding.rule.kind⟩

/-- The stores that come of one that has been bootstrapped and has no violations yet, and all that
has been found on the way, in the order in which it was found. -/
inductive Reached : Store → List Finding → Prop
  | begins {s s' : Store} {table : RuleTable} (h : s.bootstrap = .ok s') (hrules : s'.rules = some table)
    (hruleIds : (table.rows.map (·.id)).Nodup) (hrows : s'.violations = some []) : Reached s' []
  | goesOn {s s' : Store} {findings more : List Finding} (h : Reached s findings)
    (hop : Operation s more s') :
    Reached s' (findings ++ more)

lemma reached_of_bootstrap {s s' : Store} (h : s.bootstrap = .ok s') (hrules : s.rules = none)
    (hrows : s.violations = none) (hfree : s.find? rulesName = none) : Reached s' [] := by
  have hs' : s'.rules = some ⟨[], true⟩ ∧ s'.violations = some [] := by
    rw [bootstrap, withRules, hrules, hfree, ok_bind, withViolations] at h
    simp only [hrows] at h
    split at h
    · cases h
    · obtain rfl := Except.ok.inj h
      exact ⟨rfl, rfl⟩
  exact .begins h hs'.1 List.nodup_nil hs'.2

variable {s s' : Store} {table table' : RuleTable} {rules : List RuleRow} {row : ViolationRow}
  {rows : List ViolationRow} {finding : Finding} {findings more : List Finding}

structure Finding.StandsAs (finding : Finding) (rules : List RuleRow) (row : ViolationRow) : Prop where
  row_eq : rowOfViolation finding.violation = .ok row
  era : finding.violation.createdAt.IsOfEra
  evidence : IsKept finding.violation.evidence
  rule : ∃ rule ∈ rules, rule.id = row.ruleId ∧ rule.name = finding.rule.name ∧
    rule.kind = finding.rule.kind

lemma Finding.StandsAs.mono (h : finding.StandsAs rules row) (more : List RuleRow) :
    finding.StandsAs (rules ++ more) row := by
  obtain ⟨rule, hrule, hof⟩ := h.rule
  exact ⟨h.row_eq, h.era, h.evidence, rule, List.mem_append_left _ hrule, hof⟩

lemma Finding.StandsAs.read (h : finding.StandsAs rules row) :
    row.toViolation = .ok finding.view.violation :=
  toViolation_rowOfViolation h.row_eq h.era h.evidence

lemma Finding.StandsAs.exists_joined (h : finding.StandsAs rules row) (hids : (rules.map (·.id)).Nodup) :
    ∃ rule, joined rules row = [(row, rule)] ∧ viewOf (row, rule) = .ok finding.view := by
  obtain ⟨rule, hrule, hid, hname, hkind⟩ := h.rule
  refine ⟨rule, ?_, viewOf_eq_ok.mpr ⟨_, h.read, ?_⟩⟩
  · rw [joined, ← hid, filter_of_nodup hids hrule]
    rfl
  · rw [hname, hkind]
    rfl

structure Keeps (s : Store) (findings : List Finding) (table : RuleTable)
    (rows : List ViolationRow) : Prop where
  rules_eq : s.rules = some table
  ruleIds : (table.rows.map (·.id)).Nodup
  violations_eq : s.violations = some rows
  ids : (rows.map (·.id)).Nodup
  stands : List.Forall₂ (fun finding row => finding.StandsAs table.rows row) findings rows

lemma Extends.ruleIds {added : List RuleRow} (h : Extends table table' added)
    (hids : (table.rows.map (·.id)).Nodup) :
    (table'.rows.map (·.id)).Nodup := by
  rw [h.rows_eq, List.map_append]
  refine List.nodup_append.mpr ⟨hids, h.distinct, fun id hid id' hid' => ?_⟩
  obtain ⟨r, hr, rfl⟩ := List.mem_map.mp hid
  obtain ⟨r', hr', rfl⟩ := List.mem_map.mp hid'
  exact h.fresh r' hr' r hr

lemma Records.kept {newId : ℕ → String} {settings : Scan.Settings} {startedAt : Time.Timestamp}
    {evaluations : List Scan.Evaluation} {report : Scan.Report} {rules : List Rule}
    {catalog : Catalog} {recorded : List Violation}
    (h : Records newId settings startedAt s s' evaluations report rules catalog recorded)
    {v : Violation} (hv : v ∈ recorded) :
    v.createdAt = startedAt ∧ IsKept v.evidence := by
  obtain ⟨_, _, _, _, hof, _, hc, _, rfl⟩ := h.exists_source hv
  obtain ⟨query, row, _, rfl⟩ := hof.candidate_eq hc
  exact ⟨rfl, (isFlat_evidenceOf query.columns row).isKept⟩

lemma Operation.violations_extend (h : Operation s more s') (hrules : s.rules = some table)
    (hrows : s.violations = some rows) (hids : (rows.map (·.id)).Nodup) : ∃ added,
      s'.violations = some (rows ++ added) ∧ ((rows ++ added).map (·.id)).Nodup ∧
      List.Forall₂ (fun finding row => finding.StandsAs table.rows row) more added := by
  have hsame : s'.violations = some rows → more = [] → ∃ added, s'.violations = some (rows ++ added) ∧
      ((rows ++ added).map (·.id)).Nodup ∧
        List.Forall₂ (fun finding row => finding.StandsAs table.rows row) more added := by
    rintro hs' rfl
    exact ⟨[], by rw [hs', List.append_nil], by rwa [List.append_nil], .nil⟩
  cases h with
  | bootstraps h => exact hsame ((bootstrap_eq_ok h hrules).2 rows hrows) rfl
  | imports _ h =>
    obtain ⟨_, hinsert⟩ := import_eq_ok h
    obtain ⟨_, _, _, _, _, rfl⟩ := insertRules_eq_ok hinsert hrules
    exact hsame hrows rfl
  | changesData => exact hsame hrows rfl
  | @scans _ _ newId settings clock moments evaluations report fetched _ hclock hended hstate
    hrecorded hfetched hfound =>
    obtain ⟨hrecordedAs, added, hadded, hs'⟩ := persist_eq_ok hrecorded
    have hviolations : s'.violations = some (rows ++ added) := by rw [hs', hrows]; rfl
    refine ⟨added, hviolations, nodup_of_persist hrecorded hrows hids hviolations, ?_⟩
    -- the run that has ended is the one that the operation speaks of
    obtain ⟨_, fetched', _, recorded, hrecords, _⟩ := exists_records hended
    obtain rfl : recorded = more.map (·.violation) :=
      (Prod.ext_iff.mp (Except.ok.inj (hrecords.persisted.symm.trans hrecorded))).1
    have hfacts : ∀ finding ∈ more, finding.violation.createdAt.IsOfEra ∧
      IsKept finding.violation.evidence ∧
        ∃ rule ∈ table.rows, rule.id = finding.violation.ruleId ∧ rule.name = finding.rule.name ∧
          rule.kind = finding.rule.kind := by
      intro finding hfinding
      obtain ⟨htime, hevidence⟩ := hrecords.kept (List.mem_map_of_mem hfinding)
      obtain ⟨hmem, hid⟩ := hfound finding hfinding
      obtain ⟨rule, hrule, hread⟩ := exists_row_of_mem_fetchRules hrules hfetched hmem
      refine ⟨htime ▸ hclock, hevidence, rule, hrule, (id_of_toRule hread).symm.trans hid, ?_⟩
      exact ⟨(name_of_toRule hread).symm, (kind_of_toRule hread).symm⟩
    refine ((List.forall₂_and_left more added).mpr ⟨hfacts, List.forall₂_map_left_iff.mp hadded⟩).imp ?_
    rintro finding row ⟨⟨hera, hevidence, hrule⟩, hrow⟩
    refine ⟨hrow, hera, hevidence, ?_⟩
    obtain ⟨_, _, rfl⟩ := rowOfViolation_eq_ok.mp hrow
    exact hrule

lemma Keeps.operation (h : Keeps s findings table rows) (hop : Operation s more s') :
    ∃ table' rows', Keeps s' (findings ++ more) table' rows' := by
  obtain ⟨table', addedRules, hrules, hextends, _⟩ := hop.rules_extend h.rules_eq
  obtain ⟨added, hviolations, hids, hstands⟩ := hop.violations_extend h.rules_eq h.violations_eq h.ids
  refine ⟨table', rows ++ added, hrules, hextends.ruleIds h.ruleIds, hviolations, hids, ?_⟩
  rw [hextends.rows_eq]
  exact List.rel_append (h.stands.imp fun _ _ h => h.mono addedRules)
    (hstands.imp fun _ _ h => h.mono addedRules)

lemma Reached.keeps (h : Reached s findings) : ∃ table rows, Keeps s findings table rows := by
  induction h with
  | @begins _ _ table _ hrules hruleIds hrows =>
    exact ⟨table, [], hrules, hruleIds, hrows, List.nodup_nil, .nil⟩
  | goesOn _ hop ih =>
    obtain ⟨table, rows, h⟩ := ih
    exact h.operation hop

lemma mapM_viewOf_joined (hids : (rules.map (·.id)).Nodup)
    (h : List.Forall₂ (fun finding row => finding.StandsAs rules row) findings rows) :
    (rows.flatMap (joined rules)).mapM viewOf = .ok (findings.map Finding.view) := by
  induction h with
  | nil => rfl
  | cons hfirst _ ih =>
    obtain ⟨rule, hjoined, hview⟩ := hfirst.exists_joined hids
    rw [List.flatMap_cons, hjoined, List.singleton_append, List.mapM_cons, hview, ok_bind, ih]
    rfl

lemma Keeps.accepts_of_selects (h : Keeps s findings table rows) (hrow : row ∈ rows) {v : Violation}
    (hread : row.toViolation = .ok v) {filter : Violation.Filter} (hselects : filter.selects v) :
    accepts filter row := by
  obtain ⟨finding, _, hstands⟩ := exists_left h.stands hrow
  obtain rfl := Except.ok.inj (hread.symm.trans hstands.read)
  obtain ⟨_, _, rfl⟩ := rowOfViolation_eq_ok.mp hstands.row_eq
  obtain ⟨hseverity, hstatus⟩ := selects_iff.mp hselects
  exact accepts_iff.mpr ⟨fun severity hmem =>
    congrArg Violation.Severity.name (hseverity severity hmem).symm,
    fun status hmem => congrArg Violation.Status.name (hstatus status hmem).symm⟩

lemma readInstant_eq_ok {name : String} {instant : Instant} {t : Time.Timestamp}
    (h : readInstant name instant = .ok t) :
    ∃ micros : ℤ, instant = .finite micros ∧
      t = ⟨micros / 1000000, (micros % 1000000).toNat * 1000⟩ := by
  cases instant with
  | past | future => cases h
  | finite micros =>
    refine ⟨micros, rfl, ?_⟩
    simp only [readInstant, Instant.toTimestamp?] at h
    split_ifs at h
    exact (Except.ok.inj h).symm

lemma isAfter_of_lt {m n : ℤ} (h : n < m) :
    Time.Timestamp.IsAfter ⟨m / 1000000, (m % 1000000).toNat * 1000⟩
    ⟨n / 1000000, (n % 1000000).toNat * 1000⟩ := by
  rw [Time.Timestamp.IsAfter]
  dsimp only
  omega

lemma isBefore_of_before {a b : ViolationRow × RuleRow} {v w : Violation.View}
    (ha : viewOf a = .ok v) (hb : viewOf b = .ok w) (h : a.1.before b.1) : v.IsBefore w := by
  obtain ⟨va, hva, rfl⟩ := viewOf_eq_ok.mp ha
  obtain ⟨vb, hvb, rfl⟩ := viewOf_eq_ok.mp hb
  obtain ⟨_, _, _, hta, hida, _⟩ := toViolation_eq_ok.mp hva
  obtain ⟨_, _, _, htb, hidb, _⟩ := toViolation_eq_ok.mp hvb
  obtain ⟨m, hm, hta⟩ := readInstant_eq_ok hta
  obtain ⟨n, hn, htb⟩ := readInstant_eq_ok htb
  rw [ViolationRow.before_iff, hm, hn, Instant.order, compare_lt_iff_lt] at h
  rw [Violation.View.IsBefore, hida, hidb, hta, htb]
  rcases h with h | ⟨h, hid⟩
  · exact .inl (isAfter_of_lt h)
  · obtain rfl := Instant.finite.inj h
    exact .inr ⟨rfl, hid⟩

/-- A listing of a store that has been reached does not fail. It shows each violation that has ever
been recorded once, with the rule that has found it, the latest first; and a listing with a filter
shows those that it selects, in the same order. -/
theorem every_finding_listed (h : Reached s findings) :
    (findings.map (·.violation.id)).Nodup ∧
    ∃ views, s.listViolations .everything = .ok views ∧ views.Perm (findings.map Finding.view) ∧
      views.Pairwise Violation.View.IsBefore ∧
      ∀ filter : Violation.Filter, s.listViolations filter =
        .ok (views.filter (filter.selects ·.violation)) := by
  obtain ⟨table, rows, hkeeps⟩ := h.keeps
  have hids : findings.map (·.violation.id) = rows.map (·.id) :=
    map_eq_map hkeeps.stands fun finding row hstands => by
    obtain ⟨_, _, rfl⟩ := rowOfViolation_eq_ok.mp hstands.row_eq
    rfl
  obtain ⟨views, hviews, hperm⟩ := mapM_perm (mapM_viewOf_joined hkeeps.ruleIds hkeeps.stands)
    (List.mergeSort_perm _ fun a b => a.1.before b.1)
  have hall : s.listViolations .everything = .ok views :=
    (listViolations_everything hkeeps.rules_eq hkeeps.violations_eq).trans hviews
  refine ⟨hids ▸ hkeeps.ids, views, hall, hperm, ?_, fun filter => ?_⟩
  · exact pairwise_right (mapM_eq_ok.mp hviews)
      (pairwise_listed table.rows rows) fun a v b w ha hb => isBefore_of_before ha hb
  · exact listViolations_filter hkeeps.rules_eq hkeeps.violations_eq hall
      fun pair hpair v hread hselects =>
      hkeeps.accepts_of_selects (mem_listed.mp hpair).1 hread hselects

/-! A rule that is imported, and a scan for it -/

def peopleStore : Store where
  rules := none
  violations := none
  relations := [⟨"people", [⟨"name", .text⟩], .stored []⟩]

def namedProposal : Rule.Proposal where
  name := "named"
  kind := "not_null"
  description := ""
  parameters := .object [("column", .text "name"), ("table", .text "people")]
  confidence := .zero
  status := .pending
  source := none

def importedStore : Store where
  rules := some ⟨[⟨"", "named", "not_null", "", namedProposal.parameters.compact, .zero, "pending",
    .finite 0, none⟩], true⟩
  violations := some []
  relations := peopleStore.relations

def oneNameless : List Scan.Moment :=
  [.advance, .advance, .event .start, .event (.turn 0 (some (.ok [[none]])) false), .advance]

theorem every_finding_listed_importedStore :
    ∃ s findings views, Reached s findings ∧ s.listViolations .everything = .ok views ∧
      views.map (·.ruleName) = ["named"] ∧
      views = findings.map Finding.view ∧ s.listViolations ⟨some .low, none⟩ = .ok [] := by
  let clock : Scan.Clock := ⟨Time.Timestamp.epoch, 0⟩
  let last :=
    (Scan.Process.begin (Session.opened importedStore)).run
      (ports (fun _ => none) countedId clock.startedAt)
    Scan.Settings.usual clock oneNameless
  have hclock : clock.startedAt.IsOfEra := by
    rw [Time.Timestamp.IsOfEra]
    decide +kernel
  have hbegun : Reached { importedStore with rules := some ⟨[], true⟩ } [] :=
    reached_of_bootstrap (s := peopleStore) (by decide +kernel) rfl rfl (by decide +kernel)
  have himport : Rule.Import.run insertRules countedId Time.Timestamp.epoch [⟨0, .ok namedProposal⟩]
      { importedStore with rules := some ⟨[], true⟩ } =
      .ok (Rule.Import.sort countedId Time.Timestamp.epoch [⟨0, .ok namedProposal⟩],
        importedStore) := by decide +kernel
  obtain ⟨report, hreport⟩ : ∃ report, report? last = some report :=
    Option.isSome_iff_exists.mp (by decide +kernel)
  obtain ⟨evaluations, hended⟩ := exists_ended_of_report? hreport
  obtain ⟨findings, s, hscan, hstate⟩ := exists_operation hclock hended
  have hreached := (hbegun.goesOn (.imports hclock himport)).goesOn hscan
  obtain ⟨_, views, hviews, hperm, _, hfilter⟩ := every_finding_listed hreached
  have hs : s = last.state.saved := by
    rw [show last.state = .opened s from hstate]
    rfl
  have hlisted : (s.listViolations .everything).map (·.map fun view =>
    (view.ruleName, view.violation.severity)) = .ok [("named", .high)] := by
    rw [hs]
    decide +kernel
  rw [hviews] at hlisted
  have hlisted : views.map (fun view => (view.ruleName, view.violation.severity)) =
    [("named", .high)] := Except.ok.inj hlisted
  obtain ⟨view, rfl, hview⟩ := List.map_eq_singleton_iff.mp hlisted
  obtain ⟨hname, hseverity⟩ := Prod.mk.inj hview
  have hlow : Violation.Filter.selects ⟨some .low, none⟩ view.violation = false := by
    rw [Violation.Filter.selects, hseverity]
    rfl
  refine ⟨s, _, _, hreached, hviews, congrArg (fun name => [name]) hname,
    (List.perm_singleton.mp hperm.symm).symm, ?_⟩
  rw [hfilter, List.filter_singleton, hlow]
  rfl

end Store

end Compliance
