import Compliance.Proofs.Store.Listing

/-! Rows are selected by their texts, letter by letter, and read whatever the case of the letters:
what is selected reads as what was asked for, and all that reads so is selected if it is spelled as
the names are. -/

namespace Compliance

open Database ListFacts Result

lemma Rule.Status.ofName?_name (status : Rule.Status) : Rule.Status.ofName? status.name =
    some status := by
  cases status <;> decide +kernel

lemma Violation.Severity.ofName?_name (severity : Violation.Severity) :
    Violation.Severity.ofName? severity.name = some severity := by
  cases severity <;> decide +kernel

lemma Violation.Status.ofName?_name (status : Violation.Status) :
    Violation.Status.ofName? status.name = some status := by
  cases status <;> decide +kernel

namespace Store

variable {s : Store} {table : RuleTable} {rows : List ViolationRow} {statuses : List Rule.Status}
  {rules : List Rule}

lemma readStatus_eq_ok {text : String} {status : Rule.Status} :
    RuleRow.readStatus text = .ok status ↔ Rule.Status.ofName? text = some status := by
  rw [RuleRow.readStatus]
  cases Rule.Status.ofName? text <;> simp

lemma status_of_toRule {row : RuleRow} {rule : Rule} (h : row.toRule = .ok rule) :
    RuleRow.readStatus row.status = .ok rule.status := by
  obtain ⟨status, hstatus, h⟩ := bind_eq_ok.mp h
  obtain ⟨createdAt, _, h⟩ := bind_eq_ok.mp h
  obtain rfl := pure_eq_ok.mp h
  exact hstatus

lemma any_name_iff {text : String} : (statuses.any (·.name = text) : Bool) ↔
    ∃ status ∈ statuses, text = status.name := by
  simp only [List.any_eq_true, decide_eq_true_eq, @eq_comm _ _ text]

lemma rule?_eq_some (hs : s.rules = some table) (hsource : table.hasSource)
    (hids : (table.rows.map (·.id)).Nodup) {id : String} {rule : Rule} :
    s.rule? id = .ok (some rule) ↔ ∃ row ∈ table.rows, row.id = id ∧ row.toRule = .ok rule := by
  constructor
  · intro h
    rw [rule?, ruleRows_eq hs hsource, ok_bind] at h
    cases hfind : table.rows.find? (·.id = id) with
    | none =>
      rw [hfind] at h
      cases Except.ok.inj h
    | some row =>
      rw [hfind] at h
      obtain ⟨read, hread, h⟩ := bind_eq_ok.mp h
      obtain rfl := Option.some.inj (pure_eq_ok.mp h)
      exact ⟨row, List.mem_of_find?_eq_some hfind, by simpa using List.find?_some hfind, hread⟩
  · rintro ⟨row, hrow, rfl, hread⟩
    rw [rule?_of_unique hs hsource hrow fun r hr hid => List.inj_on_of_nodup_map hids hr hrow hid, hread]
    rfl

lemma exists_fetchRules (hs : s.rules = some table) (hsource : table.hasSource)
    (hrules : ∀ row ∈ table.rows, ∃ rule, row.toRule = .ok rule) (statuses : List Rule.Status) :
    ∃ rules, s.fetchRules statuses = .ok rules := by
  by_cases hne : statuses = []
  · exact ⟨[], by rw [hne]; rfl⟩
  rw [fetchRules_eq hs hne, if_pos hsource]
  exact exists_mapM fun row hrow => hrules row (List.mem_of_mem_filter (List.mem_mergeSort.mp hrow))

lemma mem_fetchRules (hs : s.rules = some table) (h : s.fetchRules statuses = .ok rules) {rule : Rule} :
    rule ∈ rules ↔ ∃ row ∈ table.rows, (∃ status ∈ statuses, row.status = status.name) ∧
      row.toRule = .ok rule := by
  have hselected := selected_of_fetchRules hs h
  have hmem : ∀ row, row ∈ selected statuses table.rows ↔
    row ∈ table.rows ∧ ∃ status ∈ statuses, row.status = status.name :=
    fun row => by rw [selected, List.mem_mergeSort, List.mem_filter, any_name_iff]
  constructor
  · intro hrule
    obtain ⟨row, hrow, hread⟩ := exists_left hselected hrule
    exact ⟨row, ((hmem row).mp hrow).1, ((hmem row).mp hrow).2, hread⟩
  · rintro ⟨row, hrow, hstatus, hread⟩
    obtain ⟨rule', hrule', hread'⟩ := exists_right hselected ((hmem row).mpr ⟨hrow, hstatus⟩)
    exact Except.ok.inj (hread.symm.trans hread') ▸ hrule'

lemma fetched_iff_spelled (hs : s.rules = some table) (hsource : table.hasSource)
    (hids : (table.rows.map (·.id)).Nodup) (hrules : ∀ row ∈ table.rows, ∃ rule, row.toRule = .ok rule)
    (h : s.fetchRules statuses = .ok rules) :
    (∀ rule ∈ rules, s.rule? rule.id = .ok (some rule) ∧ rule.status ∈ statuses) ∧
    ((∀ id rule, s.rule? id = .ok (some rule) → rule.status ∈ statuses → rule ∈ rules) ↔
      ∀ row ∈ table.rows, ∀ status ∈ statuses, RuleRow.readStatus row.status = .ok status →
        row.status = status.name) := by
  have hstatus : ∀ {row : RuleRow} {rule : Rule} {status : Rule.Status}, row.toRule = .ok rule →
    row.status = status.name →
      status = rule.status := by
    intro row rule status hread hname
    have hread := readStatus_eq_ok.mp (status_of_toRule hread)
    rw [hname, Rule.Status.ofName?_name] at hread
    exact Option.some.inj hread
  refine ⟨fun rule hrule => ?_, fun hall row hrow status hmem hread => ?_,
    fun hspelled id rule hfound hmem => ?_⟩
  · obtain ⟨row, hrow, ⟨status, hmem, hname⟩, hread⟩ := (mem_fetchRules hs h).mp hrule
    exact ⟨(rule?_eq_some hs hsource hids).mpr ⟨row, hrow, (id_of_toRule hread).symm, hread⟩,
      hstatus hread hname ▸ hmem⟩
  · obtain ⟨rule, hrule⟩ := hrules row hrow
    obtain rfl : status = rule.status := Except.ok.inj (hread.symm.trans (status_of_toRule hrule))
    have hfetched := hall row.id rule ((rule?_eq_some hs hsource hids).mpr ⟨row, hrow, rfl, hrule⟩) hmem
    obtain ⟨row', hrow', ⟨status, _, hname⟩, hread'⟩ := (mem_fetchRules hs h).mp hfetched
    have hid : row'.id = row.id := (id_of_toRule hread').symm.trans (id_of_toRule hrule)
    obtain rfl := List.inj_on_of_nodup_map hids hrow' hrow hid
    rw [hname, hstatus hrule hname]
  · obtain ⟨row, hrow, _, hread⟩ := (rule?_eq_some hs hsource hids).mp hfound
    exact (mem_fetchRules hs h).mpr ⟨row, hrow,
      ⟨_, hmem, hspelled row hrow _ hmem (status_of_toRule hread)⟩, hread⟩

lemma accepts_iff {filter : Violation.Filter} {row : ViolationRow} : accepts filter row ↔
    (∀ severity ∈ filter.severity, row.severity = severity.name) ∧
      ∀ status ∈ filter.status, row.status = status.name := by
  obtain ⟨severity, status⟩ := filter
  cases severity <;> cases status <;> simp [accepts, @eq_comm _ (_ : Violation.Severity).name,
    @eq_comm _ (_ : Violation.Status).name]

lemma selects_iff {filter : Violation.Filter} {v : Violation} : filter.selects v ↔
    (∀ severity ∈ filter.severity, severity = v.severity) ∧
      ∀ status ∈ filter.status, status = v.status := by
  obtain ⟨severity, status⟩ := filter
  cases severity <;> cases status <;> simp [Violation.Filter.selects]

lemma selects_of_accepts {filter : Violation.Filter} {row : ViolationRow} {v : Violation}
    (hread : row.toViolation = .ok v) (h : accepts filter row) : filter.selects v := by
  obtain ⟨hseverity, hstatus, _⟩ := toViolation_eq_ok.mp hread
  obtain ⟨hseverities, hstatuses⟩ := accepts_iff.mp h
  refine selects_iff.mpr ⟨fun severity hmem => ?_, fun status hmem => ?_⟩
  · rw [hseverities severity hmem, Violation.Severity.ofName?_name] at hseverity
    exact Option.some.inj hseverity
  · rw [hstatuses status hmem, Violation.Status.ofName?_name] at hstatus
    exact Option.some.inj hstatus

lemma listViolations_filter (hs : s.rules = some table) (hrows : s.violations = some rows)
    {all : List Violation.View} (h : s.listViolations .everything = .ok all) {filter : Violation.Filter}
    (hspelled : ∀ pair ∈ listed table.rows rows, ∀ v, pair.1.toViolation = .ok v →
      filter.selects v → accepts filter pair.1) :
    s.listViolations filter = .ok (all.filter (filter.selects ·.violation)) := by
  rw [listViolations_everything hs hrows] at h
  rw [listViolations_eq hs hrows]
  refine mapM_filter h fun pair hpair view hview => ?_
  obtain ⟨v, hread, rfl⟩ := viewOf_eq_ok.mp hview
  exact Bool.eq_iff_iff.mpr ⟨selects_of_accepts hread, hspelled pair hpair v hread⟩

lemma listed_iff_spelled (hs : s.rules = some table) (hrows : s.violations = some rows)
    (hids : (rows.map (·.id)).Nodup) {all : List Violation.View}
    (h : s.listViolations .everything = .ok all) (filter : Violation.Filter) :
    ∃ views, s.listViolations filter = .ok views ∧ views.Sublist all ∧
      (∀ view ∈ views, filter.selects view.violation) ∧
      (views = all.filter (filter.selects ·.violation) ↔
        ∀ row ∈ rows, (∃ rule ∈ table.rows, rule.id = row.ruleId) →
        ∀ v, row.toViolation = .ok v → filter.selects v →
          (∀ severity ∈ filter.severity, row.severity = severity.name) ∧
            ∀ status ∈ filter.status, row.status = status.name) := by
  have hall := h
  rw [listViolations_everything hs hrows] at hall
  obtain ⟨views, hviews, hsub⟩ := mapM_sublist hall (List.filter_sublist (p := (accepts filter ·.1)))
  have hread : ∀ view ∈ views, ∃ pair ∈ listed table.rows rows, accepts filter pair.1 ∧
      pair.1.toViolation = .ok view.violation := by
    intro view hview
    obtain ⟨pair, hpair, hread⟩ := exists_of_mem_mapM hviews hview
    obtain ⟨v, hv, rfl⟩ := viewOf_eq_ok.mp hread
    exact ⟨pair, (List.mem_filter.mp hpair).1, (List.mem_filter.mp hpair).2, hv⟩
  refine ⟨views, (listViolations_eq hs hrows filter).trans hviews, hsub, fun view hview => ?_, ?_,
    fun hspelled => ?_⟩
  · obtain ⟨pair, _, haccepts, hread⟩ := hread view hview
    exact selects_of_accepts hread haccepts
  · rintro hviews row hrow ⟨rule, hrule, hid⟩ v hv hselects
    have hpair : (row, rule) ∈ listed table.rows rows := mem_listed.mpr ⟨hrow, hrule, hid⟩
    obtain ⟨view, hview, hread'⟩ := exists_right (mapM_eq_ok.mp hall) hpair
    obtain ⟨v', hv', rfl⟩ := viewOf_eq_ok.mp hread'
    obtain rfl := Except.ok.inj (hv.symm.trans hv')
    have hmem := hviews ▸ List.mem_filter.mpr ⟨hview, hselects⟩
    obtain ⟨pair, hpair, haccepts, hv'⟩ := hread _ hmem
    have hsame : pair.1.id = row.id :=
      (toViolation_eq_ok.mp hv').2.2.2.2.1.symm.trans (toViolation_eq_ok.mp hv).2.2.2.2.1
    rw [List.inj_on_of_nodup_map hids (mem_listed.mp hpair).1 hrow hsame] at haccepts
    exact accepts_iff.mp haccepts
  · refine Except.ok.inj (((listViolations_eq hs hrows filter).trans hviews).symm.trans ?_)
    refine listViolations_filter hs hrows h fun pair hpair v hv hselects => accepts_iff.mpr ?_
    obtain ⟨hrow, hrule⟩ := mem_listed.mp hpair
    exact hspelled pair.1 hrow ⟨pair.2, hrule⟩ v hv hselects

lemma exists_listViolations (hs : s.rules = some table) (hrows : s.violations = some rows)
    (hviolations : ∀ row ∈ rows, ∃ v, row.toViolation = .ok v) : ∃ all,
      s.listViolations .everything = .ok all := by
  rw [listViolations_everything hs hrows]
  refine exists_mapM fun pair hpair => ?_
  obtain ⟨v, hv⟩ := hviolations pair.1 (mem_listed.mp hpair).1
  exact ⟨_, viewOf_eq_ok.mpr ⟨v, hv, rfl⟩⟩

/-- Where every row of the bookkeeping reads: what is fetched or listed reads as what was asked for,
and nothing that reads so is left out if and only if it is spelled as it is asked for. -/
theorem selected_iff_spelled (hs : s.rules = some table) (hsource : table.hasSource)
    (hrows : s.violations = some rows) (hruleIds : (table.rows.map (·.id)).Nodup)
    (hids : (rows.map (·.id)).Nodup) (hrules : ∀ row ∈ table.rows, ∃ rule, row.toRule = .ok rule)
    (hviolations : ∀ row ∈ rows, ∃ v, row.toViolation = .ok v) :
    (∀ statuses, ∃ rules, s.fetchRules statuses = .ok rules ∧ (rules.map (·.id)).Nodup ∧
      (∀ rule ∈ rules, s.rule? rule.id = .ok (some rule) ∧ rule.status ∈ statuses) ∧
      ((∀ id rule, s.rule? id = .ok (some rule) → rule.status ∈ statuses → rule ∈ rules) ↔
        ∀ row ∈ table.rows, ∀ status ∈ statuses, RuleRow.readStatus row.status = .ok status →
          row.status = status.name)) ∧
    ∃ all, s.listViolations .everything = .ok all ∧ ∀ filter : Violation.Filter, ∃ views,
      s.listViolations filter = .ok views ∧ views.Sublist all ∧
        (∀ view ∈ views, filter.selects view.violation) ∧
      (views = all.filter (filter.selects ·.violation) ↔
        ∀ row ∈ rows, (∃ rule ∈ table.rows, rule.id = row.ruleId) →
        ∀ v, row.toViolation = .ok v → filter.selects v →
          (∀ severity ∈ filter.severity, row.severity = severity.name) ∧
            ∀ status ∈ filter.status, row.status = status.name) := by
  refine ⟨fun statuses => ?_, ?_⟩
  · obtain ⟨rules, h⟩ := exists_fetchRules hs hsource hrules statuses
    exact ⟨rules, h, ids_fetchRules_nodup hs hruleIds h,
      fetched_iff_spelled hs hsource hruleIds hrules h⟩
  · obtain ⟨all, h⟩ := exists_listViolations hs hrows hviolations
    exact ⟨all, h, listed_iff_spelled hs hrows hids h⟩

/-! A rule and a violation in letters of another case -/

def promotedRow : RuleRow := ⟨"r", "named", "not_null", "", "\x7b\x7d", .zero, "Active", .finite 0, none⟩

def shoutedRow : ViolationRow := ⟨"v", "r", "1", "people", "HIGH", "open", "\x7b\x7d", "", .finite 0⟩

def shoutedStore : Store := ⟨some ⟨[promotedRow], true⟩, some [shoutedRow], []⟩

theorem selected_iff_spelled_shoutedStore :
    ∃ rules all views, shoutedStore.fetchRules Rule.Status.scannable = .ok rules ∧
      (¬ ∀ id rule, shoutedStore.rule? id = .ok (some rule) → rule.status ∈ Rule.Status.scannable →
        rule ∈ rules) ∧
      shoutedStore.listViolations .everything = .ok all ∧
        shoutedStore.listViolations ⟨some .high, none⟩ = .ok views ∧
      views ≠ all.filter (Violation.Filter.selects ⟨some .high, none⟩ ·.violation) := by
  obtain ⟨rule, hrule⟩ := exists_of_isOk (x := promotedRow.toRule) (by decide +kernel)
  obtain ⟨v, hv⟩ := exists_of_isOk (x := shoutedRow.toViolation) (by decide +kernel)
  obtain ⟨hfetched, all, hall, hlisted⟩ :=
    selected_iff_spelled (s := shoutedStore) rfl rfl rfl (by decide) (by decide)
    (List.forall_mem_singleton.mpr ⟨rule, hrule⟩) (List.forall_mem_singleton.mpr ⟨v, hv⟩)
  obtain ⟨rules, hrules, _, _, hcomplete⟩ := hfetched Rule.Status.scannable
  obtain ⟨views, hviews, _, _, hfilter⟩ := hlisted ⟨some .high, none⟩
  refine ⟨rules, all, views, hrules, fun h => ?_, hall, hviews, fun h => ?_⟩
  · exact absurd (hcomplete.mp h _ (List.mem_singleton_self _) .active (by decide)
      (by decide +kernel)) (by decide)
  · have hread : Violation.Severity.ofName? shoutedRow.severity = some .high := by decide +kernel
    have hhigh := Option.some.inj (hread.symm.trans (toViolation_eq_ok.mp hv).1)
    have hspelled := hfilter.mp h _ (List.mem_singleton_self _) ⟨_, List.mem_singleton_self _, rfl⟩ v hv
      (selects_iff.mpr ⟨by simpa using hhigh, by simp⟩)
    exact absurd (hspelled.1 .high rfl) (by decide)

end Store

end Compliance
