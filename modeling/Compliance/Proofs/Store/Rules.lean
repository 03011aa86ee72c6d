import Compliance.Proofs.Result
import Compliance.Store.Rules

/-! The rules that are fetched, and what one more row among them changes: its rule comes between the
others, which stay in their order, unless it reads as no rule; then none is fetched. -/

namespace Compliance

open Result

namespace Database.Instant

lemma order_eq_eq {a b : Instant} : a.order b = .eq ↔ a = b := by
  cases a <;> cases b <;> simp [order]

lemma order_eq_gt {a b : Instant} : a.order b = .gt ↔ b.order a = .lt := by
  cases a <;> cases b <;> simp [order, Int.compare_eq_gt, Int.compare_eq_lt]

lemma order_trichotomy (a b : Instant) : a.order b = .lt ∨ a = b ∨ b.order a = .lt := by
  cases h : a.order b with
  | lt => exact .inl rfl
  | eq => exact .inr (.inl (order_eq_eq.mp h))
  | gt => exact .inr (.inr (order_eq_gt.mp h))

lemma order_lt_trans {a b c : Instant} (hab : a.order b = .lt) (hbc : b.order c = .lt) :
    a.order c = .lt := by
  cases a <;> cases b <;> cases c <;> simp_all only [order, Int.compare_eq_lt, reduceCtorEq]
  omega

end Database.Instant

namespace Store

open Database

def withRuleRow (s : Store) (row : RuleRow) : Store :=
  { s with rules := s.rules.map fun table => { table with rows := table.rows ++ [row] } }

def selected (statuses : List Rule.Status) (rows : List RuleRow) : List RuleRow :=
  (rows.filter fun row => statuses.any (·.name = row.status)).mergeSort RuleRow.before

lemma addRow_eq_ok {α : Type} {id : α → String} {row : α} {rows rows' : List α} :
    addRow id row rows = .ok rows' ↔ (∀ r ∈ rows, id r ≠ id row) ∧ rows' = rows ++ [row] := by
  rw [addRow]
  split_ifs with h
  · obtain ⟨r, hr, he⟩ := List.any_eq_true.mp h
    exact ⟨nofun, fun ⟨hne, _⟩ => absurd (of_decide_eq_true he) (hne r hr)⟩
  · have hne : ∀ r ∈ rows, id r ≠ id row :=
      fun r hr he => h (List.any_eq_true.mpr ⟨r, hr, decide_eq_true he⟩)
    exact ⟨fun he => ⟨hne, (Except.ok.inj he).symm⟩, fun ⟨_, he⟩ => congrArg Except.ok he.symm⟩

lemma nodup_addRow {α : Type} {id : α → String} {row : α} {rows rows' : List α}
    (h : addRow id row rows = .ok rows') (hids : (rows.map id).Nodup) : (rows'.map id).Nodup := by
  obtain ⟨hfresh, rfl⟩ := addRow_eq_ok.mp h
  rw [List.map_append, List.map_singleton]
  refine List.nodup_append.mpr ⟨hids, List.nodup_singleton _, fun i hi j hj => ?_⟩
  obtain ⟨r, hr, rfl⟩ := List.mem_map.mp hi
  exact List.mem_singleton.mp hj ▸ hfresh r hr

namespace RuleRow

lemma before_iff {a b : RuleRow} :
    a.before b ↔ a.createdAt.order b.createdAt = .lt ∨ a.createdAt = b.createdAt ∧ a.id ≤ b.id := by
  rw [before, ← Instant.order_eq_eq]
  cases a.createdAt.order b.createdAt <;> simp

lemma before_trans (a b c : RuleRow) (hab : a.before b) (hbc : b.before c) : a.before c := by
  rw [before_iff] at hab hbc ⊢
  exact ListFacts.lex_trans (r := (Instant.order · · = .lt))
    (fun _ _ _ => Instant.order_lt_trans) hab hbc

lemma before_total (a b : RuleRow) : (a.before b || b.before a) = true := by
  rw [Bool.or_eq_true, before_iff, before_iff]
  exact ListFacts.lex_total (r := (Instant.order · · = .lt)) (Instant.order_trichotomy ..) a.id b.id

lemma id_eq_of_before {a b : RuleRow} (hab : a.before b) (hba : b.before a) : a.id = b.id := by
  have hself : ∀ i : Instant, i.order i ≠ .lt :=
    fun i h => nomatch (Instant.order_eq_eq.mpr rfl).symm.trans h
  rw [before_iff] at hab hba
  rcases hab with hab | ⟨hab, hid⟩
  · rcases hba with hba | ⟨hba, _⟩
    · exact absurd (Instant.order_lt_trans hab hba) (hself _)
    · exact absurd (hba ▸ hab) (hself _)
  · rcases hba with hba | ⟨_, hid'⟩
    · exact absurd (hab ▸ hba) (hself _)
    · exact String.le_antisymm hid hid'

end RuleRow

variable {statuses : List Rule.Status} {rows : List RuleRow} {row : RuleRow} {s : Store}

lemma selected_eq_of_perm {rows' : List RuleRow} (hids : (rows.map (·.id)).Nodup) (h : rows.Perm rows')
    (statuses : List Rule.Status) : selected statuses rows = selected statuses rows' := by
  have hmem : ∀ {rows : List RuleRow} {r : RuleRow}, r ∈ selected statuses rows → r ∈ rows :=
    fun hr => List.mem_of_mem_filter (List.mem_mergeSort.mp hr)
  have hperm : (selected statuses rows).Perm (selected statuses rows') :=
    (List.mergeSort_perm ..).trans ((h.filter _).trans (List.mergeSort_perm ..).symm)
  refine List.Perm.eq_of_pairwise (fun a b ha hb hab hba => ?_)
    (List.pairwise_mergeSort RuleRow.before_trans RuleRow.before_total _)
    (List.pairwise_mergeSort RuleRow.before_trans RuleRow.before_total _) hperm
  exact List.inj_on_of_nodup_map hids (hmem ha) (h.mem_iff.mpr (hmem hb))
    (RuleRow.id_eq_of_before hab hba)

lemma exists_selected_concat (hids : (rows.map (·.id)).Nodup) (hfresh : ∀ r ∈ rows, r.id ≠ row.id)
    (hstatus : statuses.any (·.name = row.status)) :
    ∃ earlier later, selected statuses rows = earlier ++ later ∧
      selected statuses (rows ++ [row]) = earlier ++ row :: later := by
  obtain ⟨earlier, later, hcons, hrows, _⟩ :=
    List.mergeSort_cons RuleRow.before_trans RuleRow.before_total row
    (rows.filter fun row => statuses.any (·.name = row.status))
  have hids' : ((rows ++ [row]).map (·.id)).Nodup := nodup_addRow (addRow_eq_ok.mpr ⟨hfresh, rfl⟩) hids
  refine ⟨earlier, later, hrows, ?_⟩
  rw [selected_eq_of_perm hids' List.perm_append_comm, selected, List.singleton_append, List.filter_cons,
    if_pos hstatus, hcons]

lemma ruleRows_eq {table : RuleTable} (hs : s.rules = some table) (hsource : table.hasSource) :
    s.ruleRows = .ok table.rows := by
  rw [ruleRows, ruleTable, hs]
  simp [asFailure, hsource]
  rfl

lemma rule?_of_unique {table : RuleTable} (hs : s.rules = some table) (hsource : table.hasSource)
    (hrow : row ∈ table.rows) (hunique : ∀ r ∈ table.rows, r.id = row.id → r = row) :
    s.rule? row.id = row.toRule.map some := by
  have hfind : table.rows.find? (·.id = row.id) = some row := by
    cases hfound : table.rows.find? (·.id = row.id) with
    | none => exact absurd (decide_eq_true rfl) (List.find?_eq_none.mp hfound row hrow)
    | some found =>
      have hid : found.id = row.id := by simpa using List.find?_some hfound
      rw [hunique found (List.mem_of_find?_eq_some hfound) hid]
  rw [rule?, ruleRows_eq hs hsource, ok_bind, hfind]
  change (row.toRule >>= fun rule => pure (some rule)) = _
  cases row.toRule <;> rfl

lemma fetchRules_eq {table : RuleTable} (hs : s.rules = some table) (hne : statuses ≠ []) :
    s.fetchRules statuses =
      if table.hasSource then (selected statuses table.rows).mapM RuleRow.toRule
      else .error (.database (Fault.unknownColumn "source_document").message) := by
  rw [fetchRules, if_neg hne, ruleRows, ruleTable, hs]
  cases hsource : table.hasSource <;> simp [asFailure, hsource] <;> rfl

lemma fetchRules_withRuleRow {table : RuleTable} {rules : List Rule} (hs : s.rules = some table)
    (hids : (table.rows.map (·.id)).Nodup) (hfresh : ∀ r ∈ table.rows, r.id ≠ row.id)
    (hstatus : statuses.any (·.name = row.status)) (h : s.fetchRules statuses = .ok rules) :
    match row.toRule with
    | .error cause => (s.withRuleRow row).fetchRules statuses = .error cause
    | .ok rule => ∃ earlier later, rules = earlier ++ later ∧
        (s.withRuleRow row).fetchRules statuses = .ok (earlier ++ rule :: later) := by
  have hne : statuses ≠ [] := by
    rintro rfl
    exact nomatch hstatus
  have hs' : (s.withRuleRow row).rules = some { table with rows := table.rows ++ [row] } := by
    rw [withRuleRow, hs]; rfl
  rw [fetchRules_eq hs hne] at h
  split_ifs at h with hsource
  rw [fetchRules_eq hs' hne, if_pos hsource]
  obtain ⟨earlier, later, hrows, hrows'⟩ := exists_selected_concat hids hfresh hstatus
  rw [hrows, List.mapM_append] at h
  obtain ⟨rules, hearlier, h⟩ := bind_eq_ok.mp h
  obtain ⟨rules', hlater, h⟩ := bind_eq_ok.mp h
  obtain rfl := pure_eq_ok.mp h
  rw [hrows', List.mapM_append, hearlier, ok_bind, List.mapM_cons]
  cases hrow : row.toRule with
  | error cause => rfl
  | ok rule => exact ⟨rules, rules', rfl, by rw [hlater]; rfl⟩

lemma id_of_toRule {rule : Rule} (h : row.toRule = .ok rule) : rule.id = row.id := by
  obtain ⟨_, _, h⟩ := bind_eq_ok.mp h
  obtain ⟨_, _, h⟩ := bind_eq_ok.mp h
  exact congrArg Rule.id (pure_eq_ok.mp h).symm

lemma name_of_toRule {rule : Rule} (h : row.toRule = .ok rule) : rule.name = row.name := by
  obtain ⟨_, _, h⟩ := bind_eq_ok.mp h
  obtain ⟨_, _, h⟩ := bind_eq_ok.mp h
  exact congrArg Rule.name (pure_eq_ok.mp h).symm

lemma kind_of_toRule {rule : Rule} (h : row.toRule = .ok rule) : rule.kind = row.kind := by
  obtain ⟨_, _, h⟩ := bind_eq_ok.mp h
  obtain ⟨_, _, h⟩ := bind_eq_ok.mp h
  exact congrArg Rule.kind (pure_eq_ok.mp h).symm

lemma description_of_toRule {rule : Rule} (h : row.toRule = .ok rule) :
    rule.description = row.description := by
  obtain ⟨_, _, h⟩ := bind_eq_ok.mp h
  obtain ⟨_, _, h⟩ := bind_eq_ok.mp h
  exact congrArg Rule.description (pure_eq_ok.mp h).symm

lemma selected_of_fetchRules {table : RuleTable} {rules : List Rule} (hs : s.rules = some table)
    (h : s.fetchRules statuses = .ok rules) :
    List.Forall₂ (fun row rule => row.toRule = .ok rule) (selected statuses table.rows) rules := by
  by_cases hne : statuses = []
  · rw [hne] at h ⊢
    obtain rfl := pure_eq_ok.mp h
    simp [selected]
  rw [fetchRules_eq hs hne] at h
  split_ifs at h
  exact mapM_eq_ok.mp h

lemma ids_fetchRules_nodup {table : RuleTable} {rules : List Rule} (hs : s.rules = some table)
    (hids : (table.rows.map (·.id)).Nodup) (h : s.fetchRules statuses = .ok rules) :
    (rules.map (·.id)).Nodup := by
  rw [← ListFacts.map_eq_map (selected_of_fetchRules hs h) fun row rule hread =>
    (id_of_toRule hread).symm]
  have hperm :=
    List.mergeSort_perm (table.rows.filter fun row => statuses.any (·.name = row.status)) RuleRow.before
  exact (hperm.map _).nodup_iff.mpr (hids.sublist (List.filter_sublist.map _))

lemma exists_row_of_mem_fetchRules {table : RuleTable} {rules : List Rule} (hs : s.rules = some table)
    (h : s.fetchRules statuses = .ok rules) {rule : Rule} (hrule : rule ∈ rules) :
    ∃ row ∈ table.rows, row.toRule = .ok rule := by
  obtain ⟨row, hrow, hread⟩ := ListFacts.exists_left (selected_of_fetchRules hs h) hrule
  exact ⟨row, List.mem_of_mem_filter (List.mem_mergeSort.mp hrow), hread⟩

lemma readStatus_scannable {text : String} (h : Rule.Status.scannable.any (·.name = text)) :
    ∃ status, RuleRow.readStatus text = .ok status := by
  obtain ⟨status, hstatus, rfl⟩ : ∃ status ∈ Rule.Status.scannable, status.name = text := by
    simpa using h
  refine ⟨status, ?_⟩
  revert status
  decide +kernel

lemma toRule_eq_error {cause : Failure} (hstatus : Rule.Status.scannable.any (·.name = row.status))
    (h : readInstant rulesName row.createdAt = .error cause) : row.toRule = .error cause := by
  obtain ⟨status, hread⟩ := readStatus_scannable hstatus
  rw [RuleRow.toRule, hread, h]
  rfl

lemma exists_toRule {t : Time.Timestamp} (hstatus : Rule.Status.scannable.any (·.name = row.status))
    (h : readInstant rulesName row.createdAt = .ok t) : ∃ rule, row.toRule = .ok rule := by
  obtain ⟨status, hread⟩ := readStatus_scannable hstatus
  rw [RuleRow.toRule, hread, h]
  exact ⟨_, rfl⟩

end Store

end Compliance
