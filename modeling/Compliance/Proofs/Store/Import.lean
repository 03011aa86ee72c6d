import Compliance.Proofs.Query.Faults
import Compliance.Proofs.Store.Operations

/-! A rule that an import has accepted stays as it was: whatever the program does to the store after
that, it reads back with the very parameters that were checked. -/

namespace Compliance.Store

open Database ListFacts Relation Result

def Later : Store → Store → Prop := ReflTransGen fun s s' => ∃ findings, Operation s findings s'

structure HasRow (s : Store) (table : RuleTable) (row : RuleRow) : Prop where
  rules_eq : s.rules = some table
  source : table.hasSource
  mem : row ∈ table.rows
  unique : ∀ r ∈ table.rows, r.id = row.id → r = row

variable {s s' : Store} {table : RuleTable} {row : RuleRow} {findings : List Finding} {rule : Rule}

lemma HasRow.operation (h : HasRow s table row) (hop : Operation s findings s') : ∃ table',
    HasRow s' table' row := by
  obtain ⟨table', added, hs', hextends, _⟩ := hop.rules_extend h.rules_eq
  refine ⟨table', hs', hextends.source h.source, ?_, fun r hr hid => ?_⟩
  · rw [hextends.rows_eq]
    exact List.mem_append_left _ h.mem
  · rw [hextends.rows_eq] at hr
    rcases List.mem_append.mp hr with hr | hr
    · exact h.unique r hr hid
    · exact absurd hid.symm (hextends.fresh r hr row h.mem)

lemma HasRow.later (h : HasRow s table row) (hlater : Later s s') : ∃ table', HasRow s' table' row := by
  induction hlater with
  | refl => exact ⟨table, h⟩
  | tail _ hop ih =>
    obtain ⟨_, h⟩ := ih
    obtain ⟨_, hop⟩ := hop
    exact h.operation hop

lemma HasRow.rule?_eq (h : HasRow s table row) (hread : row.toRule = .ok rule) :
    s.rule? row.id = .ok (some rule) := by
  rw [rule?_of_unique h.rules_eq h.source h.mem h.unique, hread]
  rfl

lemma HasRow.fetched (h : HasRow s table row) (hread : row.toRule = .ok rule)
    {statuses : List Rule.Status} {rules : List Rule} (hfetch : s.fetchRules statuses = .ok rules) :
    ((∃ status ∈ statuses, row.status = status.name) → rule ∈ rules) ∧ ∀ r ∈ rules, r.id = row.id →
      r = rule := by
  refine ⟨fun hstatus => (mem_fetchRules h.rules_eq hfetch).mpr ⟨row, h.mem, hstatus, hread⟩,
    fun r hr hid => ?_⟩
  obtain ⟨row', hrow', _, hread'⟩ := (mem_fetchRules h.rules_eq hfetch).mp hr
  obtain rfl := h.unique row' hrow' ((id_of_toRule hread').symm.trans hid)
  exact Except.ok.inj (hread'.symm.trans hread)

def IsReadable (s : Store) : Prop :=
  ∀ table, s.rules = some table → ∀ row ∈ table.rows, ∃ rule, row.toRule = .ok rule

lemma IsReadable.operation (h : IsReadable s) (hs : s.rules = some table)
    (hop : Operation s findings s') : IsReadable s' := by
  obtain ⟨table', added, hs', hextends, hstored⟩ := hop.rules_extend hs
  intro table'' hs'' row hrow
  obtain rfl := Option.some.inj (hs'.symm.trans hs'')
  rw [hextends.rows_eq] at hrow
  rcases List.mem_append.mp hrow with hrow | hrow
  · exact h table hs row hrow
  · exact (hstored row hrow).exists_toRule

lemma IsReadable.later (h : IsReadable s) (hs : s.rules = some table) (hlater : Later s s') :
    IsReadable s' := by
  have hboth : IsReadable s' ∧ ∃ table', s'.rules = some table' := by
    induction hlater with
    | refl => exact ⟨h, table, hs⟩
    | tail _ hop ih =>
      obtain ⟨h, table', hs'⟩ := ih
      obtain ⟨_, hop⟩ := hop
      obtain ⟨table'', _, hs'', _⟩ := hop.rules_extend hs'
      exact ⟨h.operation hs' hop, table'', hs''⟩
  exact hboth.1

section
variable {s₀ s₁ : Store} {newId : ℕ → String} {now : Time.Timestamp} {entries : List Rule.Entry}
  {summary : Rule.ImportSummary}

lemma exists_row_of_accepted (hrun : Rule.Import.run insertRules newId now entries s₀ =
    .ok (summary, s₁))
    (hrule : rule ∈ summary.accepted) :
    ∃ table₀, s₀.rules = some table₀ ∧ ∃ table row, rowOfRule rule = .ok row ∧ HasRow s₁ table row := by
  obtain ⟨_, hinsert⟩ := import_eq_ok hrun
  have hne : summary.accepted ≠ [] := List.ne_nil_of_mem hrule
  obtain ⟨table₀, hs₀⟩ := exists_table_of_insertRules hinsert hne
  obtain ⟨table, added, hadded, hextends, hsource, rfl⟩ := insertRules_eq_ok hinsert hs₀
  obtain ⟨row, hrow, hstored⟩ := exists_right hadded hrule
  refine ⟨table₀, hs₀, table, row, hstored, rfl, hsource hne, ?_, fun r hr hid => ?_⟩
  · rw [hextends.rows_eq]
    exact List.mem_append_right _ hrow
  · rw [hextends.rows_eq] at hr
    rcases List.mem_append.mp hr with hr | hr
    · exact absurd hid (hextends.fresh row hrow r hr)
    · exact List.inj_on_of_nodup_map hextends.distinct hr hrow hid

/-- An accepted rule reads back from every later state of the store as it was imported, its time cut
to microseconds, wherever rules are read. Its parameters give the very specification for which its
record was valid, so that against no catalog it fails to compile for its kind, its parameters or its
operator. -/
theorem accepted_reads_back (hrun : Rule.Import.run insertRules newId now entries s₀ =
    .ok (summary, s₁)) (hclock : now.IsOfEra)
    (hrule : rule ∈ summary.accepted) (hproper : rule.parameters.isProper)
    (hdepth : rule.parameters.depth ≤ Json.Draft.maxDepth) (hlater : Later s₁ s) :
    ∃ entry ∈ entries, ∃ proposal spec, entry.record = .ok proposal ∧ proposal.validate = .ok spec ∧
      rule = proposal.toRule rule.id now ∧
      ∃ stored, s.rule? rule.id = .ok (some stored) ∧ stored = { rule with createdAt := now.toMicros } ∧
        (∀ statuses rules, s.fetchRules statuses = .ok rules →
          (rule.status ∈ statuses → stored ∈ rules) ∧ ∀ r ∈ rules, r.id = rule.id → r = stored) ∧
        (IsReadable s₀ → ∀ statuses, ∃ rules, s.fetchRules statuses = .ok rules) ∧
        stored.spec = .ok spec ∧
        ∀ catalog error, Query.compile catalog stored = .error error →
          (∃ name, error = .unknownIdentifier name) ∨ ∃ fault, error = .malformedQuery fault := by
  obtain ⟨table₀, hs₀, table₁, row, hrow, hhas₁⟩ := exists_row_of_accepted hrun hrule
  obtain ⟨rfl, hinsert⟩ := import_eq_ok hrun
  obtain ⟨entry, hentry, proposal, spec, hrecord, hvalid, heq⟩ := Rule.exists_entry_of_accepted hrule
  have hcreated : rule.createdAt = now := by rw [heq]; rfl
  have hread := toRule_rowOfRule hrow (hcreated ▸ hclock) hproper hdepth
  rw [hcreated] at hread
  obtain ⟨table, hhas⟩ := hhas₁.later hlater
  obtain ⟨hid, hstatus⟩ : row.id = rule.id ∧ row.status = rule.status.name := by
    obtain ⟨_, _, rfl⟩ := rowOfRule_eq_ok.mp hrow
    exact ⟨rfl, rfl⟩
  have hspec : Rule.spec { rule with createdAt := now.toMicros } = .ok spec := by
    rw [heq]
    exact Rule.spec_of_validate hvalid
  have hfound := hhas.rule?_eq hread
  rw [hid] at hfound
  refine ⟨entry, hentry, proposal, spec, hrecord, hvalid, heq, _, hfound, rfl,
    fun statuses rules hfetch => ?_, fun hreadable statuses => ?_, hspec,
    fun catalog error herror => Query.of_compile_eq_error hspec herror⟩
  · obtain ⟨hmem, hunique⟩ := hhas.fetched hread hfetch
    exact ⟨fun hselected => hmem ⟨_, hselected, hstatus⟩, fun r hr hrid =>
      hunique r hr (hrid.trans hid.symm)⟩
  · have hop : Later s₀ s₁ := .single ⟨[], .imports hclock hrun⟩
    exact exists_fetchRules hhas.rules_eq hhas.source
      (hreadable.later hs₀ (hop.trans hlater) table hhas.rules_eq) statuses

end

/-! A threshold that is no whole number -/

def adultsProposal : Rule.Proposal where
  name := "adults"
  kind := "threshold"
  description := ""
  parameters := .object [("column", .text "age"), ("operator", .text ">="), ("table", .text "people"),
    ("value", .real (.ofDecimal false 185 (-1)))]
  confidence := .zero
  status := .pending
  source := none

def adultsSpec : Rule.Spec :=
  ⟨⟨"people", none⟩, .threshold "age" .greaterOrEqual (.real (.ofDecimal false 185 (-1)))⟩

theorem accepted_reads_back_adults :
    ∃ s stored, Later ⟨some ⟨[], true⟩, some [], []⟩ s ∧ s.rule? (countedId 0) = .ok (some stored) ∧
      stored.spec = .ok adultsSpec := by
  let accepted := adultsProposal.toRule (countedId 0) Time.Timestamp.epoch
  obtain ⟨⟨summary, s⟩, hrun⟩ :=
    exists_of_isOk (x := Rule.Import.run insertRules countedId Time.Timestamp.epoch
    [⟨0, .ok adultsProposal⟩] ⟨some ⟨[], true⟩, some [], []⟩) (by decide +kernel)
  have hclock : Time.Timestamp.epoch.IsOfEra := by
    rw [Time.Timestamp.IsOfEra]
    decide +kernel
  have hrule : accepted ∈ summary.accepted := by
    rw [(import_eq_ok hrun).1]
    exact List.mem_of_elem_eq_true (by decide +kernel)
  obtain ⟨entry, hentry, proposal, spec, hrecord, hvalid, _, stored, hfound, _, _, _, hspec, _⟩ :=
    accepted_reads_back hrun hclock hrule (by decide +kernel) (by decide +kernel) .refl
  refine ⟨s, stored, .single ⟨[], .imports hclock hrun⟩, hfound, hspec.trans ?_⟩
  obtain rfl := List.mem_singleton.mp hentry
  obtain rfl := Except.ok.inj hrecord
  have hexpected : adultsProposal.validate = .ok adultsSpec := by decide +kernel
  rw [Except.ok.inj (hvalid.symm.trans hexpected)]

end Compliance.Store
