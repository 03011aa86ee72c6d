import Compliance.Proofs.Store.History
import Compliance.Proofs.Store.Session

/-! Rules are inserted all or not at all, whatever stands in the way of them and wherever it does.
What has been inserted is fetched as it was, its time cut to microseconds, and nothing that was
there before is touched. -/

namespace Compliance

open Database ListFacts Result

namespace Time

lemma Date.bounds_of_year {n : ℤ} (hfirst : 1 ≤ (Date.ofDay n).year)
    (hlast : (Date.ofDay n).year ≤ 9999) :
    -1000000 < n ∧ n < 4000000 := by
  simp only [Date.ofDay] at hfirst hlast
  split_ifs at hfirst hlast <;> omega

structure Timestamp.IsKept (t : Timestamp) : Prop where
  era : t.IsOfEra
  year_le : t.toFields.year ≤ 9999
  nanos_lt : t.nanos < 1000000000

lemma Timestamp.IsKept.exists_instant {t : Timestamp} (h : t.IsKept) : ∃ instant,
    Instant.ofTimestamp? t = some instant := by
  have hbounds : -1000000 < t.seconds / 86400 ∧ t.seconds / 86400 < 4000000 :=
    Date.bounds_of_year h.era h.year_le
  have hnanos := h.nanos_lt
  have hmicros : ((t.seconds * 1000000 + t.nanos / 1000).natAbs : ℤ) < 9223372036854775807 := by omega
  refine ⟨.finite (t.seconds * 1000000 + t.nanos / 1000), ?_⟩
  rw [Instant.ofTimestamp?, if_pos ⟨hnanos, h.year_le⟩]
  exact if_pos hmicros

end Time

structure Rule.IsKept (rule : Rule) : Prop where
  createdAt : rule.createdAt.IsKept
  proper : rule.parameters.isProper
  shallow : rule.parameters.depth ≤ Json.Draft.maxDepth

def Rule.IsBefore (a b : Rule) : Prop :=
  b.createdAt.IsAfter a.createdAt ∨ a.createdAt = b.createdAt ∧ a.id ≤ b.id

namespace Store

variable {s s' w saved : Store} {table : RuleTable} {rule : Rule} {rules : List Rule}
  {row : RuleRow} {refusals : Refusals} {place : ℕ} {c : Session} {inserted : List Rule}

lemma insertRules_nil (s : Store) : insertRules [] s = .ok s := rfl

lemma insertRules_cons (rule : Rule) (rules : List Rule) (s : Store) :
    insertRules (rule :: rules) s = insertRule rule s >>= insertRules rules := by
  rw [insertRules, if_neg (List.cons_ne_nil rule rules), insertRule]
  cases ruleTable s with
  | error fault => rfl
  | ok table =>
    simp only [ok_bind, List.foldlM_cons]
    cases addRule table rule with
    | error fault => rfl
    | ok table' =>
      cases rules with
      | nil => rfl
      | cons other rules => rfl

lemma insertFrom_cons (refusals : Refusals) (place : ℕ) (rule : Rule) (rules : List Rule) :
    insertFrom refusals place (rule :: rules) =
      (Action.change refusals (.insert place) (insertRule rule) >>= fun _ =>
        insertFrom refusals (place + 1) rules) := rfl

lemma confined_insertFrom (refusals : Refusals) (place : ℕ) (rules : List Rule) :
    Action.Confined (insertFrom refusals place rules) := by
  induction rules generalizing place with
  | nil => exact Action.confined_pure ()
  | cons rule rules ih =>
    rw [insertFrom_cons]
    exact (Action.confined_change _ _).bind fun _ => ih _

lemma insertFrom_ok (h : insertFrom refusals place rules ⟨saved, some w⟩ = (.ok (), c)) :
    ∃ w', insertRules rules w = .ok w' ∧ c = ⟨saved, some w'⟩ := by
  induction rules generalizing place w with
  | nil =>
    obtain ⟨_, rfl⟩ := Action.of_pure_eq_ok h
    exact ⟨w, insertRules_nil w, rfl⟩
  | cons rule rules ih =>
    rw [insertFrom_cons] at h
    obtain ⟨_, between, hchange, h⟩ := Action.of_bind_eq_ok h
    obtain ⟨w₁, hinsert, rfl⟩ := Action.of_change_eq_ok hchange
    obtain ⟨w', hrest, rfl⟩ := ih h
    rw [Session.current_open] at hinsert
    exact ⟨w', by rw [insertRules_cons, hinsert, ok_bind, hrest], rfl⟩

lemma insertFrom_willing (saved w : Store) (place : ℕ) (rules : List Rule) :
    (insertFrom (fun _ => none) place rules ⟨saved, some w⟩).1 = (insertRules rules w).map fun _ =>
      () := by
  induction rules generalizing place w with
  | nil => rfl
  | cons rule rules ih =>
    rw [insertFrom_cons, Action.bind_apply, Action.change, Session.current_open, insertRules_cons]
    cases insertRule rule w with
    | error failure => rfl
    | ok w₁ => exact ih w₁ (place + 1)

theorem insertBatch_cases (refusals : Refusals) (rules : List Rule) (s : Store) :
    (∃ failure, insertBatch refusals rules (.opened s) = (.error failure, .opened s)) ∨
      ∃ s', insertRules rules s = .ok s' ∧
        insertBatch refusals rules (.opened s) = (.ok (), .opened s') := by
  rcases Action.transaction_cases (confined_insertFrom refusals 0 rules) refusals s
    with h | ⟨_, working, hbody, h⟩
  · exact .inl h
  · obtain ⟨w', hinsert, hworking⟩ := insertFrom_ok hbody
    obtain rfl := Option.some.inj (Session.mk.inj hworking).2
    exact .inr ⟨working, hinsert, h⟩

lemma insertBatch_willing (rules : List Rule) (s : Store) :
    (insertBatch (fun _ => none) rules (.opened s)).1 = (insertRules rules s).map fun _ => () :=
  (Action.transaction_willing _ s).trans (insertFrom_willing s s 0 rules)

lemma id_of_rowOfRule (h : rowOfRule rule = .ok row) : row.id = rule.id := by
  obtain ⟨_, _, rfl⟩ := rowOfRule_eq_ok.mp h
  rfl

lemma insertRule_eq_ok (hs : s.rules = some table) (hsource : table.hasSource)
    (hrow : rowOfRule rule = .ok row) :
    insertRule rule s = .ok s' ↔
      (∀ r ∈ table.rows, r.id ≠ rule.id) ∧
        s' = { s with rules := some { table with rows := table.rows ++ [row] } } := by
  have hid := id_of_rowOfRule hrow
  have hadd : addRule table rule = addRow RuleRow.id row table.rows >>= fun rows =>
    .ok { table with rows } := by
    rw [addRule, hsource, hrow]
    rfl
  rw [insertRule, asFailure, mapError_eq_ok, ruleTable, hs]
  simp only [ok_bind, hadd]
  constructor
  · intro h
    obtain ⟨table', htable', h⟩ := bind_eq_ok.mp h
    obtain ⟨rows, hrows, htable'⟩ := bind_eq_ok.mp htable'
    obtain ⟨hfresh, rfl⟩ := addRow_eq_ok.mp hrows
    obtain rfl := Except.ok.inj htable'
    exact ⟨hid ▸ hfresh, (pure_eq_ok.mp h).symm⟩
  · rintro ⟨hfresh, rfl⟩
    rw [addRow_eq_ok.mpr ⟨hid ▸ hfresh, rfl⟩]
    rfl

lemma exists_insertRules_iff (hs : s.rules = some table) (hsource : table.hasSource)
    (hrows : ∀ rule ∈ rules, ∃ row, rowOfRule rule = .ok row) :
    (∃ s', insertRules rules s = .ok s') ↔
      (rules.map (·.id)).Nodup ∧ ∀ rule ∈ rules, ∀ r ∈ table.rows, r.id ≠ rule.id := by
  induction rules generalizing s table with
  | nil => exact iff_of_true ⟨s, rfl⟩ (by simp)
  | cons rule rules ih =>
    obtain ⟨⟨row, hrow⟩, hrest⟩ := List.forall_mem_cons.mp hrows
    have hid := id_of_rowOfRule hrow
    have hnext :=
      ih (s := { s with rules := some { table with rows := table.rows ++ [row] } }) rfl hsource hrest
    rw [insertRules_cons, List.map_cons, List.nodup_cons, List.forall_mem_cons]
    simp only [List.forall_mem_append, List.forall_mem_singleton, hid] at hnext
    constructor
    · rintro ⟨s', h⟩
      obtain ⟨between, hfirst, h⟩ := bind_eq_ok.mp h
      obtain ⟨hfresh, rfl⟩ := (insertRule_eq_ok hs hsource hrow).mp hfirst
      obtain ⟨hdistinct, hothers⟩ := hnext.mp ⟨s', h⟩
      refine ⟨⟨fun hmem => ?_, hdistinct⟩, hfresh, fun other hother => (hothers other hother).1⟩
      obtain ⟨other, hother, heq⟩ := List.mem_map.mp hmem
      exact (hothers other hother).2 heq.symm
    · rintro ⟨⟨hnew, hdistinct⟩, hfresh, hothers⟩
      rw [(insertRule_eq_ok hs hsource hrow).mpr ⟨hfresh, rfl⟩, ok_bind]
      exact hnext.mpr ⟨hdistinct, fun other hother =>
        ⟨hothers other hother, fun heq => hnew (heq ▸ List.mem_map_of_mem hother)⟩⟩

/-- The stores that the program makes, with the rules that were inserted on the way. It opens one
without rules; then come its operations and inserts, in any order. -/
inductive Grown : List Rule → Store → Prop
  | opens {s s' : Store} {table : RuleTable} (h : s.bootstrap = .ok s') (hrules : s'.rules = some table)
    (hempty : table.rows = []) : Grown [] s'
  | operates {inserted : List Rule} {s s' : Store} {findings : List Finding} (h : Grown inserted s)
    (hop : Operation s findings s') : Grown inserted s'
  | inserts {inserted : List Rule} {s s' : Store} {refusals : Refusals} {rules : List Rule}
    (h : Grown inserted s)
    (hinsert : insertBatch refusals rules (.opened s) = (.ok (), .opened s')) :
      Grown (inserted ++ rules) s'

structure IsSound (s : Store) (table : RuleTable) : Prop where
  rules_eq : s.rules = some table
  source : table.hasSource
  ids : (table.rows.map (·.id)).Nodup

lemma source_of_bootstrap (h : s.bootstrap = .ok s') (hs' : s'.rules = some table) :
    table.hasSource := by
  obtain ⟨between, hrules, hviolations⟩ := bind_eq_ok.mp h
  obtain ⟨hsame, _⟩ := withViolations_eq_ok hviolations
  rw [hsame] at hs'
  unfold withRules at hrules
  split at hrules
  · obtain rfl := Except.ok.inj hrules
    obtain rfl := Option.some.inj hs'
    rfl
  next hnone =>
    split at hrules
    · obtain rfl := Except.ok.inj hrules
      rw [hnone] at hs'
      cases hs'
    · cases hrules
    · obtain rfl := Except.ok.inj hrules
      obtain rfl := Option.some.inj hs'
      rfl

lemma insertRules_of_insertBatch (h : insertBatch refusals rules (.opened s) = (.ok (), .opened s')) :
    insertRules rules s = .ok s' := by
  rcases insertBatch_cases refusals rules s with ⟨failure, hfailure⟩ | ⟨w, hinsert, hdone⟩
  · rw [hfailure] at h
    cases (Prod.mk.inj h).1
  · rw [hdone] at h
    obtain rfl : w = s' := (Session.mk.inj (Prod.mk.inj h).2).1
    exact hinsert

lemma IsSound.extend {table' : RuleTable} {added : List RuleRow} (h : IsSound s table)
    (hs' : s'.rules = some table') (hextends : Extends table table' added) : IsSound s' table' :=
  ⟨hs', hextends.source h.source, hextends.ruleIds h.ids⟩

structure Holds (inserted : List Rule) (table : RuleTable) : Prop where
  rows : ∀ row ∈ table.rows, IsStored row ∨ ∃ rule ∈ inserted, rowOfRule rule = .ok row
  inserted : ∀ rule ∈ inserted, ∃ row ∈ table.rows, rowOfRule rule = .ok row

lemma Holds.operates {table' : RuleTable} {added : List RuleRow} (h : Holds inserted table)
    (hextends : Extends table table' added) (hadded : ∀ row ∈ added, IsStored row) :
    Holds inserted table' := by
  constructor
  · rw [hextends.rows_eq, List.forall_mem_append]
    exact ⟨h.rows, fun row hrow => .inl (hadded row hrow)⟩
  · intro rule hrule
    obtain ⟨row, hrow, hof⟩ := h.inserted rule hrule
    exact ⟨row, hextends.rows_eq ▸ List.mem_append_left added hrow, hof⟩

lemma Holds.inserts {table' : RuleTable} {added : List RuleRow} (h : Holds inserted table)
    (hextends : Extends table table' added)
    (hadded : List.Forall₂ (fun rule row => rowOfRule rule = .ok row) rules added) :
    Holds (inserted ++ rules) table' := by
  constructor
  · rw [hextends.rows_eq, List.forall_mem_append]
    refine ⟨fun row hrow => (h.rows row hrow).imp_right ?_, fun row hrow => .inr ?_⟩
    · rintro ⟨rule, hrule, hof⟩
      exact ⟨rule, List.mem_append_left rules hrule, hof⟩
    · obtain ⟨rule, hrule, hof⟩ := exists_left hadded hrow
      exact ⟨rule, List.mem_append_right inserted hrule, hof⟩
  · rw [hextends.rows_eq, List.forall_mem_append]
    constructor
    · intro rule hrule
      obtain ⟨row, hrow, hof⟩ := h.inserted rule hrule
      exact ⟨row, List.mem_append_left added hrow, hof⟩
    · intro rule hrule
      obtain ⟨row, hrow, hof⟩ := exists_right hadded hrule
      exact ⟨row, List.mem_append_right table.rows hrow, hof⟩

lemma Grown.exists_sound (h : Grown inserted s) : ∃ table, IsSound s table ∧ Holds inserted table := by
  induction h with
  | @opens _ _ table h hrules hempty =>
    exact ⟨table, ⟨hrules, source_of_bootstrap h hrules, by simp [hempty]⟩, by simp [hempty], by simp⟩
  | operates _ hop ih =>
    obtain ⟨table, hsound, hholds⟩ := ih
    obtain ⟨table', added, hs', hextends, hadded⟩ := hop.rules_extend hsound.rules_eq
    exact ⟨table', hsound.extend hs' hextends, hholds.operates hextends hadded⟩
  | inserts _ hinsert ih =>
    obtain ⟨table, hsound, hholds⟩ := ih
    obtain ⟨table', added, hadded, hextends, _, rfl⟩ :=
      insertRules_eq_ok (insertRules_of_insertBatch hinsert) hsound.rules_eq
    exact ⟨table', hsound.extend rfl hextends, hholds.inserts hextends hadded⟩

lemma createdAt_of_toRule (h : row.toRule = .ok rule) : readInstant rulesName row.createdAt =
    .ok rule.createdAt := by
  obtain ⟨_, _, h⟩ := bind_eq_ok.mp h
  obtain ⟨_, hcreated, h⟩ := bind_eq_ok.mp h
  obtain rfl := pure_eq_ok.mp h
  exact hcreated

lemma isOfEra_of_toRule (hrow : rowOfRule rule = .ok row) {read : Rule} (h : row.toRule = .ok read) :
    rule.createdAt.IsOfEra := by
  obtain ⟨instant, hinstant, rfl⟩ := rowOfRule_eq_ok.mp hrow
  exact isOfEra_of_readInstant hinstant (createdAt_of_toRule h)

lemma status_of_rowOfRule (hrow : rowOfRule rule = .ok row) : ∃ status ∈ Rule.Status.all,
    row.status = status.name := by
  obtain ⟨_, _, rfl⟩ := rowOfRule_eq_ok.mp hrow
  refine ⟨rule.status, ?_, rfl⟩
  cases rule.status <;> decide

lemma Holds.status (h : Holds inserted table) :
    ∀ row ∈ table.rows, ∃ status ∈ Rule.Status.all, row.status = status.name := by
  intro row hrow
  rcases h.rows row hrow with ⟨rule, _, hof⟩ | ⟨rule, _, hof⟩ <;> exact status_of_rowOfRule hof

lemma IsSound.rule?_eq_none (h : IsSound s table) {id : String} :
    s.rule? id = .ok none ↔ ∀ r ∈ table.rows, r.id ≠ id := by
  rw [rule?, ruleRows_eq h.rules_eq h.source, ok_bind]
  cases hfind : table.rows.find? (·.id = id) with
  | none => exact iff_of_true rfl fun r hr heq => List.find?_eq_none.mp hfind r hr (decide_eq_true heq)
  | some row =>
    refine iff_of_false (fun hnone => ?_) fun hfresh => ?_
    · obtain ⟨_, _, h⟩ := bind_eq_ok.mp hnone
      cases pure_eq_ok.mp h
    · exact hfresh row (List.mem_of_find?_eq_some hfind) (by simpa using List.find?_some hfind)

lemma IsSound.exists_insertBatch_iff (h : IsSound s table) (hkept : ∀ rule ∈ rules, rule.IsKept) :
    (∃ s', insertBatch (fun _ => none) rules (.opened s) = (.ok (), .opened s')) ↔
      (rules.map (·.id)).Nodup ∧ ∀ rule ∈ rules, s.rule? rule.id = .ok none := by
  have hrows : ∀ rule ∈ rules, ∃ row, rowOfRule rule = .ok row := by
    intro rule hrule
    obtain ⟨instant, hinstant⟩ := (hkept rule hrule).createdAt.exists_instant
    exact ⟨_, rowOfRule_eq_ok.mpr ⟨instant, hinstant, rfl⟩⟩
  simp only [h.rule?_eq_none]
  rw [← exists_insertRules_iff h.rules_eq h.source hrows]
  constructor
  · rintro ⟨s', hdone⟩
    exact ⟨s', insertRules_of_insertBatch hdone⟩
  · rintro ⟨s', hinsert⟩
    have hwilling := insertBatch_willing rules s
    rcases insertBatch_cases (fun _ => none) rules s with ⟨failure, hfailure⟩ | ⟨w, _, hdone⟩
    · rw [hfailure, hinsert] at hwilling
      cases hwilling
    · exact ⟨w, hdone⟩

lemma rule?_of_added {added : List RuleRow} {id : String} (h : IsSound s table)
    (hs' : s'.rules = some { table with rows := table.rows ++ added })
    (hother : ∀ r ∈ added, r.id ≠ id) :
    s'.rule? id = s.rule? id := by
  have hnone : added.find? (·.id = id) = none := List.find?_eq_none.mpr fun r hr => by
    simpa using hother r hr
  rw [rule?, rule?, ruleRows_eq h.rules_eq h.source, ruleRows_eq hs' h.source, ok_bind, ok_bind,
    List.find?_append, hnone, Option.or_none]

lemma IsBefore.of_rows {a b : RuleRow} {r r' : Rule} (ha : a.toRule = .ok r)
    (hb : b.toRule = .ok r') (h : a.before b) :
    r.IsBefore r' := by
  obtain ⟨m, hm, hr⟩ := readInstant_eq_ok (createdAt_of_toRule ha)
  obtain ⟨n, hn, hr'⟩ := readInstant_eq_ok (createdAt_of_toRule hb)
  rw [RuleRow.before_iff, hm, hn, Instant.order, compare_lt_iff_lt] at h
  rw [Rule.IsBefore, hr, hr', id_of_toRule ha, id_of_toRule hb]
  rcases h with h | ⟨h, hid⟩
  · exact .inl (isAfter_of_lt h)
  · obtain rfl := Instant.finite.inj h
    exact .inr ⟨rfl, hid⟩

lemma IsSound.exists_fetched_iff (h : IsSound s table) (hholds : Holds inserted table) :
    (∃ fetched, s.fetchRules Rule.Status.all = .ok fetched) ↔
      ∀ rule ∈ inserted, rule.createdAt.IsOfEra := by
  constructor
  · rintro ⟨fetched, hfetched⟩ rule hrule
    obtain ⟨row, hrow, hof⟩ := hholds.inserted rule hrule
    have hselected : row ∈ selected Rule.Status.all table.rows := by
      rw [selected, List.mem_mergeSort, List.mem_filter, any_name_iff]
      exact ⟨hrow, status_of_rowOfRule hof⟩
    obtain ⟨_, _, hread⟩ := exists_right (selected_of_fetchRules h.rules_eq hfetched) hselected
    exact isOfEra_of_toRule hof hread
  · intro hera
    refine exists_fetchRules h.rules_eq h.source (fun row hrow => ?_) Rule.Status.all
    rcases hholds.rows row hrow with hstored | ⟨rule, hrule, hof⟩
    · exact hstored.exists_toRule
    · exact IsStored.exists_toRule ⟨rule, hera rule hrule, hof⟩

lemma IsSound.of_fetched (h : IsSound s table) (hholds : Holds inserted table) {fetched : List Rule}
    (hfetched : s.fetchRules Rule.Status.all = .ok fetched) :
    (fetched.map (·.id)).Perm (table.rows.map (·.id)) ∧
      (∀ rule ∈ fetched, s.rule? rule.id = .ok (some rule)) ∧
      fetched.Pairwise Rule.IsBefore := by
  have hselected := selected_of_fetchRules h.rules_eq hfetched
  have hall : (table.rows.filter fun row => Rule.Status.all.any (·.name = row.status)) = table.rows :=
    List.filter_eq_self.mpr fun row hrow => any_name_iff.mpr (hholds.status row hrow)
  refine ⟨?_, fun rule hrule => ?_, ?_⟩
  · rw [← map_eq_map hselected fun row rule hread => (id_of_toRule hread).symm, selected, hall]
    exact (List.mergeSort_perm ..).map _
  · obtain ⟨row, hrow, _, hread⟩ := (mem_fetchRules h.rules_eq hfetched).mp hrule
    exact (rule?_eq_some h.rules_eq h.source h.ids).mpr ⟨row, hrow, (id_of_toRule hread).symm, hread⟩
  · exact pairwise_right hselected (List.pairwise_mergeSort RuleRow.before_trans RuleRow.before_total _)
      fun _ _ _ _ ha hb => IsBefore.of_rows ha hb

/-- Rules go into a store that the program has made if and only if their identities differ from each
other and from those that are there. If they do not, or anything else is in their way, the store is
as it was. If they do, all that was there is as it was, and each of them is found under its identity
as it was given, its time cut to microseconds. All rules are then fetched, each once, by their times
and then by their identities, unless one was inserted before with a time before our era, which
nobody can read. -/
theorem inserted_reads_back (h : Grown inserted s) (hkept : ∀ rule ∈ rules, rule.IsKept) :
    ((∃ s', insertBatch (fun _ => none) rules (.opened s) = (.ok (), .opened s')) ↔
      (rules.map (·.id)).Nodup ∧ ∀ rule ∈ rules, s.rule? rule.id = .ok none) ∧
    ∀ refusals : Refusals,
      (∃ failure, insertBatch refusals rules (.opened s) = (.error failure, .opened s)) ∨
      ∃ s' table added, insertBatch refusals rules (.opened s) = (.ok (), .opened s') ∧
        s.rules = some table ∧ s' = { s with rules := some { table with rows := table.rows ++ added } } ∧
        (∀ id, (∀ rule ∈ rules, rule.id ≠ id) → s'.rule? id = s.rule? id) ∧
        (∀ rule ∈ rules, s'.rule? rule.id =
          .ok (some { rule with createdAt := rule.createdAt.toMicros })) ∧
        ((∃ fetched, s'.fetchRules Rule.Status.all = .ok fetched) ↔
          ∀ rule ∈ inserted, rule.createdAt.IsOfEra) ∧
        ∀ fetched, s'.fetchRules Rule.Status.all = .ok fetched →
          (fetched.map (·.id)).Perm ((table.rows ++ added).map (·.id)) ∧
          (∀ rule ∈ fetched, s'.rule? rule.id = .ok (some rule)) ∧ fetched.Pairwise Rule.IsBefore := by
  obtain ⟨table, hsound, hholds⟩ := h.exists_sound
  constructor
  · exact hsound.exists_insertBatch_iff hkept
  · intro refusals
    rcases insertBatch_cases refusals rules s with hfailed | ⟨s', hinsert, hdone⟩
    · exact .inl hfailed
    obtain ⟨table', added, hadded, hextends, hsource, rfl⟩ := insertRules_eq_ok hinsert hsound.rules_eq
    have hsound' : IsSound { s with rules := some table' } table' := hsound.extend rfl hextends
    obtain rfl : table' = { table with rows := table.rows ++ added } := by
      cases table'
      exact congrArg₂ RuleTable.mk hextends.rows_eq (hsound'.source.trans hsound.source.symm)
    have hholds' := hholds.inserts hextends hadded
    refine .inr ⟨_, table, added, hdone, hsound.rules_eq, rfl, fun id hother => ?_,
      fun rule hrule => ?_, ?_, fun fetched => hsound'.of_fetched hholds'⟩
    · refine rule?_of_added hsound rfl fun row hrow => ?_
      obtain ⟨rule, hrule, hof⟩ := exists_left hadded hrow
      rw [id_of_rowOfRule hof]
      exact hother rule hrule
    · obtain ⟨row, hrow, hof⟩ := exists_right hadded hrule
      have hread :=
        toRule_rowOfRule hof (hkept rule hrule).createdAt.era (hkept rule hrule).proper
          (hkept rule hrule).shallow
      exact (rule?_eq_some rfl hsound'.source hsound'.ids).mpr ⟨row, List.mem_append_right _ hrow,
        id_of_rowOfRule hof, hread⟩
    · rw [hsound'.exists_fetched_iff hholds', List.forall_mem_append]
      exact and_iff_left fun rule hrule => (hkept rule hrule).createdAt.era

/-! Two rules, the later one first, and a list that fails at its end -/

def datedRule (id : String) (createdAt : Time.Timestamp) : Rule where
  id := id
  name := "dated"
  kind := "not_null"
  description := ""
  parameters := .object [("limits", .array [.null, .real (.ofDecimal false 15 (-1))])]
  confidence := .ofDecimal false 9 (-1)
  status := .disabled
  createdAt := createdAt
  source := some "policies"

def openedStore : Store := ⟨some ⟨[], true⟩, some [], []⟩

lemma grown_openedStore : Grown [] openedStore := by
  have hopens : Store.empty.bootstrap = .ok openedStore := by decide +kernel
  exact .opens hopens rfl rfl

lemma isKept_datedRule (id : String) {t : Time.Timestamp} (hday : t.seconds / 86400 = 0)
    (hnanos : t.nanos < 1000000000) :
    (datedRule id t).IsKept := by
  have hyear : t.toFields.year = 1970 := by
    change (Time.Date.ofDay (t.seconds / 86400)).year = 1970
    rw [hday]
    decide +kernel
  refine ⟨⟨?_, ?_, hnanos⟩, ?_, ?_⟩
  · change 1 ≤ t.toFields.year
    omega
  · change t.toFields.year ≤ 9999
    omega
  · change (datedRule "" .epoch).parameters.isProper
    decide +kernel
  · change (datedRule "" .epoch).parameters.depth ≤ Json.Draft.maxDepth
    decide +kernel

theorem inserted_reads_back_datedRules :
    ∃ s, insertBatch (fun _ => none) [datedRule "late" ⟨7, 1999⟩, datedRule "early" ⟨7, 0⟩]
      (.opened openedStore) = (.ok (), .opened s) ∧
      s.rule? "late" = .ok (some (datedRule "late" ⟨7, 1000⟩)) ∧
      (∃ fetched, s.fetchRules Rule.Status.all = .ok fetched ∧ fetched.Pairwise Rule.IsBefore) ∧
      ∃ failure, insertBatch (fun _ => none) [datedRule "other" .epoch, datedRule "early" .epoch]
        (.opened s) = (.error failure, .opened s) := by
  have hdated : ∀ rule ∈ [datedRule "late" ⟨7, 1999⟩, datedRule "early" ⟨7, 0⟩], rule.IsKept := by
    simp only [List.forall_mem_cons]
    exact ⟨isKept_datedRule _ rfl (by decide), isKept_datedRule _ rfl (by decide), by simp⟩
  have hagain : ∀ rule ∈ [datedRule "other" .epoch, datedRule "early" .epoch], rule.IsKept := by
    simp only [List.forall_mem_cons]
    exact ⟨isKept_datedRule _ rfl (by decide), isKept_datedRule _ rfl (by decide), by simp⟩
  obtain ⟨hinserts, hreads⟩ := inserted_reads_back grown_openedStore hdated
  obtain ⟨s, hdone⟩ := hinserts.mpr ⟨by decide, by decide +kernel⟩
  rcases hreads fun _ => none with
    ⟨failure, hfailure⟩ | ⟨s', _, _, hdone', _, _, _, hfound, hfetches, hfetched⟩
  · rw [hfailure] at hdone
    cases (Prod.mk.inj hdone).1
  obtain ⟨fetched, hall⟩ := hfetches.mpr (by simp)
  have hgrown := grown_openedStore.inserts hdone'
  refine ⟨s', hdone', hfound (datedRule "late" ⟨7, 1999⟩) (by simp),
    ⟨fetched, hall, (hfetched fetched hall).2.2⟩, ?_⟩
  -- The second of them is there already.
  obtain ⟨hinserts', hreads'⟩ := inserted_reads_back hgrown hagain
  rcases hreads' fun _ => none with hfailed | ⟨again, _, _, hdone'', _⟩
  · exact hfailed
  · have hearly := (hinserts'.mp ⟨again, hdone''⟩).2 (datedRule "early" .epoch) (by simp)
    rw [show s'.rule? (datedRule "early" .epoch).id = _ from hfound (datedRule "early" ⟨7, 0⟩)
      (by simp)] at hearly
    cases hearly

def ancientRule : Rule := datedRule "ancient" ⟨-62167219200, 0⟩

def ancientStore : Store := { openedStore with rules := some ⟨[{
  id := "ancient"
  name := "dated"
  kind := "not_null"
  description := ""
  parameters := ancientRule.parameters.compact
  confidence := ancientRule.confidence
  status := "disabled"
  createdAt := .finite (-62167219200000000)
  source := some "policies" }], true⟩ }

/-- A rule of the year before our era is kept, and no rules are fetched any more. -/
theorem not_fetched_ancientStore :
    ¬ ∀ inserted s rules s', Grown inserted s → (∀ rule ∈ rules, rule.IsKept) →
      insertBatch (fun _ => none) rules (.opened s) = (.ok (), .opened s') →
      ∃ fetched, s'.fetchRules Rule.Status.all = .ok fetched := by
  intro h
  have hancient : insertBatch (fun _ => none) [ancientRule]
    (.opened openedStore) = (.ok (), .opened ancientStore) := rfl
  have hgrown := grown_openedStore.inserts hancient
  have hdated : ∀ rule ∈ [datedRule "dated" .epoch], rule.IsKept :=
    List.forall_mem_singleton.mpr (isKept_datedRule _ rfl (by decide))
  obtain ⟨s', hinsert⟩ : ∃ s', insertBatch (fun _ => none) [datedRule "dated" .epoch]
    (.opened ancientStore) = (.ok (), .opened s') := ⟨_, rfl⟩
  obtain ⟨table, hsound, hholds⟩ := (hgrown.inserts hinsert).exists_sound
  have hera :=
    (hsound.exists_fetched_iff hholds).mp (h _ _ _ s' hgrown hdated hinsert) ancientRule (by simp)
  rw [Time.Timestamp.IsOfEra] at hera
  revert hera
  decide +kernel

end Store

end Compliance
