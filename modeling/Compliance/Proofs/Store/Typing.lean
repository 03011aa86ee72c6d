import Mathlib.Logic.Relation
import Compliance.Proofs.Database.Violations
import Compliance.Store.Tables
import Compliance.Store.Scan

/-! What every store keeps: the values of its relations fit their columns. So a query is answered
with the rows that violate its rule, whatever has been done to the store before. -/

namespace Compliance.Store

open Database
open Result

variable {s s' : Store}

def Proper (s : Store) : Prop := ∀ r ∈ s.allRelations, r.Proper

lemma RuleRow.fits_values (row : RuleRow) :
    List.Forall₂ (fun column v => v.Fits column.type) columns row.values := by
  obtain ⟨_, _, _, _, _, _, _, _, source⟩ := row
  cases source <;> simp [columns, values, Value.Fits]

lemma ViolationRow.fits_values (row : ViolationRow) :
    List.Forall₂ (fun column v => v.Fits column.type) columns row.values := by
  simp [columns, values, Value.Fits]

lemma proper_rulesRelation (table : RuleTable) : (rulesRelation table).Proper := by
  obtain ⟨tableRows, hasSource⟩ := table
  constructor
  · cases hasSource
    · exact (by decide +kernel : hasRepeatedName (RuleRow.columns.dropLast.map (·.name)) = false)
    · exact (by decide +kernel : hasRepeatedName (RuleRow.columns.map (·.name)) = false)
  · rintro _ ⟨⟩ row hrow
    obtain ⟨row, _, rfl⟩ := List.mem_map.mp hrow
    have hfits := row.fits_values
    cases hasSource with
    | true => exact hfits
    | false => exact List.forall₂_take 8 hfits

lemma proper_violationsRelation (rows : List ViolationRow) : (violationsRelation rows).Proper := by
  constructor
  · exact (by decide +kernel : hasRepeatedName (ViolationRow.columns.map (·.name)) = false)
  · rintro _ ⟨⟩ row hrow
    obtain ⟨row, _, rfl⟩ := List.mem_map.mp hrow
    exact row.fits_values

lemma mem_allRelations {r : Relation} (h : r ∈ s.allRelations) :
    (∃ table, r = rulesRelation table) ∨ (∃ rows, r = violationsRelation rows) ∨ r ∈ s.relations := by
  rcases List.mem_append.mp h with h | h
  · rcases List.mem_append.mp h with h | h
    · obtain ⟨table, _, rfl⟩ := Option.map_eq_some_iff.mp (Option.mem_toList.mp h)
      exact .inl ⟨table, rfl⟩
    · obtain ⟨rows, _, rfl⟩ := Option.map_eq_some_iff.mp (Option.mem_toList.mp h)
      exact .inr (.inl ⟨rows, rfl⟩)
  · exact .inr (.inr h)

lemma proper_iff : s.Proper ↔ ∀ r ∈ s.relations, r.Proper := by
  refine ⟨fun h r hr => h r (List.mem_append_right _ hr), fun h r hr => ?_⟩
  obtain ⟨table, rfl⟩ | ⟨rows, rfl⟩ | hr := mem_allRelations hr
  · exact proper_rulesRelation table
  · exact proper_violationsRelation rows
  · exact h r hr

lemma Proper.find? (hs : s.Proper) {name : String} {r : Relation} (h : s.find? name = some r) :
    r.Proper :=
  hs r (List.mem_of_find?_eq_some h)

lemma Proper.of_relations (hs : s.Proper) (h : s'.relations = s.relations) : s'.Proper :=
  proper_iff.mpr (h ▸ proper_iff.mp hs)

lemma proper_empty : empty.Proper := proper_iff.mpr nofun

lemma Proper.add (hs : s.Proper) {r : Relation} (h : s.add r = .ok s') (hr : r.Proper) : s'.Proper := by
  rw [Store.add] at h
  split_ifs at h
  obtain rfl := Except.ok.inj h
  refine proper_iff.mpr fun q hq => ?_
  rcases List.mem_append.mp hq with hq | hq
  · exact proper_iff.mp hs q hq
  · obtain rfl := List.mem_singleton.mp hq
    exact hr

lemma Proper.createTable (hs : s.Proper) {name : String} {columns : List (String × String)}
    (h : s.createTable name columns = .ok s') : s'.Proper := by
  rw [Store.createTable] at h
  split_ifs at h
  · cases h
  obtain ⟨typed, _, h⟩ := bind_eq_ok.mp h
  split_ifs at h with hd
  · cases h
  refine hs.add h ⟨Bool.eq_false_iff.mpr hd, ?_⟩
  rintro _ ⟨⟩ row hrow
  exact absurd hrow List.not_mem_nil

lemma Proper.createView (hs : s.Proper) {name of : String} (h : s.createView name of = .ok s') :
    s'.Proper := by
  rw [Store.createView] at h
  split at h
  next relation hfind => exact hs.add h ⟨(hs.find? hfind).distinct, fun _ hrows => nomatch hrows⟩
  next => cases h

lemma Proper.createEndless (hs : s.Proper) {name : String} {columns : List Column}
    (hd : hasRepeatedName (columns.map (·.name)) = false)
    (h : s.createEndless name columns = .ok s') : s'.Proper :=
  hs.add h ⟨hd, fun _ hrows => nomatch hrows⟩

lemma proper_insertInto {cells : List (List (Option String))} {r r' : Relation} (hr : r.Proper)
    (h : insertInto cells r = .ok r') : r'.Proper := by
  obtain ⟨name, columns, rows | of | _⟩ := r
  · obtain ⟨more, hm, h⟩ := bind_eq_ok.mp h
    cases h
    refine ⟨hr.distinct, ?_⟩
    rintro _ ⟨⟩ row hrow
    rcases List.mem_append.mp hrow with hrow | hrow
    · exact hr.fits rows rfl row hrow
    · obtain ⟨_, _, hc⟩ := exists_of_mem_mapM hm hrow
      exact fits_readRow hc
  all_goals cases h

lemma proper_clear {r r' : Relation} (hr : r.Proper) (h : clear r = .ok r') : r'.Proper := by
  obtain ⟨name, columns, rows | of | _⟩ := r
  · obtain rfl := Except.ok.inj h
    refine ⟨hr.distinct, ?_⟩
    rintro _ ⟨⟩ row hrow
    exact absurd hrow List.not_mem_nil
  all_goals cases h

lemma Proper.modify (hs : s.Proper) {name : String} {f : Relation → Except Fault Relation}
    (hf : ∀ r r', r.Proper → f r = .ok r' → r'.Proper) (h : s.modify name f = .ok s') : s'.Proper := by
  obtain ⟨relations, hm, h⟩ := bind_eq_ok.mp h
  obtain rfl := pure_eq_ok.mp h
  refine proper_iff.mpr fun r' hr' => ?_
  obtain ⟨r, hr, hchange⟩ := exists_of_mem_mapM hm hr'
  have hproper := proper_iff.mp hs r hr
  split_ifs at hchange
  · exact hf r r' hproper hchange
  · obtain rfl := Except.ok.inj hchange
    exact hproper

lemma relations_insertRuleCells {now : Instant} {cells : Cells}
    (h : s.insertRuleCells now cells = .ok s') :
    s'.relations = s.relations := by
  obtain ⟨_, _, h⟩ := bind_eq_ok.mp h
  obtain ⟨_, _, h⟩ := bind_eq_ok.mp h
  obtain rfl := pure_eq_ok.mp h
  rfl

lemma relations_insertViolationCells {now : Instant} {cells : Cells}
    (h : s.insertViolationCells now cells = .ok s') :
    s'.relations = s.relations := by
  obtain ⟨_, _, h⟩ := bind_eq_ok.mp h
  obtain ⟨_, _, h⟩ := bind_eq_ok.mp h
  obtain rfl := pure_eq_ok.mp h
  rfl

lemma Proper.foldlM (hs : s.Proper) {α : Type} {f : Store → α → Except Fault Store} {rows : List α}
    (hf : ∀ s s' row, f s row = .ok s' → s'.relations = s.relations)
    (h : rows.foldlM f s = .ok s') : s'.Proper := by
  induction rows generalizing s with
  | nil =>
    obtain rfl := pure_eq_ok.mp h
    exact hs
  | cons row rows ih =>
    rw [List.foldlM_cons] at h
    obtain ⟨between, hrow, h⟩ := bind_eq_ok.mp h
    exact ih (hs.of_relations (hf _ _ row hrow)) h

lemma Proper.insertRows (hs : s.Proper) {now : Instant} {name : String}
    {rows : List (List (Option String))} (h : s.insertRows now name rows = .ok s') : s'.Proper := by
  rw [Store.insertRows] at h
  split_ifs at h
  · obtain ⟨table, _, h⟩ := bind_eq_ok.mp h
    refine hs.foldlM (fun s s' row hrow => ?_) h
    obtain ⟨cells, _, hrow⟩ := bind_eq_ok.mp hrow
    exact relations_insertRuleCells hrow
  · refine hs.foldlM (fun s s' row hrow => ?_) h
    obtain ⟨cells, _, hrow⟩ := bind_eq_ok.mp hrow
    exact relations_insertViolationCells hrow
  · exact hs.modify (fun _ _ => proper_insertInto) h

lemma Proper.deleteRows (hs : s.Proper) {name : String} (h : s.deleteRows name = .ok s') :
    s'.Proper := by
  rw [Store.deleteRows] at h
  split_ifs at h
  · obtain rfl := Except.ok.inj h
    exact hs.of_relations rfl
  · obtain rfl := Except.ok.inj h
    exact hs.of_relations rfl
  · exact hs.modify (fun _ _ => proper_clear) h

lemma Proper.dropTable (hs : s.Proper) {name : String} (h : s.dropTable name = .ok s') : s'.Proper := by
  rw [Store.dropTable] at h
  split_ifs at h
  · obtain rfl := Except.ok.inj h
    exact hs.of_relations rfl
  · obtain rfl := Except.ok.inj h
    exact hs.of_relations rfl
  · split at h
    · obtain rfl := Except.ok.inj h
      exact proper_iff.mpr fun r hr => proper_iff.mp hs r (List.mem_filter.mp hr).1
    all_goals cases h

lemma Proper.bootstrap (hs : s.Proper) (h : s.bootstrap = .ok s') : s'.Proper := by
  obtain ⟨between, hrules, h⟩ := bind_eq_ok.mp h
  have hbetween : between.relations = s.relations := by
    rw [withRules] at hrules
    split at hrules
    · obtain rfl := Except.ok.inj hrules
      rfl
    · split at hrules <;> cases hrules <;> rfl
  refine hs.of_relations (Eq.trans ?_ hbetween)
  rw [withViolations] at h
  split at h
  · obtain rfl := Except.ok.inj h
    rfl
  · split at h <;> cases h
    rfl

/-- What can be done to the tables of a store. All else leaves its relations as they are. -/
inductive Alteration : Store → Store → Prop
  | createsTable {s s' : Store} {name : String} {columns : List (String × String)}
    (h : s.createTable name columns = .ok s') :
    Alteration s s'
  | createsView {s s' : Store} {name of : String} (h : s.createView name of = .ok s') : Alteration s s'
  | createsEndless {s s' : Store} {name : String} {columns : List Column}
    (hd : hasRepeatedName (columns.map (·.name)) = false)
      (h : s.createEndless name columns = .ok s') : Alteration s s'
  | insertsRows {s s' : Store} {now : Instant} {name : String} {rows : List (List (Option String))}
    (h : s.insertRows now name rows = .ok s') : Alteration s s'
  | deletesRows {s s' : Store} {name : String} (h : s.deleteRows name = .ok s') : Alteration s s'
  | dropsTable {s s' : Store} {name : String} (h : s.dropTable name = .ok s') : Alteration s s'
  | bootstraps {s s' : Store} (h : s.bootstrap = .ok s') : Alteration s s'
  | keepsBooks {s s' : Store} (h : s'.relations = s.relations) : Alteration s s'

lemma Proper.alter (hs : s.Proper) (h : Alteration s s') : s'.Proper := by
  cases h with
  | createsTable h => exact hs.createTable h
  | createsView h => exact hs.createView h
  | createsEndless hd h => exact hs.createEndless hd h
  | insertsRows h => exact hs.insertRows h
  | deletesRows h => exact hs.deleteRows h
  | dropsTable h => exact hs.dropTable h
  | bootstraps h => exact hs.bootstrap h
  | keepsBooks h => exact hs.of_relations h

theorem proper_of_alterations (h : Relation.ReflTransGen Alteration empty s) : s.Proper := by
  induction h with
  | refl => exact proper_empty
  | tail _ hlast ih => exact ih.alter hlast

/-- The rows are the first of those that violate the rule, no more than are asked for. -/
theorem answer_eq_take_violating {catalog : Catalog} {rule : Rule} {q : Query} {limit : ℕ}
    {answer : Database.Answer} (hs : Relation.ReflTransGen Alteration empty s)
    (hfound : ∀ table ∈ catalog.tables, ∃ r, s.find? table.name = some r ∧ r.columnNames = table.columns)
    (hu : Unquoted catalog) (hq : Query.compile catalog rule = .ok q)
    (h : s.answer q limit = .ok answer) :
    ∃ spec table relation, rule.spec = .ok spec ∧ catalog.table spec.target.table = .ok table ∧
      s.find? table.name = some relation ∧ relation.columnNames = table.columns ∧
      ((∃ rows, relation.stored s.find? s.relations.length = .ok (some rows) ∧
        answer = .rows (((rows.filter fun row => violates relation.columns row spec.condition).map
          (·.map Value.text?)).take limit)) ∨
      (relation.stored s.find? s.relations.length = .ok none ∧ answer = .endless)) := by
  have hd : Describes catalog s.find? := ⟨hfound, fun _ _ => (proper_of_alterations hs).find?⟩
  obtain ⟨spec, subject, p, hspec, hf, hv, rfl, _⟩ := Query.compile_eq_ok hq
  obtain ⟨htable, _⟩ := Query.Subject.find_eq_ok hf
  obtain ⟨hmem, hne⟩ := Catalog.mem_tables htable
  have hread := (Query.read_limited_iff subject p limit).mpr (quotable_of_unquoted hu hmem hv)
  rw [Store.answer, show (Query.ofText subject [p]).binds = p.binds from List.flatMap_singleton ..] at h
  have hlimit : Query.limitTemplate limit = Query.limitTokens (some limit) := rfl
  rw [hlimit] at hread
  obtain ⟨relation, hanswer⟩ := runQuery_eq_violating hd hmem hne hv hread h
  exact ⟨spec, subject.table, relation, hspec, htable, hanswer⟩

end Compliance.Store
