import Compliance.Proofs.Query.Building
import Compliance.Proofs.Store.Rows

/-! A row that is found is filed under its own record: the key that a rule names is a column of its
table, and the value of that column, in the very place where the query shows it, is the identity of
the record. -/

namespace Compliance

open ListFacts Result
open Violation (Candidate)

section
variable {columns : List String} {row : Row} {key : String} {i : ℕ}

lemma Row.lookup_zip (h : columns.findIdx? (· = key) = some i) :
    (columns.zip row).lookup key = row[i]? := by
  induction columns generalizing row i with
  | nil => simp at h
  | cons column columns ih =>
    cases row with
    | nil => simp
    | cons value row =>
      rw [List.zip_cons_cons, List.lookup_cons]
      rw [List.findIdx?_cons] at h
      by_cases hkey : column = key
      · subst hkey
        obtain rfl : 0 = i := by simpa using h
        simp
      · rw [if_neg (by simpa using hkey)] at h
        obtain ⟨j, hj, rfl⟩ := Option.map_eq_some_iff.mp h
        rw [beq_eq_false_iff_ne.mpr (Ne.symm hkey), List.getElem?_cons_succ]
        exact ih hj

lemma Row.keys_cells (hlength : row.length = columns.length) :
    ((columns.zip row).map fun cell => (cell.1, Json.ofText? cell.2)).map (·.1) = columns := by
  rw [List.map_map]
  exact List.map_fst_zip (by omega)

variable (hdistinct : columns.Nodup) (hlength : row.length = columns.length)
include hdistinct hlength

lemma Violation.lookup_evidenceOf {cell : String × Option String} (hcell : cell ∈ columns.zip row) :
    (evidenceOf columns row).lookup cell.1 = some (Json.ofText? cell.2) := by
  have hkeys := Row.keys_cells hlength
  rw [Store.evidenceOf_eq]
  exact lookup_foldl_insertKey_of_nodup (hkeys.symm ▸ hdistinct)
    (List.mem_map_of_mem (f := fun cell : String × Option String => (cell.1, Json.ofText? cell.2)) hcell)

lemma Violation.keys_evidenceOf : ((evidenceOf columns row).map (·.1)).Perm columns := by
  have hsorted : ((evidenceOf columns row).map (·.1)).Nodup :=
    (Store.isFlat_evidenceOf columns row).sorted.imp String.ne_of_lt
  apply (List.perm_ext_iff_of_nodup hsorted hdistinct).mpr
  intro column
  constructor
  · intro hcolumn
    obtain ⟨field, hfield, rfl⟩ := List.mem_map.mp hcolumn
    rw [Store.evidenceOf_eq] at hfield
    rcases mem_foldl_insertKey hfield with hfield | hnone
    · rw [← Row.keys_cells hlength]
      exact List.mem_map_of_mem hfield
    · simp at hnone
  · intro hcolumn
    rw [← Row.keys_cells hlength, List.map_map] at hcolumn
    obtain ⟨cell, hcell, rfl⟩ := List.mem_map.mp hcolumn
    obtain ⟨before, after, hfields, _⟩ :=
      List.lookup_eq_some_iff.mp (lookup_evidenceOf hdistinct hlength hcell)
    rw [hfields]
    simp

end

namespace Query

variable {catalog : Catalog} {target : Rule.Target} {subject : Subject} {query : Query}

lemma Subject.key_of_find (h : Subject.find catalog target = .ok subject) :
    (∀ key, target.primaryKey = some key → subject.table.column key = .ok subject.primaryKey) ∧
      (target.primaryKey = none → subject.table.columns.head? = some subject.primaryKey) := by
  obtain ⟨table, _, h⟩ := bind_eq_ok.mp h
  split at h
  next key columns hkey =>
    obtain ⟨column, hcolumn, h⟩ := bind_eq_ok.mp h
    obtain rfl := pure_eq_ok.mp h
    simp [hkey, hcolumn]
  next first rest hkey hcolumns =>
    obtain rfl := pure_eq_ok.mp h
    simp [hkey, hcolumns]
  next => cases h

lemma findIdx?_primaryKey (h : query.primaryKey ∈ query.columns) :
    query.columns.findIdx? (· = query.primaryKey) = some query.keyIndex := by
  have hfound : (query.columns.findIdx? (· = query.primaryKey)).isSome := by
    simpa [List.findIdx?_isSome] using h
  obtain ⟨i, hi⟩ := Option.isSome_iff_exists.mp hfound
  rw [keyIndex, hi, Option.getD_some]

lemma getElem?_keyIndex (h : query.primaryKey ∈ query.columns) :
    query.columns[query.keyIndex]? = some query.primaryKey := by
  obtain ⟨hlt, hkey, _⟩ := List.findIdx?_eq_some_iff_getElem.mp (findIdx?_primaryKey h)
  rw [List.getElem?_eq_getElem hlt]
  simpa using hkey

end Query

namespace Violation

structure Candidate.IsFor (rule : Rule) (query : Query) (row : Row) (c : Candidate) : Prop where
  ruleId_eq : c.ruleId = rule.id
  table_eq : c.table = query.table
  keyed : ∃ value, (query.columns.zip row).lookup query.primaryKey = some value ∧
    c.recordId = value.getD nullRecordId ∧
    (query.columns.Nodup → c.evidence.lookup query.primaryKey = some (Json.ofText? value))
  evidence_keys : query.columns.Nodup → (c.evidence.map (·.1)).Perm query.columns
  evidence : query.columns.Nodup → ∀ cell ∈ query.columns.zip row,
    c.evidence.lookup cell.1 = some (Json.ofText? cell.2)

lemma Candidate.isFor_ofRow {rule : Rule} {query : Query} {row : Row}
    (hkey : query.primaryKey ∈ query.columns) (hlength : row.length = query.columns.length) :
    (Candidate.ofRow rule query row).IsFor rule query row := by
  have hfound := Query.findIdx?_primaryKey hkey
  obtain ⟨hlt, _, _⟩ := List.findIdx?_eq_some_iff_getElem.mp hfound
  have hvalue : row[query.keyIndex]? = some row[query.keyIndex] := List.getElem?_eq_getElem (by omega)
  have hlookup := (Row.lookup_zip hfound).trans hvalue
  refine ⟨rfl, rfl, ⟨_, hlookup, ?_, fun hdistinct => ?_⟩, fun hdistinct =>
    keys_evidenceOf hdistinct hlength,
    fun hdistinct cell hcell => lookup_evidenceOf hdistinct hlength hcell⟩
  · rw [Candidate.ofRow, hvalue]
    rfl
  · obtain ⟨before, after, hcells, _⟩ := List.lookup_eq_some_iff.mp hlookup
    have hcell : (query.primaryKey, row[query.keyIndex]) ∈ query.columns.zip row := by
      rw [hcells]
      simp
    exact lookup_evidenceOf hdistinct hlength hcell

/-- A query that a rule compiles to shows the columns of its table in their order. Its key is one of
them, the one that the rule names or else the first, and is found in its own place, never for want
of another. Every row is filed as one candidate under its value of the key. -/
theorem identified_by_key {catalog : Catalog} {rule : Rule} {query : Query}
    (h : Query.compile catalog rule = .ok query) :
    (∃ spec table, rule.spec = .ok spec ∧ catalog.table spec.target.table = .ok table ∧
      query.table = table.name ∧
      query.columns = table.columns ∧
        (∀ key, spec.target.primaryKey = some key → table.column key = .ok query.primaryKey) ∧
      (spec.target.primaryKey = none → table.columns.head? = some query.primaryKey)) ∧
    query.primaryKey ∈ query.columns ∧
    query.columns.findIdx? (· = query.primaryKey) = some query.keyIndex ∧
    query.columns[query.keyIndex]? = some query.primaryKey ∧
    ∀ rows : List Row, (∀ row ∈ rows, row.length = query.columns.length) →
      List.Forall₂ (fun row c => Candidate.IsFor rule query row c) rows
        (Candidate.ofRows rule query rows) := by
  obtain ⟨spec, subject, predicate, hspec, hfind, _, rfl, _⟩ := Query.compile_eq_ok h
  obtain ⟨htable, hkey⟩ := Query.Subject.find_eq_ok hfind
  obtain ⟨hnamed, hfirst⟩ := Query.Subject.key_of_find hfind
  refine ⟨⟨spec, subject.table, hspec, htable, rfl, rfl, hnamed, hfirst⟩, hkey,
    Query.findIdx?_primaryKey hkey, Query.getElem?_keyIndex hkey, fun rows hrows => ?_⟩
  rw [Candidate.ofRows, List.forall₂_map_right_iff, List.forall₂_same]
  exact fun row hrow => Candidate.isFor_ofRow hkey (hrows row hrow)

/-! A key that is spelled in another case than the column, which is not the first -/

def agelessRule : Rule := Query.bareRule "not_null"
  [("column", .text "AGE"), ("primary_key", .text " id "), ("table", .text "People")]

def peopleTable : TableSchema := ⟨"people", ["name", "ID", "age"]⟩

lemma compile_agelessRule : Query.compile ⟨[("people", peopleTable)]⟩ agelessRule =
    .ok (Query.ofText ⟨peopleTable, "ID"⟩ [.blank "age"]) := by
  have hspec : agelessRule.spec = .ok ⟨⟨"People", some "id"⟩, .notNull "AGE"⟩ := by decide +kernel
  have hfind : Query.Subject.find ⟨[("people", peopleTable)]⟩ ⟨"People", some "id"⟩ =
    .ok ⟨peopleTable, "ID"⟩ := by decide +kernel
  have hviolation : Query.violation peopleTable (.notNull "AGE") = .ok (.blank "age") := by
    decide +kernel
  have hunquoted : peopleTable.IsUnquoted := by
    unfold TableSchema.IsUnquoted
    decide +kernel
  rw [Query.compile_eq hspec hfind hviolation]
  exact Query.build_eq_ok hunquoted (by decide)
    (by simpa using Query.isUnquoted_violation hunquoted hviolation)

theorem identified_by_key_agelessRule :
    ∃ query first second, Query.compile ⟨[("people", peopleTable)]⟩ agelessRule = .ok query ∧
      query.columns.Nodup ∧
      Candidate.ofRows agelessRule query [[some "7", some "12", none],
        [some "Ann", none, some ""]] = [first, second] ∧
      first.recordId = "12" ∧ second.recordId = "<null>" ∧
      first.evidence.lookup "ID" = some (.text "12") ∧ second.evidence.lookup "ID" = some .null := by
  obtain ⟨_, _, _, _, hrows⟩ := identified_by_key compile_agelessRule
  have hfiled :=
    hrows [[some "7", some "12", none], [some "Ann", none, some ""]]
      (by simp [Query.ofText, peopleTable])
  obtain ⟨first, others, hfirst, hothers, hcandidates⟩ := List.forall₂_cons_left_iff.mp hfiled
  obtain ⟨second, rest, hsecond, hrest, rfl⟩ := List.forall₂_cons_left_iff.mp hothers
  rw [List.forall₂_nil_left_iff.mp hrest] at hcandidates
  refine ⟨_, first, second, compile_agelessRule, by decide, hcandidates, ?_⟩
  obtain ⟨v, hv, hid, hevidence⟩ := hfirst.keyed
  obtain ⟨w, hw, hid', hevidence'⟩ := hsecond.keyed
  obtain rfl : some "12" = v := Option.some.inj hv
  obtain rfl : none = w := Option.some.inj hw
  exact ⟨hid, hid', hevidence (by decide), hevidence' (by decide)⟩

end Violation

end Compliance
