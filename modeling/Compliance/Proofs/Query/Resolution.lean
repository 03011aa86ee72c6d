import Compliance.Proofs.Query.Layout
import Compliance.Proofs.Result
import Compliance.Query.Basic

/-! What a query takes from the catalog. -/

namespace Compliance

namespace Rule.Condition

def columns : Condition → List String
  | threshold column _ _ | notNull column | pattern column _ => [column]
  | dateDifference start finish _ => [start, finish]

def operator? : Condition → Option Operator
  | threshold _ operator _ => some operator
  | _ => none

end Rule.Condition

open Result
open Rule (CompileError)

lemma Catalog.mem_tables {catalog : Catalog} {name : String} {table : TableSchema}
    (h : catalog.table name = .ok table) :
    table ∈ catalog.tables ∧ table.columns ≠ [] := by
  unfold Catalog.table Catalog.table? at h
  split at h
  next found hf =>
    cases h
    obtain ⟨hl, hc⟩ := Option.filter_eq_some_iff.mp hf
    obtain ⟨before, after, he, _⟩ := List.lookup_eq_some_iff.mp hl
    refine ⟨?_, of_decide_eq_true hc⟩
    rw [tables, he]
    simp
  next => cases h

lemma equalIgnoringCase_iff {a b : String} : equalIgnoringCase a b ↔ asciiLower a = asciiLower b :=
  decide_eq_true_iff

lemma TableSchema.column_mem {table : TableSchema} {name column : String}
    (h : table.column name = .ok column) :
    column ∈ table.columns ∧ equalIgnoringCase column name := by
  unfold TableSchema.column column? at h
  split at h
  next found hf =>
    cases h
    exact ⟨List.mem_of_find?_eq_some hf, by simpa using List.find?_some hf⟩
  next => cases h

namespace Query

lemma Subject.find_eq_ok {catalog : Catalog} {target : Rule.Target} {subject : Subject}
    (h : Subject.find catalog target = .ok subject) :
    catalog.table target.table = .ok subject.table ∧ subject.primaryKey ∈ subject.table.columns := by
  obtain ⟨table, ht, h⟩ := bind_eq_ok.mp h
  split at h
  next key columns hk =>
    obtain ⟨column, hc, h⟩ := bind_eq_ok.mp h
    cases h
    exact ⟨ht, (TableSchema.column_mem hc).1⟩
  next first rest hk hc =>
    cases h
    exact ⟨ht, by simp [hc]⟩
  next => cases h

def ofText (subject : Subject) (predicates : List Predicate) : Query :=
  ⟨textOf subject.table predicates, predicates.flatMap Predicate.binds, subject.table.name,
    subject.table.columns, subject.primaryKey⟩

lemma build_eq {subject : Subject} {predicates : List Predicate} (hp : predicates ≠ []) :
    build subject predicates =
      ((Sql.checkSelect (textOf subject.table predicates)).mapError .malformedQuery).map fun _ =>
        ofText subject predicates := by
  unfold build
  rw [if_neg hp]
  change ((Sql.checkSelect (textOf subject.table predicates)).mapError
    CompileError.malformedQuery >>= fun _ =>
    Except.ok (ofText subject predicates)) = _
  cases Sql.checkSelect (textOf subject.table predicates) <;> rfl

lemma compile_eq {catalog : Catalog} {rule : Rule} {spec : Rule.Spec} {subject : Subject}
    {predicate : Predicate} (hs : rule.spec = .ok spec)
    (hf : Subject.find catalog spec.target = .ok subject)
    (hv : violation subject.table spec.condition = .ok predicate) :
    compile catalog rule = build subject [predicate] := by
  rw [compile, hs, ok_bind, ofSpec, hf, ok_bind, hv, ok_bind]

lemma compile_eq_ok {catalog : Catalog} {rule : Rule} {q : Query} (h : compile catalog rule = .ok q) :
    ∃ spec subject predicate, rule.spec = .ok spec ∧ Subject.find catalog spec.target = .ok subject ∧
      violation subject.table spec.condition = .ok predicate ∧ q = ofText subject [predicate] ∧
      Sql.checkSelect q.sql = .ok () := by
  obtain ⟨spec, hs, h⟩ := bind_eq_ok.mp h
  obtain ⟨subject, hf, h⟩ := bind_eq_ok.mp h
  obtain ⟨predicate, hv, h⟩ := bind_eq_ok.mp h
  rw [build_eq (by simp)] at h
  obtain ⟨_, hc, rfl⟩ := map_eq_ok.mp h
  exact ⟨spec, subject, predicate, hs, hf, hv, rfl, mapError_eq_ok.mp hc⟩

def bareRule (kind : String) (fields : List (String × Json)) : Rule where
  id := "r"
  name := "r"
  kind := kind
  description := ""
  parameters := .object fields
  confidence := .zero
  status := .active
  createdAt := default
  source := none

end Query

end Compliance
