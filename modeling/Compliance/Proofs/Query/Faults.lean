import Compliance.Proofs.Catalog

/-! Why a rule whose parameters fit its kind gives no query: a name is not found, or the finished
text is refused. -/

namespace Compliance

open Result

variable {catalog : Catalog} {table : TableSchema} {name : String} {rule : Rule} {spec : Rule.Spec}
  {error : Rule.CompileError}

def TableSchema.Has (table : TableSchema) (name : String) : Prop :=
  ∃ column ∈ table.columns, equalIgnoringCase column name

lemma TableSchema.column_eq_error :
    table.column name = .error error ↔
      ¬ table.Has name ∧ error = .unknownIdentifier (table.name ++ "." ++ name) := by
  rw [column, column?, Has, ← List.find?_isSome]
  cases table.columns.find? (equalIgnoringCase · name) <;> simp [eq_comm]

lemma Catalog.table_eq_error : catalog.table name = .error error ↔
    (∀ table, catalog.entries.lookup (Text.lowercase name) = some table → table.columns = []) ∧
      error = .unknownIdentifier name := by
  have hfound : (∀ table, catalog.entries.lookup (Text.lowercase name) = some table →
    table.columns = []) ↔ ∀ table, catalog.table name ≠ .ok table := by
    simp only [ne_eq, table_eq_ok, not_and, not_not]
  rw [hfound, Catalog.table]
  cases catalog.table? name <;> simp [eq_comm]

namespace Query

lemma of_column_eq_error (h : table.column name = .error error) : ∃ name,
    error = .unknownIdentifier name :=
  ⟨_, (TableSchema.column_eq_error.mp h).2⟩

lemma of_find_eq_error {target : Rule.Target} (h : Subject.find catalog target = .error error) :
    ∃ name, error = .unknownIdentifier name := by
  rw [Subject.find, bind_eq_error] at h
  rcases h with h | ⟨table, _, h⟩
  · exact ⟨_, (Catalog.table_eq_error.mp h).2⟩
  · split at h
    · rcases bind_eq_error.mp h with h | ⟨_, _, h⟩
      · exact of_column_eq_error h
      · cases h
    · cases h
    · exact ⟨_, (Except.error.inj h).symm⟩

lemma of_violation_eq_error {condition : Rule.Condition} (h : violation table condition = .error error) :
    ∃ name, error = .unknownIdentifier name := by
  cases condition with
  | dateDifference start finish maxDays =>
    rcases bind_eq_error.mp h with h | ⟨_, _, h⟩
    · exact of_column_eq_error h
    rcases bind_eq_error.mp h with h | ⟨_, _, h⟩
    · exact of_column_eq_error h
    · cases h
  | threshold | notNull | pattern =>
    rcases bind_eq_error.mp h with h | ⟨_, _, h⟩
    · exact of_column_eq_error h
    · cases h

lemma of_build_eq_error {subject : Subject} {predicates : List Predicate}
    (h : build subject predicates = .error error) :
    ∃ fault, error = .malformedQuery fault := by
  rw [build] at h
  split_ifs at h with hnone
  · exact ⟨_, (Except.error.inj h).symm⟩
  · rcases bind_eq_error.mp h with h | ⟨_, _, h⟩
    · cases hcheck : Sql.checkSelect (textOf subject.table predicates) with
      | ok _ =>
        rw [hcheck] at h
        cases h
      | error fault =>
        rw [hcheck] at h
        exact ⟨fault, (Except.error.inj h).symm⟩
    · cases h

lemma of_compile_eq_error (hspec : rule.spec = .ok spec) (h : compile catalog rule = .error error) :
    (∃ name, error = .unknownIdentifier name) ∨ ∃ fault, error = .malformedQuery fault := by
  rw [compile, hspec, ok_bind, ofSpec, bind_eq_error] at h
  rcases h with h | ⟨subject, _, h⟩
  · exact .inl (of_find_eq_error h)
  rcases bind_eq_error.mp h with h | ⟨predicate, _, h⟩
  · exact .inl (of_violation_eq_error h)
  · exact .inr (of_build_eq_error h)

end Query

end Compliance
