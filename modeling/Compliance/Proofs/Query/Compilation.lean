import Compliance.Proofs.Query.Building
import Compliance.Proofs.Query.Faults

/-! When a rule gives a query: its parameters fit its kind, and its table and its columns are found.
The check of the finished text finds nothing more if the names have no quotes in them, whatever else
is in them. -/

namespace Compliance

open Result
open Rule (CompileError)

variable {catalog : Catalog} {table : TableSchema} {name : String} {error : CompileError}

def TableSchema.check (table : TableSchema) (name : String) : Except CompileError Unit :=
  (table.column name).map fun _ => ()

lemma TableSchema.check_eq_error :
    table.check name = .error error ↔
      ¬ table.Has name ∧ error = .unknownIdentifier (table.name ++ "." ++ name) := by
  rw [check, map_eq_error, column_eq_error]

lemma TableSchema.check_eq_ok : table.check name = .ok () ↔ table.Has name := by
  rw [check, column, column?, Has, ← List.find?_isSome]
  cases table.columns.find? (equalIgnoringCase · name) <;> simp [Except.map]

namespace Query

variable {rule : Rule} {spec : Rule.Spec} {target : Rule.Target} {subject : Subject}

def columnNames (spec : Rule.Spec) : List String :=
  spec.target.primaryKey.toList ++ spec.condition.columns

inductive Unknown (catalog : Catalog) (spec : Rule.Spec) : String → Prop
  | table : (∀ table, catalog.entries.lookup (Text.lowercase spec.target.table) = some table →
    table.columns = []) →
      Unknown catalog spec spec.target.table
  | column {table : TableSchema} {before after : List String} {name : String} :
      catalog.entries.lookup (Text.lowercase spec.target.table) = some table → table.columns ≠ [] →
      columnNames spec = before ++ name :: after → (∀ earlier ∈ before, table.Has earlier) →
        ¬ table.Has name →
      Unknown catalog spec (table.name ++ "." ++ name)

lemma map_find (htable : catalog.table target.table = .ok table) :
    (Subject.find catalog target).map Subject.table =
      (target.primaryKey.toList.forM table.check).map fun _ => table := by
  rw [Subject.find, htable, ok_bind]
  cases hkey : target.primaryKey with
  | some key =>
    rw [Option.toList_some, forM_cons, TableSchema.check]
    change (table.column key >>= fun column => Except.ok (Subject.mk table column)).map Subject.table = _
    cases table.column key <;> rfl
  | none =>
    obtain ⟨first, rest, hcolumns⟩ := List.exists_cons_of_ne_nil (Catalog.table_eq_ok.mp htable).2
    rw [hcolumns]
    rfl

lemma map_violation (table : TableSchema) (condition : Rule.Condition) :
    ((violation table condition).map fun _ => ()) = condition.columns.forM table.check := by
  cases condition with
  | threshold | notNull | pattern => exact map_bind_unit fun _ => rfl
  | dateDifference => exact map_bind_unit fun _ => map_bind_unit fun _ => rfl

lemma map_ofSpec (ht : table.IsUnquoted) (htable : catalog.table spec.target.table = .ok table) :
    ((ofSpec catalog spec).map fun _ => ()) = (columnNames spec).forM table.check := by
  have hfind := map_find htable
  rw [ofSpec, columnNames, forM_append]
  cases hsubject : Subject.find catalog spec.target with
  | error fault =>
    rw [hsubject] at hfind
    rw [map_eq_error.mp hfind.symm]
    rfl
  | ok subject =>
    rw [hsubject] at hfind
    obtain ⟨_, hkey, htable'⟩ := map_eq_ok.mp hfind.symm
    have hcolumns : subject.table.columns ≠ [] := htable' ▸ (Catalog.table_eq_ok.mp htable).2
    rw [hkey, ok_bind, ok_bind, ← map_violation, htable']
    -- what names columns of the table has no quotes in it either, so the text that is built is not
    -- refused
    cases hviolation : violation subject.table spec.condition with
    | error fault => rfl
    | ok predicate =>
      rw [htable'] at ht
      rw [ok_bind, build_eq_ok ht hcolumns (by simpa using isUnquoted_violation ht hviolation)]
      rfl

lemma ofSpec_eq_error (hu : ∀ table ∈ catalog.tables, table.IsUnquoted) :
    ofSpec catalog spec = .error error ↔
      ∃ name, Unknown catalog spec name ∧ error = .unknownIdentifier name := by
  cases htable : catalog.table spec.target.table with
  | error fault =>
    obtain ⟨hnone, rfl⟩ := Catalog.table_eq_error.mp htable
    have hspec : ofSpec catalog spec = .error (.unknownIdentifier spec.target.table) := by
      rw [ofSpec, Subject.find, htable]
      rfl
    rw [hspec]
    constructor
    · intro h
      exact ⟨_, .table hnone, (Except.error.inj h).symm⟩
    · rintro ⟨_, hunknown, rfl⟩
      cases hunknown with
      | table => rfl
      | column hlookup hcolumns => exact absurd (hnone _ hlookup) hcolumns
  | ok table =>
    obtain ⟨hlookup, hcolumns⟩ := Catalog.table_eq_ok.mp htable
    have ht : table.IsUnquoted := hu table (Catalog.mem_tables htable).1
    rw [← map_eq_error (f := fun _ => ()), map_ofSpec ht htable, forM_eq_error]
    simp only [TableSchema.check_eq_ok, TableSchema.check_eq_error]
    constructor
    · rintro ⟨before, name, after, hnames, hbefore, hname, rfl⟩
      exact ⟨_, .column hlookup hcolumns hnames hbefore hname, rfl⟩
    · rintro ⟨_, hunknown, rfl⟩
      cases hunknown with
      | table hnone => exact absurd (hnone table hlookup) hcolumns
      | column hlookup' _ hnames hbefore hname =>
        obtain rfl := Option.some.inj (hlookup'.symm.trans hlookup)
        exact ⟨_, _, _, hnames, hbefore, hname, rfl⟩

lemma compile_eq_error (hu : ∀ table ∈ catalog.tables, table.IsUnquoted) :
    compile catalog rule = .error error ↔ rule.spec = .error error ∨
      ∃ spec name, rule.spec = .ok spec ∧ Unknown catalog spec name ∧
        error = .unknownIdentifier name := by
  rw [compile, bind_eq_error]
  simp only [ofSpec_eq_error hu, exists_and_left]

lemma exists_compile_iff (hu : ∀ table ∈ catalog.tables, table.IsUnquoted) :
    (∃ q, compile catalog rule = .ok q) ↔
      ∃ spec, rule.spec = .ok spec ∧ ∀ name, ¬ Unknown catalog spec name := by
  constructor
  · rintro ⟨q, hq⟩
    obtain ⟨spec, hspec, _⟩ := bind_eq_ok.mp hq
    refine ⟨spec, hspec, fun name hunknown => ?_⟩
    rw [(compile_eq_error hu).mpr (.inr ⟨spec, name, hspec, hunknown, rfl⟩)] at hq
    cases hq
  · rintro ⟨spec, hspec, hknown⟩
    cases hcompile : compile catalog rule with
    | ok q => exact ⟨q, rfl⟩
    | error error =>
      rcases (compile_eq_error hu).mp hcompile with hfault | ⟨spec', name, hspec', hunknown, _⟩
      · cases hspec.symm.trans hfault
      · obtain rfl := Except.ok.inj (hspec.symm.trans hspec')
        exact absurd hunknown (hknown name)

/-- With names that have no double quote in them, a rule compiles exactly if its parameters fit its
kind and its names are all found. If it does not, the error is that of the parameters, or is for the
first name that leads nowhere: that of the table, then of the key if there is one, then of the
columns. The check of the finished text accepts every text that is built, of whatever columns and
conditions. -/
theorem compile_eq_error_iff (hu : ∀ table ∈ catalog.tables, table.IsUnquoted) (rule : Rule) :
    (∀ error, compile catalog rule = .error error ↔ rule.spec = .error error ∨
      ∃ spec name, rule.spec = .ok spec ∧ Unknown catalog spec name ∧ error = .unknownIdentifier name) ∧
    ((∃ q, compile catalog rule = .ok q) ↔
      ∃ spec, rule.spec = .ok spec ∧ ∀ name, ¬ Unknown catalog spec name) ∧
    ∀ (table : TableSchema) (predicates : List Predicate), table.IsUnquoted → table.columns ≠ [] →
      predicates ≠ [] →
      (∀ p ∈ predicates, p.IsUnquoted) → Sql.checkSelect (textOf table predicates) = .ok () := by
  refine ⟨fun error => compile_eq_error hu, exists_compile_iff hu,
    fun table predicates ht hcolumns hne hp => ?_⟩
  obtain ⟨p, ps, rfl⟩ := List.exists_cons_of_ne_nil hne
  exact checkSelect_textOf ht hp hcolumns

/-! Names that would end a statement, begin a comment or stand for a literal, if they were not names -/

def awkwardTable : TableSchema :=
  ⟨"select * from t; --", ["", "?", "it's", "a\\", "two\nlines", "WHERE", "/* c */"]⟩

def awkwardCatalog : Catalog := ⟨[("select * from t; --", awkwardTable)]⟩

def awkwardRule (start finish : String) : Rule :=
  bareRule "date_difference" [("table", .text "SELECT * from T; --"), ("primary_key", .text "?"),
    ("date_col_1", .text start), ("date_col_2", .text finish), ("max_days", .int 3)]

def awkwardSpec (start finish : String) : Rule.Spec :=
  ⟨⟨"SELECT * from T; --", some "?"⟩, .dateDifference start finish 3⟩

lemma isUnquoted_awkwardTable : awkwardTable.IsUnquoted := by
  unfold TableSchema.IsUnquoted
  decide +kernel

lemma exists_compile_awkwardRule : ∃ q, compile awkwardCatalog (awkwardRule "IT'S" "a\\") = .ok q := by
  have hfind : Subject.find awkwardCatalog ⟨"SELECT * from T; --", some "?"⟩ =
    .ok ⟨awkwardTable, "?"⟩ := by decide +kernel
  have hviolation : violation awkwardTable (.dateDifference "IT'S" "a\\" 3) =
    .ok (.daysExceed "it's" "a\\" 3) := by
    decide +kernel
  have hspec : (awkwardRule "IT'S" "a\\").spec = .ok (awkwardSpec "IT'S" "a\\") := by decide +kernel
  rw [compile_eq hspec hfind hviolation, build_eq_ok isUnquoted_awkwardTable (by decide)
    (by simpa using isUnquoted_violation isUnquoted_awkwardTable hviolation)]
  exact ⟨_, rfl⟩

theorem compile_awkwardRule :
    (∀ table ∈ awkwardCatalog.tables, table.IsUnquoted) ∧
      (∃ spec, (awkwardRule "IT'S" "a\\").spec = .ok spec ∧ ∀ name, ¬ Unknown awkwardCatalog spec name) ∧
      compile awkwardCatalog (awkwardRule "b" "c") =
        .error (.unknownIdentifier "select * from t; --.b") ∧
      Sql.checkSelect (textOf awkwardTable [.blank "two\nlines",
        .compare "?" .less (.text "'; --")]) = .ok () := by
  have hu : ∀ table ∈ awkwardCatalog.tables, table.IsUnquoted := by
    simpa [awkwardCatalog, Catalog.tables] using isUnquoted_awkwardTable
  obtain ⟨herror, _, _⟩ := compile_eq_error_iff hu (awkwardRule "b" "c")
  obtain ⟨_, hcompiles, hcheck⟩ := compile_eq_error_iff hu (awkwardRule "IT'S" "a\\")
  refine ⟨hu, hcompiles.mp exists_compile_awkwardRule, ?_, ?_⟩
  · have hspec : (awkwardRule "b" "c").spec = .ok (awkwardSpec "b" "c") := by decide +kernel
    have hlookup : awkwardCatalog.entries.lookup
      (Text.lowercase (awkwardSpec "b" "c").target.table) = some awkwardTable := by
      decide +kernel
    have hnames : columnNames (awkwardSpec "b" "c") = ["?"] ++ "b" :: ["c"] := rfl
    have hearlier : ∀ earlier ∈ ["?"], awkwardTable.Has earlier := by
      simpa using ⟨"?", by decide, by decide⟩
    have hmissing : ¬ awkwardTable.Has "b" := by
      unfold TableSchema.Has
      decide +kernel
    have hname : awkwardTable.name ++ "." ++ "b" = "select * from t; --.b" := by decide +kernel
    have hunknown := Unknown.column hlookup (by decide) hnames hearlier hmissing
    rw [hname] at hunknown
    exact (herror _).mpr (.inr ⟨_, _, hspec, hunknown, rfl⟩)
  · apply hcheck awkwardTable _ isUnquoted_awkwardTable (by decide) (by simp)
    unfold Predicate.IsUnquoted
    decide +kernel

end Query

end Compliance
