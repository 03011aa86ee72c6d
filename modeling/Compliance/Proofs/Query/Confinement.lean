import Compliance.Proofs.Query.Resolution

/-! What can reach the text of a query. The names of the catalog do: a text is read as the tokens of
its template exactly if all of them are quotable. What a rule is written with does not. -/

namespace Compliance.Query

open Result
open Rule (Condition)
open Sql (Token Piece)
open Sql.Identifier (Quotable)

def template (subject : Subject) (predicate : Predicate) : List Token :=
  Piece.tokens (layout subject.table [predicate])

def limitTemplate (rows : ℕ) : List Token := [.word "LIMIT", .number (toString rows)]

def namedColumns : Condition → List String → List String
  | .notNull _, columns => columns ++ columns
  | _, columns => columns

lemma mem_names {pieces : List Piece} {s : String} :
    s ∈ (Piece.tokens pieces).filterMap Token.name? ↔ Piece.name s ∈ pieces := by
  have ht : ∀ piece : Piece, (∃ t, piece.token? = some t ∧ t.name? = some s) ↔ piece = .name s :=
    fun piece => by
    rcases piece with _ | (_ | _ | _ | _ | _ | _) <;> simp [Piece.token?, Token.name?]
  simp only [Piece.tokens, List.filterMap_filterMap, List.mem_filterMap, Option.bind_eq_some_iff, ht,
    exists_eq_right]

lemma violation_columns {table : TableSchema} {condition : Condition} {predicate : Predicate}
    (h : violation table condition = .ok predicate) :
    ∃ columns, condition.columns.mapM table.column = .ok columns ∧
      predicate.columns = namedColumns condition columns := by
  cases condition with
  | threshold column operator value =>
    obtain ⟨c, hc, h⟩ := bind_eq_ok.mp h
    cases h
    exact ⟨[c], mapM_singleton_eq_ok.mpr ⟨c, hc, rfl⟩, rfl⟩
  | dateDifference start finish maxDays =>
    obtain ⟨a, ha, h⟩ := bind_eq_ok.mp h
    obtain ⟨b, hb, h⟩ := bind_eq_ok.mp h
    cases h
    exact ⟨[a, b], mapM_pair_eq_ok.mpr ⟨a, b, ha, hb, rfl⟩, rfl⟩
  | notNull column =>
    obtain ⟨c, hc, h⟩ := bind_eq_ok.mp h
    cases h
    exact ⟨[c], mapM_singleton_eq_ok.mpr ⟨c, hc, rfl⟩, rfl⟩
  | pattern column regex =>
    obtain ⟨c, hc, h⟩ := bind_eq_ok.mp h
    cases h
    exact ⟨[c], mapM_singleton_eq_ok.mpr ⟨c, hc, rfl⟩, rfl⟩

lemma mem_of_violation {table : TableSchema} {condition : Condition} {predicate : Predicate}
    (h : violation table condition = .ok predicate) : ∀ c ∈ predicate.columns, c ∈ table.columns := by
  obtain ⟨columns, hc, hp⟩ := violation_columns h
  intro c hm
  have hm : c ∈ columns := by
    rw [hp] at hm
    cases condition <;> simpa [namedColumns] using hm
  obtain ⟨name, _, hname⟩ := exists_of_mem_mapM hc hm
  exact (TableSchema.column_mem hname).1

lemma read_layout_iff (table : TableSchema) (predicates : List Predicate) :
    Token.read (textOf table predicates).toList = .ok (Piece.tokens (layout table predicates)) ↔
      ∀ name ∈ (Piece.tokens (layout table predicates)).filterMap Token.name?, Quotable name := by
  have hs : Piece.Stand 0 (layout table predicates ++ []) := stand_layout table predicates trivial rfl
  rw [List.append_nil] at hs
  rw [toList_textOf, Piece.read_writeAll_iff hs]
  simp only [mem_names]

lemma read_textOf_iff (subject : Subject) (predicate : Predicate) :
    Token.read (textOf subject.table [predicate]).toList = .ok (template subject predicate) ↔
      ∀ name ∈ (template subject predicate).filterMap Token.name?, Quotable name :=
  read_layout_iff subject.table [predicate]

lemma read_limited_iff (subject : Subject) (predicate : Predicate) (rows : ℕ) :
    Token.read ((ofText subject [predicate]).limited rows).toList =
      .ok (template subject predicate ++ limitTemplate rows) ↔
      ∀ name ∈ (template subject predicate).filterMap Token.name?, Quotable name := by
  have hs := stand_layout subject.table [predicate] (stand_limitLayout rows (bindCount [predicate])) rfl
  have ht : template subject predicate ++ limitTemplate rows =
      Piece.tokens (layout subject.table [predicate] ++ limitLayout rows) := by
    rw [Piece.tokens_append]
    rfl
  have hl : ∀ s, Piece.name s ∉ limitLayout rows := fun s => by simp [limitLayout]
  rw [toList_limited, ofText, toList_textOf, ← Piece.writeAll_append, ht,
    Piece.read_writeAll_iff hs, template]
  simp only [List.mem_append, hl, or_false, mem_names]

lemma quotable_template {subject : Subject} {condition : Condition} {predicate : Predicate}
    (h : violation subject.table condition = .ok predicate) :
    (∀ name ∈ (template subject predicate).filterMap Token.name?, Quotable name) ↔
      Quotable subject.table.name ∧ ∀ c ∈ subject.table.columns, Quotable c := by
  have hmem := mem_of_violation h
  rw [template, names_layout, List.flatMap_singleton]
  simp only [List.mem_append, List.mem_flatMap, List.mem_cons]
  grind

structure Templated (q : Query) (tokens : List Token) (columns : List String) : Prop where
  names : tokens.filterMap Token.name? = (q.columns.flatMap fun c => [c, c]) ++ q.table :: columns
  placeholders : tokens.countP Token.isPlaceholder = q.binds.length
  read_iff : Token.read q.sql.toList = .ok tokens ↔ Quotable q.table ∧ ∀ c ∈ q.columns, Quotable c
  read_limited_iff : ∀ rows, Token.read (q.limited rows).toList = .ok (tokens ++ limitTemplate rows) ↔
    Quotable q.table ∧ ∀ c ∈ q.columns, Quotable c

/-- The template of a query names every column of its table twice, then the table, then the columns
that its rule was found to mean, and has a placeholder for each of its literals. Its text is read as
the template exactly if the names of the table and of its columns are quotable. -/
theorem read_sql_iff_quotable {catalog : Catalog} {rule : Rule} {q : Query}
    (h : compile catalog rule = .ok q) :
    ∃ spec subject predicate columns, rule.spec = .ok spec ∧
      Subject.find catalog spec.target = .ok subject ∧
      subject.table ∈ catalog.tables ∧ violation subject.table spec.condition = .ok predicate ∧
      spec.condition.columns.mapM subject.table.column = .ok columns ∧
      q.table = subject.table.name ∧ q.columns = subject.table.columns ∧
      Templated q (template subject predicate) (namedColumns spec.condition columns) := by
  obtain ⟨spec, subject, predicate, hs, hf, hv, rfl, _⟩ := compile_eq_ok h
  obtain ⟨columns, hc, hp⟩ := violation_columns hv
  have hn : (template subject predicate).filterMap Token.name? =
      (subject.table.columns.flatMap fun c => [c, c]) ++
        subject.table.name :: namedColumns spec.condition columns := by
    rw [template, names_layout, List.flatMap_singleton, hp]
  refine ⟨spec, subject, predicate, columns, hs, hf,
    (Catalog.mem_tables (Subject.find_eq_ok hf).1).1, hv, hc, rfl, rfl, hn,
    placeholders_layout subject.table predicate [], ?_, fun rows => ?_⟩
  · exact (read_textOf_iff subject predicate).trans (quotable_template hv)
  · exact (read_limited_iff subject predicate rows).trans (quotable_template hv)

/-- The name of this table ends, for a reader, at the quote in it, and what comes after begins a
comment. -/
def commentCatalog : Catalog := ⟨[("t\\\" --", ⟨"t\\\" --", ["a"]⟩)]⟩

def commentRule : Rule := bareRule "not_null" [("table", .text "t\\\" --"), ("column", .text "a")]

def commentQuery : Query where
  sql :=
    "SELECT CAST(\"a\" AS VARCHAR) AS \"a\" FROM \"t\\\" --\" WHERE (\"a\" IS NULL OR CAST(\"a\" AS VARCHAR) = '')"
  binds := []
  table := "t\\\" --"
  columns := ["a"]
  primaryKey := "a"

lemma compile_commentRule : compile commentCatalog commentRule = .ok commentQuery := by decide +kernel

theorem read_commentQuery :
    Token.read commentQuery.sql.toList = .ok [.word "SELECT", .word "CAST", .symbol "(", .name "a",
      .word "AS", .word "VARCHAR", .symbol ")", .word "AS", .name "a", .word "FROM", .name "t\\"] ∧
      ∃ tokens columns, Templated commentQuery tokens columns ∧
        Token.read commentQuery.sql.toList ≠ .ok tokens := by
  obtain ⟨_, _, _, _, _, _, _, _, _, _, _, ht⟩ := read_sql_iff_quotable compile_commentRule
  refine ⟨by decide +kernel, _, _, ht, fun h => ?_⟩
  have hq : ¬ Quotable commentQuery.table := by decide +kernel
  exact hq (ht.read_iff.mp h).1

lemma violation_text_eq {table : TableSchema} {first second : Condition} {columns : List String}
    (hk : first.kind = second.kind) (ho : first.operator? = second.operator?)
    (h₁ : first.columns.mapM table.column = .ok columns)
    (h₂ : second.columns.mapM table.column = .ok columns) :
    ∃ p₁ p₂, violation table first = .ok p₁ ∧ violation table second = .ok p₂ ∧ p₁.text = p₂.text := by
  cases first with
  | threshold column operator value =>
    obtain ⟨column', operator', value', rfl⟩ : ∃ c o v, second = .threshold c o v := by
      cases second <;> simp_all [Condition.kind]
    obtain rfl : operator = operator' := by simpa [Condition.operator?] using ho
    obtain ⟨c, hc, rfl⟩ := mapM_singleton_eq_ok.mp h₁
    obtain ⟨_, hc', he⟩ := mapM_singleton_eq_ok.mp h₂
    cases he
    exact ⟨.compare c operator.invert value, .compare c operator.invert value', by
      rw [violation, hc]; rfl, by rw [violation, hc']; rfl, rfl⟩
  | dateDifference start finish maxDays =>
    obtain ⟨start', finish', maxDays', rfl⟩ : ∃ a b n, second = .dateDifference a b n := by
      cases second <;> simp_all [Condition.kind]
    obtain ⟨a, b, ha, hb, rfl⟩ := mapM_pair_eq_ok.mp h₁
    obtain ⟨_, _, ha', hb', he⟩ := mapM_pair_eq_ok.mp h₂
    cases he
    exact ⟨.daysExceed a b maxDays, .daysExceed a b maxDays', by rw [violation, ha, ok_bind, hb]; rfl,
      by rw [violation, ha', ok_bind, hb']; rfl, rfl⟩
  | notNull column =>
    obtain ⟨column', rfl⟩ : ∃ c, second = .notNull c := by cases second <;> simp_all [Condition.kind]
    obtain ⟨c, hc, rfl⟩ := mapM_singleton_eq_ok.mp h₁
    obtain ⟨_, hc', he⟩ := mapM_singleton_eq_ok.mp h₂
    cases he
    exact ⟨.blank c, .blank c, by rw [violation, hc]; rfl, by rw [violation, hc']; rfl, rfl⟩
  | pattern column regex =>
    obtain ⟨column', regex', rfl⟩ : ∃ c r, second = .pattern c r := by
      cases second <;> simp_all [Condition.kind]
    obtain ⟨c, hc, rfl⟩ := mapM_singleton_eq_ok.mp h₁
    obtain ⟨_, hc', he⟩ := mapM_singleton_eq_ok.mp h₂
    cases he
    exact ⟨.notMatching c regex, .notMatching c regex', by
      rw [violation, hc]; rfl, by rw [violation, hc']; rfl, rfl⟩

/-- Two rules of one kind that mean the same table, key and columns, and the same operator if they
have one, make queries that differ in nothing but their literals, or fail for the same fault of the
text. -/
theorem compile_eq_up_to_binds {catalog : Catalog} {first second : Rule} {spec₁ spec₂ : Rule.Spec}
    {subject : Subject} {columns : List String} (hs₁ : first.spec = .ok spec₁)
    (hs₂ : second.spec = .ok spec₂) (hk : spec₁.kind = spec₂.kind)
    (ho : spec₁.condition.operator? = spec₂.condition.operator?)
    (hf₁ : Subject.find catalog spec₁.target = .ok subject)
    (hf₂ : Subject.find catalog spec₂.target = .ok subject)
    (hc₁ : spec₁.condition.columns.mapM subject.table.column = .ok columns)
    (hc₂ : spec₂.condition.columns.mapM subject.table.column = .ok columns) :
    (∃ q binds, compile catalog first = .ok q ∧ compile catalog second = .ok { q with binds }) ∨
      ∃ fault, compile catalog first = .error (.malformedQuery fault) ∧
        compile catalog second = .error (.malformedQuery fault) := by
  obtain ⟨p₁, p₂, hv₁, hv₂, ht⟩ := violation_text_eq hk ho hc₁ hc₂
  have htext : textOf subject.table [p₂] = textOf subject.table [p₁] := by
    simp only [textOf, List.map_cons, List.map_nil, ht]
  rw [compile_eq hs₁ hf₁ hv₁, compile_eq hs₂ hf₂ hv₂, build_eq (by simp), build_eq (by simp), htext]
  cases hcheck : Sql.checkSelect (textOf subject.table [p₁]) with
  | ok _ =>
    refine .inl ⟨ofText subject [p₁], [p₂].flatMap Predicate.binds, rfl, ?_⟩
    rw [ofText, htext]
    rfl
  | error fault => exact .inr ⟨fault, rfl, rfl⟩

def peopleCatalog : Catalog := ⟨[("people", ⟨"People", ["Id", "Age"]⟩)]⟩

def ageRule : Rule :=
  bareRule "threshold" [("table", .text "people"), ("column", .text "Age"), ("operator", .text "="),
    ("value", .int 18)]

def spelledRule : Rule :=
  bareRule " Threshold" [("value", .text "' OR 1 = 1 --"), ("table", .text " PEOPLE"),
    ("column", .text "aGE\n"), ("operator", .text " == "), ("primary_key", .text "ID"),
    ("limit", .text "; DROP TABLE people")]

theorem compile_spelledRule :
    (∃ q binds, compile peopleCatalog ageRule = .ok q ∧
      compile peopleCatalog spelledRule = .ok { q with binds }) ∨
      ∃ fault, compile peopleCatalog ageRule = .error (.malformedQuery fault) ∧
        compile peopleCatalog spelledRule = .error (.malformedQuery fault) := by
  have hs₁ : ageRule.spec = .ok ⟨⟨"people", none⟩, .threshold "Age" .equal (.integer 18)⟩ := by
    decide +kernel
  have hs₂ : spelledRule.spec = .ok ⟨⟨"PEOPLE", some "ID"⟩,
    .threshold "aGE" .equal (.text "' OR 1 = 1 --")⟩ := by
    decide +kernel
  have hf₁ : Subject.find peopleCatalog ⟨"people", none⟩ =
    .ok ⟨⟨"People", ["Id", "Age"]⟩, "Id"⟩ := by decide +kernel
  have hf₂ : Subject.find peopleCatalog ⟨"PEOPLE", some "ID"⟩ =
    .ok ⟨⟨"People", ["Id", "Age"]⟩, "Id"⟩ := by
    decide +kernel
  have hc (name : String) (h : equalIgnoringCase "Age" name)
    (hid : equalIgnoringCase "Id" name = false) :
      [name].mapM (TableSchema.column ⟨"People", ["Id", "Age"]⟩) = .ok ["Age"] := by
    simp [TableSchema.column, TableSchema.column?, h, hid, pure, Except.pure]
  exact compile_eq_up_to_binds hs₁ hs₂ rfl rfl hf₁ hf₂ (hc "Age" (by decide +kernel) (by decide +kernel))
    (hc "aGE" (by decide +kernel) (by decide +kernel))

end Compliance.Query
