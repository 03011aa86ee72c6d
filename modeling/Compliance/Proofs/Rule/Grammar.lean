import Compliance.Proofs.Rule.Parameters

/-! Which rules are read: the grammar of their parameters kind by kind. What does not fit it is
refused for the first key that is at fault. -/

namespace Compliance.Rule

open Result

def targetKeys : List (String × Form) := [("table", .text), ("primary_key", .optionalText)]

namespace Kind

def ownKeys : Kind → List (String × Form)
  | threshold => [("operator", .operator), ("column", .text), ("value", .literal)]
  | dateDifference => [("date_col_1", .text), ("date_col_2", .text), ("max_days", .days)]
  | notNull => [("column", .text)]
  | pattern => [("column", .text), ("regex_pattern", .pattern)]

def keys (kind : Kind) : List (String × Form) := targetKeys ++ kind.ownKeys

end Kind

def Names (text : String) (kind : Kind) : Prop := Text.lowercase (Text.trim text) = kind.name

def Admits (params : Parameters) (field : String × Form) : Prop := field.2.Admits (params.lookup field.1)

def IsRead (text : String) (parameters : Json) : Prop :=
  ∃ kind params, Names text kind ∧ parameters = .object params ∧ ∀ field ∈ kind.keys, Admits params field

def Condition.Stands (params : Parameters) : Condition → Prop
  | .threshold column operator value =>
    IsOperator (params.lookup "operator") operator ∧ IsText (params.lookup "column") column ∧
      IsLiteral (params.lookup "value") value
  | .dateDifference start finish maxDays =>
    IsText (params.lookup "date_col_1") start ∧ IsText (params.lookup "date_col_2") finish ∧
      IsWhole (params.lookup "max_days") maxDays
  | .notNull column => IsText (params.lookup "column") column
  | .pattern column regex =>
    IsText (params.lookup "column") column ∧ IsPattern (params.lookup "regex_pattern") regex

def Spec.Stands (spec : Spec) (text : String) (parameters : Json) : Prop :=
  Names text spec.kind ∧ ∃ params, parameters = .object params ∧
    IsText (params.lookup "table") spec.target.table ∧
    IsOptionalText (params.lookup "primary_key") spec.target.primaryKey ∧ spec.condition.Stands params

inductive Refused (text : String) (parameters : Json) : CompileError → Prop
  | kind : (∀ kind, ¬ Names text kind) → Refused text parameters (.unsupportedKind text)
  | notObject {kind : Kind} : Names text kind → (∀ params, parameters ≠ .object params) →
      Refused text parameters (.invalidParameter "parameters" (.wrongKind "an object" parameters.kind))
  | key {kind : Kind} {params : Parameters} {before after : List (String × Form)}
    {field : String × Form} {error : CompileError} :
      Names text kind → parameters = .object params → kind.keys = before ++ field :: after →
      (∀ earlier ∈ before, Admits params earlier) →
        field.2.Refuses field.1 (params.lookup field.1) error →
      Refused text parameters error

section
variable {text : String} {kind : Kind} {parameters : Json} {params : Parameters} {spec : Spec}
  {error : CompileError}

lemma ofName?_eq_some_iff : Kind.ofName? text = some kind ↔ Names text kind := by
  rw [Kind.ofName?, Names]
  generalize Text.lowercase (Text.trim text) = name
  constructor
  · intro h
    obtain ⟨before, after, hall, _⟩ := List.lookup_eq_some_iff.mp h
    have hmem : (name, kind) ∈ Kind.all.map fun kind => (kind.name, kind) := by simp [hall]
    obtain ⟨_, _, heq⟩ := List.mem_map.mp hmem
    cases heq
    rfl
  · rintro rfl
    cases kind <;> decide

lemma Kind.read_eq_ok : Kind.read text = .ok kind ↔ Names text kind := by
  rw [← ofName?_eq_some_iff, Kind.read]
  cases Kind.ofName? text <;> simp

lemma Kind.read_eq_error : Kind.read text = .error error ↔
    (∀ kind, ¬ Names text kind) ∧ error = .unsupportedKind text := by
  simp only [← ofName?_eq_some_iff, Kind.read, ← Option.eq_none_iff_forall_ne_some]
  cases Kind.ofName? text <;> simp [eq_comm]

namespace Parameters

def checkAll (params : Parameters) (fields : List (String × Form)) : Except CompileError Unit :=
  fields.forM fun field => params.check field.1 field.2

lemma map_target (params : Parameters) : (params.target.map fun _ => ()) = params.checkAll targetKeys :=
  map_bind_unit fun _ => map_bind_unit fun _ => rfl

lemma map_condition (params : Parameters) (kind : Kind) :
    ((params.condition kind).map fun _ => ()) = params.checkAll kind.ownKeys := by
  cases kind with
  | threshold | dateDifference =>
    exact map_bind_unit fun _ => map_bind_unit fun _ => map_bind_unit fun _ => rfl
  | notNull => exact map_bind_unit fun _ => rfl
  | pattern => exact map_bind_unit fun _ => map_bind_unit fun _ => rfl

end Parameters

lemma map_read (hkind : Names text kind) :
    ((Spec.read text (.object params)).map fun _ => ()) = params.checkAll kind.keys := by
  -- with the target and the condition read, nothing can fail
  have hcondition (target : Target) :
      ((params.condition kind >>= fun condition =>
        (return ⟨target, condition⟩ : Except CompileError Spec)).map fun _ => ()) =
        params.checkAll kind.ownKeys := by
    rw [← Parameters.map_condition]
    cases params.condition kind <;> rfl
  rw [Spec.read, Kind.read_eq_ok.mpr hkind, ok_bind, Parameters.ofJson, ok_bind,
    map_bind_unit hcondition, Parameters.map_target, Parameters.checkAll, Parameters.checkAll,
    ← forM_append]
  rfl

lemma checkAll_eq_ok {fields : List (String × Form)} : params.checkAll fields = .ok () ↔
    ∀ field ∈ fields, Admits params field := by
  rw [Parameters.checkAll, forM_eq_ok]
  simp only [Parameters.check_eq_ok, Admits]

lemma checkAll_eq_error {fields : List (String × Form)} : params.checkAll fields = .error error ↔
    ∃ before field after, fields = before ++ field :: after ∧
      (∀ earlier ∈ before, Admits params earlier) ∧
      field.2.Refuses field.1 (params.lookup field.1) error := by
  rw [Parameters.checkAll, forM_eq_error]
  simp only [Parameters.check_eq_ok, Parameters.check_eq_error, Admits]

namespace Parameters

lemma ofJson_eq_ok : ofJson parameters = .ok params ↔ parameters = .object params := by
  cases parameters <;> simp [ofJson]

lemma ofJson_eq_error : ofJson parameters = .error error ↔ (∀ params, parameters ≠ .object params) ∧
    error = .invalidParameter "parameters" (.wrongKind "an object" parameters.kind) := by
  cases parameters <;> simp [ofJson, eq_comm]

lemma target_eq_ok {target : Target} : params.target = .ok target ↔
    IsText (params.lookup "table") target.table ∧
      IsOptionalText (params.lookup "primary_key") target.primaryKey := by
  simp only [Parameters.target, bind_eq_ok, pure_eq_ok, text_eq_ok, text?_eq_ok]
  constructor
  · rintro ⟨table, htable, key, hkey, rfl⟩
    exact ⟨htable, hkey⟩
  · rintro ⟨htable, hkey⟩
    exact ⟨_, htable, _, hkey, rfl⟩

lemma condition_eq_ok {condition : Condition} : params.condition condition.kind = .ok condition ↔
    condition.Stands params := by
  cases condition with
  | threshold column operator value =>
    simp only [Condition.kind, Parameters.condition, bind_eq_ok, pure_eq_ok, operator_eq_ok,
      text_eq_ok, literal_eq_ok]
    constructor
    · rintro ⟨_, hoperator, _, hcolumn, _, hvalue, heq⟩
      cases heq
      exact ⟨hoperator, hcolumn, hvalue⟩
    · rintro ⟨hoperator, hcolumn, hvalue⟩
      exact ⟨_, hoperator, _, hcolumn, _, hvalue, rfl⟩
  | dateDifference start finish maxDays =>
    simp only [Condition.kind, Parameters.condition, bind_eq_ok, pure_eq_ok, text_eq_ok, days_eq_ok]
    constructor
    · rintro ⟨_, hstart, _, hfinish, _, hdays, heq⟩
      cases heq
      exact ⟨hstart, hfinish, hdays⟩
    · rintro ⟨hstart, hfinish, hdays⟩
      exact ⟨_, hstart, _, hfinish, _, hdays, rfl⟩
  | notNull column =>
    simp only [Condition.kind, Parameters.condition, bind_eq_ok, pure_eq_ok, text_eq_ok]
    constructor
    · rintro ⟨_, hcolumn, heq⟩
      cases heq
      exact hcolumn
    · exact fun hcolumn => ⟨_, hcolumn, rfl⟩
  | pattern column regex =>
    simp only [Condition.kind, Parameters.condition, bind_eq_ok, pure_eq_ok, text_eq_ok, pattern_eq_ok]
    constructor
    · rintro ⟨_, hcolumn, _, hregex, heq⟩
      cases heq
      exact ⟨hcolumn, hregex⟩
    · rintro ⟨hcolumn, hregex⟩
      exact ⟨_, hcolumn, _, hregex, rfl⟩

lemma kind_of_condition {condition : Condition} (h : params.condition kind = .ok condition) :
    condition.kind = kind := by
  cases kind with
  | threshold | dateDifference =>
    obtain ⟨_, _, h⟩ := bind_eq_ok.mp h
    obtain ⟨_, _, h⟩ := bind_eq_ok.mp h
    obtain ⟨_, _, h⟩ := bind_eq_ok.mp h
    cases h
    rfl
  | notNull =>
    obtain ⟨_, _, h⟩ := bind_eq_ok.mp h
    cases h
    rfl
  | pattern =>
    obtain ⟨_, _, h⟩ := bind_eq_ok.mp h
    obtain ⟨_, _, h⟩ := bind_eq_ok.mp h
    cases h
    rfl

end Parameters

lemma read_eq_ok : Spec.read text parameters = .ok spec ↔ spec.Stands text parameters := by
  simp only [Spec.read, bind_eq_ok, Kind.read_eq_ok, Parameters.ofJson_eq_ok, Parameters.target_eq_ok]
  constructor
  · rintro ⟨kind, hkind, params, hparams, target, ⟨htable, hkey⟩, condition, hcondition, h⟩
    obtain rfl := pure_eq_ok.mp h
    obtain rfl := Parameters.kind_of_condition hcondition
    exact ⟨hkind, params, hparams, htable, hkey, Parameters.condition_eq_ok.mp hcondition⟩
  · rintro ⟨hkind, params, hparams, htable, hkey, hcondition⟩
    exact ⟨spec.kind, hkind, params, hparams, spec.target, ⟨htable, hkey⟩, spec.condition,
      Parameters.condition_eq_ok.mpr hcondition, rfl⟩

lemma exists_read_iff : (∃ spec, Spec.read text parameters = .ok spec) ↔ IsRead text parameters := by
  constructor
  · rintro ⟨spec, h⟩
    obtain ⟨hkind, params, rfl, _⟩ := read_eq_ok.mp h
    have hchecked : Parameters.checkAll params spec.kind.keys = .ok () := by
      rw [← map_read hkind, h]
      rfl
    exact ⟨spec.kind, params, hkind, rfl, checkAll_eq_ok.mp hchecked⟩
  · rintro ⟨kind, params, hkind, rfl, hadmits⟩
    obtain ⟨spec, h, _⟩ := map_eq_ok.mp ((map_read hkind).trans (checkAll_eq_ok.mpr hadmits))
    exact ⟨spec, h⟩

lemma read_object_eq_error (hkind : Names text kind) : Spec.read text (.object params) = .error error ↔
    ∃ before field after, kind.keys = before ++ field :: after ∧
      (∀ earlier ∈ before, Admits params earlier) ∧
      field.2.Refuses field.1 (params.lookup field.1) error := by
  rw [← checkAll_eq_error, ← map_read hkind, map_eq_error]

lemma read_eq_error : Spec.read text parameters = .error error ↔ Refused text parameters error := by
  constructor
  · intro h
    rcases bind_eq_error.mp h with hnone | ⟨kind, hkind, hrest⟩
    · obtain ⟨hunnamed, rfl⟩ := Kind.read_eq_error.mp hnone
      exact .kind hunnamed
    rw [Kind.read_eq_ok] at hkind
    rcases bind_eq_error.mp hrest with hother | ⟨params, hparams, _⟩
    · obtain ⟨hobject, rfl⟩ := Parameters.ofJson_eq_error.mp hother
      exact .notObject hkind hobject
    · obtain rfl := Parameters.ofJson_eq_ok.mp hparams
      obtain ⟨before, field, after, hkeys, hbefore, hfield⟩ := (read_object_eq_error hkind).mp h
      exact .key hkind rfl hkeys hbefore hfield
  · intro h
    cases h with
    | kind hnone => rw [Spec.read, Kind.read_eq_error.mpr ⟨hnone, rfl⟩, error_bind]
    | notObject hkind hobject =>
      rw [Spec.read, Kind.read_eq_ok.mpr hkind, ok_bind,
        Parameters.ofJson_eq_error.mpr ⟨hobject, rfl⟩, error_bind]
    | key hkind hparams hkeys hbefore hfield =>
      subst hparams
      exact (read_object_eq_error hkind).mpr ⟨_, _, _, hkeys, hbefore, hfield⟩

/-- A rule is read exactly if its kind is one of the four, its parameters are an object, and under
every key of the kind stands what is wanted there. What is read is what the parameters say; a rule
that is not read is refused for the first key in the kind's order that is at fault. -/
theorem read_iff_grammar (text : String) (parameters : Json) :
    ((∃ spec, Spec.read text parameters = .ok spec) ↔ IsRead text parameters) ∧
      (∀ spec, Spec.read text parameters = .ok spec ↔ spec.Stands text parameters) ∧
      ∀ error, Spec.read text parameters = .error error ↔ Refused text parameters error :=
  ⟨exists_read_iff, fun _ => read_eq_ok, fun _ => read_eq_error⟩

end

example :
    Spec.read " Threshold" (.object [("operator", .text " ~ "), ("table", .text "people"),
      ("value", .null)]) =
    .error (.unsupportedOperator "~") := by decide +kernel

end Compliance.Rule
