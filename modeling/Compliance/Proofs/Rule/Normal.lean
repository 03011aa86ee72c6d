import Compliance.Proofs.Json.Tokens
import Compliance.Proofs.Number.RoundTrip
import Compliance.Proofs.Rule.Grammar

/-! Rules in normal form. A spec that is read from the parameters of a document is normal, and a
normal spec, written back as a flat object, is read as itself. -/

namespace Compliance

namespace Rule

open Number Result

def IsTrimmed (t : String) : Prop := Text.trim t = t ∧ t ≠ ""

def Literal.IsProper : Literal → Prop
  | integer n => minInt64 ≤ n ∧ n ≤ maxInt64
  | real x => x.isProper
  | text _ | boolean _ => True

def Condition.IsNormal : Condition → Prop
  | threshold column _ value => IsTrimmed column ∧ value.IsProper
  | dateDifference start finish maxDays => IsTrimmed start ∧ IsTrimmed finish ∧ (maxDays : ℤ) ≤ maxInt64
  | notNull column => IsTrimmed column
  | pattern column regex => IsTrimmed column ∧ IsTrimmed regex ∧ Pattern.check regex = .ok ()

namespace Spec

structure IsNormal (spec : Spec) : Prop where
  table : IsTrimmed spec.target.table
  key : ∀ key, spec.target.primaryKey = some key → IsTrimmed key
  condition : spec.condition.IsNormal

def flatFields (spec : Spec) : List (String × Json) :=
  ("table", .text spec.target.table) :: ("primary_key", Json.ofText? spec.target.primaryKey) ::
    conditionFields spec.condition

def flat (spec : Spec) : Json := .ofFields spec.flatFields

end Spec

section
variable {given : Option Json} {t : String} {literal : Literal} {spec : Spec} {text : String}
  {parameters : Json} {params : Parameters}

lemma IsText.isTrimmed (h : IsText given t) : IsTrimmed t := by
  obtain ⟨s, _, rfl, hne⟩ := h
  exact ⟨Text.trim_trim s, hne⟩

lemma IsTrimmed.isText (h : IsTrimmed t) : IsText (some (.text t)) t := ⟨t, rfl, h⟩

lemma IsLiteral.isProper (h : IsLiteral given literal)
    (hproper : ∀ value, given = some value → value.isProper) : literal.IsProper := by
  have hwhole : ∀ n, given = some (.int n) → minInt64 ≤ n ∧ n ≤ maxNat64 := fun n hn => by
    have hn : (JsonNumber.int n).isProper := hproper _ hn
    simpa [JsonNumber.isProper] using hn
  cases literal with
  | integer n => exact ⟨(hwhole n h.1).1, h.2⟩
  | real x =>
    rcases h with h | ⟨n, h, hmax, rfl⟩
    · exact hproper _ h
    · -- beyond a signed word there are still no more than 64 bits, which round to a finite double
      refine Double.isProper_ofInt ?_
      obtain ⟨_, hn⟩ := hwhole n h
      have : (0 : ℤ) ≤ maxInt64 := by decide
      omega
  | text | boolean => trivial

lemma Literal.IsProper.isLiteral (h : literal.IsProper) : IsLiteral (some literal.toJson) literal := by
  cases literal with
  | integer n => exact ⟨rfl, h.2⟩
  | real x => exact .inl (congrArg some (if_pos (Double.isFinite_of_isProper h)))
  | text | boolean => rfl

lemma isProper_int {n : ℤ} (hmin : minInt64 ≤ n) (hmax : n ≤ maxInt64) : (Json.int n).isProper := by
  have hle : maxInt64 ≤ maxNat64 := by decide
  exact Bool.and_eq_true_iff.mpr ⟨decide_eq_true hmin, decide_eq_true (hmax.trans hle)⟩

lemma Literal.IsProper.isProper_toJson (h : literal.IsProper) : literal.toJson.isProper := by
  cases literal with
  | integer n => exact isProper_int h.1 h.2
  | real x =>
    rw [toJson, if_pos (Double.isFinite_of_isProper h)]
    exact h
  | text | boolean => rfl

lemma isNormal_of_stands (hproper : parameters.isProper) (h : spec.Stands text parameters) :
    spec.IsNormal := by
  obtain ⟨_, params, rfl, htable, hkey, hcondition⟩ := h
  obtain ⟨⟨table, primaryKey⟩, condition⟩ := spec
  refine ⟨htable.isTrimmed, ?_, ?_⟩
  · rintro key rfl
    exact IsText.isTrimmed hkey
  · cases condition with
    | threshold column operator value =>
      obtain ⟨_, hcolumn, hvalue⟩ := hcondition
      exact ⟨hcolumn.isTrimmed, hvalue.isProper fun _ hgiven => Json.isProper_of_lookup hproper hgiven⟩
    | dateDifference start finish maxDays =>
      obtain ⟨hstart, hfinish, hdays⟩ := hcondition
      exact ⟨hstart.isTrimmed, hfinish.isTrimmed, hdays.le_maxInt64⟩
    | notNull column => exact IsText.isTrimmed hcondition
    | pattern column regex =>
      obtain ⟨hcolumn, hregex, hcheck⟩ := hcondition
      exact ⟨hcolumn.isTrimmed, hregex.isTrimmed, hcheck⟩

lemma names_name (kind : Kind) : Names kind.name kind := by
  cases kind <;> exact ofName?_eq_some_iff.mp (by decide +kernel)

lemma Operator.isOperator (op : Operator) : IsOperator (some (.text op.symbol)) op := by
  refine .inr ⟨op.symbol, IsTrimmed.isText ?_, ?_⟩
  · cases op <;> exact ⟨by decide, by decide⟩
  · cases op <;> decide

lemma isOptionalText_ofText? {key : Option String} (h : ∀ k, key = some k → IsTrimmed k) :
    IsOptionalText (some (Json.ofText? key)) key := by
  cases key with
  | none => exact .inr rfl
  | some k => exact (h k rfl).isText

lemma Condition.stands_of_lookup {condition : Condition} (h : condition.IsNormal)
    (hparams : ∀ field ∈ Spec.conditionFields condition, params.lookup field.1 = some field.2) :
    condition.Stands params := by
  cases condition with
  | threshold column operator value =>
    have hcolumn := hparams ("column", .text column) (by simp [Spec.conditionFields])
    have hoperator := hparams ("operator", .text operator.symbol) (by simp [Spec.conditionFields])
    have hvalue := hparams ("value", value.toJson) (by simp [Spec.conditionFields])
    exact ⟨hoperator ▸ operator.isOperator, hcolumn ▸ h.1.isText, hvalue ▸ h.2.isLiteral⟩
  | dateDifference start finish maxDays =>
    have hstart := hparams ("date_col_1", .text start) (by simp [Spec.conditionFields])
    have hfinish := hparams ("date_col_2", .text finish) (by simp [Spec.conditionFields])
    have hdays := hparams ("max_days", .int maxDays) (by simp [Spec.conditionFields])
    exact ⟨hstart ▸ h.1.isText, hfinish ▸ h.2.1.isText, .inl ⟨hdays, h.2.2⟩⟩
  | notNull column =>
    have hcolumn := hparams ("column", .text column) (by simp [Spec.conditionFields])
    change IsText (params.lookup "column") column
    exact hcolumn ▸ IsTrimmed.isText h
  | pattern column regex =>
    have hcolumn := hparams ("column", .text column) (by simp [Spec.conditionFields])
    have hregex := hparams ("regex_pattern", .text regex) (by simp [Spec.conditionFields])
    exact ⟨hcolumn ▸ h.1.isText, hregex ▸ h.2.1.isText, h.2.2⟩

lemma Spec.stands_of_lookup (h : spec.IsNormal)
    (hparams : ∀ field ∈ spec.flatFields, params.lookup field.1 = some field.2) :
    spec.Stands spec.kind.name (.object params) := by
  obtain ⟨htable, hrest⟩ := List.forall_mem_cons.mp hparams
  obtain ⟨hkey, hcondition⟩ := List.forall_mem_cons.mp hrest
  exact ⟨names_name _, params, rfl, htable ▸ h.table.isText, hkey ▸ isOptionalText_ofText? h.key,
    Condition.stands_of_lookup h.condition hcondition⟩

lemma Spec.stands_flat (h : spec.IsNormal) : spec.Stands spec.kind.name spec.flat := by
  have hkeys : (spec.flatFields.map (·.1)).Nodup := by
    rw [flatFields]
    cases spec.condition <;> simp [conditionFields]
  exact stands_of_lookup h fun field hfield => ListFacts.lookup_foldl_insertKey_of_nodup hkeys hfield

lemma Spec.isProper_flat (h : spec.IsNormal) : spec.flat.isProper := by
  have hkey : (Json.ofText? spec.target.primaryKey).isProper := by cases spec.target.primaryKey <;> rfl
  refine Json.isProper_ofFields (List.forall_mem_cons.mpr ⟨rfl, List.forall_mem_cons.mpr ⟨hkey, ?_⟩⟩)
  obtain ⟨target, condition⟩ := spec
  have hcondition := h.condition
  cases condition with
  | threshold column operator value =>
    simp [conditionFields, Json.isProper, hcondition.2.isProper_toJson]
  | dateDifference start finish maxDays =>
    have hmin : minInt64 ≤ maxDays := (show minInt64 ≤ 0 by decide).trans (Int.natCast_nonneg maxDays)
    simp [conditionFields, Json.isProper, isProper_int hmin hcondition.2.2]
  | notNull | pattern => simp [conditionFields, Json.isProper]

theorem isNormal_iff : spec.IsNormal ↔
    ∃ text parameters, parameters.isProper ∧ Spec.read text parameters = .ok spec := by
  constructor
  · exact fun h => ⟨_, _, Spec.isProper_flat h, read_eq_ok.mpr (Spec.stands_flat h)⟩
  · rintro ⟨text, parameters, hproper, hread⟩
    exact isNormal_of_stands hproper (read_eq_ok.mp hread)

def normalise (text : String) (parameters : Json) : Except CompileError (String × Json) := do
  let spec ← Spec.read text parameters
  return (spec.kind.name, spec.flat)

/-- A spec that is read from a document, written back as a flat object under the name of its kind,
is read again as itself. So bringing a rule to normal form twice is bringing it there once. -/
theorem read_flat_of_read (hproper : parameters.isProper)
    (hread : Spec.read text parameters = .ok spec) :
    spec.flat.isProper ∧ Spec.read spec.kind.name spec.flat = .ok spec ∧
      normalise text parameters = .ok (spec.kind.name, spec.flat) ∧
      normalise spec.kind.name spec.flat = .ok (spec.kind.name, spec.flat) := by
  have hnormal := isNormal_of_stands hproper (read_eq_ok.mp hread)
  have hagain := read_eq_ok.mpr (Spec.stands_flat hnormal)
  exact ⟨Spec.isProper_flat hnormal,
    hagain, by rw [normalise, hread]; rfl, by rw [normalise, hagain]; rfl⟩

end

/-! A threshold just too great for a signed word -/

def unboundParameters : Json :=
  .object [("column", .text " Age\n"), ("operator", .text " <> "), ("table", .text "People "),
  ("value", .int (Nat.pow 2 63))]

def unboundSpec : Spec :=
  ⟨⟨"People", none⟩, .threshold "Age" .notEqual (.real (.finite false (Nat.pow 2 52) 11))⟩

theorem read_flat_unboundSpec : Spec.read " THRESHOLD" unboundParameters = .ok unboundSpec ∧
    Spec.read "threshold" unboundSpec.flat = .ok unboundSpec := by
  have hread : Spec.read " THRESHOLD" unboundParameters = .ok unboundSpec := by decide +kernel
  exact ⟨hread, (read_flat_of_read (by decide +kernel) hread).2.1⟩

end Rule

end Compliance
