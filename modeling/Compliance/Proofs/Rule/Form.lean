import Compliance.Proofs.Number.Digits
import Compliance.Rule.Spec

/-! What may stand under the key of a parameter: what a rule takes it for, and what is wrong with
anything else. -/

namespace Compliance.Rule

open Number

def IsLeftOut (given : Option Json) : Prop := given = none ∨ given = some .null

def IsText (given : Option Json) (t : String) : Prop :=
  ∃ s, given = some (.text s) ∧ Text.trim s = t ∧ t ≠ ""

def IsOptionalText (given : Option Json) : Option String → Prop
  | none => IsLeftOut given
  | some t => IsText given t

def operatorSymbols : List (String × Operator) :=
  [(">", .greater), (">=", .greaterOrEqual), ("<", .less), ("<=", .lessOrEqual), ("=", .equal),
    ("==", .equal), ("!=", .notEqual), ("<>", .notEqual)]

def IsOperator (given : Option Json) (op : Operator) : Prop :=
  IsLeftOut given ∧ op = .equal ∨ ∃ symbol, IsText given symbol ∧ (symbol, op) ∈ operatorSymbols

def IsLiteral (given : Option Json) : Literal → Prop
  | .integer n => given = some (.int n) ∧ n ≤ maxInt64
  | .real x => given = some (.real x) ∨ ∃ n, given = some (.int n) ∧ maxInt64 < n ∧ x = .ofInt n
  | .text s => given = some (.text s)
  | .boolean b => given = some (.bool b)

def IsWhole (given : Option Json) (n : ℤ) : Prop :=
  given = some (.int n) ∧ n ≤ maxInt64 ∨
    ∃ s, given = some (.text s) ∧ Denotes (Text.trim s).toList n ∧ minInt64 ≤ n ∧ n ≤ maxInt64

def IsPattern (given : Option Json) (regex : String) : Prop :=
  IsText given regex ∧ Pattern.check regex = .ok ()

inductive Form
  | text | optionalText | operator | literal | days | pattern

inductive TextFault (given : Option Json) : ParameterFault → Prop
  | notText {value : Json} : given = some value → value ≠ .null → (∀ s, value ≠ .text s) →
      TextFault given (.wrongKind "a string" value.kind)
  | blank {s : String} : given = some (.text s) → Text.trim s = "" → TextFault given .empty

namespace Form

def isRequired : Form → Bool
  | optionalText | operator => false
  | text | literal | days | pattern => true

def isTextual : Form → Bool
  | literal | days => false
  | text | optionalText | operator | pattern => true

def Admits (given : Option Json) : Form → Prop
  | text => ∃ t, IsText given t
  | optionalText => IsLeftOut given ∨ ∃ t, IsText given t
  | operator => IsLeftOut given ∨ ∃ symbol, IsText given symbol ∧ symbol ∈ operatorSymbols.map (·.1)
  | literal =>
    (∃ n, given = some (.number n)) ∨ (∃ s, given = some (.text s)) ∨ ∃ b, given = some (.bool b)
  | days => ∃ n : ℕ, IsWhole given n
  | pattern => ∃ regex, IsPattern given regex

inductive Fault (given : Option Json) : Form → ParameterFault → Prop
  | text {form : Form} {fault : ParameterFault} : form.isTextual → TextFault given fault →
    Fault given form fault
  | pattern {t : String} {fault : Pattern.Fault} : IsText given t → Pattern.check t = .error fault →
      Fault given .pattern (.pattern fault)
  | notScalar {value : Json} : given = some value → (∃ items, value = .array items) ∨
    (∃ fields, value = .object fields) →
      Fault given .literal (.wrongKind "a scalar" value.kind)
  | notNumeric {value : Json} : given = some value →
      (∃ b, value = .bool b) ∨ (∃ items, value = .array items) ∨ (∃ fields, value = .object fields) →
      Fault given .days (.wrongKind "a number" value.kind)
  | notWhole {n : JsonNumber} : given = some (.number n) → (∀ m, n = .int m → maxInt64 < m) →
    Fault given .days .notWholeDays
  | notANumber {s : String} : given = some (.text s) → (∀ n, ¬ IsWhole given n) →
    Fault given .days (.notANumber s)
  | negative {n : ℤ} : IsWhole given n → n < 0 → Fault given .days .negative

inductive Refuses (form : Form) (key : String) (given : Option Json) : CompileError → Prop
  | missing : form.isRequired → IsLeftOut given → Refuses form key given (.missingParameter key)
  | invalid {fault : ParameterFault} : form.Fault given fault →
    Refuses form key given (.invalidParameter key fault)
  | unsupported {t : String} : form = operator → IsText given t → t ∉ operatorSymbols.map (·.1) →
      Refuses form key given (.unsupportedOperator t)

end Form

section
variable {given : Option Json} {value : Json} {t : String} {op : Operator} {error : CompileError}
  {fault : ParameterFault}

lemma exists_of_not_isLeftOut (h : ¬ IsLeftOut given) : ∃ value, given = some value ∧ value ≠ .null := by
  cases given with
  | none => exact absurd (.inl rfl) h
  | some value => exact ⟨value, rfl, fun hnull => h (.inr (congrArg some hnull))⟩

lemma not_isLeftOut (hvalue : given = some value) (hnull : value ≠ .null) : ¬ IsLeftOut given := by
  subst hvalue
  rintro (h | h)
  · cases h
  · exact hnull (Option.some.inj h)

lemma IsText.not_isLeftOut (h : IsText given t) : ¬ IsLeftOut given := by
  obtain ⟨s, hs, _⟩ := h
  exact Rule.not_isLeftOut hs (by simp)

lemma IsText.trim_eq (h : IsText given t) : Text.trim t = t := by
  obtain ⟨s, _, rfl, _⟩ := h
  exact Text.trim_trim s

lemma IsWhole.not_isLeftOut {n : ℤ} (h : IsWhole given n) : ¬ IsLeftOut given := by
  rcases h with ⟨h, _⟩ | ⟨s, h, _⟩
  · exact Rule.not_isLeftOut h (by simp [Json.int])
  · exact Rule.not_isLeftOut h (by simp)

lemma IsWhole.le_maxInt64 {n : ℤ} (h : IsWhole given n) : n ≤ maxInt64 := by
  rcases h with ⟨_, h⟩ | ⟨_, _, _, _, h⟩ <;> exact h

lemma IsLiteral.not_isLeftOut {literal : Literal} (h : IsLiteral given literal) : ¬ IsLeftOut given := by
  cases literal with
  | integer n => exact Rule.not_isLeftOut h.1 (by simp [Json.int])
  | real x =>
    rcases h with h | ⟨n, h, _⟩
    · exact Rule.not_isLeftOut h (by simp [Json.real])
    · exact Rule.not_isLeftOut h (by simp [Json.int])
  | text s | boolean b => exact Rule.not_isLeftOut h (by simp)

lemma TextFault.not_isLeftOut (h : TextFault given fault) : ¬ IsLeftOut given := by
  cases h with
  | notText hvalue hnull => exact Rule.not_isLeftOut hvalue hnull
  | blank hs => exact Rule.not_isLeftOut hs (by simp)

lemma Form.Fault.not_isLeftOut {form : Form} (h : form.Fault given fault) : ¬ IsLeftOut given := by
  cases h with
  | text _ h => exact h.not_isLeftOut
  | pattern h => exact h.not_isLeftOut
  | negative h => exact h.not_isLeftOut
  | notWhole h | notANumber h => exact Rule.not_isLeftOut h (by simp)
  | notScalar h hkind => exact Rule.not_isLeftOut h (by rcases hkind with ⟨_, rfl⟩ | ⟨_, rfl⟩ <;> simp)
  | notNumeric h hkind =>
    exact Rule.not_isLeftOut h (by rcases hkind with ⟨_, rfl⟩ | ⟨_, rfl⟩ | ⟨_, rfl⟩ <;> simp)

lemma Form.refuses_of_isLeftOut {form : Form} {key : String} (hleft : IsLeftOut given) :
    form.Refuses key given error ↔ form.isRequired ∧ error = .missingParameter key := by
  constructor
  · intro h
    cases h with
    | missing hrequired => exact ⟨hrequired, rfl⟩
    | invalid hfault => exact absurd hleft hfault.not_isLeftOut
    | unsupported _ ht => exact absurd hleft ht.not_isLeftOut
  · rintro ⟨hrequired, rfl⟩
    exact .missing hrequired hleft

lemma Form.refuses_of_given {form : Form} {key : String} (hgiven : ¬ IsLeftOut given)
    (hform : form ≠ .operator) :
    form.Refuses key given error ↔
      ∃ fault, form.Fault given fault ∧ error = .invalidParameter key fault := by
  constructor
  · intro h
    cases h with
    | missing _ hleft => exact absurd hleft hgiven
    | invalid hfault => exact ⟨_, hfault, rfl⟩
    | unsupported hoperator => exact absurd hoperator hform
  · rintro ⟨fault, hfault, rfl⟩
    exact .invalid hfault

lemma Form.fault_iff_textFault {form : Form} (htextual : form.isTextual) (hpattern : form ≠ .pattern) :
    form.Fault given fault ↔ TextFault given fault := by
  refine ⟨fun h => ?_, .text htextual⟩
  cases h with
  | text _ h => exact h
  | pattern => exact absurd rfl hpattern
  | notScalar | notNumeric | notWhole | notANumber | negative => cases htextual

lemma exists_isOptionalText : (∃ t, IsOptionalText given t) ↔
    IsLeftOut given ∨ ∃ t, IsText given t := Option.exists

lemma exists_isOperator : (∃ op, IsOperator given op) ↔
    IsLeftOut given ∨ ∃ symbol, IsText given symbol ∧ symbol ∈ operatorSymbols.map (·.1) := by
  simp only [IsOperator, List.mem_map, Prod.exists, exists_eq_right, exists_or]
  grind

lemma exists_isLiteral : (∃ literal, IsLiteral given literal) ↔
    (∃ n, given = some (.number n)) ∨ (∃ s, given = some (.text s)) ∨ ∃ b, given = some (.bool b) := by
  constructor
  · rintro ⟨literal, h⟩
    cases literal with
    | integer n => exact .inl ⟨_, h.1⟩
    | real x => exact .inl (h.elim (fun h => ⟨_, h⟩) fun ⟨_, h, _⟩ => ⟨_, h⟩)
    | text s => exact .inr (.inl ⟨s, h⟩)
    | boolean b => exact .inr (.inr ⟨b, h⟩)
  · rintro (⟨n, rfl⟩ | ⟨s, rfl⟩ | ⟨b, rfl⟩)
    · cases n with
      | int n =>
        rcases le_or_gt n maxInt64 with hn | hn
        · exact ⟨.integer n, rfl, hn⟩
        · exact ⟨.real (.ofInt n), .inr ⟨n, rfl, hn, rfl⟩⟩
      | real x => exact ⟨.real x, .inl rfl⟩
    · exact ⟨.text s, rfl⟩
    · exact ⟨.boolean b, rfl⟩

lemma ofSymbol?_eq_some_iff : Operator.ofSymbol? t = some op ↔ (t, op) ∈ operatorSymbols := by
  constructor
  · intro h
    unfold Operator.ofSymbol? at h
    split at h <;> cases h <;> decide
  · intro h
    simp only [operatorSymbols, List.mem_cons, List.not_mem_nil, or_false, Prod.mk.injEq] at h
    rcases h with ⟨rfl, rfl⟩ | ⟨rfl, rfl⟩ | ⟨rfl, rfl⟩ | ⟨rfl, rfl⟩ | ⟨rfl, rfl⟩ | ⟨rfl, rfl⟩
      | ⟨rfl, rfl⟩ | ⟨rfl, rfl⟩ <;> rfl

lemma Operator.read_eq_ok (h : IsText given t) : Operator.read t = .ok op ↔
    (t, op) ∈ operatorSymbols := by
  rw [← ofSymbol?_eq_some_iff, Operator.read, h.trim_eq]
  cases Operator.ofSymbol? t <;> simp

lemma Operator.read_eq_error (h : IsText given t) :
    Operator.read t = .error error ↔ t ∉ operatorSymbols.map (·.1) ∧ error = .unsupportedOperator t := by
  have hnone : Operator.ofSymbol? t = none ↔ t ∉ operatorSymbols.map (·.1) := by
    simp [Option.eq_none_iff_forall_ne_some, ofSymbol?_eq_some_iff]
  rw [← hnone, Operator.read, h.trim_eq]
  cases Operator.ofSymbol? t <;> simp [eq_comm]

end

end Compliance.Rule
