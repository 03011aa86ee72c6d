import Compliance.Proofs.Result
import Compliance.Proofs.Rule.Form

/-! How each parameter of a rule is read: with success exactly for what its form admits, and else
with the error of its form. -/

namespace Compliance.Rule

open Number Result

namespace Parameters

variable {params : Parameters} {key t : String} {value : Json} {error : CompileError}

lemma get?_eq_none : params.get? key = none ↔ IsLeftOut (params.lookup key) := by
  rw [get?, IsLeftOut]
  cases params.lookup key with
  | none => simp
  | some value => cases value <;> simp

lemma get?_eq_some (hvalue : params.lookup key = some value) (hnull : value ≠ .null) :
    params.get? key = some value := by
  rw [get?, hvalue]
  cases value <;> first | rfl | exact absurd rfl hnull

lemma get_of_isLeftOut (h : IsLeftOut (params.lookup key)) :
    params.get key = .error (.missingParameter key) := by
  rw [get, get?_eq_none.mpr h]

lemma get_of_some (hvalue : params.lookup key = some value) (hnull : value ≠ .null) :
    params.get key = .ok value := by
  rw [get, get?_eq_some hvalue hnull]

section
variable {α : Type} {f : Json → Except CompileError α}

lemma get_bind_eq_ok {a : α} {P : Option Json → Prop} (hP : ∀ given, P given → ¬ IsLeftOut given)
    (hf : ∀ value, value ≠ .null → (f value = .ok a ↔ P (some value))) :
    (params.get key >>= f) = .ok a ↔ P (params.lookup key) := by
  by_cases hleft : IsLeftOut (params.lookup key)
  · rw [get_of_isLeftOut hleft]
    exact iff_of_false (by simp) fun h => hP _ h hleft
  · obtain ⟨value, hvalue, hnull⟩ := exists_of_not_isLeftOut hleft
    rw [get_of_some hvalue hnull, ok_bind, hvalue]
    exact hf value hnull

lemma get_bind_eq_error {form : Form} (hrequired : form.isRequired)
    (hf : ∀ value, value ≠ .null →
      (f value = .error error ↔
        ∃ fault, form.Fault (some value) fault ∧ error = .invalidParameter key fault)) :
    (params.get key >>= f) = .error error ↔ form.Refuses key (params.lookup key) error := by
  by_cases hleft : IsLeftOut (params.lookup key)
  · rw [get_of_isLeftOut hleft, Form.refuses_of_isLeftOut hleft]
    simp [hrequired, eq_comm]
  · have hform : form ≠ .operator := by
      rintro rfl
      cases hrequired
    obtain ⟨value, hvalue, hnull⟩ := exists_of_not_isLeftOut hleft
    rw [get_of_some hvalue hnull, ok_bind, hf value hnull, Form.refuses_of_given hleft hform, hvalue]

end

lemma textOf_eq_ok : textOf key value = .ok t ↔ IsText (some value) t := by
  cases value with
  | text s =>
    simp only [textOf, IsText, Option.some.injEq, Json.text.injEq, exists_eq_left']
    split_ifs with hblank
    · simp [hblank]
    · simp only [Except.ok.injEq]
      grind
  | null | bool | number | array | object => simp [textOf, IsText]

lemma textOf_eq_error (hnull : value ≠ .null) :
    textOf key value = .error error ↔
      ∃ fault, TextFault (some value) fault ∧ error = .invalidParameter key fault := by
  constructor
  · intro h
    cases value with
    | text s =>
      rw [textOf] at h
      split_ifs at h with hblank
      cases h
      exact ⟨_, .blank rfl hblank, rfl⟩
    | null | bool | number | array | object =>
      cases h
      exact ⟨_, .notText rfl hnull (fun s h => by cases h), rfl⟩
  · rintro ⟨fault, hfault, rfl⟩
    cases hfault with
    | blank hs hblank =>
      cases hs
      exact if_pos hblank
    | notText hvalue _ hkind =>
      cases hvalue
      cases value with
      | text s => exact absurd rfl (hkind s)
      | null | bool | number | array | object => rfl

lemma text_eq_ok : params.text key = .ok t ↔ IsText (params.lookup key) t :=
  get_bind_eq_ok (P := (IsText · t)) (fun _ h => h.not_isLeftOut) fun _ _ => textOf_eq_ok

lemma text_eq_error : params.text key = .error error ↔
    Form.text.Refuses key (params.lookup key) error := by
  refine get_bind_eq_error rfl fun value hnull => ?_
  rw [textOf_eq_error hnull]
  exact exists_congr fun fault => and_congr_left fun _ => (Form.fault_iff_textFault rfl (by simp)).symm

lemma text?_of_isLeftOut (h : IsLeftOut (params.lookup key)) : params.text? key = .ok none := by
  rw [text?, get?_eq_none.mpr h]

lemma text?_of_some (hvalue : params.lookup key = some value) (hnull : value ≠ .null) :
    params.text? key = (textOf key value).map some := by
  rw [text?, get?_eq_some hvalue hnull]

lemma text?_eq_ok {given : Option String} : params.text? key = .ok given ↔
    IsOptionalText (params.lookup key) given := by
  by_cases hleft : IsLeftOut (params.lookup key)
  · rw [text?_of_isLeftOut hleft]
    cases given with
    | none => exact iff_of_true rfl hleft
    | some t => exact iff_of_false (by simp) fun h => IsText.not_isLeftOut h hleft
  · obtain ⟨value, hvalue, hnull⟩ := exists_of_not_isLeftOut hleft
    rw [text?_of_some hvalue hnull, map_eq_ok]
    cases given with
    | none => exact iff_of_false (by simp) hleft
    | some t => simp [textOf_eq_ok, IsOptionalText, hvalue]

lemma text?_eq_error : params.text? key = .error error ↔
    Form.optionalText.Refuses key (params.lookup key) error := by
  by_cases hleft : IsLeftOut (params.lookup key)
  · rw [text?_of_isLeftOut hleft, Form.refuses_of_isLeftOut hleft]
    simp [Form.isRequired]
  · obtain ⟨value, hvalue, hnull⟩ := exists_of_not_isLeftOut hleft
    rw [text?_of_some hvalue hnull, map_eq_error, textOf_eq_error hnull,
      Form.refuses_of_given hleft (by simp), hvalue]
    exact exists_congr fun fault => and_congr_left fun _ => (Form.fault_iff_textFault rfl (by simp)).symm

lemma operator_eq_ok {op : Operator} : params.operator key = .ok op ↔
    IsOperator (params.lookup key) op := by
  rw [operator, bind_eq_ok]
  constructor
  · rintro ⟨given, hgiven, h⟩
    rw [text?_eq_ok] at hgiven
    cases given with
    | none => exact .inl ⟨hgiven, (pure_eq_ok.mp h).symm⟩
    | some t => exact .inr ⟨t, hgiven, (Operator.read_eq_ok hgiven).mp h⟩
  · rintro (⟨hleft, rfl⟩ | ⟨t, ht, hop⟩)
    · exact ⟨none, text?_eq_ok.mpr hleft, rfl⟩
    · exact ⟨some t, text?_eq_ok.mpr ht, (Operator.read_eq_ok ht).mpr hop⟩

lemma operator_eq_error : params.operator key = .error error ↔
    Form.operator.Refuses key (params.lookup key) error := by
  rw [operator, bind_eq_error]
  constructor
  · rintro (h | ⟨given, hgiven, h⟩)
    · cases text?_eq_error.mp h with
      | missing hrequired => cases hrequired
      | invalid hfault => exact .invalid (.text rfl ((Form.fault_iff_textFault rfl (by simp)).mp hfault))
      | unsupported hoperator => cases hoperator
    · rw [text?_eq_ok] at hgiven
      cases given with
      | none => cases h
      | some t =>
        obtain ⟨hunknown, rfl⟩ := (Operator.read_eq_error hgiven).mp h
        exact .unsupported rfl hgiven hunknown
  · intro h
    cases h with
    | missing hrequired => cases hrequired
    | invalid hfault =>
      cases hfault with
      | text _ hfault => exact .inl (text?_eq_error.mpr (.invalid (.text rfl hfault)))
    | unsupported _ ht hunknown =>
      exact .inr ⟨some _, text?_eq_ok.mpr ht, (Operator.read_eq_error ht).mpr ⟨hunknown, rfl⟩⟩

lemma literalOf_eq_ok {literal : Literal} : literalOf key value = .ok literal ↔
    IsLiteral (some value) literal := by
  cases value with
  | number n =>
    cases n with
    | int n =>
      rw [literalOf]
      split_ifs with hn <;> cases literal <;> simp [IsLiteral, Json.int, Json.real] <;> grind
    | real x => cases literal <;> simp [literalOf, IsLiteral, Json.int, Json.real, @eq_comm _ x]
  | null | bool | text | array | object =>
    cases literal <;> simp [literalOf, IsLiteral, Json.int, Json.real]

lemma literalOf_eq_error (hnull : value ≠ .null) : literalOf key value = .error error ↔
    ∃ fault, Form.literal.Fault (some value) fault ∧ error = .invalidParameter key fault := by
  constructor
  · intro h
    cases value with
    | null => exact absurd rfl hnull
    | bool | text => cases h
    | number n => cases n <;> cases h
    | array items =>
      cases h
      exact ⟨_, .notScalar rfl (.inl ⟨items, rfl⟩), rfl⟩
    | object fields =>
      cases h
      exact ⟨_, .notScalar rfl (.inr ⟨fields, rfl⟩), rfl⟩
  · rintro ⟨fault, hfault, rfl⟩
    cases hfault with
    | text htextual => cases htextual
    | notScalar hvalue hkind =>
      cases hvalue
      rcases hkind with ⟨_, rfl⟩ | ⟨_, rfl⟩ <;> rfl

lemma literal_eq_ok {literal : Literal} : params.literal key = .ok literal ↔
    IsLiteral (params.lookup key) literal :=
  get_bind_eq_ok (P := (IsLiteral · literal)) (fun _ h => h.not_isLeftOut) fun _ _ => literalOf_eq_ok

lemma literal_eq_error : params.literal key = .error error ↔
    Form.literal.Refuses key (params.lookup key) error :=
  get_bind_eq_error rfl fun _ => literalOf_eq_error

lemma isWhole_text_iff {s : String} {n : ℤ} : IsWhole (some (.text s)) n ↔
    int64? (Text.trimChars s.toList) = some n := by
  rw [int64?_eq_some_iff]
  simp [IsWhole, Text.trim, Json.int]

lemma wholeOf_eq_ok {n : ℤ} : wholeOf key value = .ok n ↔ IsWhole (some value) n := by
  cases value with
  | number m =>
    cases m with
    | int m =>
      rw [wholeOf]
      split_ifs with hm <;> simp [IsWhole, Json.int] <;> grind
    | real x => simp [wholeOf, IsWhole, Json.int]
  | text s =>
    rw [isWhole_text_iff, wholeOf]
    cases int64? (Text.trimChars s.toList) <;> simp
  | null | bool | array | object => simp [wholeOf, IsWhole, Json.int]

lemma fault_of_wholeOf (hnull : value ≠ .null) (h : wholeOf key value = .error error) :
    ∃ fault, Form.days.Fault (some value) fault ∧ error = .invalidParameter key fault := by
  cases value with
  | null => exact absurd rfl hnull
  | number m =>
    cases m with
    | int m =>
      rw [wholeOf] at h
      split_ifs at h with hm
      cases h
      exact ⟨_, .notWhole rfl (fun _ heq => by cases heq; exact not_le.mp hm), rfl⟩
    | real x =>
      cases h
      exact ⟨_, .notWhole rfl (fun _ heq => by cases heq), rfl⟩
  | text s =>
    rw [wholeOf] at h
    cases hread : int64? (Text.trimChars s.toList) with
    | some n => simp [hread] at h
    | none =>
      rw [hread] at h
      cases h
      exact ⟨_, .notANumber rfl (fun n hn => by simp [isWhole_text_iff, hread] at hn), rfl⟩
  | bool b =>
    cases h
    exact ⟨_, .notNumeric rfl (.inl ⟨b, rfl⟩), rfl⟩
  | array items =>
    cases h
    exact ⟨_, .notNumeric rfl (.inr (.inl ⟨items, rfl⟩)), rfl⟩
  | object fields =>
    cases h
    exact ⟨_, .notNumeric rfl (.inr (.inr ⟨fields, rfl⟩)), rfl⟩

lemma wholeOf_of_fault {fault : ParameterFault} (h : Form.days.Fault (some value) fault)
    (hne : fault ≠ .negative) :
    wholeOf key value = .error (.invalidParameter key fault) := by
  cases h with
  | text htextual => cases htextual
  | negative => exact absurd rfl hne
  | notNumeric hvalue hkind =>
    cases hvalue
    rcases hkind with ⟨_, rfl⟩ | ⟨_, rfl⟩ | ⟨_, rfl⟩ <;> rfl
  | @notWhole n hvalue hn =>
    cases hvalue
    cases n with
    | int n => exact if_neg (not_le.mpr (hn n rfl))
    | real x => rfl
  | @notANumber s hvalue hs =>
    cases hvalue
    have hread : int64? (Text.trimChars s.toList) = none :=
      Option.eq_none_iff_forall_ne_some.mpr fun n hn => hs n (isWhole_text_iff.mpr hn)
    rw [wholeOf, hread]

lemma days_eq_ok {n : ℕ} : params.days key = .ok n ↔ IsWhole (params.lookup key) n := by
  refine get_bind_eq_ok (P := (IsWhole · n)) (fun _ h => h.not_isLeftOut) fun value _ => ?_
  rw [bind_eq_ok]
  constructor
  · rintro ⟨m, hm, h⟩
    cases m with
    | ofNat m =>
      obtain rfl := pure_eq_ok.mp h
      exact wholeOf_eq_ok.mp hm
    | negSucc m => cases h
  · exact fun h => ⟨n, wholeOf_eq_ok.mpr h, rfl⟩

lemma days_eq_error : params.days key = .error error ↔
    Form.days.Refuses key (params.lookup key) error := by
  refine get_bind_eq_error rfl fun value hnull => ?_
  rw [bind_eq_error]
  constructor
  · rintro (h | ⟨m, hm, h⟩)
    · exact fault_of_wholeOf hnull h
    · cases m with
      | ofNat m => cases h
      | negSucc m =>
        cases h
        exact ⟨_, .negative (wholeOf_eq_ok.mp hm) (Int.negSucc_lt_zero m), rfl⟩
  · rintro ⟨fault, hfault, rfl⟩
    -- a negative number is whole, and refused only after it is read
    by_cases hne : fault = .negative
    · subst hne
      cases hfault with
      | text htextual => cases htextual
      | @negative n hwhole hn =>
        obtain ⟨m, rfl⟩ := Int.eq_negSucc_of_lt_zero hn
        exact .inr ⟨_, wholeOf_eq_ok.mpr hwhole, rfl⟩
    · exact .inl (wholeOf_of_fault hfault hne)

lemma pattern_eq_ok {regex : String} : params.pattern key = .ok regex ↔
    IsPattern (params.lookup key) regex := by
  rw [pattern, bind_eq_ok]
  constructor
  · rintro ⟨t, ht, h⟩
    cases hcheck : Pattern.check t with
    | error fault => simp [hcheck] at h
    | ok _ =>
      rw [hcheck] at h
      obtain rfl := pure_eq_ok.mp h
      exact ⟨text_eq_ok.mp ht, hcheck⟩
  · rintro ⟨ht, hcheck⟩
    exact ⟨regex, text_eq_ok.mpr ht, by rw [hcheck]; rfl⟩

lemma pattern_eq_error : params.pattern key = .error error ↔
    Form.pattern.Refuses key (params.lookup key) error := by
  rw [pattern, bind_eq_error, text_eq_error]
  constructor
  · rintro (h | ⟨t, ht, h⟩)
    · cases h with
      | missing _ hleft => exact .missing rfl hleft
      | invalid hfault => exact .invalid (.text rfl ((Form.fault_iff_textFault rfl (by simp)).mp hfault))
      | unsupported h => cases h
    · cases hcheck : Pattern.check t with
      | ok _ =>
        rw [hcheck] at h
        cases h
      | error fault =>
        rw [hcheck] at h
        cases h
        exact .invalid (.pattern (text_eq_ok.mp ht) hcheck)
  · intro h
    cases h with
    | missing _ hleft => exact .inl (.missing rfl hleft)
    | unsupported h => cases h
    | invalid hfault =>
      cases hfault with
      | text _ hfault => exact .inl (.invalid (.text rfl hfault))
      | pattern ht hcheck => exact .inr ⟨_, text_eq_ok.mpr ht, by rw [hcheck]; rfl⟩

def check (params : Parameters) (key : String) : Form → Except CompileError Unit
  | .text => (params.text key).map fun _ => ()
  | .optionalText => (params.text? key).map fun _ => ()
  | .operator => (params.operator key).map fun _ => ()
  | .literal => (params.literal key).map fun _ => ()
  | .days => (params.days key).map fun _ => ()
  | .pattern => (params.pattern key).map fun _ => ()

lemma check_eq_ok {form : Form} : params.check key form = .ok () ↔ form.Admits (params.lookup key) := by
  cases form <;> simp only [check, map_eq_ok, and_true, Form.Admits]
  case text => simp only [text_eq_ok]
  case optionalText => simp only [text?_eq_ok, exists_isOptionalText]
  case operator => simp only [operator_eq_ok, exists_isOperator]
  case literal => simp only [literal_eq_ok, exists_isLiteral]
  case days => simp only [days_eq_ok]
  case pattern => simp only [pattern_eq_ok]

lemma check_eq_error {form : Form} : params.check key form = .error error ↔
    form.Refuses key (params.lookup key) error := by
  cases form <;> simp only [check, map_eq_error]
  case text => exact text_eq_error
  case optionalText => exact text?_eq_error
  case operator => exact operator_eq_error
  case literal => exact literal_eq_error
  case days => exact days_eq_error
  case pattern => exact pattern_eq_error

end Parameters

end Compliance.Rule
