import Mathlib.Logic.Relation
import Compliance.Proofs.Lists
import Compliance.Proofs.Query.Confinement
import Compliance.Proofs.Rule.Grammar

/-! What of its parameters a rule depends on: the values under the keys of its kind that are not
null. Everything else may come and go without a trace in the spec, the error or the query. -/

namespace Compliance.Rule

open Relation Result

namespace Parameters

variable {p q : Parameters} {key : String}

lemma get_congr (h : p.get? key = q.get? key) : p.get key = q.get key := by rw [get, get, h]

lemma text_congr (h : p.get? key = q.get? key) : p.text key = q.text key := by
  rw [text, text, get_congr h]

lemma text?_congr (h : p.get? key = q.get? key) : p.text? key = q.text? key := by rw [text?, text?, h]

lemma operator_congr (h : p.get? key = q.get? key) : p.operator key = q.operator key := by
  rw [operator, operator, text?_congr h]

lemma literal_congr (h : p.get? key = q.get? key) : p.literal key = q.literal key := by
  rw [literal, literal, get_congr h]

lemma days_congr (h : p.get? key = q.get? key) : p.days key = q.days key := by
  rw [days, days, get_congr h]

lemma pattern_congr (h : p.get? key = q.get? key) : p.pattern key = q.pattern key := by
  rw [pattern, pattern, text_congr h]

def Agree (keys : List String) (p q : Parameters) : Prop := ∀ key ∈ keys, p.get? key = q.get? key

lemma target_congr (h : Agree (targetKeys.map (·.1)) p q) : p.target = q.target := by
  have htable := text_congr (h "table" (by decide))
  have hkey := text?_congr (h "primary_key" (by decide))
  rw [target, target, htable, hkey]

lemma condition_congr {kind : Kind} (h : Agree (kind.ownKeys.map (·.1)) p q) :
    p.condition kind = q.condition kind := by
  cases kind with
  | threshold =>
    have hoperator := operator_congr (h "operator" (by decide))
    have hcolumn := text_congr (h "column" (by decide))
    have hvalue := literal_congr (h "value" (by decide))
    rw [condition, condition, hoperator, hcolumn, hvalue]
  | dateDifference =>
    have hstart := text_congr (h "date_col_1" (by decide))
    have hfinish := text_congr (h "date_col_2" (by decide))
    have hdays := days_congr (h "max_days" (by decide))
    rw [condition, condition, hstart, hfinish, hdays]
  | notNull =>
    have hcolumn := text_congr (h "column" (by decide))
    rw [condition, condition, hcolumn]
  | pattern =>
    have hcolumn := text_congr (h "column" (by decide))
    have hregex := pattern_congr (h "regex_pattern" (by decide))
    rw [condition, condition, hcolumn, hregex]

end Parameters

open Parameters (Agree)

def keysRead (text : String) : List String := ((Kind.ofName? text).elim [] Kind.keys).map (·.1)

variable {text key : String} {keys : List String} {p q : Parameters}

lemma keysRead_of_names {kind : Kind} (h : Names text kind) : keysRead text = kind.keys.map (·.1) := by
  rw [keysRead, ofName?_eq_some_iff.mpr h]
  rfl

lemma read_congr (h : Agree (keysRead text) p q) :
    Spec.read text (.object p) = Spec.read text (.object q) := by
  rw [Spec.read, Spec.read]
  cases hkind : Kind.read text with
  | error error => rfl
  | ok kind =>
    rw [keysRead_of_names (Kind.read_eq_ok.mp hkind), Kind.keys, List.map_append] at h
    have htarget := Parameters.target_congr fun key hkey => h key (List.mem_append_left _ hkey)
    have hcondition := Parameters.condition_congr fun key hkey => h key (List.mem_append_right _ hkey)
    rw [ok_bind, ok_bind, Parameters.ofJson, Parameters.ofJson, ok_bind, ok_bind, htarget, hcondition]

inductive Immaterial (keys : List String) : Parameters → Parameters → Prop
  | put (params : Parameters) {key : String} (value : Json) : key ∉ keys →
    Immaterial keys params (insertKey key value params)
  | drop (params : Parameters) {key : String} : key ∉ keys →
    Immaterial keys params (params.filter (·.1 ≠ key))
  | putNull (params : Parameters) {key : String} : params.lookup key = none →
    Immaterial keys params (insertKey key .null params)
  | dropNull (params : Parameters) {key : String} : params.lookup key = some .null →
      Immaterial keys params (params.filter (·.1 ≠ key))

lemma get?_insertKey_of_ne {other : String} (hne : other ≠ key) (value : Json) (params : Parameters) :
    Parameters.get? (insertKey key value params) other = params.get? other := by
  rw [Parameters.get?, Parameters.get?, lookup_insertKey_of_ne hne]

lemma get?_filter_of_ne {other : String} (hne : other ≠ key) (params : Parameters) :
    Parameters.get? (params.filter (·.1 ≠ key)) other = params.get? other := by
  rw [Parameters.get?, Parameters.get?, ListFacts.lookup_filter (· ≠ key), if_pos (decide_eq_true hne)]

lemma Immaterial.agree (h : Immaterial keys p q) : Agree keys p q := by
  intro key hkey
  cases h with
  | put value hother => exact (get?_insertKey_of_ne (by rintro rfl; exact hother hkey) value p).symm
  | drop hother => exact (get?_filter_of_ne (by rintro rfl; exact hother hkey) p).symm
  | @putNull other hnone =>
    -- under its own key a null entry is as good as none, under another it is not seen
    by_cases hne : key = other
    · subst hne
      rw [Parameters.get?_eq_none.mpr (.inl hnone),
        Parameters.get?_eq_none.mpr (.inr (lookup_insertKey_self ..))]
    · exact (get?_insertKey_of_ne hne .null p).symm
  | @dropNull other hnull =>
    by_cases hne : key = other
    · subst hne
      rw [Parameters.get?_eq_none.mpr (.inr hnull), Parameters.get?_eq_none.mpr (.inl ?_)]
      rw [ListFacts.lookup_filter (· ≠ key), if_neg (by simp)]
    · exact (get?_filter_of_ne hne p).symm

lemma agree_of_changes (h : ReflTransGen (Immaterial keys) p q) : Agree keys p q := by
  induction h with
  | refl => exact fun _ _ => rfl
  | tail _ hstep ih => exact fun key hkey => (ih key hkey).trans (hstep.agree key hkey)

/-- Entries under keys that a kind does not read, and null entries, may be added, changed and
removed in any number: the rule is read as before, to the same spec or the same error, and against
every catalog it gives the same query or the same error. -/
theorem compile_eq_of_immaterial (h : ReflTransGen (Immaterial (keysRead text)) p q) :
    Spec.read text (.object p) = Spec.read text (.object q) ∧
      ∀ (catalog : Catalog) (first second : Rule), first.kind = text → second.kind = text →
        first.parameters = .object p →
        second.parameters = .object q → Query.compile catalog first = Query.compile catalog second := by
  have hread := read_congr (agree_of_changes h)
  refine ⟨hread, fun catalog first second hfirst hsecond hp hq => ?_⟩
  rw [Query.compile, Query.compile, spec, spec, hfirst, hsecond, hp, hq, hread]

/-! A rule with more to it than is read -/

def tidyParameters : Parameters :=
  [("column", .text "Age"), ("primary_key", .null), ("table", .text "people"), ("value", .int 18)]

def clutteredParameters : Parameters :=
  [("column", .text "Age"), ("operator", .null), ("regex_pattern", .text "("),
    ("table", .text "people"), ("value", .int 18)]

theorem compile_clutteredParameters : ∃ q,
    Query.compile Query.peopleCatalog (Query.bareRule "Threshold" tidyParameters) = .ok q ∧
      Query.compile Query.peopleCatalog (Query.bareRule "Threshold" clutteredParameters) = .ok q := by
  have hchanges : ReflTransGen (Immaterial (keysRead "Threshold")) tidyParameters
      (insertKey "operator" .null (insertKey "regex_pattern" (.text "(")
        (tidyParameters.filter (·.1 ≠ "primary_key")))) :=
    .tail (.tail (.single (.dropNull _ (by decide +kernel))) (.put _ _ (by decide +kernel)))
      (.putNull _ (by decide +kernel))
  have hsame := (compile_eq_of_immaterial hchanges).2 Query.peopleCatalog
    (Query.bareRule "Threshold" tidyParameters) (Query.bareRule "Threshold" clutteredParameters)
    rfl rfl rfl (by decide +kernel)
  obtain ⟨q, hq⟩ :=
    exists_of_isOk (x := Query.compile Query.peopleCatalog (Query.bareRule "Threshold" tidyParameters))
    (by decide +kernel)
  exact ⟨q, hq, hsame.symm.trans hq⟩

end Compliance.Rule
