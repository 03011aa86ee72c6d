import Compliance.Proofs.Number.Whole
import Compliance.Proofs.Query.Resolution
import Compliance.Proofs.Rule.Grammar

/-! What the query of a threshold is bound with, if the value is a whole number: with the number
itself as long as a signed word or a double holds it, and else with the double next to it. -/

namespace Compliance.Rule

open Number Result

def Literal.Denotes : Literal → ℤ → Prop
  | integer m, n => m = n
  | real x, n => x.value? = some (n : ℚ)
  | text _, _ | boolean _, _ => False

structure ComparesWith (rule : Rule) (n : ℤ) : Prop where
  kind : Names rule.kind .threshold
  value : rule.parameters.get? "value" = some (.int n)
  low : minInt64 ≤ n
  high : n ≤ maxNat64

def wholeLiteral (n : ℤ) : Literal := if n ≤ maxInt64 then .integer n else .real (.ofInt n)

def wholeBound (n : ℤ) : ℤ := if n ≤ maxInt64 then n else 2048 * (Double.divRound n.toNat 2048 : ℤ)

structure IsBoundWith (rule : Rule) (literal : Literal) : Prop where
  accepted : ∀ fault, rule.spec ≠ .error (.invalidParameter "value" fault)
  condition : ∀ spec, rule.spec = .ok spec →
    ∃ column operator, spec.condition = .threshold column operator literal
  binds : ∀ catalog q, Query.compile catalog rule = .ok q → q.binds = [literal]

section
variable {rule : Rule} {n m : ℤ} {literal : Literal}

lemma isLiteral_int_iff : IsLiteral (some (.int n)) literal ↔ literal = wholeLiteral n := by
  rw [wholeLiteral]
  cases literal <;> split_ifs with h <;> simp [IsLiteral, Json.int, Json.real] <;> grind

lemma Names.unique {text : String} {kind kind' : Kind} (h : Names text kind)
    (h' : Names text kind') : kind = kind' := by
  rw [← ofName?_eq_some_iff] at h h'
  exact Option.some.inj (h.symm.trans h')

lemma form_of_value {field : String × Form} (hfield : field ∈ Kind.threshold.keys)
    (hkey : field.1 = "value") :
    field.2 = .literal := by
  simp only [Kind.keys, targetKeys, Kind.ownKeys, List.cons_append, List.nil_append, List.mem_cons,
    List.not_mem_nil, or_false] at hfield
  rcases hfield with rfl | rfl | rfl | rfl | rfl
  all_goals first | rfl | exact absurd hkey (by decide)

lemma ComparesWith.exists_params (h : ComparesWith rule n) :
    ∃ params, rule.parameters = .object params ∧ params.lookup "value" = some (.int n) := by
  have hvalue := h.value
  cases hparameters : rule.parameters with
  | object params =>
    rw [hparameters] at hvalue
    exact ⟨params, rfl, hvalue⟩
  | null | bool | number | text | array =>
    rw [hparameters] at hvalue
    cases hvalue

lemma ComparesWith.condition (h : ComparesWith rule n) {spec : Spec} (hspec : rule.spec = .ok spec) :
    ∃ column operator, spec.condition = .threshold column operator (wholeLiteral n) := by
  obtain ⟨params, hparams, hvalue⟩ := h.exists_params
  obtain ⟨hnames, params', hparams', _, _, hcondition⟩ := read_eq_ok.mp hspec
  obtain rfl := Json.object.inj (hparams.symm.trans hparams')
  have hkind := hnames.unique h.kind
  obtain ⟨target, condition⟩ := spec
  cases condition with
  | threshold column operator value =>
    have hliteral := hcondition.2.2
    rw [hvalue, isLiteral_int_iff] at hliteral
    exact ⟨column, operator, by rw [hliteral]⟩
  | dateDifference | notNull | pattern => cases hkind

lemma ComparesWith.accepted (h : ComparesWith rule n) (fault : ParameterFault) :
    rule.spec ≠ .error (.invalidParameter "value" fault) := by
  obtain ⟨params, hparams, hvalue⟩ := h.exists_params
  intro hspec
  have hrefused := read_eq_error.mp hspec
  generalize herror : CompileError.invalidParameter "value" fault = error at hrefused
  cases hrefused with
  | kind => cases herror
  | notObject _ hobject => exact hobject params hparams
  | @key kind params' before after field _ hnames hparams' hkeys _ hrefuses =>
    obtain rfl := Json.object.inj (hparams.symm.trans hparams')
    obtain rfl := hnames.unique h.kind
    cases hrefuses with
    | missing | unsupported => cases herror
    | @invalid fault' hfault =>
      obtain ⟨hkey, rfl⟩ := CompileError.invalidParameter.inj herror
      have hliteral : field.2 = .literal := form_of_value (by rw [hkeys]; simp) hkey.symm
      rw [hliteral, ← hkey, hvalue] at hfault
      cases hfault with
      | text htextual => cases htextual
      | notScalar hgiven hkind =>
        obtain rfl := Option.some.inj hgiven
        rcases hkind with ⟨_, hitems⟩ | ⟨_, hfields⟩
        · cases hitems
        · cases hfields

lemma ComparesWith.isBoundWith (h : ComparesWith rule n) : IsBoundWith rule (wholeLiteral n) where
  accepted := h.accepted
  condition _ := h.condition
  binds catalog q hq := by
    obtain ⟨spec, subject, predicate, hspec, _, hviolation, rfl, _⟩ := Query.compile_eq_ok hq
    obtain ⟨column, operator, hcondition⟩ := h.condition hspec
    rw [hcondition] at hviolation
    obtain ⟨found, _, hviolation⟩ := bind_eq_ok.mp hviolation
    obtain rfl := Except.ok.inj hviolation
    rfl

lemma exists_long (h : ¬ n ≤ maxInt64) (hmax : n ≤ maxNat64) : ∃ k : ℕ, n = k ∧ 2 ^ 63 ≤ k ∧
    k < 2 ^ 64 := by
  have hmax : n ≤ 2 ^ 64 - 1 := hmax
  have hmin : 2 ^ 63 - 1 < n := not_le.mp h
  exact ⟨n.toNat, by omega, by omega, by omega⟩

lemma Literal.Denotes.unique (h : literal.Denotes n) (h' : literal.Denotes m) : n = m := by
  cases literal with
  | integer => exact h.symm.trans h'
  | real =>
    have heq := Option.some.inj (h.symm.trans h')
    exact_mod_cast heq
  | text | boolean => cases h

lemma denotes_wholeBound (hmax : n ≤ maxNat64) : (wholeLiteral n).Denotes (wholeBound n) := by
  rw [wholeLiteral, wholeBound]
  split_ifs with h
  · rfl
  · obtain ⟨k, rfl, hlow, hhigh⟩ := exists_long h hmax
    rw [Literal.Denotes, Double.value?_ofInt_long hlow hhigh]
    simp

lemma wholeBound_eq_iff (hmax : n ≤ maxNat64) : wholeBound n = n ↔ n ≤ maxInt64 ∨ 2048 ∣ n := by
  rw [wholeBound]
  split_ifs with h
  · simp [h]
  · obtain ⟨k, rfl, _, _⟩ := exists_long h hmax
    have hround : 2048 * Double.divRound k 2048 = k ↔ 2048 ∣ k := Double.mul_divRound_eq_iff (by decide)
    rw [Int.toNat_natCast]
    omega

lemma wholeBound_nearest (hmax : n ≤ maxNat64) {k : ℤ} (hk : 2048 ∣ k) :
    (wholeBound n - n).natAbs ≤ (k - n).natAbs := by
  rw [wholeBound]
  split_ifs with h
  · simp
  · obtain ⟨i, rfl, _, _⟩ := exists_long h hmax
    obtain ⟨hlow, hhigh⟩ := Double.divRound_spec i (by decide : 0 < 2048)
    rw [Int.toNat_natCast]
    omega

lemma wholeLiteral_inj (hn : n ≤ maxNat64) (hm : m ≤ maxNat64) : wholeLiteral n = wholeLiteral m ↔
    wholeBound n = wholeBound m := by
  constructor
  · intro h
    exact (denotes_wholeBound hn).unique (h ▸ denotes_wholeBound hm)
  · intro h
    rw [wholeBound, wholeBound] at h
    rw [wholeLiteral, wholeLiteral]
    have hlast : maxInt64 = 2 ^ 63 - 1 := rfl
    split_ifs at h ⊢ with hshort hshort' hshort'
    · rw [h]
    · obtain ⟨k, rfl, _, _⟩ := exists_long hshort' hm
      obtain ⟨_, hround⟩ := Double.divRound_spec k (by decide : 0 < 2048)
      rw [Int.toNat_natCast] at h
      omega
    · obtain ⟨k, rfl, _, _⟩ := exists_long hshort hn
      obtain ⟨_, hround⟩ := Double.divRound_spec k (by decide : 0 < 2048)
      rw [Int.toNat_natCast] at h
      omega
    · obtain ⟨i, rfl, hlow, hhigh⟩ := exists_long hshort hn
      obtain ⟨j, rfl, hlow', hhigh'⟩ := exists_long hshort' hm
      rw [Int.toNat_natCast, Int.toNat_natCast] at h
      rw [(Double.ofInt_long_inj hlow hhigh hlow' hhigh').mpr (by omega)]

/-- The whole numbers of 64 bits are all accepted. A number is bound with its own value if a signed
word holds it, or if it is a multiple of 2048; any other is bound with the multiple of 2048 nearest
to it. Numbers with the same such multiple are bound alike. -/
theorem bound_exactly_iff {first second : Rule} (hfirst : ComparesWith first n)
    (hsecond : ComparesWith second m) :
    IsBoundWith first (wholeLiteral n) ∧ IsBoundWith second (wholeLiteral m) ∧
      (wholeLiteral n).Denotes (wholeBound n) ∧
        (∀ k, 2048 ∣ k → (wholeBound n - n).natAbs ≤ (k - n).natAbs) ∧
      ((wholeLiteral n).Denotes n ↔ n ≤ maxInt64 ∨ 2048 ∣ n) ∧
        (wholeLiteral n = wholeLiteral m ↔ wholeBound n = wholeBound m) := by
  have hbound := denotes_wholeBound hfirst.high
  refine ⟨hfirst.isBoundWith, hsecond.isBoundWith, hbound, fun k => wholeBound_nearest hfirst.high, ?_,
    wholeLiteral_inj hfirst.high hsecond.high⟩
  rw [← wholeBound_eq_iff hfirst.high]
  constructor
  · intro h
    exact hbound.unique h
  · intro h
    rwa [h] at hbound

end

/-! A limit that is lowered by one -/

def limitRule (limit : ℤ) : Rule :=
  Query.bareRule "threshold" [("column", .text "size"), ("table", .text "files"), ("value", .int limit)]

theorem bound_exactly_limitRule :
    ComparesWith (limitRule (Nat.pow 2 63 + 1)) (Nat.pow 2 63 + 1) ∧
      ComparesWith (limitRule (Nat.pow 2 63)) (Nat.pow 2 63) ∧
      (limitRule (Nat.pow 2 63 + 1)).spec =
        .ok ⟨⟨"files", none⟩, .threshold "size" .equal (.real (.finite false (Nat.pow 2 52) 11))⟩ ∧
      ¬ (wholeLiteral (Nat.pow 2 63 + 1)).Denotes (Nat.pow 2 63 + 1) ∧
      wholeLiteral (Nat.pow 2 63 + 1) = wholeLiteral (Nat.pow 2 63) := by
  have hfirst : ComparesWith (limitRule (Nat.pow 2 63 + 1)) (Nat.pow 2 63 + 1) :=
    ⟨ofName?_eq_some_iff.mp (by decide +kernel), rfl, by decide, by decide⟩
  have hsecond : ComparesWith (limitRule (Nat.pow 2 63)) (Nat.pow 2 63) :=
    ⟨ofName?_eq_some_iff.mp (by decide +kernel), rfl, by decide, by decide⟩
  obtain ⟨_, _, _, _, hexact, halike⟩ := bound_exactly_iff hfirst hsecond
  exact ⟨hfirst, hsecond, by decide +kernel, mt hexact.mp (by decide), halike.mpr (by decide)⟩

end Compliance.Rule
