import Mathlib.Data.List.TakeDrop
import Compliance.Number.Notation
import Compliance.Proofs.Number.Digits

/-! How the report notation spells a decimal: digits, and after them a point with more digits, a
signed exponent, or both. -/

namespace Compliance.Number

structure Spelling where
  whole : List Char
  fraction : List Char
  exponent : Option ℤ

namespace Spelling

def pointed : List Char → List Char
  | [] => []
  | digits => '.' :: digits

def scaled : Option ℤ → List Char
  | none => []
  | some e => 'e' :: (if e < 0 then '-' else '+') :: Nat.toDigits 10 e.natAbs

def chars (s : Spelling) : List Char := s.whole ++ (pointed s.fraction ++ scaled s.exponent)

def digits (s : Spelling) : ℕ := digitsValue (s.whole ++ s.fraction)

def unit (s : Spelling) : ℤ := s.exponent.getD 0 - s.fraction.length

structure Valid (s : Spelling) : Prop where
  whole_ne : s.whole ≠ []
  whole_digits : ∀ c ∈ s.whole, isDigit c
  whole_head : s.whole.length = 1 ∨ s.whole.head? ≠ some '0'
  fraction_digits : ∀ c ∈ s.fraction, isDigit c

variable {s : Spelling}

lemma span_digits {digits rest : List Char} (hdigits : ∀ c ∈ digits, isDigit c)
    (hrest : ∀ c ∈ rest.head?, isDigit c = false) : (digits ++ rest).span isDigit = (digits, rest) := by
  have hstop : rest.takeWhile isDigit = [] ∧ rest.dropWhile isDigit = rest := by
    cases rest with
    | nil => exact ⟨rfl, rfl⟩
    | cons c rest => simp [hrest c rfl]
  rw [List.span_eq_takeWhile_dropWhile, List.takeWhile_append_of_pos hdigits,
    List.dropWhile_append_of_pos hdigits, hstop.1, hstop.2, List.append_nil]

lemma head_scaled (e : Option ℤ) : ∀ c ∈ (scaled e).head?, c = 'e' := by
  cases e <;> simp [scaled]

lemma head_pointed (fraction : List Char) (e : Option ℤ) :
    ∀ c ∈ (pointed fraction ++ scaled e).head?, isDigit c = false := by
  cases fraction with
  | nil =>
    intro c hc
    rw [head_scaled e c hc]
    rfl
  | cons d fraction => simp [pointed, isDigit]

lemma Valid.decimalParts? (h : s.Valid) :
    decimalParts? s.chars = some ⟨s.whole, s.fraction, s.exponent.getD 0⟩ := by
  obtain ⟨whole, fraction, e⟩ := s
  have hspan := span_digits h.whole_digits (head_pointed fraction e)
  have hfraction : (fraction ++ scaled e).span isDigit = (fraction, scaled e) :=
    span_digits h.fraction_digits fun c hc => head_scaled e c hc ▸ rfl
  have hwhole := h.whole_ne
  simp only [Number.decimalParts?, chars, hspan]
  cases fraction with
  | nil =>
    cases e with
    | none => simp [pointed, scaled, hwhole]
    | some e => simp [pointed, scaled, hwhole, exponent?_toDigits]
  | cons d fraction =>
    simp only [pointed, List.cons_append] at hfraction ⊢
    rw [hfraction]
    cases e with
    | none => simp [scaled]
    | some e => simp [scaled, exponent?_toDigits]

lemma Valid.exists_whole (h : s.Valid) : ∃ c rest, s.chars = c :: rest ∧ isDigit c := by
  obtain ⟨c, whole, hwhole⟩ := List.exists_cons_of_ne_nil h.whole_ne
  exact ⟨c, whole ++ (pointed s.fraction ++ scaled s.exponent), by rw [chars, hwhole]; rfl,
    h.whole_digits c (hwhole ▸ List.mem_cons_self ..)⟩

lemma toLower_of_isDigit {c : Char} (hc : isDigit c) : c.toLower = c := by
  obtain ⟨n, hn, rfl⟩ := exists_of_isDigit hc
  interval_cases n <;> rfl

lemma Valid.double? (h : s.Valid) (negative : Bool) :
    double? ((if negative then ['-'] else []) ++ s.chars) =
      some (Double.ofDecimal negative s.digits s.unit) := by
  obtain ⟨c, rest, hchars, hc⟩ := h.exists_whole
  have hword : ∀ d word, isDigit d = false →
    String.ofList (s.chars.map Char.toLower) ≠ String.ofList (d :: word) := by
    intro d word hd heq
    have heq := String.ofList_injective heq
    rw [hchars, List.map_cons, toLower_of_isDigit hc] at heq
    exact ne_of_isDigit hc hd (List.cons.inj heq).1
  have hnan : String.ofList (s.chars.map Char.toLower) ≠ "nan" := hword 'n' ['a', 'n'] rfl
  have hinf : ¬ (String.ofList (s.chars.map Char.toLower) = "inf" ∨
    String.ofList (s.chars.map Char.toLower) = "infinity") := by
    rintro (heq | heq)
    · exact hword 'i' ['n', 'f'] rfl heq
    · exact hword 'i' ['n', 'f', 'i', 'n', 'i', 't', 'y'] rfl heq
  have hvalue : (Number.decimalParts? s.chars).map (·.value negative) =
    some (Double.ofDecimal negative s.digits s.unit) := by
    rw [h.decimalParts?]
    rfl
  cases negative with
  | true =>
    rw [if_pos rfl, List.singleton_append, Number.double?]
    simpa only [if_neg hnan, if_neg hinf] using hvalue
  | false =>
    rw [if_neg Bool.false_ne_true, List.nil_append]
    unfold Number.double?
    split
    next body heq => exact absurd (List.cons.inj (hchars.symm.trans heq)).1 (ne_of_isDigit hc rfl)
    next body heq => exact absurd (List.cons.inj (hchars.symm.trans heq)).1 (ne_of_isDigit hc rfl)
    next => simpa only [if_neg hnan, if_neg hinf] using hvalue

end Spelling

structure Spelling.Spells (s : Spelling) (d : Decimal) : Prop where
  valid : s.Valid
  notWhole : s.fraction ≠ [] ∨ s.exponent.isSome
  value : ∃ zeros ≤ 16, s.digits = d.digits * Nat.pow 10 zeros ∧ s.unit = d.exponent - zeros

lemma toDigits_head (n : ℕ) : (Nat.toDigits 10 n).length = 1 ∨ (Nat.toDigits 10 n).head? ≠ some '0' := by
  by_cases hn : n = 0
  · exact .inl (by rw [hn]; rfl)
  · exact .inr (head?_toDigits hn)

section
variable {d : Decimal}

lemma spells_whole (hzero : d.digits = 0 → d.exponent = 0) (h : 0 ≤ d.exponent) (hle : d.exponent ≤ 15) :
    Spelling.Spells ⟨Nat.toDigits 10 d.digits ++ List.replicate d.exponent.toNat '0', ['0'],
      none⟩ d where
  valid := by
    refine ⟨by simp [Nat.toDigits_ne_nil], fun c hc => ?_, ?_, by simp [isDigit]⟩
    · rcases List.mem_append.mp hc with hc | hc
      · exact isDigit_toDigits hc
      · exact isDigit_zeros hc
    · by_cases hd : d.digits = 0
      · exact .inl (by rw [hd, hzero hd]; rfl)
      · exact .inr (by rw [List.head?_append_of_ne_nil _ Nat.toDigits_ne_nil]; exact head?_toDigits hd)
  notWhole := .inl (by simp)
  value := by
    refine ⟨d.exponent.toNat + 1, by omega, ?_, ?_⟩
    · rw [Spelling.digits, List.append_assoc, ← List.replicate_succ', digitsValue_append,
        digitsValue_toDigits, digitsValue_zeros, List.length_replicate, Nat.add_zero]
    · rw [Spelling.unit, List.length_singleton, Option.getD_none]
      omega

lemma spells_parts (hzero : d.digits = 0 → d.exponent = 0) (h : d.exponent < 0) :
    let scale := (-d.exponent).toNat
    let padded :=
      List.replicate (scale + 1 - (Nat.toDigits 10 d.digits).length) '0' ++ Nat.toDigits 10 d.digits
    Spelling.Spells ⟨padded.take (padded.length - scale), padded.drop (padded.length - scale),
      none⟩ d := by
  intro scale padded
  have hscale : 0 < scale ∧ d.exponent = -scale := by omega
  have hlength : padded.length =
      scale + 1 - (Nat.toDigits 10 d.digits).length + (Nat.toDigits 10 d.digits).length := by
    rw [List.length_append, List.length_replicate]
  have hdigits : ∀ c ∈ padded, isDigit c :=
    fun c hc => (List.mem_append.mp hc).elim isDigit_zeros isDigit_toDigits
  have hfraction : (padded.drop (padded.length - scale)).length = scale := by
    rw [List.length_drop]
    omega
  refine ⟨⟨?_, fun c hc => hdigits c (List.mem_of_mem_take hc), ?_, fun c hc =>
    hdigits c (List.mem_of_mem_drop hc)⟩, .inl ?_, 0, by decide, ?_, ?_⟩
  · refine List.ne_nil_of_length_pos ?_
    rw [List.length_take]
    omega
  · by_cases hle : (Nat.toDigits 10 d.digits).length ≤ scale
    · refine .inl ?_
      rw [List.length_take]
      omega
    · have hpadded : padded = Nat.toDigits 10 d.digits := by
        change List.replicate _ '0' ++ _ = _
        rw [Nat.sub_eq_zero_of_le (by omega)]
        rfl
      refine .inr ?_
      rw [List.head?_take, if_neg (by omega), hpadded]
      exact head?_toDigits fun hd => by omega
  · exact List.ne_nil_of_length_pos (Nat.lt_of_lt_of_eq hscale.1 hfraction.symm)
  · rw [Spelling.digits, List.take_append_drop, digitsValue_append, digitsValue_zeros,
      digitsValue_toDigits]
    simp
  · rw [Spelling.unit, hfraction, Option.getD_none]
    omega

lemma spells_scaled {first : Char} {rest : List Char} (h : Nat.toDigits 10 d.digits = first :: rest) :
    Spelling.Spells ⟨[first], rest, some (d.exponent + (first :: rest).length - 1)⟩ d where
  valid := by
    have hdigits : ∀ c ∈ first :: rest, isDigit c := fun c hc => isDigit_toDigits (h ▸ hc)
    exact ⟨List.cons_ne_nil _ _, fun c hc =>
      hdigits c (List.mem_singleton.mp hc ▸ List.mem_cons_self ..), .inl rfl,
      fun c hc => hdigits c (List.mem_cons_of_mem _ hc)⟩
  notWhole := .inr rfl
  value := by
    refine ⟨0, by decide, ?_, ?_⟩
    · rw [Spelling.digits, List.singleton_append, ← h, digitsValue_toDigits]
      simp
    · simp only [Spelling.unit, Option.getD_some, List.length_cons]
      omega

lemma Spelling.chars_of_ne_nil {whole fraction : List Char} (h : fraction ≠ []) :
    Spelling.chars ⟨whole, fraction, none⟩ = whole ++ '.' :: fraction := by
  obtain ⟨c, rest, rfl⟩ := List.exists_cons_of_ne_nil h
  rw [chars, pointed, scaled, List.append_nil]
  exact fun h => nomatch h

lemma exponentText_report (e : ℤ) : Notation.report.exponentText e = Spelling.scaled (some e) := by
  have hlength : 1 - (Nat.toDigits 10 e.natAbs).length = 0 :=
    Nat.sub_eq_zero_of_le Nat.length_toDigits_pos
  change ['e', if e < 0 then '-' else '+'] ++ List.replicate (1 - _) '0' ++ _ = _
  rw [hlength]
  rfl

lemma exists_spells (hzero : d.digits = 0 → d.exponent = 0) :
    ∃ s : Spelling, s.Spells d ∧ Notation.report.magnitude d = s.chars := by
  rw [Notation.magnitude]
  by_cases hplain : d.digits = 0 ∨
    Notation.report.isPositional (d.exponent + (Nat.toDigits 10 d.digits).length - 1)
  · simp only [if_pos hplain, positional]
    by_cases hexponent : 0 ≤ d.exponent
    · have hle : d.exponent ≤ 15 := by
        rcases hplain with hdigits | hpositional
        · rw [hzero hdigits]
          decide
        · have hleading := of_decide_eq_true (Bool.and_eq_true_iff.mp hpositional).2
          have hlength := Nat.length_toDigits_pos (n := d.digits) (b := 10)
          omega
      rw [if_pos hexponent]
      exact ⟨_, spells_whole hzero hexponent hle, rfl⟩
    · rw [if_neg hexponent]
      have h := spells_parts hzero (Int.not_le.mp hexponent)
      refine ⟨_, h, (Spelling.chars_of_ne_nil ?_).symm⟩
      exact h.notWhole.resolve_right Bool.false_ne_true
  · obtain ⟨first, rest, hdigits, _⟩ := exists_toDigits d.digits
    refine ⟨_, spells_scaled hdigits, ?_⟩
    simp only [if_neg hplain]
    rw [hdigits]
    cases rest with
    | nil => exact congrArg (first :: ·) (exponentText_report _)
    | cons c rest => exact congrArg (first :: '.' :: c :: rest ++ ·) (exponentText_report _)

end

end Compliance.Number
