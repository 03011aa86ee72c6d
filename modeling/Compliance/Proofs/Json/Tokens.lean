import Compliance.Json.Draft
import Compliance.Json.Writer
import Compliance.Proofs.Lists
import Compliance.Proofs.Number.RoundTrip

/-! The tokens of a value that is written, on one line or with a field a line. -/

namespace Compliance

open Number

def JsonNumber.isProper : JsonNumber → Bool
  | .int n => minInt64 ≤ n && n ≤ maxNat64
  | .real x => x.isProper

namespace Json

structure IsLiteral (literal : List Char) : Prop where
  start : ∀ c ∈ literal.head?, isDigit c || c = '-'
  letters : literal.all Token.isNumberLetter
  grammar : Token.isNumber literal

def Closes (rest : List Char) : Prop := ∀ c ∈ rest.head?, c = ',' ∨ c = ']' ∨ c = '}' ∨ c = '\n'

namespace Token

lemma readFrom_cons (mode : Mode) (c : Char) (rest : List Char) :
    readFrom mode (c :: rest) = (step mode c).1 ++ readFrom (step mode c).2 rest := rfl

lemma readFrom_control (letters rest : List Char) {n : ℕ} (hn : n < 0x20) :
    readFrom (.text letters) (escapedChar (Char.ofNat n) ++ rest) =
      readFrom (.text (Char.ofNat n :: letters)) rest := by
  interval_cases n <;> rfl

lemma readFrom_escapedChar (c : Char) (letters rest : List Char) :
    readFrom (.text letters) (escapedChar c ++ rest) = readFrom (.text (c :: letters)) rest := by
  by_cases hcontrol : c.toNat < 0x20
  · rw [← Char.ofNat_toNat c]
    exact readFrom_control letters rest hcontrol
  by_cases hquote : c = '"'
  · rw [hquote]
    rfl
  by_cases hslash : c = '\\'
  · rw [hslash]
    rfl
  have hother : ∀ d : Char, d.toNat < 0x20 → c ≠ d := by
    rintro d hd rfl
    exact hcontrol hd
  have hplain : escapedChar c = [c] := by
    rw [escapedChar, if_neg hquote, if_neg hslash, if_neg (by omega), if_neg (by omega),
      if_neg (hother _ (by decide)), if_neg (hother _ (by decide)), if_neg (hother _ (by decide)),
      if_neg hcontrol]
  rw [hplain, List.singleton_append, readFrom_cons, step, if_neg hquote, if_neg hslash, if_neg hcontrol]
  rfl

lemma readFrom_escaped (s letters rest : List Char) :
    readFrom (.text letters) (s.flatMap escapedChar ++ '"' :: rest) =
      .text (String.ofList (letters.reverse ++ s)) :: readFrom .between rest := by
  induction s generalizing letters with
  | nil =>
    rw [List.append_nil]
    rfl
  | cons c s ih =>
    rw [List.flatMap_cons, List.append_assoc, readFrom_escapedChar, ih, List.reverse_cons,
      List.append_assoc]
    rfl

lemma readFrom_writeText (s : String) (rest : List Char) :
    readFrom .between (writeText s ++ rest) = .text s :: readFrom .between rest := by
  have h := readFrom_escaped s.toList [] rest
  rw [List.reverse_nil, List.nil_append, String.ofList_toList] at h
  rw [← h, writeText, List.append_assoc]
  rfl

section
variable {rest : List Char}

lemma endBefore_closing {token : Token} (htoken : token ≠ .broken) {c : Char} (rest : List Char) :
    (endBefore token c).1 ++ readFrom (endBefore token c).2 rest =
      token :: readFrom .between (c :: rest) := by
  rw [endBefore, if_neg htoken]
  rfl

lemma readFrom_number_end {letters : List Char} (hletters : isNumber letters.reverse)
    (hrest : Closes rest) :
    readFrom (.number letters) rest = .number letters.reverse :: readFrom .between rest := by
  have hof : ofNumber letters = .number letters.reverse := if_pos hletters
  cases rest with
  | nil => exact congrArg (· :: []) hof
  | cons c rest =>
    have hc : isNumberLetter c = false := by
      rcases hrest c rfl with rfl | rfl | rfl | rfl <;> rfl
    rw [readFrom_cons, step, hc, if_neg Bool.false_ne_true, hof]
    exact endBefore_closing (by simp) rest

lemma readFrom_letters {letters : List Char} (h : letters.all isNumberLetter) (before rest : List Char) :
    readFrom (.number before) (letters ++ rest) =
      readFrom (.number (letters.reverse ++ before)) rest := by
  induction letters generalizing before with
  | nil => rfl
  | cons c letters ih =>
    obtain ⟨hc, h⟩ := Bool.and_eq_true_iff.mp h
    rw [List.cons_append, readFrom_cons, step, if_pos hc, List.nil_append, ih h, List.reverse_cons,
      List.append_assoc]
    rfl

lemma readFrom_literal {literal : List Char} (h : IsLiteral literal) (hrest : Closes rest) :
    readFrom .between (literal ++ rest) = .number literal :: readFrom .between rest := by
  cases literal with
  | nil => exact absurd h.grammar (by decide)
  | cons c literal =>
    have hstart : start c = ([], .number [c]) := by
      rcases Bool.or_eq_true_iff.mp (h.start c rfl) with hc | hc
      · obtain ⟨n, hn, rfl⟩ := exists_of_isDigit hc
        interval_cases n <;> rfl
      · rw [of_decide_eq_true hc]
        rfl
    rw [List.cons_append, readFrom_cons, step, hstart, List.nil_append,
      readFrom_letters (Bool.and_eq_true_iff.mp h.letters).2]
    have hgrammar : isNumber (literal.reverse ++ [c]).reverse := by simpa using h.grammar
    rw [readFrom_number_end hgrammar hrest]
    simp

lemma readFrom_word_end (letters : List Char) {token : Token} (hof : ofWord letters = token)
    (htoken : token ≠ .broken) (hrest : Closes rest) :
    readFrom (.word letters) rest = token :: readFrom .between rest := by
  cases rest with
  | nil => exact congrArg (· :: []) hof
  | cons c rest =>
    have hc : c.isAlpha = false := by
      rcases hrest c rfl with rfl | rfl | rfl | rfl <;> rfl
    rw [readFrom_cons, step, hc, if_neg Bool.false_ne_true, hof]
    exact endBefore_closing htoken rest

lemma readFrom_null (hrest : Closes rest) : readFrom .between ("null".toList ++ rest) =
    .null :: readFrom .between rest :=
  readFrom_word_end ['l', 'l', 'u', 'n'] rfl (by decide) hrest

lemma readFrom_bool (b : Bool) (hrest : Closes rest) :
    readFrom .between ((if b then "true" else "false").toList ++ rest) =
      .bool b :: readFrom .between rest := by
  cases b with
  | true => exact readFrom_word_end ['e', 'u', 'r', 't'] rfl (by decide) hrest
  | false => exact readFrom_word_end ['e', 's', 'l', 'a', 'f'] rfl (by decide) hrest

end

end Token

mutual

def tokens : Json → List Token
  | .null => [.null]
  | .bool b => [.bool b]
  | .number n => [.number (writeNumber n)]
  | .text s => [.text s]
  | .array items => .openBracket :: itemTokens items ++ [.closeBracket]
  | .object fields => .openBrace :: fieldTokens fields ++ [.closeBrace]

def itemTokens : List Json → List Token
  | [] => []
  | [item] => tokens item
  | item :: rest => tokens item ++ .comma :: itemTokens rest

def fieldTokens : List (String × Json) → List Token
  | [] => []
  | [(key, value)] => .text key :: .colon :: tokens value
  | (key, value) :: rest => .text key :: .colon :: tokens value ++ .comma :: fieldTokens rest

end

lemma isNumber_chars {s : Spelling} (h : s.Valid) (negative : Bool) :
    Token.isNumber ((if negative then ['-'] else []) ++ s.chars) := by
  obtain ⟨whole, fraction, e⟩ := s
  obtain ⟨c, rest, hchars, hc⟩ := h.exists_whole
  have hspan := Spelling.span_digits h.whole_digits (Spelling.head_pointed fraction e)
  rw [show _ ++ _ = _ from hchars] at hspan
  have hfraction : (fraction ++ Spelling.scaled e).span isDigit = (fraction, Spelling.scaled e) :=
    Spelling.span_digits h.fraction_digits fun c hc => Spelling.head_scaled e c hc ▸ rfl
  rw [List.span_eq_takeWhile_dropWhile] at hfraction
  obtain ⟨htake, hdrop⟩ := Prod.mk.inj hfraction
  have hwhole : (∃ d, whole = [d]) ∨ ∃ d d' more, whole = d :: d' :: more ∧ d ≠ '0' := by
    rcases whole with _ | ⟨d, _ | ⟨d', more⟩⟩
    · exact absurd rfl h.whole_ne
    · exact .inl ⟨d, rfl⟩
    · exact .inr ⟨d, d', more, rfl, by simpa using h.whole_head⟩
  have hexponent : ∀ e : ℤ,
    (exponent? ((if e < 0 then '-' else '+') :: Nat.toDigits 10 e.natAbs)).isSome := fun e => by
    rw [exponent?_toDigits]
    rfl
  have hunsigned : Token.isNumber (c :: rest) := by
    rw [Token.isNumber, hspan]
    · refine Bool.and_eq_true_iff.mpr ⟨Bool.and_eq_true_iff.mpr ⟨?_, ?_⟩, ?_⟩
      · obtain ⟨d, rfl⟩ | ⟨d, d', more, rfl, hd⟩ := hwhole
        · rfl
        · exact decide_eq_true hd
      · cases fraction with
        | nil => cases e <;> rfl
        | cons f fraction =>
          change (!(List.takeWhile isDigit (f :: fraction ++ Spelling.scaled e)).isEmpty) = true
          rw [htake]
          rfl
      · cases fraction with
        | nil => cases e with
          | none => rfl
          | some e => exact hexponent e
        | cons f fraction =>
          simp only [Spelling.pointed, List.cons_append] at hdrop ⊢
          rw [hdrop]
          cases e with
          | none => rfl
          | some e => exact hexponent e
    · exact fun _ heq => ne_of_isDigit hc rfl (List.cons.inj heq).1
  rw [hchars]
  cases negative with
  | false => exact hunsigned
  | true =>
    rw [Token.isNumber] at hunsigned
    · exact hunsigned
    · exact fun _ heq => ne_of_isDigit hc rfl (List.cons.inj heq).1

lemma valid_toDigits (n : ℕ) : Spelling.Valid ⟨Nat.toDigits 10 n, [], none⟩ where
  whole_ne := Nat.toDigits_ne_nil
  whole_digits _ hc := isDigit_toDigits hc
  whole_head := toDigits_head n
  fraction_digits _ hc := nomatch hc

lemma isLiteral_chars {s : Spelling} (h : s.Valid) (negative : Bool) :
    IsLiteral ((if negative then ['-'] else []) ++ s.chars) where
  start := by
    obtain ⟨c, rest, hchars, hc⟩ := h.exists_whole
    rw [hchars]
    cases negative <;> simp [hc]
  letters := by
    have hdigit : ∀ c, isDigit c → Token.isNumberLetter c := fun c hc => by
      simp [Token.isNumberLetter, hc]
    have hfraction : ∀ c ∈ Spelling.pointed s.fraction, Token.isNumberLetter c := by
      cases hf : s.fraction with
      | nil => exact fun c hc => nomatch hc
      | cons f fraction =>
        rintro c (_ | ⟨_, hc⟩)
        · rfl
        · exact hdigit c (h.fraction_digits c (hf ▸ hc))
    have hexponent : ∀ c ∈ Spelling.scaled s.exponent, Token.isNumberLetter c := by
      cases s.exponent with
      | none => exact fun c hc => nomatch hc
      | some e =>
        rintro c (_ | ⟨_, _ | ⟨_, hc⟩⟩)
        · rfl
        · split_ifs <;> rfl
        · exact hdigit c (isDigit_toDigits hc)
    rw [Spelling.chars, List.all_append, List.all_append, List.all_append,
      List.all_eq_true.mpr hfraction, List.all_eq_true.mpr hexponent,
      List.all_eq_true.mpr fun c hc => hdigit c (h.whole_digits c hc)]
    cases negative <;> rfl
  grammar := isNumber_chars h negative

mutual

/-- The keys of objects are in order, each there once, and all numbers are proper, as in any value
of a document. -/
def isProper : Json → Bool
  | .number n => n.isProper
  | .array items => areProper items
  | .object fields => (fields.map (·.1)).Pairwise (· < ·) && haveProper fields
  | _ => true

def areProper : List Json → Bool
  | [] => true
  | item :: rest => isProper item && areProper rest

def haveProper : List (String × Json) → Bool
  | [] => true
  | (_, value) :: rest => isProper value && haveProper rest

end

mutual

def isWritable : Json → Bool
  | .number n => n.isProper
  | .array items => areWritable items
  | .object fields => haveWritable fields
  | _ => true

def areWritable : List Json → Bool
  | [] => true
  | item :: rest => isWritable item && areWritable rest

def haveWritable : List (String × Json) → Bool
  | [] => true
  | (_, value) :: rest => isWritable value && haveWritable rest

end

mutual

theorem isWritable_of_isProper : ∀ {v : Json}, v.isProper → v.isWritable
  | .null, _ | .bool _, _ | .text _, _ => rfl
  | .number _, h => h
  | .array _, h => areWritable_of_areProper h
  | .object _, h => haveWritable_of_haveProper (Bool.and_eq_true_iff.mp h).2

theorem areWritable_of_areProper : ∀ {items : List Json}, areProper items → areWritable items
  | [], _ => rfl
  | _ :: _, h => by
    obtain ⟨hitem, hrest⟩ := Bool.and_eq_true_iff.mp h
    exact Bool.and_eq_true_iff.mpr ⟨isWritable_of_isProper hitem, areWritable_of_areProper hrest⟩

theorem haveWritable_of_haveProper : ∀ {fields : List (String × Json)}, haveProper fields →
    haveWritable fields
  | [], _ => rfl
  | _ :: _, h => by
    obtain ⟨hvalue, hrest⟩ := Bool.and_eq_true_iff.mp h
    exact Bool.and_eq_true_iff.mpr ⟨isWritable_of_isProper hvalue, haveWritable_of_haveProper hrest⟩

end

/-! Proper objects: their keys are in order, and their values are proper. -/

section
open ListFacts
variable {fields : List (String × Json)} {key : String} {value : Json}

lemma isProper_object_iff : (object fields).isProper ↔
    (fields.map (·.1)).Pairwise (· < ·) ∧ ∀ field ∈ fields, field.2.isProper := by
  have hvalues : haveProper fields ↔ ∀ field ∈ fields, field.2.isProper := by
    induction fields with
    | nil => exact iff_of_true rfl (by simp)
    | cons field fields ih => rw [haveProper, Bool.and_eq_true, ih, List.forall_mem_cons]
  rw [isProper, Bool.and_eq_true, decide_eq_true_eq, hvalues]

lemma isProper_of_lookup (h : (object fields).isProper) (hvalue : fields.lookup key = some value) :
    value.isProper := by
  obtain ⟨before, after, rfl, _⟩ := List.lookup_eq_some_iff.mp hvalue
  exact (isProper_object_iff.mp h).2 (key, value) (by simp)

lemma isProper_ofFields (h : ∀ field ∈ fields, field.2.isProper) : (ofFields fields).isProper := by
  refine isProper_object_iff.mpr ⟨sorted_foldl_insertKey fields .nil, fun field hfield => ?_⟩
  rcases mem_foldl_insertKey hfield with hfield | hnone
  · exact h field hfield
  · cases hnone

end

lemma intChars_eq (n : ℤ) :
    intChars n = (if n < 0 then ['-'] else []) ++ Spelling.chars ⟨Nat.toDigits 10 n.natAbs, [],
      none⟩ := by
  rw [Spelling.chars, Spelling.pointed, Spelling.scaled, List.append_nil, List.append_nil]
  cases n with
  | ofNat n => rfl
  | negSucc n =>
    rw [if_pos (Int.negSucc_lt_zero n)]
    rfl

lemma isLiteral_writeNumber {n : JsonNumber} (h : n.isProper) : IsLiteral (writeNumber n) := by
  cases n with
  | int n =>
    have hn := isLiteral_chars (valid_toDigits n.natAbs) (n < 0)
    rw [writeNumber, intChars_eq]
    simpa using hn
  | real x =>
    obtain ⟨s, hs, _, htext, _⟩ := exists_spelling h
    rw [writeNumber, htext]
    exact isLiteral_chars hs x.isNegative

lemma closes_nil : Closes [] := by
  simp [Closes]

lemma closes_bracket (rest : List Char) : Closes (']' :: rest) := by
  simp [Closes]

lemma closes_brace (rest : List Char) : Closes ('}' :: rest) := by
  simp [Closes]

lemma closes_comma (rest : List Char) : Closes (',' :: rest) := by
  simp [Closes]

open Token

lemma readFrom_colon (rest : List Char) : readFrom .between (':' :: rest) =
    .colon :: readFrom .between rest := rfl

lemma readFrom_comma (rest : List Char) : readFrom .between (',' :: rest) =
    .comma :: readFrom .between rest := rfl

mutual

theorem readFrom_compactChars : ∀ {v : Json}, v.isWritable → ∀ {rest : List Char}, Closes rest →
    readFrom .between (compactChars v ++ rest) = tokens v ++ readFrom .between rest
  | .null, _, _, hrest => readFrom_null hrest
  | .bool b, _, _, hrest => readFrom_bool b hrest
  | .number _, h, _, hrest => readFrom_literal (isLiteral_writeNumber h) hrest
  | .text s, _, rest, _ => readFrom_writeText s rest
  | .array items, h, rest, _ => by
    have hitems : areWritable items := h
    have ih := readFrom_compactItems hitems (closes_bracket rest)
    rw [compactChars, tokens, List.append_assoc, List.append_assoc]
    exact congrArg (Token.openBracket :: ·) ih
  | .object fields, h, rest, _ => by
    have hfields : haveWritable fields := h
    have ih := readFrom_compactFields hfields (closes_brace rest)
    rw [compactChars, tokens, List.append_assoc, List.append_assoc]
    exact congrArg (Token.openBrace :: ·) ih

theorem readFrom_compactItems : ∀ {items : List Json}, areWritable items →
    ∀ {rest : List Char}, Closes rest →
    readFrom .between (compactItems items ++ rest) = itemTokens items ++ readFrom .between rest
  | [], _, _, _ => rfl
  | [_], h, _, hrest => readFrom_compactChars (Bool.and_eq_true_iff.mp h).1 hrest
  | item :: next :: more, h, rest, hrest => by
    obtain ⟨hitem, hmore⟩ := Bool.and_eq_true_iff.mp h
    have hmore : areWritable (next :: more) := hmore
    have ih := readFrom_compactItems hmore hrest
    have hvalue :=
      readFrom_compactChars (v := item) hitem (closes_comma (compactItems (next :: more) ++ rest))
    rw [readFrom_comma, ih] at hvalue
    simpa [compactItems, itemTokens] using hvalue

theorem readFrom_compactFields : ∀ {fields : List (String × Json)}, haveWritable fields →
    ∀ {rest : List Char}, Closes rest →
    readFrom .between (compactFields fields ++ rest) = fieldTokens fields ++ readFrom .between rest
  | [], _, _, _ => rfl
  | [(key, value)], h, rest, hrest => by
    have hvalue := readFrom_compactChars (v := value) (Bool.and_eq_true_iff.mp h).1 hrest
    simp [compactFields, fieldTokens, readFrom_writeText, readFrom_colon, hvalue]
  | (key, value) :: next :: more, h, rest, hrest => by
    obtain ⟨hitem, hmore⟩ := Bool.and_eq_true_iff.mp h
    have hmore : haveWritable (next :: more) := hmore
    have ih := readFrom_compactFields hmore hrest
    have hvalue :=
      readFrom_compactChars (v := value) hitem (closes_comma (compactFields (next :: more) ++ rest))
    rw [readFrom_comma, ih] at hvalue
    simp [compactFields, fieldTokens, readFrom_writeText, readFrom_colon, hvalue]

end

end Json

end Compliance
