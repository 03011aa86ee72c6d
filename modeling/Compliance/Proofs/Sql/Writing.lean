import Compliance.Proofs.Sql.Quoting
import Compliance.Sql.Token

/-! Texts put together from tokens and blanks. Such a text is read as the tokens it was made of, as
long as each of its tokens ends where the next one begins and every quoted name in it is quotable;
with any other name it is read as something else. -/

namespace Compliance.Sql

namespace Token

open Number (isDigit)

def write : Token → List Char
  | .word s | .number s | .symbol s => s.toList
  | .name s => Identifier.quoteChars s.toList
  | .text s => '\'' :: s.toList ++ ['\'']
  | .placeholder _ => ['?']

def opensWord (c : Char) : Bool :=
  !Text.isBlank c && !(['"', '`', '\'', '?'].contains c) && !isDigit c && isWordStart c

def opensSymbol (c : Char) : Bool :=
  !Text.isBlank c && !(['"', '`', '\'', '?'].contains c) && !isDigit c && !isWordStart c

def opensOther (first second : Char) : Bool :=
  first = '-' && second = '-' || first = '/' && second = '*' || first = '.' && isDigit second

def standsBefore (next : Option Char) : Token → Bool
  | .word s =>
    match s.toList with
    | [] => false
    | c :: rest => opensWord c && rest.all isWordPart && next.all (!isWordPart ·)
  | .number s => !s.toList.isEmpty && s.toList.all isDigit && next.all fun c => !isDigit c && c ≠ '.'
  | .name _ => next ≠ some '"'
  | .text s => !s.toList.contains '\'' && next ≠ some '\''
  | .placeholder _ => true
  | .symbol s =>
    match s.toList with
    | [c] => opensSymbol c && next.all fun d => !opensOther c d && !doubleSymbols.contains (c, d)
    | [c, d] => opensSymbol c && !opensOther c d && doubleSymbols.contains (c, d)
    | _ => false

def isPlaceholder : Token → Bool
  | .placeholder _ => true
  | _ => false

def name? : Token → Option String
  | .name s => some s
  | _ => none

namespace Reader

def resume (tokens : List Token) (placeholders : ℕ) (text : List Char) :
    Except Unfinished (List Token) :=
  (text.foldl step ⟨tokens, placeholders, .between⟩).finish

lemma resume_cons (tokens : List Token) (placeholders : ℕ) (c : Char) (rest : List Char) :
    resume tokens placeholders (c :: rest) =
      (rest.foldl step (begin ⟨tokens, placeholders, .between⟩ c)).finish := by
  rw [resume, List.foldl_cons, step]

lemma finish_foldl (r : Reader) (token : Token) (rest : List Char)
    (hend : r.finish = .ok (token :: r.tokens).reverse)
    (hstep : ∀ c ∈ rest.head?, r.step c = (r.emit token).begin c) :
    (rest.foldl step r).finish = resume (token :: r.tokens) r.placeholders rest := by
  cases rest with
  | nil => exact hend
  | cons c rest => rw [List.foldl_cons, hstep c rfl]; rfl

lemma begin_opensWord {c : Char} (h : opensWord c) (r : Reader) : r.begin c = r.enter (.word [c]) := by
  simp only [opensWord, Bool.and_eq_true, Bool.not_eq_true'] at h
  obtain ⟨⟨⟨hb, hm⟩, hd⟩, hw⟩ := h
  simp only [List.contains_cons, List.contains_nil, Bool.or_false, Bool.or_eq_false_iff,
    beq_eq_false_iff_ne] at hm
  simp [begin, hb, hm, hd, hw]

lemma begin_opensSymbol {c : Char} (h : opensSymbol c) (r : Reader) :
    r.begin c = r.enter (.symbol c) := by
  simp only [opensSymbol, Bool.and_eq_true, Bool.not_eq_true'] at h
  obtain ⟨⟨⟨hb, hm⟩, hd⟩, hw⟩ := h
  simp only [List.contains_cons, List.contains_nil, Bool.or_false, Bool.or_eq_false_iff,
    beq_eq_false_iff_ne] at hm
  simp [begin, hb, hm, hd, hw]

lemma foldl_word (tokens : List Token) (n : ℕ) (read word : List Char) (h : ∀ c ∈ word, isWordPart c) :
    word.foldl step ⟨tokens, n, .word read⟩ = ⟨tokens, n, .word (word.reverse ++ read)⟩ := by
  induction word generalizing read with
  | nil => rfl
  | cons c word ih =>
    rw [List.forall_mem_cons] at h
    have hs : step ⟨tokens, n, .word read⟩ c = ⟨tokens, n, .word (c :: read)⟩ := by
      simp [step, enter, h.1]
    rw [List.foldl_cons, hs, ih (c :: read) h.2]
    simp

lemma foldl_number (tokens : List Token) (n : ℕ) (read digits : List Char)
    (h : ∀ c ∈ digits, isDigit c) :
    digits.foldl step ⟨tokens, n, .number read⟩ = ⟨tokens, n, .number (digits.reverse ++ read)⟩ := by
  induction digits generalizing read with
  | nil => rfl
  | cons c digits ih =>
    rw [List.forall_mem_cons] at h
    have hs : step ⟨tokens, n, .number read⟩ c = ⟨tokens, n, .number (c :: read)⟩ := by
      simp [step, enter, h.1]
    rw [List.foldl_cons, hs, ih (c :: read) h.2]
    simp

lemma foldl_text (tokens : List Token) (n : ℕ) (read chars : List Char) (h : '\'' ∉ chars) :
    chars.foldl step ⟨tokens, n, .text read⟩ = ⟨tokens, n, .text (chars.reverse ++ read)⟩ := by
  induction chars generalizing read with
  | nil => rfl
  | cons c chars ih =>
    rw [List.mem_cons, not_or] at h
    have hs : step ⟨tokens, n, .text read⟩ c = ⟨tokens, n, .text (c :: read)⟩ := by
      simp [step, enter, Ne.symm h.1]
    rw [List.foldl_cons, hs, ih (c :: read) h.2]
    simp

lemma finish_foldl_name (tokens : List Token) (n : ℕ) (read rest : List Char) :
    (rest.foldl step ⟨tokens, n, .name '"' read⟩).finish =
      match Identifier.readFrom rest with
      | some (chars, after) => resume (.name (String.ofList (read.reverse ++ chars)) :: tokens) n after
      | none => .error .name := by
  induction hn : rest.length using Nat.strong_induction_on generalizing read rest with
  | h k ih =>
    subst hn
    cases rest with
    | nil => rfl
    | cons c rest =>
      by_cases hc : c = '"'
      swap
      · have hs : step ⟨tokens, n, .name '"' read⟩ c = ⟨tokens, n, .name '"' (c :: read)⟩ := by
          simp [step, enter, hc]
        rw [List.foldl_cons, hs, ih rest.length (by simp) (c :: read) rest rfl,
          Identifier.readFrom_of_ne hc]
        cases Identifier.readFrom rest <;> simp
      subst c
      have hs : step ⟨tokens, n, .name '"' read⟩ '"' = ⟨tokens, n, .nameEnd '"' read⟩ := by
        simp [step, enter]
      rw [List.foldl_cons, hs]
      by_cases hr : Identifier.StartsWithQuote rest
      · obtain ⟨rest, rfl⟩ : ∃ t, rest = '"' :: t := List.head?_eq_some_iff.mp hr
        have hd : step ⟨tokens, n, .nameEnd '"' read⟩ '"' =
          ⟨tokens, n, .name '"' ('"' :: read)⟩ := by simp [step, enter]
        rw [List.foldl_cons, hd, ih rest.length (by simp only [List.length_cons]; omega)
          ('"' :: read) rest rfl, Identifier.readFrom_pair]
        cases Identifier.readFrom rest <;> simp
      · rw [Identifier.readFrom_close hr, finish_foldl _ (.name (string read)) rest rfl]
        · simp [string]
        · intro c hc
          have hne : c ≠ '"' := fun he => hr (by rw [Identifier.StartsWithQuote, ← he]; exact hc)
          simp [step, hne]

lemma tokens_begin (r : Reader) (c : Char) : r.tokens <:+ (r.begin c).tokens := by
  unfold begin
  split_ifs <;> simp [enter, emit]

lemma tokens_step (r : Reader) (c : Char) : r.tokens <:+ (r.step c).tokens := by
  have hb : ∀ token, r.tokens <:+ ((r.emit token).begin c).tokens := fun token =>
    (List.suffix_cons token r.tokens).trans (tokens_begin (r.emit token) c)
  unfold step
  split
  · exact tokens_begin r c
  all_goals split_ifs <;> first | exact hb _ | simp [enter, emit]

lemma tokens_foldl (r : Reader) (text : List Char) : r.tokens <:+ (text.foldl step r).tokens := by
  induction text generalizing r with
  | nil => exact List.suffix_rfl
  | cons c text ih => exact (tokens_step r c).trans (ih (r.step c))

lemma tokens_finish {r : Reader} {tokens : List Token} (h : r.finish = .ok tokens) :
    r.tokens.reverse <+: tokens := by
  unfold finish at h
  split at h <;> cases h <;> simp

lemma prefix_of_resume {tokens result : List Token} {n : ℕ} {text : List Char}
    (h : resume tokens n text = .ok result) :
    tokens.reverse <+: result :=
  (List.reverse_prefix.mpr (tokens_foldl ⟨tokens, n, .between⟩ text)).trans (tokens_finish h)

lemma resume_blank (tokens : List Token) (n : ℕ) (rest : List Char) :
    resume tokens n (' ' :: rest) = resume tokens n rest := by
  rw [resume_cons]
  rfl

lemma resume_word {s : String} {rest : List Char} (h : (word s).standsBefore rest.head?)
    (tokens : List Token) (n : ℕ) :
    resume tokens n (s.toList ++ rest) = resume (.word s :: tokens) n rest := by
  cases hs : s.toList with
  | nil => simp [standsBefore, hs] at h
  | cons c chars =>
    simp only [standsBefore, hs, Bool.and_eq_true, List.all_eq_true] at h
    obtain ⟨⟨hc, hw⟩, hr⟩ := h
    have ht : word (string (chars.reverse ++ [c])) = word s := by simp [string, ← hs]
    rw [List.cons_append, resume_cons, begin_opensWord hc, List.foldl_append, enter,
      foldl_word _ _ _ _ hw, finish_foldl _ (word s) rest]
    · simp [finish, ht]
    · intro d hd
      rw [Option.mem_def.mp hd, Option.all_some, Bool.not_eq_true'] at hr
      simp [step, hr, ht]

lemma begin_digit {c : Char} (h : isDigit c) (r : Reader) : r.begin c = r.enter (.number [c]) := by
  have hn : 48 ≤ c.toNat ∧ c.toNat ≤ 57 := by
    rw [isDigit, Bool.and_eq_true, decide_eq_true_eq, decide_eq_true_eq] at h
    exact h
  have hb : Text.isBlank c = false := by
    simp only [Text.isBlank, Bool.or_eq_false_iff, Bool.and_eq_false_iff, decide_eq_false_iff_not]
    omega
  have hm : ∀ m : Char, ¬ (48 ≤ m.toNat ∧ m.toNat ≤ 57) → c ≠ m := fun m hm he => hm (he ▸ hn)
  simp [begin, hb, h, hm '"' (by decide), hm '`' (by decide), hm '\'' (by decide), hm '?' (by decide)]

lemma resume_number {s : String} {rest : List Char} (h : (number s).standsBefore rest.head?)
    (tokens : List Token) (n : ℕ) : resume tokens n (s.toList ++ rest) =
      resume (.number s :: tokens) n rest := by
  cases hs : s.toList with
  | nil => simp [standsBefore, hs] at h
  | cons c chars =>
    simp only [standsBefore, hs, Bool.and_eq_true, List.all_eq_true, List.forall_mem_cons] at h
    obtain ⟨⟨_, hc, hd⟩, hr⟩ := h
    have ht : number (string (chars.reverse ++ [c])) = number s := by simp [string, ← hs]
    rw [List.cons_append, resume_cons, begin_digit hc, List.foldl_append, enter, foldl_number _ _ _ _ hd,
      finish_foldl _ (number s) rest]
    · simp [finish, ht]
    · intro d hm
      rw [Option.mem_def.mp hm] at hr
      simp only [Option.all_some, Bool.and_eq_true, Bool.not_eq_true', decide_eq_true_eq] at hr
      simp [step, hr, ht]

lemma resume_text {s : String} {rest : List Char} (h : (text s).standsBefore rest.head?)
    (tokens : List Token) (n : ℕ) :
    resume tokens n ((text s).write ++ rest) = resume (.text s :: tokens) n rest := by
  simp only [standsBefore, Bool.and_eq_true, Bool.not_eq_true', decide_eq_true_eq] at h
  obtain ⟨hs, hr⟩ := h
  have hb : begin ⟨tokens, n, .between⟩ '\'' = ⟨tokens, n, .text []⟩ := rfl
  have he : step ⟨tokens, n, .text s.toList.reverse⟩ '\'' = ⟨tokens, n, .textEnd s.toList.reverse⟩ := rfl
  rw [write, List.cons_append, List.cons_append, resume_cons, hb, List.append_assoc, List.foldl_append,
    foldl_text _ _ _ _ (by simpa using hs), List.append_nil, List.singleton_append, List.foldl_cons, he]
  have ht : text (string s.toList.reverse) = text s := by simp [string]
  rw [finish_foldl _ (text s) rest]
  · simp [finish, ht]
  · intro d hd
    have hne : d ≠ '\'' := fun h => hr (h ▸ hd)
    simp [step, hne, ht]

lemma step_symbol {c d : Char} (ho : opensOther c d = false) (tokens : List Token) (n : ℕ) :
    step ⟨tokens, n, .symbol c⟩ d =
      if doubleSymbols.contains (c, d) then ⟨.symbol (string [d, c]) :: tokens, n, .between⟩
      else begin ⟨.symbol (string [c]) :: tokens, n, .between⟩ d := by
  simp only [opensOther, Bool.or_eq_false_iff, Bool.and_eq_false_iff, decide_eq_false_iff_not] at ho
  obtain ⟨⟨hl, hb⟩, hd⟩ := ho
  simp only [step]
  rw [if_neg (by tauto), if_neg (by tauto), if_neg (by simpa [imp_iff_not_or] using hd)]
  rfl

lemma resume_symbol {s : String} {rest : List Char} (h : (symbol s).standsBefore rest.head?)
    (tokens : List Token) (n : ℕ) : resume tokens n (s.toList ++ rest) =
      resume (.symbol s :: tokens) n rest := by
  match hs : s.toList with
  | [] => simp [standsBefore, hs] at h
  | [c] =>
    simp only [standsBefore, hs, Bool.and_eq_true] at h
    obtain ⟨hc, hr⟩ := h
    have ht : symbol (string [c]) = symbol s := by
      rw [string, List.reverse_singleton, ← hs, String.ofList_toList]
    rw [List.singleton_append, resume_cons, begin_opensSymbol hc, enter, finish_foldl _ (symbol s) rest]
    · simp [finish, ht]
    · intro d hd
      rw [Option.mem_def.mp hd] at hr
      simp only [Option.all_some, Bool.and_eq_true, Bool.not_eq_true'] at hr
      rw [step_symbol hr.1, hr.2, if_neg Bool.false_ne_true, ht]
      rfl
  | [c, d] =>
    simp only [standsBefore, hs, Bool.and_eq_true, Bool.not_eq_true'] at h
    obtain ⟨⟨hc, ho⟩, hd⟩ := h
    have ht : symbol (string [d, c]) = symbol s := by simp [string, ← hs]
    rw [List.cons_append, resume_cons, begin_opensSymbol hc, enter, List.singleton_append,
      List.foldl_cons, step_symbol ho, if_pos hd, ht]
    rfl
  | _ :: _ :: _ :: _ => simp [standsBefore, hs] at h

lemma resume_name (s : String) (rest : List Char) (tokens : List Token) (n : ℕ) :
    resume tokens n ((name s).write ++ rest) =
      match Identifier.readFrom (Identifier.quoteFrom '\x00' s.toList ++ '"' :: rest) with
      | some (chars, after) => resume (.name (String.ofList chars) :: tokens) n after
      | none => .error .name := by
  have hb : begin ⟨tokens, n, .between⟩ '"' = ⟨tokens, n, .name '"' []⟩ := rfl
  rw [write, Identifier.quoteChars, List.cons_append, List.cons_append, resume_cons, hb,
    List.append_assoc, List.singleton_append, finish_foldl_name]
  rfl

lemma resume_name_iff {s : String} {rest : List Char} (ha : ¬ Identifier.StartsWithQuote rest)
    (tokens : List Token) (n : ℕ) (more : List Token) :
    resume tokens n ((name s).write ++ rest) = .ok ((.name s :: tokens).reverse ++ more) ↔
      Identifier.Quotable s ∧ resume (.name s :: tokens) n rest =
        .ok ((.name s :: tokens).reverse ++ more) := by
  rw [resume_name]
  constructor
  · intro h
    cases hr : Identifier.readFrom (Identifier.quoteFrom '\x00' s.toList ++ '"' :: rest) with
    | none => simp [hr] at h
    | some result =>
      obtain ⟨chars, after⟩ := result
      rw [hr] at h
      -- the name that is read is the next token wanted, so that it is `s`, and it ends where it was
      -- written to end
      have hprefix := List.prefix_of_prefix_length_le (prefix_of_resume h)
        (List.prefix_append ((.name s :: tokens).reverse) more) (by simp)
      obtain rfl : String.ofList chars = s := by
        simpa using hprefix.eq_of_length (by simp)
      have hq :=
        (Identifier.readFrom_quoteChars_iff ha (String.ofList chars)).mp ⟨after, by simpa using hr⟩
      have hrest := Identifier.readFrom_quoteFrom ha ((Identifier.quotable_iff _).mp hq)
      rw [String.toList_ofList] at hrest hr
      obtain ⟨rfl⟩ : after = rest := by simpa using hr.symm.trans hrest
      exact ⟨hq, h⟩
  · rintro ⟨hq, h⟩
    rw [Identifier.readFrom_quoteFrom ha ((Identifier.quotable_iff s).mp hq)]
    simpa using h

lemma resume_token {token : Token} {rest : List Char} (h : token.standsBefore rest.head?)
    (tokens : List Token) (n : ℕ) (hname : ∀ s, token ≠ .name s)
    (hnumber : ∀ i, token = .placeholder i → i = n) :
    resume tokens n (token.write ++ rest) = resume (token :: tokens)
      (n + token.isPlaceholder.toNat) rest := by
  cases token with
  | word s => exact resume_word h tokens n
  | name s => exact absurd rfl (hname s)
  | number s => exact resume_number h tokens n
  | text s => exact resume_text h tokens n
  | placeholder i =>
    obtain rfl := hnumber i rfl
    rfl
  | symbol s => exact resume_symbol h tokens n

end Reader

end Token

inductive Piece
  | blank
  | token (t : Token)

namespace Piece

abbrev word (s : String) : Piece := token (.word s)
abbrev name (s : String) : Piece := token (.name s)
abbrev symbol (s : String) : Piece := token (.symbol s)
abbrev text (s : String) : Piece := token (.text s)
abbrev number (s : String) : Piece := token (.number s)
abbrev placeholder (i : ℕ) : Piece := token (.placeholder i)

def write : Piece → List Char
  | blank => [' ']
  | token t => t.write

def token? : Piece → Option Token
  | blank => none
  | token t => some t

def writeAll (pieces : List Piece) : List Char := pieces.flatMap write

def tokens (pieces : List Piece) : List Token := pieces.filterMap token?

lemma writeAll_append (a b : List Piece) : writeAll (a ++ b) = writeAll a ++ writeAll b :=
  List.flatMap_append

lemma tokens_append (a b : List Piece) : tokens (a ++ b) = tokens a ++ tokens b := List.filterMap_append

def Stand : ℕ → List Piece → Prop
  | _, [] => True
  | n, blank :: rest => Stand n rest
  | n, token t :: rest => t.standsBefore (writeAll rest).head? ∧ (∀ i, t = .placeholder i → i = n) ∧
      Stand (n + t.isPlaceholder.toNat) rest

open Token.Reader in
lemma resume_writeAll_iff {n : ℕ} {pieces : List Piece} (h : Stand n pieces) (read : List Token) :
    resume read n (writeAll pieces) = .ok (read.reverse ++ tokens pieces) ↔
      ∀ s, name s ∈ pieces → Identifier.Quotable s := by
  induction pieces generalizing n read with
  | nil => simp [writeAll, tokens, resume, finish]
  | cons piece rest ih =>
    cases piece with
    | blank =>
      have hr : resume read n (writeAll (blank :: rest)) = resume read n (writeAll rest) :=
        resume_blank read n _
      rw [hr, show tokens (blank :: rest) = tokens rest from rfl, ih h]
      simp
    | token t =>
      obtain ⟨hs, hn, hr⟩ := h
      have ht : read.reverse ++ tokens (token t :: rest) = (t :: read).reverse ++ tokens rest := by
        simp [tokens, token?]
      have hw : writeAll (token t :: rest) = t.write ++ writeAll rest := rfl
      rw [ht, hw]
      by_cases hname : ∃ s, t = .name s
      swap
      · have hne : ∀ s, t ≠ .name s := fun s he => hname ⟨s, he⟩
        rw [resume_token hs read n hne hn, ih hr]
        simp [fun s => Ne.symm (hne s)]
      obtain ⟨s, rfl⟩ := hname
      have ha : ¬ Identifier.StartsWithQuote (writeAll rest) := by
        rw [Token.standsBefore, decide_eq_true_eq] at hs
        exact hs
      have hr : Stand n rest := hr
      rw [resume_name_iff ha, ih hr]
      simp

theorem read_writeAll_iff {pieces : List Piece} (h : Stand 0 pieces) :
    Token.read (writeAll pieces) = .ok (tokens pieces) ↔ ∀ s, name s ∈ pieces → Identifier.Quotable s :=
  resume_writeAll_iff h []

end Piece

end Compliance.Sql
