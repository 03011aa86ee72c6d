import Mathlib.Data.List.Infix
import Mathlib.Tactic.Lemma
import Compliance.Sql.Identifier

/-! Which names come back from between their quotes: those in which no quote stands beside another
or after a backslash. Every other name is read as a different one, whatever follows it. -/

namespace Compliance.Sql.Identifier

def Quotable (name : String) : Prop := ¬ ['"', '"'] <:+: name.toList ∧ ¬ ['\\', '"'] <:+: name.toList

instance (name : String) : Decidable (Quotable name) := by unfold Quotable; infer_instance

lemma quotable_of_no_quote {name : String} (h : '"' ∉ name.toList) : Quotable name :=
  ⟨fun hi => h (hi.subset (by simp)), fun hi => h (hi.subset (by simp))⟩

def StartsWithQuote (s : List Char) : Prop := s.head? = some '"'

instance : DecidablePred StartsWithQuote := fun s => inferInstanceAs (Decidable (s.head? = some '"'))

def Kept : Char → List Char → Prop
  | _, [] => True
  | before, c :: rest => (c = '"' → before ≠ '\\' ∧ ¬ StartsWithQuote rest) ∧ Kept c rest

lemma kept_iff (before : Char) (name : List Char) :
    Kept before name ↔ ¬ ['"', '"'] <:+: name ∧ ¬ ['\\', '"'] <:+: before :: name := by
  induction name generalizing before with
  | nil =>
    exact iff_of_true trivial ⟨fun hi => absurd hi.length_le (by simp), fun hi =>
      absurd hi.length_le (by simp)⟩
  | cons c rest ih =>
    have hq : ['"', '"'] <:+: c :: rest ↔ (c = '"' ∧ StartsWithQuote rest) ∨ ['"', '"'] <:+: rest := by
      rw [List.infix_cons_iff]
      cases rest <;> simp [StartsWithQuote, List.cons_prefix_cons, @eq_comm _ '"']
    have hb : ['\\', '"'] <:+: before :: c :: rest ↔
      (before = '\\' ∧ c = '"') ∨ ['\\', '"'] <:+: c :: rest := by
      rw [List.infix_cons_iff]
      simp [List.cons_prefix_cons, @eq_comm _ '"', @eq_comm _ '\\']
    simp only [Kept, ih c, hq, hb]
    tauto

lemma quotable_iff (name : String) : Quotable name ↔ Kept '\x00' name.toList := by
  have hb : ['\\', '"'] <:+: '\x00' :: name.toList ↔ ['\\', '"'] <:+: name.toList := by
    rw [List.infix_cons_iff]
    simp
  rw [kept_iff, hb, Quotable]

lemma quoteFrom_cons (before c : Char) (rest : List Char) :
    quoteFrom before (c :: rest) =
      if c ≠ '"' then c :: quoteFrom c rest
      else if before = '\\' then '"' :: quoteFrom before rest
      else '"' :: '"' :: quoteFrom '"' (if StartsWithQuote rest then rest.tail else rest) := by
  by_cases hc : c = '"'
  swap
  · rw [if_pos hc, quoteFrom] <;> simp [hc]
  subst c
  rw [if_neg (not_not.mpr rfl)]
  by_cases hs : StartsWithQuote rest
  · obtain ⟨tail, rfl⟩ : ∃ t, rest = '"' :: t := List.head?_eq_some_iff.mp hs
    rw [if_pos hs, quoteFrom]
    rfl
  · rw [if_neg hs, quoteFrom]
    rintro tail rfl
    exact hs rfl

lemma readFrom_cons (c : Char) (rest : List Char) :
    readFrom (c :: rest) =
      if c ≠ '"' then (readFrom rest).map fun (name, after) => (c :: name, after)
      else if StartsWithQuote rest then (readFrom rest.tail).map fun (name, after) =>
        ('"' :: name, after)
      else some ([], rest) := by
  by_cases hc : c = '"'
  swap
  · rw [if_pos hc, readFrom] <;> simp [hc]
  subst c
  rw [if_neg (not_not.mpr rfl)]
  by_cases hs : StartsWithQuote rest
  · obtain ⟨tail, rfl⟩ : ∃ t, rest = '"' :: t := List.head?_eq_some_iff.mp hs
    rw [if_pos hs, readFrom]
    rfl
  · rw [if_neg hs, readFrom]
    rintro tail rfl
    exact hs rfl

lemma quoteFrom_of_ne {c : Char} (hc : c ≠ '"') (before : Char) (rest : List Char) :
    quoteFrom before (c :: rest) = c :: quoteFrom c rest := by
  rw [quoteFrom_cons, if_pos hc]

lemma quoteFrom_after_backslash (rest : List Char) :
    quoteFrom '\\' ('"' :: rest) = '"' :: quoteFrom '\\' rest := by
  rw [quoteFrom_cons, if_neg (not_not.mpr rfl), if_pos rfl]

lemma quoteFrom_pair {before : Char} (hb : before ≠ '\\') (rest : List Char) :
    quoteFrom before ('"' :: '"' :: rest) = '"' :: '"' :: quoteFrom '"' rest := by
  rw [quoteFrom_cons, if_neg (not_not.mpr rfl), if_neg hb]
  rfl

lemma quoteFrom_single {before : Char} {rest : List Char} (hb : before ≠ '\\')
    (hr : ¬ StartsWithQuote rest) :
    quoteFrom before ('"' :: rest) = '"' :: '"' :: quoteFrom '"' rest := by
  rw [quoteFrom_cons, if_neg (not_not.mpr rfl), if_neg hb, if_neg hr]

lemma readFrom_of_ne {c : Char} (hc : c ≠ '"') (rest : List Char) :
    readFrom (c :: rest) = (readFrom rest).map fun (name, after) => (c :: name, after) := by
  rw [readFrom_cons, if_pos hc]

lemma readFrom_pair (rest : List Char) :
    readFrom ('"' :: '"' :: rest) = (readFrom rest).map fun (name, after) => ('"' :: name, after) := by
  have hs : StartsWithQuote ('"' :: rest) := rfl
  rw [readFrom_cons, if_neg (not_not.mpr rfl), if_pos hs, List.tail_cons]

lemma readFrom_close {after : List Char} (ha : ¬ StartsWithQuote after) :
    readFrom ('"' :: after) = some ([], after) := by
  rw [readFrom_cons, if_neg (not_not.mpr rfl), if_neg ha]

lemma readFrom_quoted {c : Char} {rest name after : List Char} (hc : c ≠ '"')
    (h : readFrom (c :: rest) = some (name, after)) : ∃ tail, name = c :: tail ∧
      readFrom rest = some (tail, after) := by
  rw [readFrom_of_ne hc, Option.map_eq_some_iff] at h
  obtain ⟨⟨tail, _⟩, hr, he⟩ := h
  cases he
  exact ⟨tail, rfl, hr⟩

lemma readFrom_pair_some {rest name after : List Char}
    (h : readFrom ('"' :: '"' :: rest) = some (name, after)) :
    ∃ tail, name = '"' :: tail ∧ readFrom rest = some (tail, after) := by
  rw [readFrom_pair, Option.map_eq_some_iff] at h
  obtain ⟨⟨tail, _⟩, hr, he⟩ := h
  cases he
  exact ⟨tail, rfl, hr⟩

lemma startsWithQuote_of_readFrom {s tail after : List Char}
    (h : readFrom s = some ('"' :: tail, after)) :
    StartsWithQuote s := by
  cases s with
  | nil => cases h
  | cons c rest =>
    by_cases hc : c = '"'
    · rw [hc]; rfl
    · obtain ⟨_, he, _⟩ := readFrom_quoted hc h
      exact absurd (List.cons.inj he).1.symm hc

lemma readFrom_nil_of {s after : List Char} (h : readFrom s = some ([], after)) : StartsWithQuote s := by
  cases s with
  | nil => cases h
  | cons c rest =>
    by_cases hc : c = '"'
    · rw [hc]; rfl
    · obtain ⟨_, he, _⟩ := readFrom_quoted hc h
      cases he

lemma readFrom_quoteFrom {after : List Char} (ha : ¬ StartsWithQuote after) {before : Char}
    {name : List Char} (h : Kept before name) : readFrom (quoteFrom before name ++ '"' :: after) =
      some (name, after) := by
  induction name generalizing before with
  | nil => exact readFrom_close ha
  | cons c rest ih =>
    obtain ⟨hq, hr⟩ := h
    by_cases hc : c = '"'
    · subst c
      obtain ⟨hb, hs⟩ := hq rfl
      rw [quoteFrom_single hb hs, List.cons_append, List.cons_append, readFrom_pair, ih hr]
      rfl
    · rw [quoteFrom_of_ne hc, List.cons_append, readFrom_of_ne hc, ih hr]
      rfl

lemma replicate_append_quote (k : ℕ) (name : List Char) :
    List.replicate k '"' ++ '"' :: name = List.replicate (k + 1) '"' ++ name := by
  rw [List.replicate_succ', List.append_assoc, List.singleton_append]

/-- Once the reading is behind by a quote, it stays behind. -/
lemma readFrom_quoteFrom_behind {after : List Char} (ha : ¬ StartsWithQuote after) (before : Char)
    (name : List Char) (k : ℕ) (rest : List Char) :
    readFrom (quoteFrom before name ++ '"' :: after) ≠
      some (List.replicate (k + 1) '"' ++ name, rest) := by
  -- a pair of quotes is passed at once, so the induction is on the length
  induction hn : name.length using Nat.strong_induction_on generalizing before name k with
  | h n ih =>
    subst hn
    intro h
    cases name with
    | nil =>
      change readFrom ('"' :: after) = _ at h
      rw [readFrom_close ha] at h
      simp [List.replicate_succ] at h
    | cons c tail =>
      by_cases hc : c = '"'
      swap
      · rw [quoteFrom_of_ne hc] at h
        obtain ⟨_, he, _⟩ := readFrom_quoted hc h
        exact hc (List.cons.inj he).1.symm
      subst c
      rw [replicate_append_quote, List.replicate_succ] at h
      by_cases hb : before = '\\'
      · -- every quote of the run is copied, so that two of them are read as one
        subst hb
        rw [quoteFrom_after_backslash] at h
        cases tail with
        | nil =>
          obtain ⟨_, he, hr⟩ := readFrom_pair_some h
          cases he
          exact ha (startsWithQuote_of_readFrom hr)
        | cons d tail =>
          by_cases hd : d = '"'
          · subst d
            rw [quoteFrom_after_backslash] at h
            obtain ⟨_, he, hr⟩ := readFrom_pair_some h
            cases he
            simp only [List.append_eq, replicate_append_quote] at hr
            exact ih tail.length (by simp only [List.length_cons]; omega) '\\' tail (k + 1) rfl hr
          · rw [quoteFrom_of_ne hd, List.cons_append,
              readFrom_close (by simpa [StartsWithQuote] using hd)] at h
            simp at h
      · by_cases hs : StartsWithQuote tail
        · obtain ⟨tail, rfl⟩ : ∃ t, tail = '"' :: t := List.head?_eq_some_iff.mp hs
          rw [quoteFrom_pair hb] at h
          obtain ⟨_, he, hr⟩ := readFrom_pair_some h
          cases he
          simp only [List.append_eq, replicate_append_quote] at hr
          exact ih tail.length (by simp only [List.length_cons]; omega) '"' tail (k + 1) rfl hr
        · rw [quoteFrom_single hb hs] at h
          obtain ⟨_, he, hr⟩ := readFrom_pair_some h
          cases he
          exact ih tail.length (by simp) '"' tail k rfl hr

lemma kept_of_readFrom {after : List Char} (ha : ¬ StartsWithQuote after) {before : Char}
    {name rest : List Char} (hb : before = '\\' → ¬ StartsWithQuote name)
    (h : readFrom (quoteFrom before name ++ '"' :: after) = some (name, rest)) : Kept before name := by
  induction name generalizing before with
  | nil => trivial
  | cons c tail ih =>
    by_cases hc : c = '"'
    · subst c
      have hbefore : before ≠ '\\' := fun he => hb he rfl
      by_cases hs : StartsWithQuote tail
      · obtain ⟨tail, rfl⟩ : ∃ t, tail = '"' :: t := List.head?_eq_some_iff.mp hs
        rw [quoteFrom_pair hbefore] at h
        obtain ⟨_, he, hr⟩ := readFrom_pair_some h
        cases he
        exact absurd hr (readFrom_quoteFrom_behind ha '"' tail 0 rest)
      · rw [quoteFrom_single hbefore hs] at h
        obtain ⟨_, he, hr⟩ := readFrom_pair_some h
        cases he
        exact ⟨fun _ => ⟨hbefore, hs⟩, ih (by simp) hr⟩
    · rw [quoteFrom_of_ne hc] at h
      obtain ⟨_, he, hr⟩ := readFrom_quoted hc h
      cases he
      refine ⟨fun he => absurd he hc, ih (fun hback hs => ?_) hr⟩
      subst hback
      obtain ⟨tail, rfl⟩ : ∃ t, tail = '"' :: t := List.head?_eq_some_iff.mp hs
      rw [quoteFrom_after_backslash] at hr
      cases tail with
      | nil =>
        obtain ⟨_, he, hr⟩ := readFrom_pair_some hr
        cases he
        exact ha (readFrom_nil_of hr)
      | cons d tail =>
        by_cases hd : d = '"'
        · subst d
          rw [quoteFrom_after_backslash] at hr
          obtain ⟨_, he, hr⟩ := readFrom_pair_some hr
          cases he
          exact readFrom_quoteFrom_behind ha '\\' tail 0 rest hr
        · simp only [quoteFrom_of_ne hd, List.append_eq, List.cons_append] at hr
          rw [readFrom_close (by simpa [StartsWithQuote] using hd)] at hr
          simp at hr

theorem readFrom_quoteChars_iff {after : List Char} (ha : ¬ StartsWithQuote after) (name : String) :
    (∃ rest, readFrom (quoteFrom '\x00' name.toList ++ '"' :: after) = some (name.toList, rest)) ↔
      Quotable name := by
  rw [quotable_iff]
  constructor
  · rintro ⟨rest, h⟩
    exact kept_of_readFrom ha (fun he => absurd he (by decide)) h
  · exact fun h => ⟨after, readFrom_quoteFrom ha h⟩

end Compliance.Sql.Identifier
