import Compliance.Proofs.Sql.Quoting

/-! Delimited identifiers. Reading takes exactly those in which every quote of the name is written
twice, and quoting writes a name so exactly if the name is quotable. -/

namespace Compliance.Sql.Identifier

variable {s name rest : List Char} {c : Char}

def doubled (name : List Char) : List Char := name.flatMap fun c => if c = '"' then ['"', '"'] else [c]

lemma doubled_of_ne (hc : c ≠ '"') (name : List Char) : doubled (c :: name) = c :: doubled name := by
  simp [doubled, hc]

lemma doubled_quote (name : List Char) : doubled ('"' :: name) = '"' :: '"' :: doubled name := rfl

lemma readFrom_doubled (hrest : ¬ StartsWithQuote rest) (name : List Char) :
    readFrom (doubled name ++ '"' :: rest) = some (name, rest) := by
  induction name with
  | nil => exact readFrom_close hrest
  | cons c name ih =>
    by_cases hc : c = '"'
    · subst c
      rw [doubled_quote, List.cons_append, List.cons_append, readFrom_pair, ih]
      rfl
    · rw [doubled_of_ne hc, List.cons_append, readFrom_of_ne hc, ih]
      rfl

lemma eq_doubled_of_readFrom (h : readFrom s = some (name, rest)) :
    s = doubled name ++ '"' :: rest ∧ ¬ StartsWithQuote rest := by
  -- a pair of quotes is read at once, so the induction is on the length
  induction hn : s.length using Nat.strong_induction_on generalizing s name with
  | h n ih =>
    subst hn
    cases s with
    | nil => cases h
    | cons c s =>
      by_cases hc : c = '"'
      swap
      · obtain ⟨name, rfl, hread⟩ := readFrom_quoted hc h
        obtain ⟨rfl, hrest⟩ := ih s.length (by simp) hread rfl
        exact ⟨by rw [doubled_of_ne hc, List.cons_append], hrest⟩
      subst c
      by_cases hs : StartsWithQuote s
      · obtain ⟨s, rfl⟩ : ∃ t, s = '"' :: t := List.head?_eq_some_iff.mp hs
        obtain ⟨name, rfl, hread⟩ := readFrom_pair_some h
        obtain ⟨rfl, hrest⟩ := ih s.length (by simp only [List.length_cons]; omega) hread rfl
        exact ⟨rfl, hrest⟩
      · rw [readFrom_close hs] at h
        cases h
        exact ⟨rfl, hs⟩

theorem readFrom_eq_some_iff : readFrom s = some (name, rest) ↔
    s = doubled name ++ '"' :: rest ∧ ¬ StartsWithQuote rest := by
  refine ⟨eq_doubled_of_readFrom, ?_⟩
  rintro ⟨rfl, hrest⟩
  exact readFrom_doubled hrest name

lemma toList_quote (name : String) : (quote name).toList =
    '"' :: (quoteFrom '\x00' name.toList ++ ['"']) := String.toList_ofList

lemma read?_quote (name : String) : read? (quote name).toList =
    readFrom (quoteFrom '\x00' name.toList ++ ['"']) := by
  rw [toList_quote]
  rfl

lemma read?_quote_of_quotable {name : String} (h : Quotable name) :
    read? (quote name).toList = some (name.toList, []) := by
  rw [read?_quote]
  exact readFrom_quoteFrom (by decide) ((quotable_iff name).mp h)

lemma quotable_of_read?_quote {name : String}
    (h : read? (quote name).toList = some (name.toList, rest)) : Quotable name := by
  rw [read?_quote] at h
  have hend : ¬ StartsWithQuote [] := by decide
  exact (readFrom_quoteChars_iff hend name).mp ⟨rest, h⟩

theorem quote_eq_doubled_iff (name : String) :
    (quote name).toList = '"' :: (doubled name.toList ++ ['"']) ↔ Quotable name := by
  rw [toList_quote, List.cons.injEq, and_iff_right rfl]
  constructor
  · intro h
    have hread : read? (quote name).toList = some (name.toList, []) := by
      rw [read?_quote, h]
      exact readFrom_doubled (by decide) name.toList
    exact quotable_of_read?_quote hread
  · intro h
    have hread := read?_quote_of_quotable h
    rw [read?_quote] at hread
    exact (readFrom_eq_some_iff.mp hread).1

/-- The whole of a quoted name is one delimited identifier that stands for the name exactly if the
name is quotable. So no two quotable names are quoted alike; any other name is quoted so that its
first identifier never ends or is not the name. -/
theorem read?_quote_iff_quotable (name : String) :
    (read? (quote name).toList = some (name.toList, []) ↔ Quotable name) ∧
      (Quotable name → ∀ other, Quotable other → quote other = quote name → other = name) ∧
      (¬ Quotable name → read? (quote name).toList = none ∨
        ∃ found rest, read? (quote name).toList = some (found, rest) ∧ found ≠ name.toList) := by
  refine ⟨⟨quotable_of_read?_quote, read?_quote_of_quotable⟩, fun hname other hother heq => ?_,
    fun hname => ?_⟩
  · have hread := read?_quote_of_quotable hother
    rw [heq, read?_quote_of_quotable hname] at hread
    exact (String.toList_inj.mp (Prod.mk.inj (Option.some.inj hread)).1).symm
  · cases hread : read? (quote name).toList with
    | none => exact .inl rfl
    | some read =>
      refine .inr ⟨read.1, read.2, rfl, fun heq => ?_⟩
      have hfound : read? (quote name).toList = some (name.toList, read.2) := by rw [hread, ← heq]
      exact hname (quotable_of_read?_quote hfound)

theorem read?_quote_awkwardNames :
    read? (quote "we\"ird").toList = some ("we\"ird".toList, []) ∧
      (¬ Quotable "t\\\" --" ∧ read? (quote "t\\\" --").toList = some ("t\\".toList, " --\"".toList)) ∧
      (¬ Quotable "t\\\"" ∧ read? (quote "t\\\"").toList = none) ∧
      (¬ Quotable "t\"\"" ∧ read? (quote "t\"\"").toList = some ("t\"".toList, [])) := by
  have hfails {name : String} (h : read? (quote name).toList ≠ some (name.toList, [])) :
    ¬ Quotable name :=
    fun hq => h ((read?_quote_iff_quotable name).1.mpr hq)
  exact ⟨(read?_quote_iff_quotable _).1.mpr (by decide +kernel),
    ⟨hfails (by decide +kernel), by decide +kernel⟩,
    ⟨hfails (by decide +kernel), by decide +kernel⟩, ⟨hfails (by decide +kernel), by decide +kernel⟩⟩

end Compliance.Sql.Identifier
