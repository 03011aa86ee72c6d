import Compliance.Proofs.Json.RoundTrip

/-! The text with one field a line has the same tokens as that on one line, and is read as the same
value. -/

namespace Compliance.Json

open Number Token

lemma closes_newLine (depth : ℕ) (rest : List Char) : Closes (newLine depth ++ rest) := by
  simp [Closes, newLine]

lemma readFrom_space {c : Char} (hc : isSpace c) (rest : List Char) :
    readFrom .between (c :: rest) = readFrom .between rest := by
  rw [readFrom_cons, step, start, if_pos hc, List.nil_append]

lemma readFrom_newLine (depth : ℕ) (rest : List Char) :
    readFrom .between (newLine depth ++ rest) = readFrom .between rest := by
  have hblanks : ∀ n, readFrom .between (List.replicate n ' ' ++ rest) = readFrom .between rest := by
    intro n
    induction n with
    | zero => rfl
    | succ n ih => rw [List.replicate_succ, List.cons_append, readFrom_space rfl, ih]
  rw [newLine, List.cons_append, readFrom_space rfl, hblanks]

mutual

theorem readFrom_prettyChars : ∀ {v : Json}, v.isWritable →
    ∀ (depth : ℕ) {rest : List Char}, Closes rest →
    readFrom .between (prettyChars depth v ++ rest) = tokens v ++ readFrom .between rest
  | .null, _, _, _, hrest => readFrom_null hrest
  | .bool b, _, _, _, hrest => readFrom_bool b hrest
  | .number _, h, _, _, hrest => readFrom_literal (isLiteral_writeNumber h) hrest
  | .text s, _, _, rest, _ => readFrom_writeText s rest
  | .array [], _, _, _, _ => rfl
  | .array (item :: items), h, depth, rest, _ => by
    have hitems : areWritable (item :: items) := h
    have ih := readFrom_prettyItems hitems (depth + 1) (closes_newLine depth (']' :: rest))
    rw [readFrom_newLine] at ih
    rw [prettyChars, tokens, List.append_assoc, List.append_assoc, List.append_assoc]
    · exact congrArg (Token.openBracket :: ·) ih
    · exact List.cons_ne_nil item items
  | .object [], _, _, _, _ => rfl
  | .object (field :: fields), h, depth, rest, _ => by
    have hfields : haveWritable (field :: fields) := h
    have ih := readFrom_prettyFields hfields (depth + 1) (closes_newLine depth ('}' :: rest))
    rw [readFrom_newLine] at ih
    rw [prettyChars, tokens, List.append_assoc, List.append_assoc, List.append_assoc]
    · exact congrArg (Token.openBrace :: ·) ih
    · exact List.cons_ne_nil field fields

theorem readFrom_prettyItems : ∀ {items : List Json}, areWritable items →
    ∀ (depth : ℕ) {rest : List Char}, Closes rest →
    readFrom .between (prettyItems depth items ++ rest) = itemTokens items ++ readFrom .between rest
  | [], _, _, _, _ => rfl
  | [_], h, depth, _, hrest => by
    rw [prettyItems, List.append_assoc, readFrom_newLine]
    exact readFrom_prettyChars (Bool.and_eq_true_iff.mp h).1 depth hrest
  | item :: next :: more, h, depth, rest, hrest => by
    obtain ⟨hitem, hmore⟩ := Bool.and_eq_true_iff.mp h
    have hmore : areWritable (next :: more) := hmore
    have ih := readFrom_prettyItems hmore depth hrest
    have hvalue :=
      readFrom_prettyChars (v := item) hitem depth
        (closes_comma (prettyItems depth (next :: more) ++ rest))
    rw [readFrom_comma, ih] at hvalue
    simpa [prettyItems, itemTokens, readFrom_newLine] using hvalue

theorem readFrom_prettyFields : ∀ {fields : List (String × Json)}, haveWritable fields →
    ∀ (depth : ℕ) {rest : List Char},
    Closes rest → readFrom .between (prettyFields depth fields ++ rest) =
      fieldTokens fields ++ readFrom .between rest
  | [], _, _, _, _ => rfl
  | [(key, value)], h, depth, rest, hrest => by
    have hvalue := readFrom_prettyChars (v := value) (Bool.and_eq_true_iff.mp h).1 depth hrest
    simp [prettyFields, fieldTokens, readFrom_newLine, readFrom_writeText, readFrom_colon,
      readFrom_space (c := ' ') rfl, hvalue]
  | (key, value) :: next :: more, h, depth, rest, hrest => by
    obtain ⟨hitem, hmore⟩ := Bool.and_eq_true_iff.mp h
    have hmore : haveWritable (next :: more) := hmore
    have ih := readFrom_prettyFields hmore depth hrest
    have hvalue :=
      readFrom_prettyChars (v := value) hitem depth
        (closes_comma (prettyFields depth (next :: more) ++ rest))
    rw [readFrom_comma, ih] at hvalue
    simp [prettyFields, fieldTokens, readFrom_newLine, readFrom_writeText, readFrom_colon,
      readFrom_space (c := ' ') rfl, hvalue]

end

lemma areWritable_iff {items : List Json} : areWritable items ↔ ∀ item ∈ items, item.isWritable := by
  induction items with
  | nil => exact iff_of_true rfl (List.forall_mem_nil _)
  | cons item items ih => rw [areWritable, Bool.and_eq_true, ih, List.forall_mem_cons]

lemma isWritable_int {n : ℕ} (h : n ≤ maxNat64) : (int n).isWritable := by
  have hmin : minInt64 ≤ (n : ℤ) := (show minInt64 ≤ 0 by decide).trans (Int.natCast_nonneg n)
  have hmax : (n : ℤ) ≤ maxNat64 := Int.ofNat_le.mpr h
  rw [int, isWritable, JsonNumber.isProper, decide_eq_true hmin, decide_eq_true hmax]
  rfl

lemma itemsDepth_le {items : List Json} {k : ℕ} (h : ∀ item ∈ items, item.depth ≤ k) :
    itemsDepth items ≤ k := by
  induction items with
  | nil => exact Nat.zero_le k
  | cons item items ih =>
    rw [List.forall_mem_cons] at h
    exact Nat.max_le.mpr ⟨h.1, ih h.2⟩

theorem ofText_pretty {v : Json} (h : v.isWritable) (hdepth : v.depth ≤ Draft.maxDepth) :
    Draft.ofText v.pretty = ⟨v.draft, true⟩ := by
  have hread := readFrom_prettyChars h 0 closes_nil
  rw [List.append_nil] at hread
  refine Draft.ofText_of_tokens h hdepth ?_
  rw [Token.read, pretty, String.toList_ofList, hread]
  exact List.append_nil _

end Compliance.Json
