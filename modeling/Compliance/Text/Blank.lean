/-!
White space and trimming.

Blank is what the standard calls white space: the ASCII blanks, the next-line and no-break spaces,
and the spaces and separators of the general blocks. The zero-width space is none of them. `trim`
takes the blanks off both ends (`trim_trim`: doing it twice is doing it once), and nothing but
blanks (`trimChars_append`, `exists_trimChars`).
-/

namespace Compliance.Text

def isBlank (c : Char) : Bool :=
  let n := c.toNat
  (9 ≤ n && n ≤ 13) || n = 0x20 || n = 0x85 || n = 0xA0 || n = 0x1680 || (0x2000 ≤ n && n ≤ 0x200A)
    || n = 0x2028 || n = 0x2029 || n = 0x202F || n = 0x205F || n = 0x3000

def trimEnd (s : List Char) : List Char := (s.reverse.dropWhile isBlank).reverse

def trimChars (s : List Char) : List Char := trimEnd (s.dropWhile isBlank)

def trim (s : String) : String := String.ofList (trimChars s.toList)

@[simp] theorem dropWhile_isBlank_dropWhile (s : List Char) :
    (s.dropWhile isBlank).dropWhile isBlank = s.dropWhile isBlank := by
  induction s with
  | nil => rfl
  | cons c s ih =>
    by_cases h : isBlank c
    · simpa [h] using ih
    · simp [h]

theorem trimEnd_trimEnd (s : List Char) : trimEnd (trimEnd s) = trimEnd s := by simp [trimEnd]

theorem dropWhile_isBlank_trimEnd {s : List Char} (h : s.dropWhile isBlank = s) :
    (trimEnd s).dropWhile isBlank = trimEnd s := by
  cases s with
  | nil => rfl
  | cons c s =>
    have hc : isBlank c = false := by
      cases hb : isBlank c with
      | false => rfl
      | true =>
        have hl := congrArg List.length h
        have hs := (s.dropWhile_sublist isBlank).length_le
        simp only [List.dropWhile_cons, hb, if_true, List.length_cons] at hl
        omega
    have hr : ∃ t, trimEnd (c :: s) = c :: t := by
      unfold trimEnd
      rw [List.reverse_cons, List.dropWhile_append]
      split
      · exact ⟨[], by simp [hc]⟩
      · exact ⟨(s.reverse.dropWhile isBlank).reverse, by simp⟩
    obtain ⟨t, ht⟩ := hr
    simp [ht, hc]

theorem trimChars_trimChars (s : List Char) : trimChars (trimChars s) = trimChars s := by
  unfold trimChars
  rw [dropWhile_isBlank_trimEnd (by simp), trimEnd_trimEnd]

@[simp] theorem trim_trim (s : String) : trim (trim s) = trim s := by
  simp [trim, trimChars_trimChars]

theorem trimEnd_append {after : List Char} (h : ∀ c ∈ after, isBlank c) (s : List Char) :
    trimEnd (s ++ after) = trimEnd s := by
  rw [trimEnd, List.reverse_append, List.dropWhile_append_of_pos fun c hc =>
    h c (List.mem_reverse.mp hc), trimEnd]

theorem trimChars_append {before after : List Char} (hbefore : ∀ c ∈ before, isBlank c)
    (hafter : ∀ c ∈ after, isBlank c) (s : List Char) : trimChars (before ++ s ++ after) =
      trimChars s := by
  rw [trimChars, List.append_assoc, List.dropWhile_append_of_pos hbefore, List.dropWhile_append,
    trimChars]
  cases s.dropWhile isBlank with
  | nil =>
    have hnone : (after ++ []).dropWhile isBlank = [] := List.dropWhile_append_of_pos hafter
    rw [List.append_nil] at hnone
    rw [List.isEmpty_nil, if_pos rfl, hnone]
  | cons c t => rw [List.isEmpty_cons, if_neg Bool.false_ne_true, trimEnd_append hafter]

theorem exists_trimChars (s : List Char) : ∃ before after, s = before ++ trimChars s ++ after ∧
    (∀ c ∈ before, isBlank c) ∧ ∀ c ∈ after, isBlank c := by
  have hall (t : List Char) : ∀ c ∈ t.takeWhile isBlank, isBlank c :=
    List.all_eq_true.mp List.all_takeWhile
  refine ⟨s.takeWhile isBlank, ((s.dropWhile isBlank).reverse.takeWhile isBlank).reverse, ?_, hall s,
    fun c hc => hall _ c (List.mem_reverse.mp hc)⟩
  rw [trimChars, trimEnd, List.append_assoc, ← List.reverse_append, List.takeWhile_append_dropWhile,
    List.reverse_reverse, List.takeWhile_append_dropWhile]

theorem trimChars_of_not_isBlank {s : List Char} (h : ∀ c ∈ s, isBlank c = false) : trimChars s = s := by
  have hdrop {t : List Char} (ht : ∀ c ∈ t, isBlank c = false) : t.dropWhile isBlank = t := by
    cases t with
    | nil => rfl
    | cons c t => rw [List.dropWhile_cons, ht c (List.mem_cons_self ..), if_neg Bool.false_ne_true]
  rw [trimChars, hdrop h, trimEnd, hdrop fun c hc => h c (List.mem_reverse.mp hc), List.reverse_reverse]

end Compliance.Text
