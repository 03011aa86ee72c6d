import Compliance.Proofs.Json.Tokens

/-! A proper value that is not nested too deeply reads back from its one-line text. -/

namespace Compliance

open Number

namespace Json

lemma numberValue?_ofNat {n : ℕ} (h : n ≤ maxNat64) : numberValue? (Nat.toDigits 10 n) =
    some (.int n) := by
  have hwhole : ((Nat.toDigits 10 n).all fun c => isDigit c || c = '-') = true :=
    List.all_eq_true.mpr fun c hc => by simp [isDigit_toDigits hc]
  have hvalue := nat64?_toDigits h
  obtain ⟨c, digits, hdigits, hc⟩ := exists_toDigits n
  have hminus := ne_of_isDigit hc (d := '-') rfl
  rw [hdigits] at hwhole hvalue ⊢
  simp [numberValue?, hwhole, hvalue, hminus]

lemma numberValue?_negSucc {n : ℕ} (h : minInt64 ≤ .negSucc n) :
    numberValue? ('-' :: Nat.toDigits 10 (n + 1)) = some (.int (.negSucc n)) := by
  have hwhole : (('-' :: Nat.toDigits 10 (n + 1)).all fun c => isDigit c || c = '-') = true :=
    List.all_eq_true.mpr fun c hc => by
      rcases List.mem_cons.mp hc with rfl | hc
      · rfl
      · simp [isDigit_toDigits hc]
  have hvalue : int64? ('-' :: Nat.toDigits 10 (n + 1)) = some (.negSucc n) :=
    int64?_neg_toDigits (n := n + 1) h
  simp [numberValue?, hwhole, hvalue, digitsValue_toDigits, Option.filter]

lemma numberValue?_real {x : Double} (h : x.isProper) :
    numberValue? (Notation.report.write x).toList = some (.real x) := by
  obtain ⟨s, _, hnotWhole, htext, hread⟩ := exists_spelling h
  have hfinite := Double.isFinite_of_isProper h
  have hletter : ∃ c ∈ s.chars, (isDigit c || c = '-') = false := by
    simp only [Spelling.chars, List.mem_append]
    rcases hnotWhole with hfraction | hexponent
    · obtain ⟨c, fraction, hcons⟩ := List.exists_cons_of_ne_nil hfraction
      exact ⟨'.', .inr (.inl (hcons ▸ List.mem_cons_self ..)), rfl⟩
    · obtain ⟨e, he⟩ := Option.isSome_iff_exists.mp hexponent
      exact ⟨'e', .inr (.inr (he ▸ List.mem_cons_self ..)), rfl⟩
  obtain ⟨c, hc, hother⟩ := hletter
  have hwhole : ((Notation.report.write x).toList.all fun c => isDigit c || c = '-') = false :=
    List.all_eq_false.mpr ⟨c, htext ▸ List.mem_append_right _ hc, by
      rw [hother]; exact Bool.false_ne_true⟩
  simp only [numberValue?, hwhole, hread, hfinite]
  rfl

lemma numberValue?_writeNumber {n : JsonNumber} (h : n.isProper) :
    numberValue? (writeNumber n) = some n := by
  cases n with
  | int n =>
    simp only [JsonNumber.isProper, Bool.and_eq_true, decide_eq_true_eq] at h
    cases n with
    | ofNat n => exact numberValue?_ofNat (Int.ofNat_le.mp h.2)
    | negSucc n => exact numberValue?_negSucc h.1
  | real x => exact numberValue?_real h

mutual

def depth : Json → ℕ
  | .array items => itemsDepth items + 1
  | .object fields => fieldsDepth fields + 1
  | _ => 0

def itemsDepth : List Json → ℕ
  | [] => 0
  | item :: rest => max (depth item) (itemsDepth rest)

def fieldsDepth : List (String × Json) → ℕ
  | [] => 0
  | (_, value) :: rest => max (depth value) (fieldsDepth rest)

end

mutual

def draft : Json → Draft
  | .null => .null
  | .bool b => .bool b
  | .number n => .number (writeNumber n) (some n)
  | .text s => .text s
  | .array items => .array (itemDrafts items)
  | .object fields => .object (fieldDrafts fields)

def itemDrafts : List Json → List Draft
  | [] => []
  | item :: rest => draft item :: itemDrafts rest

def fieldDrafts : List (String × Json) → List (String × Draft)
  | [] => []
  | (key, value) :: rest => (key, draft value) :: fieldDrafts rest

end

namespace Draft

lemma step_openBracket (frames : List Frame) (h : frames.length < maxDepth) :
    step (.reading frames .value) .openBracket = .reading (.array [] :: frames) .itemOrEnd := if_pos h

lemma step_openBrace (frames : List Frame) (h : frames.length < maxDepth) :
    step (.reading frames .value) .openBrace = .reading (.object [] "" :: frames) .keyOrEnd := if_pos h

lemma foldl_itemOrEnd (item : Json) (rest : List Json) (frames : List Frame) :
    (itemTokens (item :: rest)).foldl step (.reading frames .itemOrEnd) =
      (itemTokens (item :: rest)).foldl step (.reading frames .value) := by
  cases rest with
  | nil => cases item <;> rfl
  | cons => cases item <;> rfl

lemma foldl_keyOrEnd (field : String × Json) (rest : List (String × Json))
    (fields : List (String × Draft)) (key : String) (frames : List Frame) :
    (fieldTokens (field :: rest)).foldl step (.reading (.object fields key :: frames) .keyOrEnd) =
      (fieldTokens (field :: rest)).foldl step (.reading (.object fields key :: frames) .key) := by
  cases rest <;> rfl

mutual

theorem foldl_tokens : ∀ {v : Json}, v.isWritable →
    ∀ frames : List Frame, frames.length + v.depth ≤ maxDepth →
    (tokens v).foldl step (.reading frames .value) = put v.draft frames
  | .null, _, _, _ => rfl
  | .bool _, _, _, _ => rfl
  | .number n, h, frames, _ => by
    change put (.number (writeNumber n) (numberValue? (writeNumber n))) frames = _
    rw [numberValue?_writeNumber h]
    rfl
  | .text _, _, _, _ => rfl
  | .array [], _, frames, hdepth => by
    have hopen :=
      step_openBracket frames (Nat.lt_of_lt_of_le (Nat.lt_add_of_pos_right (Nat.succ_pos _)) hdepth)
    change step (step (.reading frames .value) .openBracket) .closeBracket = _
    rw [hopen]
    rfl
  | .array (item :: rest), h, frames, hdepth => by
    rw [depth] at hdepth
    have hopen := step_openBracket frames (by omega)
    have hitems := foldl_itemTokens h (List.cons_ne_nil item rest) frames [] (by omega)
    rw [tokens, List.foldl_append]
    change step ((itemTokens (item :: rest)).foldl step
      (step (.reading frames .value) .openBracket)) .closeBracket = _
    rw [hopen, foldl_itemOrEnd, hitems, List.append_nil]
    change put (.array (itemDrafts (item :: rest)).reverse.reverse) frames = _
    rw [List.reverse_reverse, draft]
  | .object [], _, frames, hdepth => by
    have hopen :=
      step_openBrace frames (Nat.lt_of_lt_of_le (Nat.lt_add_of_pos_right (Nat.succ_pos _)) hdepth)
    change step (step (.reading frames .value) .openBrace) .closeBrace = _
    rw [hopen]
    rfl
  | .object (field :: rest), h, frames, hdepth => by
    rw [depth] at hdepth
    have hopen := step_openBrace frames (by omega)
    have hfields := foldl_fieldTokens h (List.cons_ne_nil field rest) frames [] "" (by omega)
    rw [tokens, List.foldl_append]
    change step ((fieldTokens (field :: rest)).foldl step
      (step (.reading frames .value) .openBrace)) .closeBrace = _
    rw [hopen, foldl_keyOrEnd, hfields, List.append_nil]
    change put (.object (fieldDrafts (field :: rest)).reverse.reverse) frames = _
    rw [List.reverse_reverse, draft]

theorem foldl_itemTokens : ∀ {items : List Json}, areWritable items → items ≠ [] →
    ∀ (frames : List Frame) (read : List Draft), frames.length + 1 + itemsDepth items ≤ maxDepth →
    (itemTokens items).foldl step (.reading (.array read :: frames) .value) =
      .reading (.array ((itemDrafts items).reverse ++ read) :: frames) .commaOrEnd
  | [], _, hne, _, _, _ => absurd rfl hne
  | [item], h, _, frames, read, hdepth => by
    rw [itemsDepth] at hdepth
    exact foldl_tokens (Bool.and_eq_true_iff.mp h).1 (.array read :: frames)
      (by rw [List.length_cons]; omega)
  | item :: next :: rest, h, _, frames, read, hdepth => by
    rw [itemsDepth] at hdepth
    obtain ⟨hitem, hrest⟩ := Bool.and_eq_true_iff.mp h
    have hvalue := foldl_tokens hitem (.array read :: frames) (by rw [List.length_cons]; omega)
    have ih := foldl_itemTokens hrest (List.cons_ne_nil next rest) frames (item.draft :: read) (by omega)
    rw [itemTokens, List.foldl_append, hvalue, List.foldl_cons]
    · change (itemTokens (next :: rest)).foldl step
        (.reading (.array (item.draft :: read) :: frames) .value) = _
      rw [ih]
      exact congrArg (fun items => State.reading (.array items :: frames) .commaOrEnd)
        (by simp [itemDrafts])
    · exact fun h => nomatch h

theorem foldl_fieldTokens : ∀ {fields : List (String × Json)}, haveWritable fields → fields ≠ [] →
    ∀ (frames : List Frame) (read : List (String × Draft)) (key : String),
      frames.length + 1 + fieldsDepth fields ≤ maxDepth →
    (fieldTokens fields).foldl step (.reading (.object read key :: frames) .key) =
      .reading (.object ((fieldDrafts fields).reverse ++ read) "" :: frames) .commaOrEnd
  | [], _, hne, _, _, _, _ => absurd rfl hne
  | [(key, value)], h, _, frames, read, _, hdepth => by
    rw [fieldsDepth] at hdepth
    exact foldl_tokens (Bool.and_eq_true_iff.mp h).1 (.object read key :: frames)
      (by rw [List.length_cons]; omega)
  | (key, value) :: next :: rest, h, _, frames, read, _, hdepth => by
    rw [fieldsDepth] at hdepth
    obtain ⟨hfield, hrest⟩ := Bool.and_eq_true_iff.mp h
    have hvalue := foldl_tokens hfield (.object read key :: frames) (by rw [List.length_cons]; omega)
    have ih :=
      foldl_fieldTokens hrest (List.cons_ne_nil next rest) frames ((key, value.draft) :: read) ""
        (by omega)
    rw [fieldTokens, List.foldl_append]
    · change (Token.comma :: fieldTokens (next :: rest)).foldl step ((tokens value).foldl step
        (.reading (.object read key :: frames) .value)) = _
      rw [hvalue, List.foldl_cons]
      change (fieldTokens (next :: rest)).foldl step
        (.reading (.object ((key, value.draft) :: read) "" :: frames) .key) = _
      rw [ih]
      exact congrArg (fun fields => State.reading (.object fields "" :: frames) .commaOrEnd)
        (by simp [fieldDrafts])
    · exact fun h => nomatch h

end

theorem ofText_of_tokens {v : Json} {text : String} (h : v.isWritable) (hdepth : v.depth ≤ maxDepth)
    (htokens : Token.read text = v.tokens) : ofText text = ⟨v.draft, true⟩ := by
  rw [ofText, htokens, ofTokens, foldl_tokens h [] (by simpa using hdepth)]
  rfl

end Draft

section
variable {α : Type} {key : String} {value : α} {fields : List (String × α)}

lemma insertKey_of_last (h : ∀ field ∈ fields, field.1 < key) :
    insertKey key value fields = fields ++ [(key, value)] := by
  induction fields with
  | nil => rfl
  | cons field fields ih =>
    have hkey := h field (List.mem_cons_self ..)
    have hne : key ≠ field.1 := fun heq => String.lt_irrefl _ (heq ▸ hkey)
    rw [insertKey, if_neg hne, if_neg (String.lt_asymm hkey), ih fun f hf =>
      h f (List.mem_cons_of_mem _ hf)]
    rfl

lemma foldl_insertKey (before : List (String × α))
    (h : ((before ++ fields).map (·.1)).Pairwise (· < ·)) :
    fields.foldl (fun acc field => insertKey field.1 field.2 acc) before = before ++ fields := by
  induction fields generalizing before with
  | nil => rw [List.append_nil]; rfl
  | cons field fields ih =>
    have hlast : ∀ f ∈ before, f.1 < field.1 := by
      rw [List.map_append, List.pairwise_append] at h
      exact fun f hf => h.2.2 _ (List.mem_map_of_mem hf) _ (List.mem_cons_self ..)
    rw [List.foldl_cons, insertKey_of_last hlast, ih _ (by rwa [List.append_assoc]), List.append_assoc]
    rfl

end

lemma ofFields_of_sorted {fields : List (String × Json)} (h : (fields.map (·.1)).Pairwise (· < ·)) :
    ofFields fields = .object fields := congrArg Json.object (foldl_insertKey [] h)

mutual

theorem toJson?_draft : ∀ {v : Json}, v.isProper → v.draft.toJson? = some v
  | .null, _ | .bool _, _ | .number _, _ | .text _, _ => rfl
  | .array items, h => by
    rw [draft, Draft.toJson?, itemsToJson?_itemDrafts h]
    rfl
  | .object fields, h => by
    obtain ⟨hsorted, hfields⟩ := Bool.and_eq_true_iff.mp h
    rw [draft, Draft.toJson?, fieldsToJson?_fieldDrafts hfields, Option.map_some,
      ofFields_of_sorted (of_decide_eq_true hsorted)]

theorem itemsToJson?_itemDrafts : ∀ {items : List Json}, areProper items →
    Draft.itemsToJson? (itemDrafts items) = some items
  | [], _ => rfl
  | item :: rest, h => by
    obtain ⟨hitem, hrest⟩ := Bool.and_eq_true_iff.mp h
    rw [itemDrafts, Draft.itemsToJson?, toJson?_draft hitem, itemsToJson?_itemDrafts hrest]
    rfl

theorem fieldsToJson?_fieldDrafts : ∀ {fields : List (String × Json)}, haveProper fields →
    Draft.fieldsToJson? (fieldDrafts fields) = some fields
  | [], _ => rfl
  | (key, value) :: rest, h => by
    obtain ⟨hvalue, hrest⟩ := Bool.and_eq_true_iff.mp h
    rw [fieldDrafts, Draft.fieldsToJson?, toJson?_draft hvalue, fieldsToJson?_fieldDrafts hrest]
    rfl

end

theorem parse?_compact {v : Json} (h : v.isProper) (hdepth : v.depth ≤ Draft.maxDepth) :
    parse? v.compact = some v := by
  have hwritable := isWritable_of_isProper h
  have htokens : Token.read v.compact = v.tokens := by
    have hread := readFrom_compactChars hwritable closes_nil
    rw [List.append_nil] at hread
    rw [Token.read, compact, String.toList_ofList, hread]
    exact List.append_nil _
  rw [parse?, Draft.ofText_of_tokens hwritable hdepth htokens]
  exact toJson?_draft h

end Json

end Compliance
