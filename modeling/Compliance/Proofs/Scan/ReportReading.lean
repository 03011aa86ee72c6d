import Compliance.Proofs.Json.Pretty
import Compliance.Proofs.Json.Records
import Compliance.Proofs.Time.Timestamp
import Compliance.Scan.ReportReader

/-! A report reads back from the text that is saved of it. -/

namespace Compliance

open Number Result

variable {α : Type}

namespace Json.Draft

lemma check_required {name : String} {read : Draft → Except DecodeError α} {value : Draft} {a : α}
    (h : read value = .ok a) :
    (Field.required name read).check value = .ok () := by
  change (read value).map _ = _
  rw [h]
  rfl

lemma check_optional {name : String} {read : Draft → Except DecodeError α} {value other : Draft} {a : α}
    (h : read value = .ok a) : (Field.optional name read other).check value = .ok () := by
  change (read value).map _ = _
  rw [h]
  rfl

lemma partOf_eq_ok {name : String} {read : Draft → Except DecodeError α}
    {record : List (String × Draft)} {value : Draft} {a : α}
    (hvalue : record.lookup name = some value) (h : read value = .ok a) :
    partOf read name record = .ok a := by
  rw [partOf, hvalue, Option.getD_some, h]

lemma readText_draft (s : String) : readText (Json.text s).draft = .ok s := rfl

lemma readBool_draft (b : Bool) : readBool (Json.bool b).draft = .ok b := rfl

lemma readOptionalText_draft (s : String) : readOptionalText (Json.text s).draft = .ok (some s) := rfl

lemma readCount_draft (n : ℕ) : readCount (Json.int n).draft = .ok n := by
  rw [Json.int, draft, readCount, toNat, if_pos (Int.natCast_nonneg n), Int.toNat_natCast]

lemma readMillis_draft {n : ℕ} (h : n ≤ maxNat64) : readMillis (Json.int n).draft = .ok n := by
  have hlt : n < Nat.pow 2 128 := Nat.lt_of_le_of_lt h (by decide)
  have hdigits : writeNumber (.int n) = Nat.toDigits 10 n := rfl
  rw [Json.int, draft, readMillis, hdigits, natOfDigits?_toDigits]
  exact if_pos hlt

lemma readTimestamp_draft {t : Time.Timestamp} (h : t.IsPrintable) :
    readTimestamp (Json.text t.write).draft = .ok t := by
  rw [draft, readTimestamp, Time.Timestamp.read_write h]
  rfl

lemma itemDrafts_eq (items : List Json) : itemDrafts items = items.map draft := by
  induction items with
  | nil => rfl
  | cons item items ih => rw [itemDrafts, ih, List.map_cons]

lemma readList_draft {read : Draft → Except DecodeError α} {write : α → Json} {l : List α}
    (h : ∀ a ∈ l, read (write a).draft = .ok a) : readList read (Json.array (l.map write)).draft =
      .ok l := by
  rw [draft, readList, itemDrafts_eq, List.map_map, mapM_eq_ok, List.forall₂_map_left_iff]
  exact List.forall₂_same.mpr h

end Json.Draft

namespace Scan.Report

open Json Json.Draft

lemma readNewViolation_draft (v : NewViolation) : readNewViolation (newViolationJson v).draft =
    .ok v := by
  let given : List (String × Draft) :=
    [("id", (Json.text v.id).draft), ("rule", (Json.text v.rule).draft),
      ("table_name", (Json.text v.table).draft), ("record_id", (Json.text v.recordId).draft)]
  have hknown : ∀ p ∈ given, ∃ f, newViolationFields.find? (·.name = p.1) = some f ∧
    f.check p.2 = .ok () := by
    simp only [given, List.forall_mem_cons]
    exact ⟨⟨_, rfl, check_required (readText_draft _)⟩, ⟨_, rfl, check_required (readText_draft _)⟩,
      ⟨_, rfl, check_required (readText_draft _)⟩, ⟨_, rfl, check_required (readText_draft _)⟩, by simp⟩
  obtain ⟨record, hrecord, hgiven, -⟩ := readFields_of_known newViolationFields ignore given
    (by simp [newViolationFields, Field.required]) (by simp [given]) hknown
    (by simp [newViolationFields, Field.required, given])
  simp only [given, List.forall_mem_cons] at hgiven
  obtain ⟨hid, hrule, htable, hrecordId, -⟩ := hgiven
  rw [readNewViolation]
  change (readFields newViolationFields ignore given >>= _) = _
  rw [hrecord, ok_bind, partOf_eq_ok hid (readText_draft _), ok_bind,
    partOf_eq_ok hrule (readText_draft _), ok_bind, partOf_eq_ok htable (readText_draft _), ok_bind,
    partOf_eq_ok hrecordId (readText_draft _)]
  rfl

lemma readLine_draft (line : RuleLine) : readLine (lineJson line).draft = .ok line := by
  obtain ⟨ruleId, ruleName, outcome, matchedRows, truncated, error⟩ := line
  let always : List (String × Draft) :=
    [("rule_id", (Json.text ruleId).draft), ("rule_name", (Json.text ruleName).draft),
      ("outcome", (Json.text outcome).draft), ("matched_rows", (Json.int matchedRows).draft),
    ("truncated", (Json.bool truncated).draft)]
  let last : List (String × Draft) := (error.map fun error => ("error", (Json.text error).draft)).toList
  have hknown : ∀ p ∈ always ++ last, ∃ f, lineFields.find? (·.name = p.1) = some f ∧
    f.check p.2 = .ok () := by
    rw [List.forall_mem_append]
    simp only [always, List.forall_mem_cons]
    refine ⟨⟨⟨_, rfl, check_required (readText_draft _)⟩, ⟨_, rfl, check_required (readText_draft _)⟩,
      ⟨_, rfl, check_required (readText_draft _)⟩, ⟨_, rfl, check_required (readCount_draft _)⟩,
      ⟨_, rfl, check_required (readBool_draft _)⟩, by simp⟩, ?_⟩
    cases error with
    | none => exact List.forall_mem_nil _
    | some error =>
      exact List.forall_mem_singleton.mpr ⟨_, rfl, check_optional (readOptionalText_draft _)⟩
  obtain ⟨record, hrecord, hgiven, hdefault⟩ := readFields_of_known lineFields ignore (always ++ last)
    (by simp [lineFields, Field.required, Field.optional])
      (by cases error <;> simp [always, last]) hknown
    (by simp [lineFields, Field.required, Field.optional, always])
  have herror : ∃ value, record.lookup "error" = some value ∧ readOptionalText value = .ok error := by
    cases error with
    | none =>
      exact ⟨.null, hdefault (.optional "error" readOptionalText .null) (by simp [lineFields])
        (by simp [always, last, Field.optional]), rfl⟩
    | some error =>
      exact ⟨_, hgiven ("error", (Json.text error).draft) (by simp [last]), readOptionalText_draft _⟩
  have hobject : (lineJson ⟨ruleId, ruleName, outcome, matchedRows, truncated, error⟩).draft =
    .object (always ++ last) := by
    cases error <;> rfl
  rw [List.forall_mem_append] at hgiven
  simp only [always, List.forall_mem_cons] at hgiven
  obtain ⟨⟨hruleId, hruleName, houtcome, hmatched, htruncated, -⟩, -⟩ := hgiven
  obtain ⟨value, hvalue, herror⟩ := herror
  rw [hobject, readLine]
  change (readFields lineFields ignore (always ++ last) >>= _) = _
  rw [hrecord, ok_bind, partOf_eq_ok hruleId (readText_draft _), ok_bind,
    partOf_eq_ok hruleName (readText_draft _), ok_bind, partOf_eq_ok houtcome (readText_draft _),
    ok_bind, partOf_eq_ok hmatched (readCount_draft _), ok_bind,
    partOf_eq_ok htruncated (readBool_draft _), ok_bind, partOf_eq_ok hvalue herror]
  rfl

/-- What can be told from the text: a year of four digits, and numbers of 64 bits. -/
structure IsStorable (r : Report) : Prop where
  startedAt : r.startedAt.IsPrintable
  durationMillis : r.durationMillis ≤ maxNat64
  rulesEvaluated : r.rulesEvaluated ≤ maxNat64
  rulesFailed : r.rulesFailed ≤ maxNat64
  violationsFound : r.violationsFound ≤ maxNat64
  matchedRows : ∀ line ∈ r.rules, line.matchedRows ≤ maxNat64

variable {r : Report}

lemma IsStorable.ofDraft_draft (h : r.IsStorable) : ofDraft r.toJson.draft = .ok r := by
  let given : List (String × Draft) := [("started_at", (Json.text r.startedAt.write).draft),
    ("duration_ms", (Json.int r.durationMillis).draft),
    ("rules_evaluated", (Json.int r.rulesEvaluated).draft),
    ("rules_failed", (Json.int r.rulesFailed).draft), ("cancelled", (Json.bool r.cancelled).draft),
    ("violations_found", (Json.int r.violationsFound).draft),
    ("new_violations", (Json.array (r.newViolations.map newViolationJson)).draft),
    ("rules", (Json.array (r.rules.map lineJson)).draft)]
  have hstarted := readTimestamp_draft h.startedAt
  have hduration := readMillis_draft h.durationMillis
  have hviolations := readList_draft (l := r.newViolations) fun v _ => readNewViolation_draft v
  have hlines := readList_draft (l := r.rules) fun line _ => readLine_draft line
  have hknown : ∀ p ∈ given, ∃ f, reportFields.find? (·.name = p.1) = some f ∧ f.check p.2 = .ok () := by
    simp only [given, List.forall_mem_cons]
    exact ⟨⟨_, rfl, check_required hstarted⟩, ⟨_, rfl, check_required hduration⟩,
      ⟨_, rfl, check_required (readCount_draft _)⟩, ⟨_, rfl, check_required (readCount_draft _)⟩,
      ⟨_, rfl, check_required (readBool_draft _)⟩, ⟨_, rfl, check_required (readCount_draft _)⟩,
      ⟨_, rfl, check_required hviolations⟩, ⟨_, rfl, check_required hlines⟩, by simp⟩
  obtain ⟨record, hrecord, hgiven, -⟩ := readFields_of_known reportFields ignore given
    (by simp [reportFields, Field.required])
      (by simp [given]) hknown (by simp [reportFields, Field.required, given])
  simp only [given, List.forall_mem_cons] at hgiven
  obtain ⟨h₁, h₂, h₃, h₄, h₅, h₆, h₇, h₈, -⟩ := hgiven
  rw [ofDraft]
  change (readFields reportFields ignore given >>= _) = _
  rw [hrecord, ok_bind, partOf_eq_ok h₁ hstarted, ok_bind, partOf_eq_ok h₂ hduration, ok_bind,
    partOf_eq_ok h₃ (readCount_draft _), ok_bind, partOf_eq_ok h₄ (readCount_draft _), ok_bind,
    partOf_eq_ok h₅ (readBool_draft _), ok_bind, partOf_eq_ok h₆ (readCount_draft _), ok_bind,
    partOf_eq_ok h₇ hviolations, ok_bind, partOf_eq_ok h₈ hlines]
  rfl

lemma isWritable_lineJson {line : RuleLine} (h : line.matchedRows ≤ maxNat64) :
    (lineJson line).isWritable := by
  have hmatched := isWritable_int h
  rw [lineJson, isWritable]
  cases line.error with
  | none => simp [haveWritable, isWritable, hmatched]
  | some error => simp [haveWritable, isWritable, hmatched]

lemma IsStorable.isWritable_toJson (h : r.IsStorable) : r.toJson.isWritable := by
  have hviolations : areWritable (r.newViolations.map newViolationJson) :=
    areWritable_iff.mpr (List.forall_mem_map.mpr fun _ _ => rfl)
  have hlines : areWritable (r.rules.map lineJson) :=
    areWritable_iff.mpr (List.forall_mem_map.mpr fun line hline =>
      isWritable_lineJson (h.matchedRows line hline))
  simp [toJson, isWritable, haveWritable, isWritable_int h.durationMillis,
    isWritable_int h.rulesEvaluated, isWritable_int h.rulesFailed, isWritable_int h.violationsFound,
    hviolations, hlines]

lemma depth_toJson_le (r : Report) : r.toJson.depth ≤ 3 := by
  have hviolations : itemsDepth (r.newViolations.map newViolationJson) ≤ 1 :=
    itemsDepth_le (List.forall_mem_map.mpr fun _ _ => le_rfl)
  have hlines : itemsDepth (r.rules.map lineJson) ≤ 1 := by
    refine itemsDepth_le (List.forall_mem_map.mpr fun line _ => ?_)
    rw [lineJson]
    cases line.error <;> exact le_rfl
  simp only [toJson, depth, fieldsDepth, Json.int]
  omega

theorem read_saved (h : r.IsStorable) : read r.write = .ok r := by
  rw [read, write, ofText_pretty h.isWritable_toJson ((depth_toJson_le r).trans (by decide)),
    h.ofDraft_draft]
  rfl

/-! A leap second of the first year, a name with a quote and a control, and the largest numbers -/

def strangeReport : Report where
  startedAt := ⟨-62167132801, 1000000001⟩
  durationMillis := maxNat64
  rulesEvaluated := 2
  rulesFailed := 1
  cancelled := true
  violationsFound := 1
  newViolations := [⟨"v-1", "Émail \"présent\"\n", "t\\", "<null>"⟩]
  rules :=
    [⟨"r-1", "Émail \"présent\"\n", "matched", maxNat64, true, none⟩,
      ⟨"r-2", "", "timed_out", 0, false, some "\u0007"⟩]

theorem read_saved_strangeReport : read strangeReport.write = .ok strangeReport := by
  have hyear : strangeReport.startedAt.toFields.year = 0 := by decide
  refine read_saved ⟨⟨⟨hyear.ge, hyear.trans_le (by decide)⟩, .inr (by decide)⟩,
    le_rfl, by decide, by decide, by decide, ?_⟩
  simp only [strangeReport, List.forall_mem_cons]
  exact ⟨le_rfl, Nat.zero_le _, List.forall_mem_nil _⟩

end Scan.Report

end Compliance
