import Mathlib.Data.Int.Notation
import Compliance.Proofs.Json.Tokens
import Compliance.Proofs.Json.RoundTrip
import Compliance.Proofs.Store.Statuses

/-! Rules and violations that are stored read back as they were, their times cut to microseconds. -/

namespace Compliance

open Database ListFacts Result

def Time.Timestamp.toMicros (t : Time.Timestamp) : Time.Timestamp := ⟨t.seconds, t.nanos / 1000 * 1000⟩

/-- Whether the time lies in our era. Times before it can be kept but do not read back. -/
def Time.Timestamp.IsOfEra (t : Time.Timestamp) : Prop := 1 ≤ t.toFields.year

namespace Store

section
variable {t : Time.Timestamp} {instant : Instant}

lemma ofMicros?_eq_some {micros : ℤ} (h : Instant.ofMicros? micros = some instant) :
    instant = .finite micros := by
  unfold Instant.ofMicros? at h
  split at h
  · cases h
    rfl
  · cases h

lemma ofTimestamp?_eq_some (h : Instant.ofTimestamp? t = some instant) :
    t.nanos < 1000000000 ∧ t.toFields.year ≤ 9999 ∧
      instant = .finite (t.seconds * 1000000 + t.nanos / 1000) := by
  unfold Instant.ofTimestamp? at h
  by_cases hkept : t.nanos < 1000000000 ∧ t.toFields.year ≤ 9999
  · rw [if_pos hkept] at h
    exact ⟨hkept.1, hkept.2, ofMicros?_eq_some h⟩
  · rw [if_neg hkept] at h
    cases h

lemma day_ofTimestamp (hnanos : t.nanos < 1000000000) :
    (t.seconds * 1000000 + (t.nanos : ℤ) / 1000) / Instant.microsPerDay = t.seconds / 86400 := by
  rw [Instant.microsPerDay]
  omega

lemma readInstant_ofTimestamp (table : String) (h : Instant.ofTimestamp? t = some instant)
    (hera : t.IsOfEra) :
    readInstant table instant = .ok t.toMicros := by
  obtain ⟨hnanos, hyear, rfl⟩ := ofTimestamp?_eq_some h
  have hday := day_ofTimestamp hnanos
  generalize hmicros : t.seconds * 1000000 + (t.nanos : ℤ) / 1000 = micros at hday
  have hseconds : micros / 1000000 = t.seconds := by omega
  have hrest : (micros % 1000000).toNat * 1000 = t.nanos / 1000 * 1000 := by omega
  have hyears : 1 ≤ (Time.Date.ofDay (micros / Instant.microsPerDay)).year ∧
      (Time.Date.ofDay (micros / Instant.microsPerDay)).year ≤ 9999 := by
    rw [hday]
    exact ⟨hera, hyear⟩
  have hread : (Instant.finite micros).toTimestamp? = some t.toMicros := by
    simp only [Instant.toTimestamp?, if_pos hyears, hseconds, hrest]
    rfl
  rw [readInstant, hread]

lemma isOfEra_of_readInstant {table : String} {read : Time.Timestamp}
    (h : Instant.ofTimestamp? t = some instant) (hread : readInstant table instant = .ok read) :
    t.IsOfEra := by
  obtain ⟨hnanos, _, rfl⟩ := ofTimestamp?_eq_some h
  have hday := day_ofTimestamp hnanos
  generalize t.seconds * 1000000 + (t.nanos : ℤ) / 1000 = micros at hday hread
  by_cases hyears : 1 ≤ (Time.Date.ofDay (micros / Instant.microsPerDay)).year ∧
      (Time.Date.ofDay (micros / Instant.microsPerDay)).year ≤ 9999
  · rw [hday] at hyears
    exact hyears.1
  · have hnone : (Instant.finite micros).toTimestamp? = none := by
      simp only [Instant.toTimestamp?, if_neg hyears]
    rw [readInstant, hnone] at hread
    cases hread

end

section
variable {rule : Rule} {row : RuleRow}

lemma rowOfRule_eq_ok : rowOfRule rule = .ok row ↔
    ∃ instant, Instant.ofTimestamp? rule.createdAt = some instant ∧ row = {
    id := rule.id, name := rule.name, kind := rule.kind, description := rule.description
    parameters := rule.parameters.compact, confidence := rule.confidence, status := rule.status.name
    createdAt := instant, source := rule.source } := by
  rw [rowOfRule, RuleRow.ofRule?]
  cases Instant.ofTimestamp? rule.createdAt <;> simp [eq_comm]

lemma toRule_rowOfRule (h : rowOfRule rule = .ok row) (hera : rule.createdAt.IsOfEra)
    (hproper : rule.parameters.isProper) (hdepth : rule.parameters.depth ≤ Json.Draft.maxDepth) :
    row.toRule = .ok { rule with createdAt := rule.createdAt.toMicros } := by
  obtain ⟨instant, hinstant, rfl⟩ := rowOfRule_eq_ok.mp h
  have hstatus := readStatus_eq_ok.mpr rule.status.ofName?_name
  have hparameters : RuleRow.readParameters rule.parameters.compact = rule.parameters := by
    rw [RuleRow.readParameters, Json.parse?_compact hproper hdepth, Option.getD_some]
  rw [RuleRow.toRule, hstatus, readInstant_ofTimestamp rulesName hinstant hera, hparameters]
  rfl

end

section
variable {v : Violation} {row : ViolationRow}

structure IsKept (evidence : Evidence) : Prop where
  proper : (Json.object evidence).isProper
  shallow : (Json.object evidence).depth ≤ Json.Draft.maxDepth

lemma toViolation_rowOfViolation (h : rowOfViolation v = .ok row) (hera : v.createdAt.IsOfEra)
    (hevidence : IsKept v.evidence) :
    row.toViolation = .ok { v with createdAt := v.createdAt.toMicros } := by
  obtain ⟨instant, hinstant, rfl⟩ := rowOfViolation_eq_ok.mp h
  refine toViolation_eq_ok.mpr ⟨v.severity.ofName?_name, v.status.ofName?_name, ?_,
    readInstant_ofTimestamp violationsName hinstant hera, rfl, rfl, rfl, rfl, rfl⟩
  rw [ViolationRow.readEvidence, Json.parse?_compact hevidence.proper hevidence.shallow]
  rfl

end

section
variable {key : String} {value : Json} {fields : List (String × Json)}

structure IsFlat (fields : List (String × Json)) : Prop where
  sorted : (fields.map (·.1)).Pairwise (· < ·)
  flat : ∀ field ∈ fields, ∃ text, field.2 = Json.ofText? text

lemma evidenceOf_eq (columns : List String) (row : Row) :
    Violation.evidenceOf columns row =
      ((columns.zip row).map fun cell => (cell.1, Json.ofText? cell.2)).foldl (fun acc field =>
        insertKey field.1 field.2 acc) [] := by
  rw [List.foldl_map]
  rfl

lemma isFlat_evidenceOf (columns : List String) (row : Row) :
    IsFlat (Violation.evidenceOf columns row) := by
  rw [evidenceOf_eq]
  refine ⟨sorted_foldl_insertKey _ .nil, fun field hfield => ?_⟩
  rcases mem_foldl_insertKey hfield with hfield | hnone
  · obtain ⟨cell, _, rfl⟩ := List.mem_map.mp hfield
    exact ⟨cell.2, rfl⟩
  · cases hnone

lemma fieldsDepth_of_flat (h : ∀ field ∈ fields, ∃ text, field.2 = Json.ofText? text) :
    Json.fieldsDepth fields = 0 := by
  induction fields with
  | nil => rfl
  | cons field fields ih =>
    obtain ⟨⟨text, htext⟩, hrest⟩ := List.forall_mem_cons.mp h
    have hdepth : field.2.depth = 0 := by
      rw [htext]
      cases text <;> rfl
    rw [Json.fieldsDepth, hdepth, ih hrest]
    rfl

lemma IsFlat.isKept (h : IsFlat fields) : IsKept fields := by
  refine ⟨Json.isProper_object_iff.mpr ⟨h.sorted, fun field hfield => ?_⟩, ?_⟩
  · obtain ⟨text, htext⟩ := h.flat field hfield
    rw [htext]
    cases text <;> rfl
  · rw [Json.depth, fieldsDepth_of_flat h.flat]
    decide

end

end Store

end Compliance
