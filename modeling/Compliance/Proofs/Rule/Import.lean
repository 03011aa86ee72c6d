import Compliance.Proofs.Result
import Compliance.Rule.Import

/-! Which records an import accepts. -/

namespace Compliance.Rule

open Result

variable {entries : List Entry} {newId : ℕ → String} {createdAt : Time.Timestamp} {rule : Rule}
  {proposal : Proposal} {spec : Spec}

lemma map_index_ofRecords (records : List Json) : (Entry.ofRecords records).map (·.index) =
    List.range records.length :=
  List.ext_getElem (by simp [Entry.ofRecords]) fun _ _ _ => by simp [Entry.ofRecords]

lemma map_record_ofRecords (records : List Json) : (Entry.ofRecords records).map (·.record) =
    records.map Proposal.ofJson :=
  List.ext_getElem (by simp [Entry.ofRecords]) fun _ _ _ => by simp [Entry.ofRecords]

lemma judge_eq_ok {entry : Entry} : Import.judge entry = .ok proposal ↔
    entry.record = .ok proposal ∧ ∃ spec, proposal.validate = .ok spec := by
  obtain ⟨index, record⟩ := entry
  cases record with
  | error fault => simp [Import.judge]
  | ok found =>
    cases hvalid : found.validate with
    | error error =>
      simp only [Import.judge, hvalid, reduceCtorEq, Except.ok.injEq, false_iff, not_and]
      rintro rfl ⟨spec, h⟩
      cases hvalid.symm.trans h
    | ok spec =>
      simp only [Import.judge, hvalid, Except.ok.injEq, iff_self_and]
      rintro rfl
      exact ⟨spec, hvalid⟩

lemma exists_entry_of_accepted {taken : ℕ}
    (h : rule ∈ (Import.sortFrom newId createdAt taken entries).accepted) :
    ∃ entry ∈ entries, ∃ proposal spec, entry.record = .ok proposal ∧ proposal.validate = .ok spec ∧
      rule = proposal.toRule rule.id createdAt := by
  induction entries generalizing taken with
  | nil => cases h
  | cons entry entries ih =>
    rw [Import.sortFrom] at h
    cases hjudge : Import.judge entry with
    | error rejection =>
      rw [hjudge] at h
      obtain ⟨other, hother, hrest⟩ := ih h
      exact ⟨other, List.mem_cons_of_mem _ hother, hrest⟩
    | ok proposal =>
      rw [hjudge] at h
      rcases List.mem_cons.mp h with rfl | h
      · obtain ⟨hrecord, spec, hvalid⟩ := judge_eq_ok.mp hjudge
        exact ⟨entry, List.mem_cons_self .., proposal, spec, hrecord, hvalid, rfl⟩
      · obtain ⟨other, hother, hrest⟩ := ih h
        exact ⟨other, List.mem_cons_of_mem _ hother, hrest⟩

lemma spec_of_validate (h : proposal.validate = .ok spec) :
    Spec.read proposal.kind proposal.parameters = .ok spec := by
  rw [Proposal.validate] at h
  split_ifs at h
  exact mapError_eq_ok.mp h

end Compliance.Rule
