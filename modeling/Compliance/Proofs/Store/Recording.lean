import Mathlib.Data.List.Basic
import Mathlib.Tactic.Lemma
import Compliance.Proofs.Store.Rules
import Compliance.Store.Violations

/-! What a batch of candidates leaves in the store: which of them are recorded, as which violations
and in which rows. -/

namespace Compliance.Store

open Database Result
open Violation (Candidate DedupPolicy)

def unreported (reported : String × String × String → Bool) (batch : List Candidate) : List Candidate :=
  (batch.zipIdx.filter fun (c, i) => !reported c.key && !(batch.take i).any (·.key = c.key)).map (·.1)

def chosen (policy : DedupPolicy) (reported : String × String × String → Bool)
    (batch : List Candidate) : List Candidate :=
  match policy with
  | .append => batch
  | .skipOpen => unreported reported batch

def recordedAs (newId : ℕ → String) (now : Time.Timestamp) (taken : ℕ) (batch : List Candidate) :
    List Violation :=
  batch.mapIdx fun i c => c.record (newId (taken + i)) now

structure Fresh (newId : ℕ → String) (rows : List ViolationRow) : Prop where
  injective : Function.Injective newId
  unused : ∀ i, ∀ row ∈ rows, row.id ≠ newId i

variable {newId : ℕ → String} {now : Time.Timestamp} {taken : ℕ} {rows rows' : List ViolationRow}
  {c : Candidate} {batch : List Candidate} {recorded : List Violation}

lemma rowOfViolation_eq_ok {v : Violation} {row : ViolationRow} : rowOfViolation v = .ok row ↔
    ∃ instant, Instant.ofTimestamp? v.createdAt = some instant ∧ row = {
      id := v.id, ruleId := v.ruleId, recordId := v.recordId, table := v.table
      severity := v.severity.name, status := v.status.name
      evidence := (Json.object v.evidence).compact, explanation := v.explanation
      createdAt := instant } := by
  rw [rowOfViolation, ViolationRow.ofViolation?]
  cases Instant.ofTimestamp? v.createdAt <;> simp [eq_comm]

lemma hasOpen_append (rows more : List ViolationRow) (key : String × String × String) :
    hasOpen (rows ++ more) key = (hasOpen rows key || hasOpen more key) := List.any_append

lemma hasOpen_of_record {row : ViolationRow} {id : String}
    (h : rowOfViolation (c.record id now) = .ok row) (key : String × String × String) :
    hasOpen [row] key = decide (c.key = key) := by
  obtain ⟨instant, _, rfl⟩ := rowOfViolation_eq_ok.mp h
  have hkey : (c.ruleId, c.table, c.recordId) = c.key := rfl
  simp [hasOpen, ViolationRow.key, Candidate.record, hkey]

lemma unreported_cons (reported : String × String × String → Bool) (c : Candidate)
    (batch : List Candidate) :
    unreported reported (c :: batch) =
      if reported c.key then unreported reported batch
      else c :: unreported (fun key => reported key || decide (c.key = key)) batch := by
  have hrest : ∀ p : Candidate × ℕ → Bool, ((batch.zipIdx 1).filter p).map (·.1) =
      (batch.zipIdx.filter fun (d, i) => p (d, i + 1)).map (·.1) := by
    intro p
    rw [List.zipIdx_succ, List.filter_map, List.map_map]
    rfl
  simp only [unreported, List.zipIdx_cons, List.filter_cons, List.take_zero, List.any_nil,
    Bool.not_false, Bool.and_true]
  cases hc : reported c.key with
  | true =>
    simp only [Bool.not_true, Bool.false_eq_true, if_false, if_true, Nat.zero_add, hrest]
    congr 2
    funext ⟨d, i⟩
    by_cases hd : c.key = d.key
    · simp [← hd, hc]
    · simp [hd]
  | false =>
    simp only [Bool.not_false, Bool.false_eq_true, if_false, if_true, Nat.zero_add, hrest, List.map_cons]
    congr 3
    funext ⟨d, i⟩
    simp [Bool.and_assoc]

lemma chosen_nil (policy : DedupPolicy) (reported : String × String × String → Bool) :
    chosen policy reported [] = [] := by
  cases policy <;> rfl

lemma chosen_sublist (policy : DedupPolicy) (reported : String × String × String → Bool)
    (batch : List Candidate) :
    (chosen policy reported batch).Sublist batch := by
  cases policy with
  | append => exact List.Sublist.refl batch
  | skipOpen =>
    have hsub : (unreported reported batch).Sublist (batch.zipIdx.map Prod.fst) :=
      List.filter_sublist.map Prod.fst
    rwa [List.zipIdx_map_fst] at hsub

lemma map_chosen {f : Candidate → Candidate} (hf : ∀ c, (f c).key = c.key) (policy : DedupPolicy)
    (reported : String × String × String → Bool) (batch : List Candidate) :
    (chosen policy reported batch).map f = chosen policy reported (batch.map f) := by
  cases policy with
  | append => rfl
  | skipOpen =>
    rw [chosen, chosen]
    induction batch generalizing reported with
    | nil => rfl
    | cons c batch ih =>
      rw [List.map_cons, unreported_cons, unreported_cons, hf]
      split_ifs
      · exact ih reported
      · rw [List.map_cons, ih]

lemma recordAll_cons (newId : ℕ → String) (now : Time.Timestamp) (policy : DedupPolicy) (taken : ℕ)
    (rows : List ViolationRow) (c : Candidate) (batch : List Candidate) :
    recordAll newId now policy taken rows (c :: batch) =
      if policy = .skipOpen ∧ hasOpen rows c.key then recordAll newId now policy taken rows batch
      else do
        let row ← rowOfViolation (c.record (newId taken) now)
        let rows ← addRow ViolationRow.id row rows
        let (recorded, rows) ← recordAll newId now policy (taken + 1) rows batch
        return (c.record (newId taken) now :: recorded, rows) := rfl

lemma recordAll_eq_append (newId : ℕ → String) (now : Time.Timestamp) (policy : DedupPolicy) (taken : ℕ)
    (rows : List ViolationRow) (batch : List Candidate) :
    recordAll newId now policy taken rows batch =
      recordAll newId now .append taken rows (chosen policy (hasOpen rows) batch) := by
  cases policy with
  | append => rfl
  | skipOpen =>
    rw [chosen]
    induction batch generalizing taken rows with
    | nil => rfl
    | cons c batch ih =>
      rw [recordAll_cons, unreported_cons]
      split_ifs with h hc hc
      · exact ih taken rows
      · exact absurd h.2 hc
      · exact absurd ⟨rfl, hc⟩ h
      · rw [recordAll_cons, if_neg (fun h => nomatch h.1)]
        cases hrow : rowOfViolation (c.record (newId taken) now) with
        | error fault => rfl
        | ok row =>
          rw [ok_bind, ok_bind]
          cases hrows : addRow ViolationRow.id row rows with
          | error fault => rfl
          | ok more =>
            obtain ⟨_, rfl⟩ := addRow_eq_ok.mp hrows
            have hopen : hasOpen (rows ++ [row]) = fun key =>
              hasOpen rows key || decide (c.key = key) := by
              funext key
              rw [hasOpen_append, hasOpen_of_record hrow]
            rw [ok_bind, ok_bind, ih (taken + 1) (rows ++ [row]), hopen]

lemma recordedAs_cons (newId : ℕ → String) (now : Time.Timestamp) (taken : ℕ) (c : Candidate)
    (batch : List Candidate) :
    recordedAs newId now taken (c :: batch) =
      c.record (newId taken) now :: recordedAs newId now (taken + 1) batch := by
  rw [recordedAs, List.mapIdx_cons, recordedAs, Nat.add_zero]
  simp only [Nat.add_assoc, Nat.add_comm 1]

lemma recordAll_append_eq_ok (h : recordAll newId now .append taken rows batch = .ok (recorded, rows')) :
    recorded = recordedAs newId now taken batch ∧
      ∃ added, List.Forall₂ (fun v row => rowOfViolation v = .ok row) recorded added ∧
        rows' = rows ++ added := by
  induction batch generalizing taken rows recorded with
  | nil =>
    obtain ⟨rfl, rfl⟩ := Prod.ext_iff.mp (Except.ok.inj h)
    exact ⟨rfl, [], .nil, (List.append_nil _).symm⟩
  | cons c batch ih =>
    rw [recordAll_cons, if_neg (fun h => nomatch h.1)] at h
    obtain ⟨row, hrow, h⟩ := bind_eq_ok.mp h
    obtain ⟨more, hmore, h⟩ := bind_eq_ok.mp h
    obtain ⟨⟨rest, final⟩, hrest, h⟩ := bind_eq_ok.mp h
    obtain ⟨rfl, rfl⟩ := Prod.ext_iff.mp (pure_eq_ok.mp h)
    obtain ⟨_, rfl⟩ := addRow_eq_ok.mp hmore
    obtain ⟨rfl, added, hadded, rfl⟩ := ih hrest
    exact ⟨(recordedAs_cons ..).symm, row :: added, .cons hrow hadded, by simp⟩

lemma nodup_recordAll {policy : DedupPolicy}
    (h : recordAll newId now policy taken rows batch = .ok (recorded, rows'))
    (hids : (rows.map (·.id)).Nodup) : (rows'.map (·.id)).Nodup := by
  induction batch generalizing taken rows recorded with
  | nil =>
    obtain ⟨_, rfl⟩ := Prod.ext_iff.mp (Except.ok.inj h)
    exact hids
  | cons c batch ih =>
    rw [recordAll_cons] at h
    split_ifs at h
    · exact ih h hids
    · obtain ⟨row, _, h⟩ := bind_eq_ok.mp h
      obtain ⟨more, hmore, h⟩ := bind_eq_ok.mp h
      obtain ⟨⟨rest, final⟩, hrest, h⟩ := bind_eq_ok.mp h
      obtain ⟨_, rfl⟩ := Prod.ext_iff.mp (pure_eq_ok.mp h)
      exact ih hrest (nodup_addRow hmore hids)

lemma exists_recordAll_append {instant : Instant} (hnow : Instant.ofTimestamp? now = some instant)
    (hinjective : Function.Injective newId) (hunused : ∀ i, taken ≤ i → ∀ row ∈ rows, row.id ≠ newId i)
    (batch : List Candidate) : ∃ recorded rows', recordAll newId now .append taken rows batch =
      .ok (recorded, rows') := by
  induction batch generalizing taken rows with
  | nil => exact ⟨[], rows, rfl⟩
  | cons c batch ih =>
    obtain ⟨row, hrow⟩ : ∃ row, rowOfViolation (c.record (newId taken) now) = .ok row :=
      ⟨_, rowOfViolation_eq_ok.mpr ⟨instant, hnow, rfl⟩⟩
    have hid : row.id = newId taken := by
      obtain ⟨_, _, rfl⟩ := rowOfViolation_eq_ok.mp hrow
      rfl
    have hadd : addRow ViolationRow.id row rows = .ok (rows ++ [row]) :=
      addRow_eq_ok.mpr ⟨fun r hr => hid ▸ hunused taken (Nat.le_refl _) r hr, rfl⟩
    have hunused' : ∀ i, taken + 1 ≤ i → ∀ r ∈ rows ++ [row], r.id ≠ newId i := by
      intro i hi r hr
      rcases List.mem_append.mp hr with hr | hr
      · exact hunused i (Nat.le_of_succ_le hi) r hr
      · rw [List.mem_singleton.mp hr, hid]
        exact fun he => Nat.ne_of_lt hi (hinjective he)
    obtain ⟨recorded, rows', h⟩ := ih hunused'
    refine ⟨c.record (newId taken) now :: recorded, rows', ?_⟩
    rw [recordAll_cons, if_neg (fun h => nomatch h.1), hrow, ok_bind, hadd, ok_bind, h]
    rfl

lemma status_of_recordedAs {taken : ℕ} {v : Violation} (hv : v ∈ recordedAs newId now taken batch) :
    v.status = .opened := by
  obtain ⟨i, _, rfl⟩ := List.mem_mapIdx.mp hv
  rfl

def countedId (n : ℕ) : String := String.ofList (List.replicate n 'v')

lemma fresh_countedId : Fresh countedId [] where
  injective m n h := by
    have h := congrArg List.length (String.ofList_injective h)
    rwa [List.length_replicate, List.length_replicate] at h
  unused _ _ hr := nomatch hr

variable {policy : DedupPolicy} {s s' : Store}

lemma violationRows_eq_ok : s.violationRows = .ok rows ↔ s.violations = some rows := by
  rw [violationRows]
  cases s.violations <;> simp

theorem persist_eq_ok (h : persist newId now batch policy s = .ok (recorded, s')) :
    recorded = recordedAs newId now 0 (chosen policy (hasOpen (s.violations.getD [])) batch) ∧
      ∃ added, List.Forall₂ (fun v row => rowOfViolation v = .ok row) recorded added ∧
        s' = { s with violations := s.violations.map (· ++ added) } := by
  have h := mapError_eq_ok.mp h
  split_ifs at h with hbatch
  · obtain ⟨rfl, rfl⟩ := Prod.ext_iff.mp (Except.ok.inj h)
    rw [hbatch, chosen_nil]
    exact ⟨rfl, [], .nil, by cases s; simp⟩
  · obtain ⟨rows, hrows, h⟩ := bind_eq_ok.mp h
    obtain ⟨⟨found, final⟩, hrecord, h⟩ := bind_eq_ok.mp h
    obtain ⟨rfl, rfl⟩ := Prod.ext_iff.mp (pure_eq_ok.mp h)
    rw [recordAll_eq_append] at hrecord
    obtain ⟨hfound, added, hadded, rfl⟩ := recordAll_append_eq_ok hrecord
    have hviolations := violationRows_eq_ok.mp hrows
    rw [hviolations]
    exact ⟨hfound, added, hadded, rfl⟩

lemma violations_of_persist (h : persist newId now batch policy s = .ok (recorded, s')) :
    batch = [] ∧ recorded = [] ∧ s' = s ∨ ∃ rows, s.violations = some rows := by
  have h := mapError_eq_ok.mp h
  split_ifs at h with hbatch
  · obtain ⟨rfl, rfl⟩ := Prod.ext_iff.mp (Except.ok.inj h)
    exact .inl ⟨hbatch, rfl, rfl⟩
  · obtain ⟨rows, hrows, _⟩ := bind_eq_ok.mp h
    exact .inr ⟨rows, violationRows_eq_ok.mp hrows⟩

lemma nodup_of_persist (h : persist newId now batch policy s = .ok (recorded, s'))
    (hs : s.violations = some rows) (hids : (rows.map (·.id)).Nodup)
    (hs' : s'.violations = some rows') : (rows'.map (·.id)).Nodup := by
  have h := mapError_eq_ok.mp h
  split_ifs at h
  · obtain ⟨_, rfl⟩ := Prod.ext_iff.mp (Except.ok.inj h)
    exact Option.some.inj (hs.symm.trans hs') ▸ hids
  · obtain ⟨found, hfound, h⟩ := bind_eq_ok.mp h
    obtain ⟨⟨_, final⟩, hrecord, h⟩ := bind_eq_ok.mp h
    obtain ⟨_, rfl⟩ := Prod.ext_iff.mp (pure_eq_ok.mp h)
    obtain rfl := Option.some.inj (hs.symm.trans (violationRows_eq_ok.mp hfound))
    exact Option.some.inj hs' ▸ nodup_recordAll hrecord hids

theorem exists_persist (hrows : s.violations = some rows) (hid : Fresh newId rows)
    (hnow : (Instant.ofTimestamp? now).isSome) (batch : List Candidate) (policy : DedupPolicy) :
    ∃ recorded s', persist newId now batch policy s = .ok (recorded, s') := by
  obtain ⟨instant, hnow⟩ := Option.isSome_iff_exists.mp hnow
  have hunused : ∀ i, 0 ≤ i → ∀ row ∈ rows, row.id ≠ newId i := fun i _ => hid.unused i
  obtain ⟨recorded, rows', h⟩ :=
    exists_recordAll_append hnow hid.injective hunused (chosen policy (hasOpen rows) batch)
  rw [← recordAll_eq_append] at h
  rw [persist, asFailure]
  split_ifs with hbatch
  · exact ⟨[], s, rfl⟩
  · refine ⟨recorded, { s with violations := some rows' }, ?_⟩
    rw [violationRows_eq_ok.mpr hrows, ok_bind, h]
    rfl

end Compliance.Store
