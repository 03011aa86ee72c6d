import Mathlib.Logic.Relation
import Compliance.Proofs.Scan.Process
import Compliance.Proofs.Store.Recording
import Compliance.Store.Scan

/-! Under the policy that skips open findings no key comes to have two open violations, whatever
happens between the batches. -/

namespace Compliance.Store

open Database Relation Result
open Violation (Candidate)

abbrev Key := String × String × String

def isOpenOf (key : Key) (row : ViolationRow) : Bool :=
  row.key = key && row.status = Violation.Status.opened.name

def openCount (s : Store) (key : Key) : ℕ := (s.violations.getD []).countP (isOpenOf key)

/-- What may happen to a store but for resolutions: what a scan found is recorded, rules are
imported, or the tables that the rules look at are changed. -/
inductive Addition : Store → Store → Prop
  | records {s s' : Store} {newId : ℕ → String} {now : Time.Timestamp} {batch : List Candidate}
    {recorded : List Violation} (h : persist newId now batch .skipOpen s = .ok (recorded, s')) :
      Addition s s'
  | imports {s s' : Store} {rules : List Rule} (h : insertRules rules s = .ok s') : Addition s s'
  | changesData (s : Store) (relations : List Relation) : Addition s { s with relations }

inductive MayResolve (row : ViolationRow) : ViolationRow → Prop
  | stays : MayResolve row row
  | resolves {status : String}
    (h : status ≠ Violation.Status.opened.name) : MayResolve row { row with status }

inductive Change : Store → Store → Prop
  | adds {s s' : Store} (h : Addition s s') : Change s s'
  | resolves {s : Store} {rows rows' : List ViolationRow} (hs : s.violations = some rows)
    (h : List.Forall₂ MayResolve rows rows') : Change s { s with violations := some rows' }

variable {newId : ℕ → String} {now : Time.Timestamp} {batch : List Candidate}
  {recorded : List Violation} {s s' : Store} {key : Key}

lemma hasOpen_eq (rows : List ViolationRow) (key : Key) :
    hasOpen rows key = rows.any (isOpenOf key) := rfl

lemma hasOpen_iff : hasOpen (s.violations.getD []) key ↔ 0 < openCount s key := by
  rw [hasOpen_eq, List.any_eq_true, openCount, List.countP_pos_iff]

lemma countP_unreported (reported : Key → Bool) (batch : List Candidate) (key : Key) :
    (unreported reported batch).countP (·.key = key) = if !reported key && batch.any (·.key = key)
    then 1 else 0 := by
  induction batch generalizing reported with
  | nil => simp [unreported]
  | cons c batch ih =>
    rw [unreported_cons, List.any_cons]
    by_cases hkey : c.key = key
    · subst hkey
      cases hc : reported c.key <;> simp [hc, ih]
    · cases hc : reported c.key <;> simp [hkey, ih]

lemma countP_added {vs : List Violation} {added : List ViolationRow}
    (h : List.Forall₂ (fun v row => rowOfViolation v = .ok row) vs added)
    (hopen : ∀ v ∈ vs, v.status = .opened) (key : Key) :
    added.countP (isOpenOf key) = vs.countP (·.key = key) := by
  induction h with
  | nil => rfl
  | @cons v row vs added hrow _ ih =>
    obtain ⟨hv, hvs⟩ := List.forall_mem_cons.mp hopen
    obtain ⟨instant, _, rfl⟩ := rowOfViolation_eq_ok.mp hrow
    have hrow : isOpenOf key ⟨v.id, v.ruleId, v.recordId, v.table, v.severity.name, v.status.name,
        (Json.object v.evidence).compact, v.explanation, instant⟩ = decide (v.key = key) := by
      rw [isOpenOf, hv, decide_eq_true rfl, Bool.and_true]
      rfl
    rw [List.countP_cons, List.countP_cons, ih hvs, hrow]

lemma countP_recordedAs (newId : ℕ → String) (now : Time.Timestamp) (taken : ℕ)
    (batch : List Candidate) (key : Key) :
    (recordedAs newId now taken batch).countP (·.key = key) = batch.countP (·.key = key) := by
  induction batch generalizing taken with
  | nil => rfl
  | cons c batch ih =>
    rw [recordedAs_cons, List.countP_cons, List.countP_cons, ih]
    rfl

lemma openCount_persist (h : persist newId now batch .skipOpen s = .ok (recorded, s')) (key : Key) :
    openCount s' key = openCount s key + if openCount s key = 0 ∧ ∃ c ∈ batch, c.key = key then 1
      else 0 := by
  obtain ⟨hrecorded, added, hadded, rfl⟩ := persist_eq_ok h
  rcases violations_of_persist h with ⟨rfl, rfl, hs'⟩ | ⟨rows, hs⟩
  · simp [hs']
  have hopen : ∀ v ∈ recorded, v.status = .opened := fun v hv => status_of_recordedAs (hrecorded ▸ hv)
  have hcount : added.countP (isOpenOf key) = if !hasOpen rows key && batch.any (·.key = key) then 1
    else 0 := by
    rw [countP_added hadded hopen, hrecorded, countP_recordedAs, hs]
    exact countP_unreported _ _ key
  have hnone : hasOpen rows key = false ↔ openCount s key = 0 := by
    have : hasOpen (s.violations.getD []) key ↔ 0 < openCount s key := hasOpen_iff
    rw [hs, Option.getD_some] at this
    rw [← Bool.not_eq_true, this]
    omega
  have hcases : (!hasOpen rows key && batch.any (·.key = key)) = true ↔
      openCount s key = 0 ∧ ∃ c ∈ batch, c.key = key := by
    rw [Bool.and_eq_true, Bool.not_eq_true', hnone, List.any_eq_true]
    simp
  have hsplit : openCount { s with violations := s.violations.map (· ++ added) } key =
      openCount s key + added.countP (isOpenOf key) := by
    rw [openCount, openCount, hs]
    exact List.countP_append
  rw [hsplit, hcount]
  simp only [hcases]

lemma violations_insertRules {rules : List Rule} (h : insertRules rules s = .ok s') :
    s'.violations = s.violations := by
  have h := mapError_eq_ok.mp h
  split_ifs at h
  · obtain rfl := Except.ok.inj h
    rfl
  · obtain ⟨_, _, h⟩ := bind_eq_ok.mp h
    obtain ⟨_, _, h⟩ := bind_eq_ok.mp h
    obtain rfl := pure_eq_ok.mp h
    rfl

lemma openCount_congr (h : s'.violations = s.violations) (key : Key) :
    openCount s' key = openCount s key := by
  rw [openCount, openCount, h]

lemma Addition.openCount_cases (h : Addition s s') (key : Key) :
    openCount s' key = openCount s key ∨ openCount s key = 0 ∧ openCount s' key = 1 := by
  cases h with
  | records h =>
    rw [openCount_persist h key]
    split_ifs with hnew
    · rw [hnew.1]
      exact .inr ⟨rfl, rfl⟩
    · exact .inl rfl
  | imports h => exact .inl (openCount_congr (violations_insertRules h) key)
  | changesData => exact .inl rfl

lemma isOpenOf_of_mayResolve {row row' : ViolationRow} (h : MayResolve row row')
    (hopen : isOpenOf key row') :
    isOpenOf key row := by
  cases h with
  | stays => exact hopen
  | resolves hstatus =>
    rw [isOpenOf, Bool.and_eq_true] at hopen
    exact absurd (of_decide_eq_true hopen.2) hstatus

lemma countP_mayResolve_le {rows rows' : List ViolationRow} (h : List.Forall₂ MayResolve rows rows')
    (key : Key) :
    rows'.countP (isOpenOf key) ≤ rows.countP (isOpenOf key) := by
  induction h with
  | nil => exact Nat.le_refl 0
  | @cons row row' rows rows' hrow _ ih =>
    rw [List.countP_cons, List.countP_cons]
    cases hopen : isOpenOf key row' with
    | true =>
      rw [isOpenOf_of_mayResolve hrow hopen]
      simpa using ih
    | false => exact Nat.le_add_right_of_le ih

lemma Change.openCount_le (h : Change s s') (key : Key) :
    openCount s' key ≤ max 1 (openCount s key) := by
  cases h with
  | adds h =>
    rcases h.openCount_cases key with h | ⟨_, h⟩
    · exact h ▸ Nat.le_max_right ..
    · exact h ▸ Nat.le_max_left ..
  | @resolves rows rows' hs h =>
    have hcount : openCount { s with violations := some rows' } key ≤ openCount s key := by
      rw [openCount, openCount, hs]
      exact countP_mayResolve_le h key
    exact Nat.le_trans hcount (Nat.le_max_right ..)

lemma openCount_le_of_changes (h : ReflTransGen Change s s') (key : Key) :
    openCount s' key ≤ max 1 (openCount s key) := by
  induction h with
  | refl => exact Nat.le_max_right ..
  | tail _ hstep ih =>
    exact Nat.le_trans (hstep.openCount_le key) (Nat.max_le.mpr ⟨Nat.le_max_left .., ih⟩)

lemma openCount_pos_of_additions (h : ReflTransGen Addition s s') (hpos : 0 < openCount s key) :
    0 < openCount s' key := by
  induction h with
  | refl => exact hpos
  | tail _ hstep ih =>
    rcases hstep.openCount_cases key with h | ⟨_, h⟩
    · exact h ▸ ih
    · exact h ▸ Nat.one_pos

lemma persist_of_reported (h : ∀ c ∈ batch, 0 < openCount s c.key) (newId : ℕ → String)
    (now : Time.Timestamp) :
    persist newId now batch .skipOpen s = .ok ([], s) := by
  rw [persist]
  by_cases hbatch : batch = []
  · rw [if_pos hbatch]
    rfl
  obtain ⟨c, rest, rfl⟩ := List.exists_cons_of_ne_nil hbatch
  obtain ⟨rows, hs⟩ : ∃ rows, s.violations = some rows := by
    cases hs : s.violations with
    | some rows => exact ⟨rows, rfl⟩
    | none =>
      have hpos := h c (List.mem_cons_self ..)
      rw [openCount, hs] at hpos
      exact absurd hpos (Nat.lt_irrefl 0)
  have hnone : chosen .skipOpen (hasOpen rows) (c :: rest) = [] := by
    refine List.map_eq_nil_iff.mpr (List.filter_eq_nil_iff.mpr ?_)
    rintro ⟨d, i⟩ hd
    have hopen := hasOpen_iff.mpr (h d (List.fst_mem_of_mem_zipIdx hd))
    rw [hs, Option.getD_some] at hopen
    simp [hopen]
  rw [if_neg hbatch, violationRows_eq_ok.mpr hs, ok_bind, recordAll_eq_append, hnone]
  cases s
  subst hs
  rfl

lemma addition_of_scan {clock : Scan.Clock} {settings : Scan.Settings} {disturbance : Disturbance}
    {report : Scan.Report} (hpolicy : settings.dedup = .skipOpen)
    (h : s.scan newId clock settings disturbance = .ok (report, s')) :
    s' = s ∨ Addition s s' := by
  have hrun := h
  obtain ⟨rules, hfetch, h⟩ := bind_eq_ok.mp h
  split_ifs at h with hempty
  · exact .inl (Prod.ext_iff.mp (pure_eq_ok.mp h)).2.symm
  obtain ⟨catalog, hcatalog, _⟩ := bind_eq_ok.mp h
  have hne : rules ≠ [] := List.isEmpty_eq_false_iff.mp (Bool.eq_false_iff.mpr hempty)
  rw [scan, Scan.run_of_evaluate (mapError_eq_ok.mp hfetch) hne (mapError_eq_ok.mp hcatalog) rfl] at hrun
  split_ifs at hrun
  obtain ⟨⟨recorded, s''⟩, hpersist, hrun⟩ := map_eq_ok.mp hrun
  obtain ⟨_, rfl⟩ := Prod.ext_iff.mp hrun
  rw [hpolicy] at hpersist
  exact .inr (.records (mapError_eq_ok.mp hpersist))

/-- Under the policy that skips open findings a batch adds, in its order, those candidates whose key
has no open violation and did not occur before. So whatever scans record, in whatever order and
whatever happens between, no key comes to have a second open violation; what has been resolved is
reported again when it is found again, and what has not is not. -/
theorem skipOpen_reports_once :
    (∀ newId now batch recorded (s s' : Store),
      persist newId now batch .skipOpen s = .ok (recorded, s') →
      recorded = recordedAs newId now 0 (unreported (hasOpen (s.violations.getD [])) batch) ∧
      ∃ added, List.Forall₂ (fun v row => rowOfViolation v = .ok row) recorded added ∧
        s' = { s with violations := s.violations.map (· ++ added) }) ∧
    (∀ newId now batch (s : Store) rows, s.violations = some rows → Fresh newId rows →
      (Instant.ofTimestamp? now).isSome →
      ∃ recorded s', persist newId now batch .skipOpen s = .ok (recorded, s')) ∧
    (∀ newId clock settings disturbance report (s s' : Store), settings.dedup = .skipOpen →
      s.scan newId clock settings disturbance = .ok (report, s') → s' = s ∨ Addition s s') ∧
    (∀ s s' key, ReflTransGen Change s s' → openCount s' key ≤ max 1 (openCount s key)) ∧
    (∀ newId now batch recorded s s', persist newId now batch .skipOpen s = .ok (recorded, s') →
      ∀ c ∈ batch, openCount s c.key = 0 → openCount s' c.key = 1) ∧
    ∀ newId now newId' now' batch recorded s s' s'',
      persist newId now batch .skipOpen s = .ok (recorded, s') →
      ReflTransGen Addition s' s'' → persist newId' now' batch .skipOpen s'' = .ok ([], s'') := by
  refine ⟨fun _ _ _ _ _ _ h => persist_eq_ok h, fun _ _ batch _ _ hrows hfresh hnow =>
    exists_persist hrows hfresh hnow batch _,
    fun _ _ _ _ _ _ _ hpolicy h => addition_of_scan hpolicy h,
    fun _ _ key h => openCount_le_of_changes h key, ?_, ?_⟩
  · intro newId now batch recorded s s' h c hc hnone
    rw [openCount_persist h, if_pos ⟨hnone, c, hc, rfl⟩, hnone]
  · intro newId now newId' now' batch recorded s s' s'' h hadditions
    refine persist_of_reported (fun c hc => openCount_pos_of_additions hadditions ?_) newId' now'
    rw [openCount_persist h]
    split_ifs with hnew
    · exact Nat.succ_pos _
    · exact Nat.pos_of_ne_zero fun hzero => hnew ⟨hzero, c, hc, rfl⟩

/-! A row that is found three times -/

def minor : Candidate := ⟨"r1", "adults", "people", "c", .high, [], "Violation of rule: adults"⟩

theorem skipOpen_reports_minor_once : ∃ recorded s',
    persist countedId Time.Timestamp.epoch [minor, minor] .skipOpen
      { Store.empty with violations := some [] } = .ok (recorded, s') ∧
    openCount s' minor.key = 1 ∧
      persist countedId Time.Timestamp.epoch [minor, minor] .skipOpen s' = .ok ([], s') := by
  obtain ⟨_, hrecords, _, _, hone, hagain⟩ := skipOpen_reports_once
  obtain ⟨recorded, s', h⟩ := hrecords countedId Time.Timestamp.epoch [minor, minor]
    { Store.empty with violations := some [] } [] rfl fresh_countedId (by decide +kernel)
  exact ⟨recorded, s', h, hone _ _ _ _ _ _ h minor (List.mem_cons_self ..) rfl,
    hagain _ _ _ _ _ _ _ _ _ h .refl⟩

end Compliance.Store
