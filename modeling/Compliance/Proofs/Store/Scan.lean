import Compliance.Proofs.Scan.Cooperative
import Compliance.Proofs.Scan.Process
import Compliance.Proofs.Store.Session
import Compliance.Store.Scan

/-! A scan of the store: whatever happens to it, it leaves the bookkeeping as it was, or with the
violations that it reports. -/

namespace Compliance.Store

open Database Result Scan

def reply (s : Store) (limit : ℕ) (query : Query) : Option Scan.Answer :=
  (s.behaviour query limit).answer

lemma behaviour_eq (s : Store) (query : Query) (limit : ℕ) :
    s.behaviour query limit = .prompt (s.reply limit query) := by
  rw [reply, behaviour]
  rcases s.answer query limit with fault | _ | rows <;> rfl

lemma evaluate_eq (s : Store) (disturbance : Disturbance) (settings : Settings) (catalog : Catalog)
    (rules : List Rule) :
    s.evaluate disturbance settings catalog rules =
      let last :=
        Cooperative.evaluate (fun _ query => .prompt (s.reply (rowLimit settings.maxRows) query)) 0
          disturbance.cancelAfter settings catalog rules disturbance.cancelled
      (last.pass.evaluations, last.pass.cancelled) := by
  rw [evaluate]
  simp only [behaviour_eq]

lemma byEvents_evaluate (s : Store) (disturbance : Disturbance) {settings : Settings}
    (hworkers : 1 ≤ settings.maxWorkers) :
    Evaluate.ByEvents (s.evaluate disturbance) settings disturbance.cancelled := by
  intro catalog rules
  obtain ⟨hdone, ⟨events, hpass⟩, _⟩ := Cooperative.evaluate_prompt (s.reply (rowLimit settings.maxRows))
    disturbance.cancelAfter hworkers catalog rules disturbance.cancelled
  refine ⟨events, hpass ▸ hdone, ?_⟩
  rw [evaluate_eq, ← hpass]

lemma serves_ports (newId : ℕ → String) (now : Time.Timestamp) :
    (ports (fun _ => none) newId now).Serves (scanStore newId now) Session.opened where
  fetch _ _ := rfl
  catalog _ := rfl
  persist batch policy s := by
    have hpersist : (scanStore newId now).persist batch policy s =
      persist newId now batch policy s := rfl
    rw [hpersist]
    refine (recordBatch_willing newId now batch policy s).trans ?_
    cases persist newId now batch policy s <;> rfl

theorem exists_moments_scan (newId : ℕ → String) (clock : Clock) {settings : Settings}
    (hworkers : 1 ≤ settings.maxWorkers) (disturbance : Disturbance) (s : Store) :
    ∃ moments evaluations,
      let last := (Process.begin (Session.opened s)).run (ports (fun _ => none) newId clock.startedAt)
        settings clock moments
      match s.scan newId clock settings disturbance with
      | .ok (report, s') => last.stage = .ended evaluations (.ok report) ∧ last.state = .opened s'
      | .error error => last.stage = .ended evaluations (.error error) ∧ last.state = .opened s := by
  obtain ⟨moments, evaluations, h⟩ := Process.exists_moments (serves_ports newId clock.startedAt)
    (byEvents_evaluate s disturbance hworkers) clock s
  refine ⟨moments, evaluations, ?_⟩
  rw [scan]
  cases hrun : Scan.run (scanStore newId clock.startedAt) (s.evaluate disturbance) settings clock s
    <;> rw [hrun] at h <;>
    exact h

variable {newId : ℕ → String} {now : Time.Timestamp} {s s' : Store} {batch : List Violation.Candidate}
  {policy : Violation.DedupPolicy} {recorded : List Violation}

lemma exists_added (h : persist newId now batch policy s = .ok (recorded, s')) :
    ∃ added : List ViolationRow, s' = { s with violations := s.violations.map (· ++ added) } ∧
      (s.violations = none → added = []) ∧ added.length = recorded.length ∧
      added.map (fun row => (row.id, row.table, row.recordId)) =
        recorded.map (fun v => (v.id, v.table, v.recordId)) ∧
      ∀ row ∈ added, row.status = Violation.Status.opened.name := by
  obtain ⟨hrecorded, added, hadded, hs'⟩ := persist_eq_ok h
  have hrows : ∀ v ∈ recorded, v.status = .opened := fun v hv => status_of_recordedAs (hrecorded ▸ hv)
  refine ⟨added, hs', fun hs => ?_, hadded.length_eq.symm, ?_, ?_⟩
  · rcases violations_of_persist h with ⟨_, rfl, _⟩ | ⟨rows, hrows⟩
    · exact List.forall₂_nil_left_iff.mp hadded
    · exact nomatch hs.symm.trans hrows
  · clear hrecorded hs' h
    induction hadded with
    | nil => rfl
    | @cons v row _ _ hrow _ ih =>
      obtain ⟨_, _, rfl⟩ := rowOfViolation_eq_ok.mp hrow
      rw [List.map_cons, List.map_cons, ih (List.forall_mem_cons.mp hrows).2]
  · clear hrecorded hs' h
    induction hadded with
    | nil => exact fun _ hr => nomatch hr
    | @cons v row _ _ hrow _ ih =>
      obtain ⟨_, _, rfl⟩ := rowOfViolation_eq_ok.mp hrow
      obtain ⟨hv, hrows⟩ := List.forall_mem_cons.mp hrows
      exact List.forall_mem_cons.mpr ⟨congrArg Violation.Status.name hv, ih hrows⟩

lemma persist_ports_cases (refusals : Refusals) (newId : ℕ → String) (now : Time.Timestamp)
    (batch : List Violation.Candidate) (policy : Violation.DedupPolicy) (s : Store) :
    (∃ failure, (ports refusals newId now).persist batch policy (.opened s) =
      (.error failure, .opened s)) ∨
      ∃ recorded s', persist newId now batch policy s = .ok (recorded, s') ∧
        (ports refusals newId now).persist batch policy (.opened s) = (.ok recorded, .opened s') :=
  recordBatch_cases refusals newId now batch policy s

lemma newViolations_ofEvaluations (startedAt : Time.Timestamp) (durationMillis : ℕ)
    (evaluations : List Evaluation) (recorded : List Violation) (cancelled : Bool) :
    (Report.ofEvaluations startedAt durationMillis evaluations recorded cancelled).newViolations.map
        (fun v => (v.id, v.table, v.recordId)) =
      recorded.map (fun v => (v.id, v.table, v.recordId)) := List.map_map

/-- Whatever is refused to a scan, however its queries behave and whenever it is cancelled: unless
it ends with a report the store is as it was, and if it does, the violations that the report tells
of have been added and nothing else has changed. There is at most one batch to be recorded, when all
evaluations have ended. -/
theorem scan_all_or_nothing (refusals : Refusals) (newId : ℕ → String) (settings : Settings)
    (clock : Clock) (s : Store) (moments : List Moment) :
    let scan :=
      (Process.begin (Session.opened s)).run (ports refusals newId clock.startedAt) settings clock
    ((∀ evaluations report, (scan moments).stage ≠ .ended evaluations (.ok report)) →
      (scan moments).state = .opened s) ∧
    (∀ evaluations report, (scan moments).stage = .ended evaluations (.ok report) →
      ∃ added : List ViolationRow,
        (scan moments).state = .opened { s with violations := s.violations.map (· ++ added) } ∧
        (s.violations = none → added = []) ∧
        added.map (fun row => (row.id, row.table, row.recordId)) =
          report.newViolations.map (fun v => (v.id, v.table, v.recordId)) ∧
        (∀ row ∈ added, row.status = Violation.Status.opened.name) ∧
        report.violationsFound = added.length) ∧
    ((scan moments).batches = [] ∨
      ∃ within rest pass, moments = within ++ .advance :: rest ∧
        (scan within).stage = .evaluating pass ∧ pass.isDone ∧
        (scan within).batches = [] ∧ (scan moments).batches = [(pass.candidates, settings.dedup)]) := by
  intro scan
  rcases Process.run_cases (ports refusals newId clock.startedAt) settings clock (.opened s) moments with
    hunder | ⟨within, rest, hmoments, hwithin, hends⟩
  · have hnot : ∀ evaluations result, (scan moments).stage ≠ .ended evaluations result := by
      intro evaluations result hstage
      change Underway _ _ _ (scan moments) at hunder
      generalize scan moments = p at hunder hstage
      cases hunder <;> exact nomatch hstage
    exact ⟨fun _ => Process.state_eq hunder, fun evaluations report h => absurd h (hnot evaluations _),
      .inl (Process.batches_eq_nil hunder)⟩
  have hstate := Process.state_eq hwithin
  cases hends with
  | unavailable _ hlast hstage hbatches =>
    refine ⟨fun _ => hlast.trans hstate, fun evaluations report h => ?_, .inl hbatches⟩
    cases h.symm.trans hstage
  | empty _ hlast hstage hbatches =>
    refine ⟨fun _ => hlast.trans hstate, fun evaluations report h => ?_, .inl hbatches⟩
    obtain rfl := Except.ok.inj (Stage.ended.inj (h.symm.trans hstage)).2
    refine ⟨[], (hlast.trans hstate).trans ?_, fun _ => rfl, rfl, nofun, rfl⟩
    cases s
    simp
  | @concluded pass hstage hdone hconcludes =>
    cases hconcludes with
    | discarded _ _ hlast hended hcalls =>
      refine ⟨fun _ => hlast.trans hstate, fun evaluations report h => ?_, .inl ?_⟩
      · cases h.symm.trans hended
      · rw [Process.batches, hcalls]
        exact Process.batches_eq_nil hwithin
    | recorded _ hlast hended hcalls =>
      rw [hstate] at hlast hended
      have hbatches := Process.batches_recorded hwithin hcalls
      have hbatch : ∃ within rest pass, moments = within ++ .advance :: rest ∧
        (scan within).stage = .evaluating pass ∧
          pass.isDone ∧ (scan within).batches = [] ∧
            (scan moments).batches = [(pass.candidates, settings.dedup)] :=
        ⟨within, rest, pass, hmoments, hstage, hdone, Process.batches_eq_nil hwithin, hbatches⟩
      rcases persist_ports_cases refusals newId clock.startedAt pass.candidates settings.dedup s with
        ⟨failure, hr⟩ | ⟨recorded, s', hpersist, hr⟩
      · rw [hr] at hlast hended
        refine ⟨fun _ => hlast, fun evaluations report h => ?_, .inr hbatch⟩
        cases h.symm.trans hended
      · rw [hr] at hlast hended
        refine ⟨fun h => absurd hended (h _ _), fun evaluations report h => ?_, .inr hbatch⟩
        obtain rfl := Except.ok.inj (Stage.ended.inj (h.symm.trans hended)).2
        obtain ⟨added, rfl, hnone, hlength, hids, hopen⟩ := exists_added hpersist
        refine ⟨added, hlast, hnone, ?_, hopen, hlength.symm⟩
        exact hids.trans (newViolations_ofEvaluations ..).symm

/-! A table of violations that takes one row of two -/

def namedStore : Store where
  rules := some ⟨[⟨"r1", "named", "not_null", "",
    "\x7b\"table\":\"people\",\"column\":\"name\"\x7d", .zero, "pending", .finite 0, none⟩], true⟩
  violations := some []
  relations := [⟨"people", [⟨"name", .text⟩], .stored []⟩]

def fullAfter (count : ℕ) : Refusals := fun statement =>
  if statement = .insert count then some (.database "disk full") else none

def twoNameless : List Moment := [.advance, .advance, .event .start,
  .event (.turn 0 (some (.ok [[none], [some ""]])) false), .advance]

def hasFailed (p : Process Session) : Bool :=
  match p.stage with
  | .ended _ (.error (.persistence _)) => true
  | _ => false

theorem scan_namedStore_full :
    let last :=
      (Process.begin (Session.opened namedStore)).run (ports (fullAfter 1) countedId
        Time.Timestamp.epoch) Settings.usual ⟨Time.Timestamp.epoch, 0⟩ twoNameless
    hasFailed last ∧ last.batches.length = 1 ∧ last.state = .opened namedStore := by
  intro last
  have hfailed : hasFailed last := by decide +kernel
  obtain ⟨hnothing, _⟩ :=
    scan_all_or_nothing (fullAfter 1) countedId Settings.usual ⟨Time.Timestamp.epoch,
      0⟩ namedStore twoNameless
  refine ⟨hfailed, by decide +kernel, hnothing fun evaluations report hstage => ?_⟩
  have hstage : last.stage = .ended evaluations (.ok report) := hstage
  rw [hasFailed, hstage] at hfailed
  exact nomatch hfailed

end Compliance.Store
