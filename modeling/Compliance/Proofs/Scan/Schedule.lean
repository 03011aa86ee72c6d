import Mathlib.Algebra.GroupWithZero.Nat
import Compliance.Proofs.Query.Confinement
import Compliance.Proofs.Scan.Slots
import Compliance.Scan.Run

/-! A pass that nobody cancels comes to the same evaluations in whatever order its events come. -/

namespace Compliance.Scan

open Result

def Undisturbed (deadline : Time.Duration) (answers : ℕ → Answer) (events : List Event) : Prop :=
  ∀ event ∈ events, event ≠ .cancel ∧ event.Agrees deadline answers

lemma agrees_answer (deadline : Time.Duration) (answers : ℕ → Answer) (slot : ℕ) (expired : Bool) :
    (Event.turn slot (some (answers slot)) expired).Agrees deadline answers :=
  fun _ ha => (Option.some.inj ha).symm

def Evaluate.ofEvents (events : List Event) : Evaluate := fun settings catalog rules =>
  let pass := (Pass.begin settings catalog rules false).run events
  (pass.evaluations, pass.cancelled)

namespace Pass

variable {rules : List Rule} {answers : ℕ → Answer} {n : ℕ} {p : Pass}

lemma cancelled_run {events : List Event} (hp : p.cancelled = false)
    (h : ∀ event ∈ events, event ≠ .cancel) :
    (p.run events).cancelled = false := by
  induction events generalizing p with
  | nil => exact hp
  | cons event events ih =>
    rw [List.forall_mem_cons] at h
    refine ih (p := p.step event) ?_ h.2
    cases event with
    | start =>
      rw [step]
      split_ifs <;> exact hp
    | cancel => exact absurd rfl h.1
    | look | turn => exact hp

lemma isSome_of_isDone (hd : p.isDone) {i : ℕ} {slot : Slot} (hs : p.slots[i]? = some slot) :
    slot.evaluation?.isSome :=
  List.all_eq_true.mp hd slot (List.mem_of_getElem? hs)

lemma Orderly.count_of_isDone (h : Orderly rules answers n p) (hd : p.isDone) : n = rules.length := by
  by_contra hne
  have hn : n < rules.length := lt_of_le_of_ne h.count hne
  have hw := h.waiting n rules[n] le_rfl (List.getElem?_eq_getElem hn)
  exact absurd (isSome_of_isDone hd hw) (by simp [Slot.evaluation?])

theorem Orderly.evaluations_of_isDone (h : Orderly rules answers n p) (hd : p.isDone)
    (hc : p.cancelled = false) :
    p.evaluations = rules.mapIdx fun i rule => .alone p.settings.maxRows p.catalog rule (answers i) := by
  obtain rfl := h.count_of_isDone hd
  have hs : p.slots =
      (rules.mapIdx fun i rule =>
        Evaluation.alone p.settings.maxRows p.catalog rule (answers i)).map .ended := by
    refine List.ext_getElem (by simp [h.length]) fun i hi hi' => ?_
    have hr : i < rules.length := h.length ▸ hi
    obtain ⟨slot, hslot, hl⟩ := h.launched i rules[i] hr (List.getElem?_eq_getElem hr)
    have hsome := isSome_of_isDone hd hslot
    rw [List.getElem?_eq_getElem hi, Option.some_inj] at hslot
    rw [hslot, List.getElem_map, List.getElem_mapIdx]
    cases hl with
    | running | polled => simp [Slot.evaluation?] at hsome
    | ended => rfl
    | skipped hcancelled => simp [hc] at hcancelled
  -- every slot has ended, so that none is left out
  rw [evaluations, hs, List.filterMap_map]
  exact List.filterMap_some

def slotWeight : Slot → ℕ
  | .waiting _ => 2
  | .running .. | .polled .. => 1
  | .ended _ => 0

def weight (p : Pass) : ℕ := (p.slots.map slotWeight).sum

lemma sum_modify_lt {slots : List Slot} {i : ℕ} {f : Slot → Slot} {slot : Slot}
    (hs : slots[i]? = some slot) (hf : slotWeight (f slot) < slotWeight slot) :
    ((slots.modify i f).map slotWeight).sum < (slots.map slotWeight).sum := by
  induction slots generalizing i with
  | nil => simp at hs
  | cons first slots ih =>
    cases i with
    | zero =>
      obtain rfl := Option.some.inj hs
      simpa using hf
    | succ i => simpa using ih (i := i) hs

lemma slotWeight_startSlot (p : Pass) (rule : Rule) : slotWeight (p.startSlot rule) ≤ 1 := by
  rw [startSlot]
  split_ifs
  · exact Nat.zero_le 1
  · cases Query.compile p.catalog rule with
    | ok query => exact le_refl 1
    | error error => exact Nat.zero_le 1

lemma slotWeight_turnSlot (p : Pass) (answer : Answer) {slot : Slot} (hr : slot.isRunning) :
    slotWeight (p.turnSlot (some answer) false slot) < slotWeight slot := by
  cases slot with
  | waiting | ended => cases hr
  | polled => exact Nat.one_pos
  | running =>
    rw [turnSlot, lookSlot]
    split_ifs <;> exact Nat.one_pos

lemma weight_start {p : Pass} (hroom : p.hasRoom) {slot : Slot} (hs : slot ∈ p.slots)
    (hw : slot.isWaiting) :
    (p.step .start).weight < p.weight := by
  have hi : p.slots.findIdx Slot.isWaiting < p.slots.length :=
    List.findIdx_lt_length_of_exists ⟨slot, hs, hw⟩
  have hfirst : p.slots[p.slots.findIdx Slot.isWaiting].isWaiting := List.findIdx_getElem (w := hi)
  obtain ⟨rule, hr⟩ : ∃ rule, p.slots[p.slots.findIdx Slot.isWaiting] = .waiting rule := by
    cases hslot : p.slots[p.slots.findIdx Slot.isWaiting] with
    | waiting rule => exact ⟨rule, rfl⟩
    | running | polled | ended => simp [hslot, Slot.isWaiting] at hfirst
  rw [step, if_pos hroom, weight, startFirst_eq]
  refine sum_modify_lt (List.getElem?_eq_getElem hi) ?_
  rw [hr]
  exact Nat.lt_succ_of_le (slotWeight_startSlot p rule)

lemma exists_step {p : Pass} (hw : 1 ≤ p.settings.maxWorkers) (answers : ℕ → Answer) (hd : ¬ p.isDone) :
    ∃ event, event ≠ .cancel ∧ event.Agrees p.settings.timeout answers ∧
      (p.step event).weight < p.weight := by
  have hstart : Event.start ≠ .cancel := nofun
  by_cases hr : ∃ slot ∈ p.slots, slot.isRunning
  · obtain ⟨slot, hs, hr⟩ := hr
    obtain ⟨i, hi, hs⟩ := List.getElem_of_mem hs
    refine ⟨.turn i (some (answers i)) false, nofun, agrees_answer _ answers i false, ?_⟩
    exact sum_modify_lt (List.getElem?_eq_some_iff.mpr ⟨hi, hs⟩) (slotWeight_turnSlot p (answers i) hr)
  · have hr : ∀ slot ∈ p.slots, ¬ slot.isRunning := fun slot hs h => hr ⟨slot, hs, h⟩
    have hroom : p.hasRoom := by
      have hnone : p.runningCount = 0 := List.countP_eq_zero.mpr hr
      rw [hasRoom, hnone, decide_eq_true_eq]
      exact hw
    obtain ⟨slot, hs, hends⟩ : ∃ slot ∈ p.slots, ¬ slot.evaluation?.isSome := by
      by_contra hall
      refine hd (List.all_eq_true.mpr fun slot hs => ?_)
      by_contra hends
      exact hall ⟨slot, hs, hends⟩
    have hwaiting : slot.isWaiting := by
      have hrunning := hr slot hs
      cases slot <;> simp_all [Slot.isRunning, Slot.isWaiting, Slot.evaluation?]
    exact ⟨.start, hstart, trivial, weight_start hroom hs hwaiting⟩

theorem exists_isDone {p : Pass} (hw : 1 ≤ p.settings.maxWorkers) (answers : ℕ → Answer) :
    ∃ rest, Undisturbed p.settings.timeout answers rest ∧ (p.run rest).isDone := by
  induction hn : p.weight using Nat.strong_induction_on generalizing p with
  | h n ih =>
    by_cases hd : p.isDone
    · exact ⟨[], nofun, hd⟩
    obtain ⟨event, hcancel, hagrees, hlt⟩ := exists_step hw answers hd
    have hsettings := settings_step p event
    obtain ⟨rest, hrest, hdone⟩ :=
      ih (p.step event).weight (hn ▸ hlt) (p := p.step event) (hsettings ▸ hw) rfl
    rw [hsettings] at hrest
    refine ⟨event :: rest, ?_, hdone⟩
    rw [Undisturbed, List.forall_mem_cons]
    exact ⟨⟨hcancel, hagrees⟩, hrest⟩

end Pass

def passOf (settings : Settings) (workers : ℕ) (catalog : Catalog) (rules : List Rule) : Pass :=
  .begin { settings with maxWorkers := workers } catalog rules false

section
variable {settings : Settings} {workers : ℕ} {catalog : Catalog} {rules : List Rule}
  {answers : ℕ → Answer} {events : List Event}

lemma orderly_of_undisturbed (workers : ℕ) (catalog : Catalog) (rules : List Rule)
    (h : Undisturbed settings.timeout answers events) :
    ∃ n, Pass.Orderly rules answers n ((passOf settings workers catalog rules).run events) ∧
      (passOf settings workers catalog rules).launches events = List.range n := by
  have hagrees : ∀ event ∈ events,
    event.Agrees (passOf settings workers catalog rules).settings.timeout answers :=
    fun event he => (h event he).2
  have hbegin : Pass.Orderly rules answers 0 (passOf settings workers catalog rules) :=
    Pass.orderly_begin _ catalog rules false answers
  obtain ⟨horderly, hlaunches⟩ := hbegin.run hagrees
  rw [← List.range_eq_range'] at hlaunches
  exact ⟨_, horderly, by rw [Nat.zero_add]; exact hlaunches⟩

lemma evaluations_of_undisturbed (h : Undisturbed settings.timeout answers events)
    (hd : ((passOf settings workers catalog rules).run events).isDone) :
    ((passOf settings workers catalog rules).run events).evaluations =
      rules.mapIdx fun i rule => .alone settings.maxRows catalog rule (answers i) := by
  obtain ⟨n, horderly, _⟩ := orderly_of_undisturbed workers catalog rules h
  have hcancelled : ((passOf settings workers catalog rules).run events).cancelled = false :=
    Pass.cancelled_run rfl fun event he => (h event he).1
  rw [horderly.evaluations_of_isDone hd hcancelled, Pass.settings_run, Pass.catalog_run]
  rfl

lemma exists_isDone_of_events (hworkers : 1 ≤ workers) (answers : ℕ → Answer) (events : List Event) :
    ∃ rest, Undisturbed settings.timeout answers rest ∧
      ((passOf settings workers catalog rules).run (events ++ rest)).isDone := by
  let p := (passOf settings workers catalog rules).run events
  have hsettings : p.settings = { settings with maxWorkers := workers } := Pass.settings_run _ events
  have hp : 1 ≤ p.settings.maxWorkers := by
    rw [hsettings]
    exact hworkers
  obtain ⟨rest, hrest, hd⟩ := Pass.exists_isDone hp answers
  rw [hsettings] at hrest
  refine ⟨rest, hrest, ?_⟩
  rw [Pass.run_append]
  exact hd

end

section
variable {S : Type} {store : Store S} {evaluate : Evaluate} {settings : Settings} {state : S}
  {rules : List Rule} {catalog : Catalog} {evaluations : List Evaluation}

lemma run_of_fetch_error {cause : Failure}
    (h : store.fetch Rule.Status.scannable state = .error cause) (evaluate : Evaluate)
    (settings : Settings) (clock : Clock) : run store evaluate settings clock state =
      .error (.storeUnavailable cause) := by
  rw [run, h]
  rfl

lemma run_of_fetch_nil (h : store.fetch Rule.Status.scannable state = .ok []) (evaluate : Evaluate)
    (settings : Settings) (clock : Clock) : run store evaluate settings clock state =
      .ok (Report.empty clock.startedAt, state) := by
  rw [run, h]
  rfl

lemma run_of_evaluate {cancelled : Bool}
    (hfetch : store.fetch Rule.Status.scannable state = .ok rules) (hne : rules ≠ [])
    (hcatalog : store.catalog state = .ok catalog)
    (he : evaluate settings catalog rules = (evaluations, cancelled)) (clock : Clock) :
    run store evaluate settings clock state =
      if cancelled && !settings.persistOnCancel then .error .cancelled
      else
        ((store.persist (evaluations.flatMap (·.outcome.candidates)) settings.dedup state).mapError
          .persistence).map
        fun (recorded, state) =>
          (Report.ofEvaluations clock.startedAt clock.durationMillis evaluations recorded cancelled,
            state) := by
  have hempty : rules.isEmpty = false := List.isEmpty_eq_false_iff.mpr hne
  cases hdiscard : cancelled && !settings.persistOnCancel with
  | true =>
    simp only [run, hfetch, hcatalog, he, Except.mapError, ok_bind, hempty, hdiscard]
    rfl
  | false =>
    simp only [run, hfetch, hcatalog, he, Except.mapError, ok_bind, hempty, hdiscard]
    cases store.persist (evaluations.flatMap (·.outcome.candidates)) settings.dedup state <;> rfl

lemma run_eq (hfetch : store.fetch Rule.Status.scannable state = .ok rules) (hne : rules ≠ [])
    (hcatalog : store.catalog state = .ok catalog)
    (he : evaluate settings catalog rules = (evaluations, false)) (clock : Clock) :
    run store evaluate settings clock state =
      ((store.persist (evaluations.flatMap (·.outcome.candidates)) settings.dedup state).mapError
        .persistence).map
        fun (recorded, state) =>
          (Report.ofEvaluations clock.startedAt clock.durationMillis evaluations recorded false,
            state) :=
  run_of_evaluate hfetch hne hcatalog he clock

end

/-- Every scan of the rules that nobody cancels, whatever the order of its events and the number of
its workers, starts each rule once and records and reports the same: what the rules come to by
themselves, in their order. -/
theorem run_eq_of_undisturbed {S : Type} {store : Store S} {state : S} {rules : List Rule}
    {catalog : Catalog} (hfetch : store.fetch Rule.Status.scannable state = .ok rules) (hne : rules ≠ [])
    (hcatalog : store.catalog state = .ok catalog) (settings : Settings) (answers : ℕ → Answer) :
    ∃ lines : List Evaluation, lines.length = rules.length ∧
      (∀ i rule, rules[i]? = some rule →
        lines[i]? = some (.alone settings.maxRows catalog rule (answers i)) ∧
        ∀ workers events, Undisturbed settings.timeout (fun _ => answers i) events →
          ((passOf settings workers catalog [rule]).run events).isDone →
          ((passOf settings workers catalog [rule]).run events).evaluations = lines[i]?.toList) ∧
      ∀ workers events, 1 ≤ workers → Undisturbed settings.timeout answers events →
        (∃ rest, Undisturbed settings.timeout answers rest ∧
          ((passOf settings workers catalog rules).run (events ++ rest)).isDone) ∧
        (((passOf settings workers catalog rules).run events).isDone →
          (passOf settings workers catalog rules).launches events = List.range rules.length ∧
          ∀ clock, run store (.ofEvents events) { settings with maxWorkers := workers } clock state =
            ((store.persist (lines.flatMap (·.outcome.candidates)) settings.dedup state).mapError
              .persistence).map
              fun (recorded, state) =>
                (Report.ofEvaluations clock.startedAt clock.durationMillis lines recorded false,
                  state)) := by
  refine ⟨rules.mapIdx fun i rule => .alone settings.maxRows catalog rule (answers i),
    List.length_mapIdx, ?_, ?_⟩
  · intro i rule hr
    have hline : (rules.mapIdx fun i rule =>
      Evaluation.alone settings.maxRows catalog rule (answers i))[i]? =
        some (.alone settings.maxRows catalog rule (answers i)) := by
      rw [List.getElem?_mapIdx, hr, Option.map_some]
    refine ⟨hline, fun workers events h hd => ?_⟩
    rw [evaluations_of_undisturbed h hd, hline]
    rfl
  · intro workers events hworkers h
    refine ⟨exists_isDone_of_events hworkers answers events, fun hd => ⟨?_, fun clock => ?_⟩⟩
    · obtain ⟨n, horderly, hlaunches⟩ := orderly_of_undisturbed workers catalog rules h
      rw [hlaunches, horderly.count_of_isDone hd]
    · have hcancelled : ((passOf settings workers catalog rules).run events).cancelled = false :=
        Pass.cancelled_run rfl fun event he => (h event he).1
      have hevaluate : Evaluate.ofEvents events { settings with maxWorkers := workers } catalog rules =
          (rules.mapIdx fun i rule => .alone settings.maxRows catalog rule (answers i), false) :=
        Prod.ext (evaluations_of_undisturbed h hd) hcancelled
      exact run_eq hfetch hne hcatalog hevaluate clock

/-! Two orders of the same three rules: one that matches, one without a query, and one whose query
fails -/

def threeRules : List Rule := [Query.ageRule, Query.bareRule "unknown" [],
  Query.bareRule "not_null" [("table", .text "people"), ("column", .text "Age")]]

def threeAnswers : ℕ → Answer
  | 0 => .ok [[some "c", some "17"]]
  | _ => .error (.query "locked")

def oneByOne : List Event :=
  [.start, .turn 0 none false, .turn 0 (some (threeAnswers 0)) true, .start, .start,
  .turn 2 (some (threeAnswers 2)) false]

def overlapping : List Event := [.start, .start, .start, .turn 2 (some (threeAnswers 2)) false,
  .turn 0 (some (threeAnswers 0)) false]

def batchStore : Store (List (List Violation.Candidate)) where
  fetch _ _ := .ok threeRules
  catalog _ := .ok Query.peopleCatalog
  persist batch _ batches := .ok ([], batches ++ [batch])

theorem run_threeRules :
    run batchStore (.ofEvents oneByOne) { Settings.usual with maxWorkers := 1 } default [] =
      run batchStore (.ofEvents overlapping) { Settings.usual with maxWorkers := 2 } default [] := by
  have hfetch : batchStore.fetch Rule.Status.scannable [] = .ok threeRules := rfl
  have hcatalog : batchStore.catalog [] = .ok Query.peopleCatalog := rfl
  obtain ⟨lines, _, _, h⟩ :=
    run_eq_of_undisturbed hfetch (List.cons_ne_nil _ _) hcatalog Settings.usual threeAnswers
  have hone : Undisturbed Settings.usual.timeout threeAnswers oneByOne := by
    simp only [Undisturbed, oneByOne, List.forall_mem_cons]
    exact ⟨⟨nofun, trivial⟩, ⟨nofun, nofun⟩, ⟨nofun, agrees_answer _ threeAnswers 0 true⟩,
      ⟨nofun, trivial⟩, ⟨nofun, trivial⟩, ⟨nofun, agrees_answer _ threeAnswers 2 false⟩, nofun⟩
  have hoverlapping : Undisturbed Settings.usual.timeout threeAnswers overlapping := by
    simp only [Undisturbed, overlapping, List.forall_mem_cons]
    exact ⟨⟨nofun, trivial⟩, ⟨nofun, trivial⟩, ⟨nofun, trivial⟩,
      ⟨nofun, agrees_answer _ threeAnswers 2 false⟩, ⟨nofun, agrees_answer _ threeAnswers 0 false⟩,
      nofun⟩
  obtain ⟨_, h₁⟩ := h 1 oneByOne (by decide) hone
  obtain ⟨_, h₂⟩ := h 2 overlapping (by decide) hoverlapping
  rw [(h₁ (by decide +kernel)).2, (h₂ (by decide +kernel)).2]

end Compliance.Scan
