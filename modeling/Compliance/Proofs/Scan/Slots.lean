import Mathlib.Data.List.Range
import Mathlib.Tactic.Lemma
import Compliance.Scan.Pass

/-! The slots of a pass along its events: the rules are started one after the other in their order,
and each ends as it would by itself unless the pass is cancelled. -/

namespace Compliance.Scan

def Evaluation.alone (maxRows : ℕ) (catalog : Catalog) (rule : Rule) (answer : Answer) : Evaluation where
  ruleId := rule.id
  ruleName := rule.name
  outcome :=
    match Query.compile catalog rule with
    | .ok query => .ofAnswer rule query maxRows answer
    | .error error => .compileFailed error

def Event.Agrees (deadline : Time.Duration) (answers : ℕ → Answer) : Event → Prop
  | turn slot answer expired =>
    ∀ a, Execution.poll deadline ⟨false, answer, expired⟩ = some a → a = answers slot
  | _ => True

namespace Pass

def started (p : Pass) : Event → Option ℕ
  | .start => if p.hasRoom then p.slots.findIdx? Slot.isWaiting else none
  | _ => none

def launches (p : Pass) : List Event → List ℕ
  | [] => []
  | event :: events => (p.started event).toList ++ (p.step event).launches events

inductive Launched (p : Pass) (rule : Rule) (answer : Answer) : Slot → Prop
  | running {query : Query} (h : Query.compile p.catalog rule = .ok query) :
  Launched p rule answer (.running rule query)
  | polled {query : Query} (h : Query.compile p.catalog rule = .ok query) : Launched p rule answer
    (.polled rule query)
  | ended : Launched p rule answer (.ended (.alone p.settings.maxRows p.catalog rule answer))
  | skipped (h : p.cancelled) : Launched p rule answer (endSlot rule .skipped)

structure Orderly (rules : List Rule) (answers : ℕ → Answer) (n : ℕ) (p : Pass) : Prop where
  length : p.slots.length = rules.length
  count : n ≤ rules.length
  launched : ∀ i rule, i < n → rules[i]? = some rule → ∃ slot, p.slots[i]? = some slot ∧
    p.Launched rule (answers i) slot
  waiting : ∀ i rule, n ≤ i → rules[i]? = some rule → p.slots[i]? = some (.waiting rule)

lemma step_eq (p : Pass) (event : Event) :
    ∃ slots cancelled, p.step event = ⟨p.settings, p.catalog, slots, cancelled⟩ ∧
      (p.cancelled → cancelled) := by
  cases event with
  | start =>
    rw [step]
    split_ifs
    · exact ⟨_, p.cancelled, rfl, id⟩
    · exact ⟨p.slots, p.cancelled, rfl, id⟩
  | cancel => exact ⟨p.slots, true, rfl, fun _ => rfl⟩
  | look slot => exact ⟨_, p.cancelled, rfl, id⟩
  | turn slot answer expired => exact ⟨_, p.cancelled, rfl, id⟩

lemma settings_step (p : Pass) (event : Event) : (p.step event).settings = p.settings := by
  obtain ⟨slots, cancelled, h, _⟩ := p.step_eq event
  rw [h]

lemma catalog_step (p : Pass) (event : Event) : (p.step event).catalog = p.catalog := by
  obtain ⟨slots, cancelled, h, _⟩ := p.step_eq event
  rw [h]

lemma cancelled_step {p : Pass} (event : Event) (hp : p.cancelled) : (p.step event).cancelled := by
  obtain ⟨slots, cancelled, h, hcancelled⟩ := p.step_eq event
  rw [h]
  exact hcancelled hp

lemma Launched.step {p : Pass} {rule : Rule} {answer : Answer} {slot : Slot}
    (h : p.Launched rule answer slot) (event : Event) : (p.step event).Launched rule answer slot := by
  cases h with
  | running h => exact .running (by rwa [catalog_step])
  | polled h => exact .polled (by rwa [catalog_step])
  | ended =>
    rw [← settings_step p event, ← catalog_step p event]
    exact .ended
  | skipped h => exact .skipped (cancelled_step event h)

lemma Launched.not_waiting {p : Pass} {rule : Rule} {answer : Answer} {slot : Slot}
    (h : p.Launched rule answer slot) :
    slot.isWaiting = false := by
  cases h <;> rfl

lemma launched_startSlot (p : Pass) (rule : Rule) (answer : Answer) :
    p.Launched rule answer (p.startSlot rule) := by
  rw [startSlot]
  split_ifs with hc
  · exact .skipped hc
  · cases hq : Query.compile p.catalog rule with
    | ok query => exact .running hq
    | error error =>
      have he : Slot.ended (.alone p.settings.maxRows p.catalog rule answer) =
        endSlot rule (.compileFailed error) := by
        rw [Evaluation.alone, hq]
        rfl
      simp only [← he]
      exact .ended

lemma launched_lookSlot {p : Pass} {rule : Rule} {result : Answer} {slot : Slot}
    (h : p.Launched rule result slot) :
    p.Launched rule result (p.lookSlot slot) := by
  cases h with
  | running hq =>
    rw [lookSlot]
    split_ifs with hc
    · exact .skipped hc
    · exact .polled hq
  | polled hq => exact .polled hq
  | ended => exact .ended
  | skipped h => exact .skipped h

lemma endSlot_alone {p : Pass} {rule : Rule} {query : Query}
    (hq : Query.compile p.catalog rule = .ok query) (answer : Answer) :
    endSlot rule (.ofAnswer rule query p.settings.maxRows answer) =
      .ended (.alone p.settings.maxRows p.catalog rule answer) := by
  rw [Evaluation.alone, hq]
  rfl

lemma launched_settleSlot {p : Pass} {rule : Rule} {result : Answer} {slot : Slot}
    (h : p.Launched rule result slot) {answer : Option Answer} {expired : Bool}
    (ha : ∀ a, Execution.poll p.settings.timeout ⟨false, answer, expired⟩ = some a → a = result) :
    p.Launched rule result (p.settleSlot answer expired slot) := by
  cases h with
  | running hq => exact .running hq
  | ended => exact .ended
  | skipped h => exact .skipped h
  | @polled query hq =>
    rw [settleSlot]
    split
    next a hp =>
      obtain rfl := ha a hp
      rw [endSlot_alone hq]
      exact .ended
    next => exact .running hq

lemma isPolled_turnSlot (p : Pass) (answer : Option Answer) (expired : Bool) (slot : Slot) :
    (p.turnSlot answer expired slot).isPolled = false := by
  rw [turnSlot]
  cases p.lookSlot slot with
  | waiting | running | ended => rfl
  | polled rule query =>
    rw [settleSlot]
    split <;> rfl

def launchSlot (p : Pass) : Slot → Slot
  | .waiting rule => p.startSlot rule
  | slot => slot

lemma startFirst_eq (p : Pass) (slots : List Slot) :
    p.startFirst slots = slots.modify (slots.findIdx Slot.isWaiting) p.launchSlot := by
  induction slots with
  | nil => rfl
  | cons slot slots ih =>
    cases slot with
    | waiting rule => rfl
    | running | polled | ended => simp [startFirst, List.findIdx_cons, Slot.isWaiting, ih]

section
variable {rules : List Rule} {answers : ℕ → Answer} {n : ℕ} {p : Pass}

lemma Orderly.findIdx?_waiting (h : Orderly rules answers n p) :
    p.slots.findIdx? Slot.isWaiting = if n < rules.length then some n else none := by
  have hbefore : ∀ i (hi : i < p.slots.length), i < n → p.slots[i].isWaiting = false := by
    intro i hi hin
    have hi' : i < rules.length := h.length ▸ hi
    obtain ⟨slot, hs, hl⟩ := h.launched i rules[i] hin (List.getElem?_eq_getElem hi')
    rw [List.getElem?_eq_getElem hi, Option.some_inj] at hs
    exact hs ▸ hl.not_waiting
  split_ifs with hn
  · have hw := h.waiting n rules[n] le_rfl (List.getElem?_eq_getElem hn)
    rw [List.getElem?_eq_getElem (h.length ▸ hn), Option.some_inj] at hw
    refine List.findIdx?_eq_some_iff_getElem.mpr ⟨h.length ▸ hn, by rw [hw]; rfl, fun i hi => ?_⟩
    simp [hbefore i (by rw [h.length]; omega) hi]
  · refine List.findIdx?_eq_none_iff.mpr fun slot hs => ?_
    obtain ⟨i, hi, rfl⟩ := List.getElem_of_mem hs
    have hc := h.count
    exact hbefore i hi (by rw [h.length] at hi; omega)

lemma Orderly.modify (h : Orderly rules answers n p) (event : Event) {f : Slot → Slot} {i : ℕ}
    (hs : (p.step event).slots = p.slots.modify i f)
    (hf : ∀ rule slot, p.Launched rule (answers i) slot → p.Launched rule (answers i) (f slot))
    (hw : ∀ rule, f (.waiting rule) = .waiting rule) : Orderly rules answers n (p.step event) := by
  refine ⟨by
    rw [hs, List.length_modify, h.length], h.count, fun j rule hj hr => ?_, fun j rule hj hr => ?_⟩
  · obtain ⟨slot, hslot, hl⟩ := h.launched j rule hj hr
    rw [hs, List.getElem?_modify, hslot]
    by_cases hij : i = j
    · subst hij
      exact ⟨f slot, by simp, (hf rule slot hl).step event⟩
    · exact ⟨slot, by simp [hij], hl.step event⟩
  · have hslot := h.waiting j rule hj hr
    rw [hs, List.getElem?_modify, hslot]
    by_cases hij : i = j <;> simp [hij, hw]

lemma Orderly.launch (h : Orderly rules answers n p) (hn : n < rules.length) (event : Event)
    (hs : (p.step event).slots = p.slots.modify n p.launchSlot) : Orderly rules answers (n + 1)
      (p.step event) := by
  refine ⟨by rw [hs, List.length_modify, h.length], hn, fun j rule hj hr => ?_, fun j rule hj hr => ?_⟩
  · rw [hs, List.getElem?_modify]
    by_cases hnj : n = j
    · subst hnj
      rw [h.waiting n rule le_rfl hr]
      exact ⟨p.startSlot rule, by simp [launchSlot], (launched_startSlot p rule (answers n)).step event⟩
    · obtain ⟨slot, hslot, hl⟩ := h.launched j rule (by omega) hr
      exact ⟨slot, by simp [hnj, hslot], hl.step event⟩
  · rw [hs, List.getElem?_modify, h.waiting j rule (by omega) hr]
    simp [show n ≠ j by omega]

lemma Orderly.start (h : Orderly rules answers n p) :
    Orderly rules answers (n + (p.started .start).toList.length) (p.step .start) ∧
      ∀ i ∈ p.started .start, i = n := by
  rw [started, h.findIdx?_waiting]
  by_cases hroom : p.hasRoom
  swap
  · have hp : p.step .start = p := if_neg hroom
    rw [if_neg hroom, hp]
    exact ⟨h, nofun⟩
  have hs : (p.step .start).slots = p.slots.modify (p.slots.findIdx Slot.isWaiting) p.launchSlot := by
    rw [step, if_pos hroom]
    exact startFirst_eq p p.slots
  have hidx := h.findIdx?_waiting
  rw [if_pos hroom]
  split_ifs at hidx ⊢ with hn
  · obtain ⟨_, hidx⟩ := List.findIdx?_eq_some_iff_findIdx_eq.mp hidx
    rw [hidx] at hs
    exact ⟨h.launch hn .start hs, fun i hi => (Option.some.inj hi).symm⟩
  · -- nothing waits, and the place past the end is changed
    rw [List.findIdx?_eq_none_iff_findIdx_eq] at hidx
    rw [hidx, List.modify_eq_self le_rfl, ← List.modify_id 0 p.slots] at hs
    exact ⟨h.modify .start hs (fun _ _ hl => hl) fun _ => rfl, nofun⟩

lemma Orderly.step (h : Orderly rules answers n p) {event : Event}
    (he : event.Agrees p.settings.timeout answers) :
    Orderly rules answers (n + (p.started event).toList.length) (p.step event) ∧
      ∀ i ∈ p.started event, i = n := by
  cases event with
  | start => exact h.start
  | cancel =>
    exact ⟨h.modify .cancel (List.modify_id 0 p.slots).symm (fun _ _ hl => hl) fun _ => rfl, nofun⟩
  | look slot =>
    exact ⟨h.modify (.look slot) rfl (fun _ _ hl => launched_lookSlot hl) fun _ => rfl, nofun⟩
  | turn slot answer expired =>
    have hturn : ∀ rule s, p.Launched rule (answers slot) s →
        p.Launched rule (answers slot) (p.turnSlot answer expired s) := fun _ _ hl =>
      launched_settleSlot (launched_lookSlot hl) he
    exact ⟨h.modify (.turn slot answer expired) rfl hturn fun _ => rfl, nofun⟩

lemma settings_run (p : Pass) (events : List Event) : (p.run events).settings = p.settings := by
  induction events generalizing p with
  | nil => rfl
  | cons event events ih => exact (ih (p.step event)).trans (settings_step p event)

lemma catalog_run (p : Pass) (events : List Event) : (p.run events).catalog = p.catalog := by
  induction events generalizing p with
  | nil => rfl
  | cons event events ih => exact (ih (p.step event)).trans (catalog_step p event)

lemma run_append (p : Pass) (before after : List Event) :
    p.run (before ++ after) = (p.run before).run after :=
  List.foldl_append

lemma orderly_begin (settings : Settings) (catalog : Catalog) (rules : List Rule) (cancelled : Bool)
    (answers : ℕ → Answer) :
    Orderly rules answers 0 (begin settings catalog rules cancelled) where
  length := List.length_map _
  count := Nat.zero_le _
  launched := nofun
  waiting i rule _ hr := by rw [begin, List.getElem?_map, hr, Option.map_some]

theorem Orderly.run (h : Orderly rules answers n p) {events : List Event}
    (he : ∀ event ∈ events, event.Agrees p.settings.timeout answers) :
    Orderly rules answers (n + (p.launches events).length) (p.run events) ∧
      p.launches events = List.range' n (p.launches events).length := by
  induction events generalizing n p with
  | nil => exact ⟨h, rfl⟩
  | cons event events ih =>
    rw [List.forall_mem_cons] at he
    obtain ⟨hstep, hstarted⟩ := h.step he.1
    obtain ⟨hrun, hlaunches⟩ := ih hstep (by
      rw [settings_step]
      exact he.2)
    rw [launches, List.length_append, ← Nat.add_assoc]
    refine ⟨hrun, ?_⟩
    cases hs : p.started event with
    | none =>
      rw [hs] at hlaunches
      simpa using hlaunches
    | some i =>
      obtain rfl := hstarted i hs
      rw [hs] at hlaunches
      rw [Option.toList_some, List.singleton_append, List.length_singleton, Nat.add_comm 1,
        List.range'_succ]
      exact congrArg (i :: ·) hlaunches

end

end Pass

end Compliance.Scan
