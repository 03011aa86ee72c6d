import Mathlib.Data.List.Nodup
import Mathlib.Data.List.Perm.Subperm
import Compliance.Proofs.Scan.Schedule
import Compliance.Scan.Cooperative

/-! A pass on one thread whose queries answer at their first turn or never: it comes to its end in
the turns it is given, and its evaluations are those of some order of events. -/

namespace Compliance.Scan

def Behaviour.prompt (answer : Option Answer) : Behaviour := ⟨0, false, answer⟩

def answerOf (deadline : Time.Duration) (catalog : Catalog) (reply : Query → Option Answer)
    (rule : Rule) : Answer :=
  ((Query.compile catalog rule).toOption.bind reply).getD (.error (.timeout deadline))

def answersOf (deadline : Time.Duration) (catalog : Catalog) (reply : Query → Option Answer)
    (rules : List Rule) (i : ℕ) :
    Answer := (rules[i]?.map (answerOf deadline catalog reply)).getD (.error (.timeout deadline))

lemma answerOf_congr {deadline : Time.Duration} {catalog : Catalog}
    {reply reply' : Query → Option Answer} {rule : Rule}
    (h : ∀ query, Query.compile catalog rule = .ok query → reply query = reply' query) :
    answerOf deadline catalog reply rule = answerOf deadline catalog reply' rule := by
  rw [answerOf, answerOf]
  cases hq : Query.compile catalog rule with
  | error _ => rfl
  | ok query => rw [Except.toOption, Option.bind_some, Option.bind_some, h query hq]

namespace Cooperative

/-- Between two turns: the first `n` rules have been started, those of them that run are in flight,
and in the line stand the flights that are `due`, which end at their turns, before the rules that
are to be started. -/
structure Steady (settings : Settings) (catalog : Catalog) (reply : Query → Option Answer)
    (rules : List Rule) (n : ℕ) (due : List (ℕ × Bool)) (c : Cooperative) : Prop where
  settings_eq : c.pass.settings = settings
  catalog_eq : c.pass.catalog = catalog
  orderly : c.pass.Orderly rules (answersOf settings.timeout catalog reply rules) n
  unpolled : ∀ slot ∈ c.pass.slots, slot.isPolled = false
  running : ∀ i, (∃ f ∈ c.flights, f.slot = i) ↔ c.pass.slots[i]?.any Slot.isRunning
  distinct : (c.flights.map (·.slot)).Nodup
  prompt : ∀ f ∈ c.flights, ∃ answer, f.behaviour = .prompt answer ∧
    answer.getD (.error (.timeout settings.timeout)) =
      answersOf settings.timeout catalog reply rules f.slot
  line_eq : c.line = due ++ (List.range' n (c.opened - n)).map (·, false)
  due_ends : ∀ d ∈ due, (∃ f ∈ c.flights, f.slot = d.1) ∧ (d.2 ∨ c.pass.cancelled)
  due_distinct : (due.map (·.1)).Nodup
  started : n ≤ c.opened
  opened : c.opened ≤ rules.length
  room : c.opened ≤ c.pass.evaluations.length + settings.maxWorkers
  yielded : c.yielded = []

lemma length_eq_counts (slots : List Slot) :
    slots.length = slots.countP Slot.isRunning + (slots.filterMap Slot.evaluation?).length +
      slots.countP Slot.isWaiting := by
  induction slots with
  | nil => rfl
  | cons slot slots ih =>
    cases slot <;> simp [List.countP_cons, List.filterMap_cons, Slot.isRunning, Slot.isWaiting,
      Slot.evaluation?, ih] <;> omega

lemma length_evaluations_modify_le (slots : List Slot) (i : ℕ) {f : Slot → Slot}
    (hf : ∀ slot, slot.evaluation?.isSome → (f slot).evaluation?.isSome) :
    (slots.filterMap Slot.evaluation?).length ≤
      ((slots.modify i f).filterMap Slot.evaluation?).length := by
  induction slots generalizing i with
  | nil => simp
  | cons slot slots ih =>
    cases i with
    | zero =>
      have hslot := hf slot
      rw [List.modify_zero_cons, List.filterMap_cons, List.filterMap_cons]
      cases h : slot.evaluation? <;> cases h' : (f slot).evaluation? <;> simp_all
    | succ i =>
      have := ih i
      rw [List.modify_succ_cons, List.filterMap_cons, List.filterMap_cons]
      cases slot.evaluation? <;> simpa

section
variable {rules : List Rule} {answers : ℕ → Answer} {n i : ℕ} {p : Pass}

lemma countP_waiting (h : p.Orderly rules answers n) :
    p.slots.countP Slot.isWaiting = rules.length - n := by
  have hstarted : (p.slots.take n).countP Slot.isWaiting = 0 := by
    refine List.countP_eq_zero.mpr fun slot hs => ?_
    obtain ⟨i, hi, rfl⟩ := List.mem_take_iff_getElem.mp hs
    have hi' : i < rules.length := h.length ▸ (Nat.lt_min.mp hi).2
    obtain ⟨slot, hslot, hl⟩ := h.launched i rules[i] (Nat.lt_min.mp hi).1 (List.getElem?_eq_getElem hi')
    rw [List.getElem?_eq_getElem (h.length ▸ hi'), Option.some_inj] at hslot
    rw [hslot, hl.not_waiting]
    exact Bool.false_ne_true
  have hwaiting : (p.slots.drop n).countP Slot.isWaiting = (p.slots.drop n).length := by
    refine List.countP_eq_length.mpr fun slot hs => ?_
    obtain ⟨i, hi, rfl⟩ := List.mem_drop_iff_getElem.mp hs
    have hi' : n + i < rules.length := by rw [← h.length]; omega
    have hw := h.waiting (n + i) rules[n + i] (Nat.le_add_right n i) (List.getElem?_eq_getElem hi')
    rw [List.getElem?_eq_getElem (h.length ▸ hi'), Option.some_inj] at hw
    rw [hw]
    rfl
  rw [← List.take_append_drop n p.slots, List.countP_append, hstarted, hwaiting, List.length_drop,
    h.length, Nat.zero_add]

lemma runningCount_add (h : p.Orderly rules answers n) : p.runningCount + p.evaluations.length = n := by
  have hlength := length_eq_counts p.slots
  have hcount := h.count
  rw [h.length, countP_waiting h] at hlength
  rw [Pass.runningCount, Pass.evaluations]
  omega

lemma lt_of_running (h : p.Orderly rules answers n) (hi : p.slots[i]?.any Slot.isRunning) : i < n := by
  by_contra hn
  by_cases hlt : i < rules.length
  · rw [h.waiting i rules[i] (Nat.le_of_not_lt hn) (List.getElem?_eq_getElem hlt)] at hi
    exact nomatch hi
  · rw [List.getElem?_eq_none (by rw [h.length]; exact Nat.le_of_not_lt hlt)] at hi
    exact nomatch hi

lemma length_evaluations_step_le (p : Pass) (event : Event) :
    p.evaluations.length ≤ (p.step event).evaluations.length := by
  cases event with
  | cancel => exact le_rfl
  | start =>
    rw [Pass.step]
    split_ifs
    · rw [Pass.evaluations, Pass.evaluations, Pass.startFirst_eq]
      refine length_evaluations_modify_le _ _ fun slot hs => ?_
      cases slot with
      | waiting => exact absurd hs Bool.false_ne_true
      | running | polled | ended => exact hs
    · exact le_rfl
  | look i | turn i answer expired =>
    refine length_evaluations_modify_le _ _ fun slot hs => ?_
    cases slot with
    | running | polled => exact absurd hs Bool.false_ne_true
    | waiting | ended => exact hs

lemma unpolled_modify {slots : List Slot} (h : ∀ slot ∈ slots, slot.isPolled = false) {f : Slot → Slot}
    (hf : ∀ slot, slot.isPolled = false → (f slot).isPolled = false) (i : ℕ) :
    ∀ slot ∈ slots.modify i f, slot.isPolled = false := by
  intro slot hs
  obtain ⟨j, hj, rfl⟩ := List.getElem_of_mem hs
  rw [List.getElem_modify]
  split_ifs
  · exact hf _ (h _ (List.getElem_mem _))
  · exact h _ (List.getElem_mem _)

lemma unpolled_turn (h : ∀ slot ∈ p.slots, slot.isPolled = false) (i : ℕ) (answer : Option Answer)
    (expired : Bool) :
    ∀ slot ∈ (p.step (.turn i answer expired)).slots, slot.isPolled = false :=
  unpolled_modify h (fun slot _ => Pass.isPolled_turnSlot p answer expired slot) i

lemma unpolled_start (h : ∀ slot ∈ p.slots, slot.isPolled = false) :
    ∀ slot ∈ (p.step .start).slots, slot.isPolled = false := by
  rw [Pass.step]
  split_ifs
  · rw [Pass.startFirst_eq]
    refine unpolled_modify h (fun slot hs => ?_) _
    cases slot with
    | running | polled | ended => exact hs
    | waiting rule =>
      rw [Pass.launchSlot, Pass.startSlot]
      split_ifs
      · rfl
      · cases Query.compile p.catalog rule <;> rfl
  · exact h

end

variable {settings : Settings} {catalog : Catalog} {reply : Query → Option Answer}
  {rules : List Rule} {n : ℕ} {due : List (ℕ × Bool)} {c : Cooperative}

lemma Steady.fill (h : Steady settings catalog reply rules n due c) :
    Steady settings catalog reply rules n due c.fill := by
  have hcount := runningCount_add h.orderly
  have hstarted := h.started
  have hopened := h.opened
  have hroom := h.room
  obtain ⟨hsettings, hcatalog, horderly, hunpolled, hrunning, hdistinct, hprompt, hline, hdue,
    hdistinct', _, _, _, hyielded⟩ := h
  refine ⟨hsettings, hcatalog, horderly, hunpolled, hrunning, hdistinct, hprompt, ?_, hdue,
    hdistinct', ?_, ?_, ?_, hyielded⟩
  · have hjoin : ∀ more, List.range' n (c.opened - n) ++ List.range' c.opened more =
        List.range' n (c.opened + more - n) := by
      intro more
      rw [show c.opened + more - n = c.opened - n + more by omega, ← List.range'_append,
        show n + 1 * (c.opened - n) = c.opened by omega]
    rw [Cooperative.fill, hline, List.append_assoc, ← List.map_append, hjoin]
  all_goals
    simp only [Cooperative.fill]
    rw [hsettings, horderly.length]
    omega

lemma fly_prompt {flight : Flight} {answer : Option Answer} (hb : flight.behaviour = .prompt answer)
    (hmem : ∀ f ∈ c.flights, f.slot = flight.slot → f = flight) (expired : Bool) :
    c.fly flight expired =
      ({ c with pass := c.pass.step (.turn flight.slot answer expired) } : Cooperative).land
        flight.slot := by
  have hturn : flight.behaviour.turn flight.slot expired =
    ([.turn flight.slot answer expired], flight.behaviour) := by
    rw [hb]
    rfl
  have hyields : flight.behaviour.yields = 0 := by
    rw [hb]
    rfl
  have hflights : (c.flights.map fun f => if f.slot = flight.slot
    then { f with behaviour := flight.behaviour } else f) =
      c.flights := by
    refine (List.map_congr_left fun f hf => ?_).trans (List.map_id c.flights)
    split_ifs with hs
    · obtain rfl := hmem f hf hs
      rfl
    · rfl
  have hcancelled : (c.pass.run [.turn flight.slot answer expired]).cancelled = c.pass.cancelled := rfl
  rw [fly]
  simp only [hturn, hflights, hyields, hcancelled, lt_irrefl, if_false, Bool.and_not_self,
    Bool.false_eq_true]
  rfl

lemma getElem?_turn {p : Pass} {slot i : ℕ} (hi : i ≠ slot) (answer : Option Answer) (expired : Bool) :
    (p.step (.turn slot answer expired)).slots[i]? = p.slots[i]? := by
  rw [Pass.step, List.getElem?_modify]
  cases p.slots[i]? <;> simp [Ne.symm hi]

lemma not_running_turn {p : Pass} (hunpolled : ∀ s ∈ p.slots, s.isPolled = false) {slot : ℕ}
    {expired : Bool} (h : expired ∨ p.cancelled) (answer : Option Answer) :
    ¬ (p.step (.turn slot answer expired)).slots[slot]?.any Slot.isRunning := by
  rw [Pass.step, List.getElem?_modify]
  cases hs : p.slots[slot]? with
  | none => exact Bool.false_ne_true
  | some s =>
    cases s with
    | waiting | ended => simp [Pass.turnSlot, Pass.lookSlot, Pass.settleSlot, Slot.isRunning]
    | polled => cases hunpolled _ (List.mem_of_getElem? hs)
    | running rule query =>
      by_cases hc : p.cancelled
      · simp [Pass.turnSlot, Pass.lookSlot, hc, Pass.endSlot, Pass.settleSlot, Slot.isRunning]
      · obtain rfl := h.resolve_right hc
        have hpoll : ∃ a, Execution.poll p.settings.timeout ⟨false, answer, true⟩ = some a := by
          cases answer <;> exact ⟨_, rfl⟩
        obtain ⟨a, ha⟩ := hpoll
        simp [Pass.turnSlot, Pass.lookSlot, hc, Pass.settleSlot, ha, Pass.endSlot, Slot.isRunning]

section
variable {flight : Flight} {answer : Option Answer} {expired : Bool}

lemma Steady.orderly_turn (h : Steady settings catalog reply rules n due c)
    (hanswer : answer.getD (.error (.timeout settings.timeout)) =
      answersOf settings.timeout catalog reply rules flight.slot) (expired : Bool) :
    (c.pass.step (.turn flight.slot answer expired)).Orderly rules
      (answersOf settings.timeout catalog reply rules) n := by
  have hagrees : (Event.turn flight.slot answer expired).Agrees c.pass.settings.timeout
      (answersOf settings.timeout catalog reply rules) := by
    intro a ha
    rw [← hanswer]
    cases answer with
    | some answer => exact (Option.some.inj ha).symm
    | none =>
      cases expired with
      | true =>
        rw [h.settings_eq] at ha
        exact (Option.some.inj ha).symm
      | false => cases ha
  exact (h.orderly.step hagrees).1

lemma Steady.room_turn (h : Steady settings catalog reply rules n due c) (slot : ℕ)
    (answer : Option Answer) (expired : Bool) :
    c.opened ≤ (c.pass.step (.turn slot answer expired)).evaluations.length + settings.maxWorkers :=
  h.room.trans (Nat.add_le_add_right (length_evaluations_step_le c.pass (.turn slot answer expired))
    settings.maxWorkers)

lemma Steady.stays (h : Steady settings catalog reply rules n due c) (hf : flight ∈ c.flights)
    (horderly : (c.pass.step (.turn flight.slot answer expired)).Orderly rules
      (answersOf settings.timeout catalog reply rules) n)
    (hruns : (c.pass.step (.turn flight.slot answer expired)).slots[flight.slot]?.any Slot.isRunning) :
    Steady settings catalog reply rules n due
      { c with pass := c.pass.step (.turn flight.slot answer expired) } := by
  refine ⟨h.settings_eq, h.catalog_eq, horderly, unpolled_turn h.unpolled _ _ _, fun i => ?_,
    h.distinct, h.prompt, h.line_eq, h.due_ends, h.due_distinct, h.started, h.opened,
    h.room_turn .., h.yielded⟩
  by_cases hi : i = flight.slot
  · subst hi
    exact ⟨fun _ => hruns, fun _ => ⟨flight, hf, rfl⟩⟩
  · rw [getElem?_turn hi]
    exact h.running i

lemma Steady.lands (h : Steady settings catalog reply rules n due c) (hslot : flight.slot < n)
    (hdue : flight.slot ∉ due.map (·.1))
    (horderly : (c.pass.step (.turn flight.slot answer expired)).Orderly rules
      (answersOf settings.timeout catalog reply rules) n)
    (hends : ¬ (c.pass.step (.turn flight.slot answer expired)).slots[flight.slot]?.any Slot.isRunning) :
    Steady settings catalog reply rules n due { c with
      pass := c.pass.step (.turn flight.slot answer expired)
      flights := c.flights.filter (·.slot ≠ flight.slot)
      line := c.line.filter (·.1 ≠ flight.slot)
      yielded := c.yielded.filter (· ≠ flight.slot) } := by
  have hline : c.line.filter (·.1 ≠ flight.slot) = c.line := by
    refine List.filter_eq_self.mpr fun d hd => decide_eq_true ?_
    rw [h.line_eq] at hd
    rcases List.mem_append.mp hd with hd | hd
    · exact fun he => hdue (he ▸ List.mem_map_of_mem hd)
    · obtain ⟨i, hi, rfl⟩ := List.mem_map.mp hd
      have := (List.mem_range'_1.mp hi).1
      exact fun he => absurd he (by omega)
  refine ⟨h.settings_eq, h.catalog_eq, horderly, unpolled_turn h.unpolled _ _ _, fun i => ?_,
    h.distinct.sublist (List.filter_sublist.map _), fun f hf =>
      h.prompt f (List.mem_of_mem_filter hf), hline.trans h.line_eq, fun d hd =>
        ?_, h.due_distinct, h.started,
    h.opened, h.room_turn .., by rw [h.yielded]; rfl⟩
  · by_cases hi : i = flight.slot
    · subst hi
      simp [hends]
    · rw [getElem?_turn hi, ← h.running i]
      constructor
      · rintro ⟨f, hf, rfl⟩
        exact ⟨f, List.mem_of_mem_filter hf, rfl⟩
      · rintro ⟨f, hf, rfl⟩
        exact ⟨f, List.mem_filter.mpr ⟨hf, decide_eq_true hi⟩, rfl⟩
  · obtain ⟨⟨f, hf, hs⟩, hends⟩ := h.due_ends d hd
    refine ⟨⟨f, List.mem_filter.mpr ⟨hf, decide_eq_true ?_⟩, hs⟩, hends⟩
    exact fun he => hdue (he ▸ hs ▸ List.mem_map_of_mem hd)

end

lemma Steady.turn (h : Steady settings catalog reply rules n due c) {flight : Flight}
    (hf : flight ∈ c.flights) (hdue : flight.slot ∉ due.map (·.1)) (expired : Bool) :
    Steady settings catalog reply rules n due (c.fly flight expired) ∧
      (c.fly flight expired).flights.length ≤ c.flights.length ∧
      (expired ∨ c.pass.cancelled → (c.fly flight expired).flights.length < c.flights.length) ∧
      (c.fly flight expired).cancelAfter = c.cancelAfter ∧
      ∃ answer, (c.fly flight expired).pass = c.pass.step (.turn flight.slot answer expired) := by
  obtain ⟨answer, hb, hanswer⟩ := h.prompt flight hf
  have horderly := h.orderly_turn hanswer expired
  rw [fly_prompt hb (fun f hf' hs => List.inj_on_of_nodup_map h.distinct hf' hf hs), land]
  dsimp only
  split_ifs with hruns
  · exact ⟨h.stays hf horderly hruns, le_rfl, fun hends =>
      absurd hruns (not_running_turn h.unpolled hends answer), rfl, answer, rfl⟩
  · have hslot : flight.slot < n := lt_of_running h.orderly ((h.running _).mp ⟨flight, hf, rfl⟩)
    have hshorter : (c.flights.filter (·.slot ≠ flight.slot)).length < c.flights.length :=
      List.length_filter_lt_length_iff_exists.mpr ⟨flight, hf, by simp⟩
    exact ⟨h.lands hslot hdue horderly hruns, hshorter.le, fun _ => hshorter, rfl, answer, rfl⟩

lemma slots_start {answers : ℕ → Answer} {p : Pass} (h : p.Orderly rules answers n)
    (hn : n < rules.length) (hroom : p.hasRoom) :
    (p.step .start).slots = p.slots.modify n p.launchSlot := by
  have hidx := h.findIdx?_waiting
  rw [if_pos hn] at hidx
  rw [Pass.step, if_pos hroom]
  exact (Pass.startFirst_eq p p.slots).trans (by rw [(List.findIdx?_eq_some_iff_findIdx_eq.mp hidx).2])

lemma Steady.orderly_start (h : Steady settings catalog reply rules n [] c) (hn : n < c.opened) :
    (c.pass.step .start).slots = c.pass.slots.modify n c.pass.launchSlot ∧
      (c.pass.step .start).Orderly rules (answersOf settings.timeout catalog reply rules) (n + 1) := by
  have hlt : n < rules.length := Nat.lt_of_lt_of_le hn h.opened
  have hcount := runningCount_add h.orderly
  have hroom : c.pass.hasRoom := by
    rw [Pass.hasRoom, decide_eq_true_eq, h.settings_eq]
    have := h.room
    omega
  have hslots := slots_start h.orderly hlt hroom
  exact ⟨hslots, h.orderly.launch hlt .start hslots⟩

lemma Steady.start (h : Steady settings catalog reply rules n [] c) (hn : n < c.opened)
    {rest : List (ℕ × Bool)} (hline : c.line = (n, false) :: rest) (calls : List Query)
    {flight? : Option Flight} (hflight : ∀ f ∈ flight?, f.slot = n ∧
      ∃ answer, f.behaviour = .prompt answer ∧
      answer.getD (.error (.timeout settings.timeout)) =
        answersOf settings.timeout catalog reply rules n)
    (hruns : flight?.isSome ↔ (c.pass.step .start).slots[n]?.any Slot.isRunning) :
    Steady settings catalog reply rules (n + 1) []
      { c with
        line := rest, pass := c.pass.step .start, flights := c.flights ++ flight?.toList, calls } := by
  obtain ⟨hslots, horderly⟩ := h.orderly_start hn
  have hother : ∀ i, i ≠ n → (c.pass.step .start).slots[i]? = c.pass.slots[i]? := by
    intro i hi
    rw [hslots, List.getElem?_modify]
    cases c.pass.slots[i]? <;> simp [Ne.symm hi]
  have hnone : ∀ f ∈ c.flights, f.slot ≠ n := fun f hf he =>
    absurd (lt_of_running h.orderly ((h.running _).mp ⟨f, hf, rfl⟩)) (by omega)
  have hrest : rest = (List.range' (n + 1) (c.opened - (n + 1))).map (·, false) := by
    have := h.line_eq
    rw [hline, List.nil_append, show c.opened - n = c.opened - (n + 1) + 1 by
      omega, List.range'_succ] at this
    exact (List.cons.inj this).2
  have hroom' :=
    h.room.trans (Nat.add_le_add_right (length_evaluations_step_le c.pass .start) settings.maxWorkers)
  refine ⟨(Pass.settings_step c.pass .start).trans h.settings_eq,
    (Pass.catalog_step c.pass .start).trans h.catalog_eq, horderly, unpolled_start h.unpolled,
    fun i => ?_, ?_,
    fun f hf => ?_, hrest, ?_, .nil, hn, h.opened, hroom', h.yielded⟩
  · by_cases hi : i = n
    · subst hi
      rw [← hruns]
      cases flight? with
      | none => simpa using hnone
      | some f => simp [(hflight f rfl).1]
    · rw [hother i hi, ← h.running i]
      cases flight? with
      | none => simp
      | some f => simp [(hflight f rfl).1, Ne.symm hi]
  · cases flight? with
    | none => simpa using h.distinct
    | some f =>
      rw [List.map_append]
      exact List.nodup_append.mpr ⟨h.distinct,
        List.nodup_singleton _, by simpa [(hflight f rfl).1] using hnone⟩
  · rcases List.mem_append.mp hf with hf | hf
    · exact h.prompt f hf
    · obtain ⟨hslot, hprompt⟩ := hflight f (Option.mem_toList.mp hf)
      exact hslot ▸ hprompt
  · exact fun _ hd => absurd hd List.not_mem_nil

lemma Steady.launch (h : Steady settings catalog reply rules n [] c) (hn : n < c.opened)
    {rest : List (ℕ × Bool)} (hline : c.line = (n, false) :: rest) :
    let next := Cooperative.launch (fun _ query => .prompt (reply query)) { c with line := rest } n
    Steady settings catalog reply rules (n + 1) [] next ∧ next.flights.length ≤ c.flights.length + 1 ∧
      next.cancelAfter = c.cancelAfter ∧
      ∃ events, next.pass = c.pass.run events ∧ .cancel ∉ events := by
  have hlt : n < rules.length := Nat.lt_of_lt_of_le hn h.opened
  obtain ⟨slot, hs, hlaunched⟩ :=
    (h.orderly_start hn).2.launched n rules[n] (Nat.lt_succ_self n) (List.getElem?_eq_getElem hlt)
  have hcases : (∃ e, slot = .ended e) ∨
      ∃ query, Query.compile (c.pass.step .start).catalog rules[n] = .ok query ∧
        slot = .running rules[n] query := by
    cases hlaunched with
    | running hquery => exact .inr ⟨_, hquery, rfl⟩
    | polled => cases unpolled_start h.unpolled _ (List.mem_of_getElem? hs)
    | ended | skipped => exact .inl ⟨_, rfl⟩
  intro next
  rcases hcases with ⟨e, rfl⟩ | ⟨query, hquery, rfl⟩
  · have hstart : Steady settings catalog reply rules (n + 1) []
        { c with
          line := rest, pass := c.pass.step .start
          flights := c.flights ++ (none : Option Flight).toList } :=
      h.start hn hline c.calls (by simp) (by simp [hs, Slot.isRunning])
    have hnext : next = { c with
        line := rest, pass := c.pass.step .start
        flights := c.flights ++ (none : Option Flight).toList } := by
      change Cooperative.launch _ _ _ = _
      rw [Cooperative.launch]
      dsimp only
      rw [hs, Option.toList_none, List.append_nil]
    rw [hnext]
    exact ⟨hstart, by simp, rfl, [.start], rfl, by simp⟩
  · rw [Pass.catalog_step, h.catalog_eq] at hquery
    let flight : Flight := ⟨n, .prompt (reply query), c.span⟩
    have hanswer : (reply query).getD (.error (.timeout settings.timeout)) =
        answersOf settings.timeout catalog reply rules n := by
      rw [answersOf, List.getElem?_eq_getElem hlt, Option.map_some, Option.getD_some, answerOf, hquery]
      rfl
    have hflight : ∀ f ∈ some flight, f.slot = n ∧ ∃ answer, f.behaviour = .prompt answer ∧
        answer.getD (.error (.timeout settings.timeout)) =
          answersOf settings.timeout catalog reply rules n := by
      rintro _ ⟨⟩
      exact ⟨rfl, reply query, rfl, hanswer⟩
    have hstart := h.start hn hline (query :: c.calls) hflight (by simp [hs, Slot.isRunning])
    obtain ⟨hturn, hlength, _, hcancelAfter, answer, hpass⟩ :=
      hstart.turn (List.mem_append_right _ (List.mem_singleton_self flight)) List.not_mem_nil false
    have hnext : next = Cooperative.fly { c with
        line := rest, pass := c.pass.step .start, flights := c.flights ++ (some flight).toList,
        calls := query :: c.calls } flight false := by
      change Cooperative.launch _ _ _ = _
      rw [Cooperative.launch]
      dsimp only
      rw [hs]
      rfl
    rw [hnext]
    exact ⟨hturn, hlength.trans (by simp), hcancelAfter, [.start, .turn n answer false], hpass, by simp⟩

lemma Steady.refill (h : Steady settings catalog reply rules n [] c) (hopened : c.opened = n)
    (hflights : c.flights ≠ []) :
    ∃ due events, due ≠ [] ∧ Steady settings catalog reply rules n due c.refill ∧
      c.refill.flights = c.flights ∧
      c.refill.pass = c.pass.run events ∧
      (c.cancelAfter = none → c.refill.cancelAfter = none ∧ .cancel ∉ events) := by
  have hline : c.line = [] := by
    rw [h.line_eq, hopened, Nat.sub_self]
    rfl
  have hfresh : (List.range' n (c.opened - n)).map (·, false) = [] := by
    rw [hopened, Nat.sub_self]
    rfl
  rw [Cooperative.refill, if_neg (not_not.mpr h.yielded)]
  split_ifs with hinterrupted
  · have hagrees : Event.cancel.Agrees c.pass.settings.timeout
      (answersOf settings.timeout catalog reply rules) := trivial
    refine ⟨c.flights.map fun f => (f.slot, false),
      [.cancel], by simpa using hflights, ?_, rfl, rfl, fun hnone => ?_⟩
    · refine ⟨h.settings_eq, h.catalog_eq, (h.orderly.step hagrees).1, h.unpolled, h.running,
        h.distinct, h.prompt, ?_, fun d hd => ?_, ?_, h.started, h.opened, h.room, h.yielded⟩
      · rw [rouse]
        dsimp only
        rw [hline, hfresh, List.append_nil]
        simp
      · obtain ⟨f, hf, rfl⟩ := List.mem_map.mp hd
        exact ⟨⟨f, hf, rfl⟩, .inr rfl⟩
      · rw [List.map_map]
        exact h.distinct
    · rw [isInterrupted, hnone] at hinterrupted
      exact nomatch hinterrupted
  · refine ⟨(c.flights.filter fun f => some f.startedIn = c.flights.head?.map (·.startedIn)).map
      fun f => (f.slot, true), [], ?_, ?_, rfl, rfl, fun hnone => ⟨hnone, List.not_mem_nil⟩⟩
    · obtain ⟨f, flights, hf⟩ := List.exists_cons_of_ne_nil hflights
      simp [hf]
    · refine ⟨h.settings_eq, h.catalog_eq, h.orderly, h.unpolled, h.running, h.distinct, h.prompt,
        ?_, fun d hd => ?_, ?_, h.started, h.opened, h.room, h.yielded⟩
      · dsimp only
        rw [hfresh, List.append_nil]
      · obtain ⟨f, hf, rfl⟩ := List.mem_map.mp hd
        exact ⟨⟨f, List.mem_of_mem_filter hf, rfl⟩, .inl rfl⟩
      · rw [List.map_map]
        exact h.distinct.sublist (List.filter_sublist.map _)

/-- Turns that are left: a start and at most two more for every rule, less those of the flights that
are due. -/
def work (rules : List Rule) (n : ℕ) (due : List (ℕ × Bool)) (c : Cooperative) : ℕ :=
  3 * (rules.length - n) + 2 * c.flights.length - due.length

lemma Steady.length_due_le (h : Steady settings catalog reply rules n due c) :
    due.length ≤ c.flights.length := by
  have hsubset : due.map (·.1) ⊆ c.flights.map (·.slot) := by
    intro i hi
    obtain ⟨d, hd, rfl⟩ := List.mem_map.mp hi
    obtain ⟨f, hf, hs⟩ := (h.due_ends d hd).1
    exact hs ▸ List.mem_map_of_mem hf
  have := (List.Nodup.subperm h.due_distinct hsubset).length_le
  rwa [List.length_map, List.length_map] at this

lemma Steady.flights_ne_nil (h : Steady settings catalog reply rules n due c)
    (hworkers : 1 ≤ settings.maxWorkers) (hd : ¬ c.pass.isDone) (hopened : c.fill.opened = n) :
    c.flights ≠ [] := by
  intro hflights
  have hrunning : ∀ i : ℕ, ¬ c.pass.slots[i]?.any Slot.isRunning := by
    intro i
    rw [← h.running i, hflights]
    simp
  have hcount := runningCount_add h.orderly
  have hzero : c.pass.runningCount = 0 := by
    refine List.countP_eq_zero.mpr fun slot hs => ?_
    obtain ⟨i, hi, rfl⟩ := List.getElem_of_mem hs
    have := hrunning i
    rwa [List.getElem?_eq_getElem hi] at this
  have hn : n = rules.length := by
    have h₁ := h.started
    have h₂ := h.opened
    simp only [Cooperative.fill, h.settings_eq, h.orderly.length] at hopened
    omega
  refine hd (List.all_eq_true.mpr fun slot hs => ?_)
  obtain ⟨i, hi, rfl⟩ := List.getElem_of_mem hs
  have hi' : i < rules.length := h.orderly.length ▸ hi
  obtain ⟨slot, hslot, hl⟩ := h.orderly.launched i rules[i] (hn ▸ hi') (List.getElem?_eq_getElem hi')
  have hnot := hrunning i
  rw [hslot] at hnot
  rw [List.getElem?_eq_getElem hi, Option.some_inj] at hslot
  rw [hslot]
  cases hl with
  | running | polled => exact absurd rfl hnot
  | ended | skipped => rfl

lemma Steady.advance_due {d : ℕ × Bool} (h : Steady settings catalog reply rules n (d :: due) c) :
    let next := c.advance fun _ query => .prompt (reply query)
    Steady settings catalog reply rules n due next ∧ next.flights.length < c.flights.length ∧
      next.cancelAfter = c.cancelAfter ∧
      ∃ slot answer, next.pass = c.pass.step (.turn slot answer d.2) := by
  intro next
  have hfill := h.fill
  have hdue := hfill.due_ends d (List.mem_cons_self ..)
  obtain ⟨flight, hfind⟩ : ∃ flight, c.fill.flights.find? (·.slot = d.1) = some flight := by
    obtain ⟨f, hf, hs⟩ := hdue.1
    exact Option.isSome_iff_exists.mp (List.find?_isSome.mpr ⟨f, hf, decide_eq_true hs⟩)
  have hslot : flight.slot = d.1 := of_decide_eq_true (List.find?_some hfind :)
  have hdistinct := List.nodup_cons.mp hfill.due_distinct
  have hrest : Steady settings catalog reply rules n due
      { c.fill with line := due ++ (List.range' n (c.fill.opened - n)).map (·, false) } :=
    { hfill with
      line_eq := rfl
      due_ends := fun d hd => hfill.due_ends d (List.mem_cons_of_mem _ hd)
      due_distinct := hdistinct.2 }
  obtain ⟨hturn, _, hshorter, hcancelAfter, answer, hpass⟩ :=
    hrest.turn (List.mem_of_find?_eq_some hfind) (hslot ▸ hdistinct.1) d.2
  have hnext : next = Cooperative.fly
      { c.fill with line := due ++ (List.range' n (c.fill.opened - n)).map (·, false) } flight d.2 := by
    change Cooperative.advance _ c = _
    rw [Cooperative.advance]
    dsimp only
    rw [hfill.line_eq]
    dsimp only [List.cons_append]
    rw [hfind]
  rw [hnext]
  exact ⟨hturn, hshorter hdue.2, hcancelAfter, flight.slot, answer, hpass⟩

lemma Steady.advance_start (h : Steady settings catalog reply rules n [] c)
    (hopened : c.fill.opened ≠ n) :
    let next := c.advance fun _ query => .prompt (reply query)
    n < rules.length ∧ Steady settings catalog reply rules (n + 1) [] next ∧
      next.flights.length ≤ c.flights.length + 1 ∧ next.cancelAfter = c.cancelAfter ∧
      ∃ events, next.pass = c.pass.run events ∧ .cancel ∉ events := by
  intro next
  have hfill := h.fill
  have hlt : n < c.fill.opened := lt_of_le_of_ne hfill.started (Ne.symm hopened)
  have hcons : c.fill.line = (n, false) :: (List.range' (n + 1) (c.fill.opened - (n + 1))).map (·,
    false) := by
    rw [hfill.line_eq, List.nil_append, show c.fill.opened - n = c.fill.opened - (n + 1) + 1 by
      omega, List.range'_succ]
    rfl
  have hfind : c.fill.flights.find? (·.slot = n) = none := by
    refine List.find?_eq_none.mpr fun f hf he => ?_
    have := lt_of_running h.orderly ((h.running f.slot).mp ⟨f, hf, rfl⟩)
    exact absurd (of_decide_eq_true he) (by omega)
  have hnext : next = Cooperative.launch (fun _ query => .prompt (reply query))
      { c.fill with line := (List.range' (n + 1) (c.fill.opened - (n + 1))).map (·, false) } n := by
    change Cooperative.advance _ c = _
    rw [Cooperative.advance]
    dsimp only
    rw [hcons]
    dsimp only
    rw [hfind]
  rw [hnext]
  exact ⟨Nat.lt_of_lt_of_le hlt hfill.opened, hfill.launch hlt hcons⟩

lemma Steady.advance (h : Steady settings catalog reply rules n due c)
    (hworkers : 1 ≤ settings.maxWorkers) (hd : ¬ c.pass.isDone) :
    let next := c.advance fun _ query => .prompt (reply query)
    ∃ n' due' events, Steady settings catalog reply rules n' due' next ∧
      work rules n' due' next < work rules n due c ∧
      next.pass = c.pass.run events ∧
        (c.cancelAfter = none → next.cancelAfter = none ∧ .cancel ∉ events) := by
  intro next
  have hle := h.length_due_le
  cases due with
  | cons d due =>
    obtain ⟨hsteady, (hshorter : next.flights.length < _), hcancelAfter, slot, answer, hpass⟩ :=
      h.advance_due
    refine ⟨n, due, [.turn slot answer d.2], hsteady, ?_, hpass, fun hnone =>
      ⟨hcancelAfter.trans hnone, by simp⟩⟩
    rw [List.length_cons] at hle
    rw [work, work, List.length_cons]
    omega
  | nil =>
    by_cases hopened : c.fill.opened = n
    · obtain ⟨due, events, hne, hsteady, hflights, hpass, hcancelAfter⟩ :=
        h.fill.refill hopened (h.flights_ne_nil hworkers hd hopened)
      have hnext : next = c.fill.refill := by
        change Cooperative.advance _ c = _
        rw [Cooperative.advance, h.fill.line_eq, hopened, Nat.sub_self]
        rfl
      rw [← hnext] at hsteady hflights hpass hcancelAfter
      refine ⟨n, due, events, hsteady, ?_, hpass, hcancelAfter⟩
      have hpos := List.length_pos_iff.mpr hne
      have hle := hsteady.length_due_le
      have hflights : next.flights.length = c.flights.length := congrArg _ hflights
      rw [work, work, List.length_nil]
      omega
    · obtain ⟨hlt, hsteady, (hlength : next.flights.length ≤ _), hcancelAfter, events, hpass, hcancel⟩ :=
        h.advance_start hopened
      refine ⟨n + 1, [], events, hsteady, ?_, hpass, fun hnone => ⟨hcancelAfter.trans hnone, hcancel⟩⟩
      rw [work, work, List.length_nil]
      omega

lemma Steady.run (h : Steady settings catalog reply rules n due c)
    (hworkers : 1 ≤ settings.maxWorkers) (fuel : ℕ) (hfuel : work rules n due c ≤ fuel) :
    let last := c.run (fun _ query => .prompt (reply query)) fuel
    last.pass.isDone ∧ ∃ n' due' events, Steady settings catalog reply rules n' due' last ∧
      last.pass = c.pass.run events ∧ (c.cancelAfter = none → .cancel ∉ events) := by
  induction fuel generalizing n due c with
  | zero =>
    refine ⟨?_, n, due, [], h, rfl, fun _ => List.not_mem_nil⟩
    -- a pass that is not done has work left
    by_contra hd
    obtain ⟨_, _, _, _, hlt, _⟩ := h.advance hworkers hd
    omega
  | succ fuel ih =>
    intro last
    by_cases hd : c.pass.isDone
    · have hlast : last = c := if_pos hd
      rw [hlast]
      exact ⟨hd, n, due, [], h, rfl, fun _ => List.not_mem_nil⟩
    have hlast : last = (c.advance fun _ query => .prompt (reply query)).run (fun _ query =>
      .prompt (reply query)) fuel :=
      if_neg hd
    rw [hlast]
    obtain ⟨n', due', events, hnext, hlt, hpass, hcancelAfter⟩ := h.advance hworkers hd
    obtain ⟨hdone, n'', due'', more, hsteady, hmore, hcancel⟩ := ih hnext (by omega)
    refine ⟨hdone, n'', due'', events ++ more, hsteady, ?_, fun hnone => ?_⟩
    · rw [hmore, hpass, Pass.run_append]
    · obtain ⟨hnone, hevents⟩ := hcancelAfter hnone
      exact fun he => (List.mem_append.mp he).elim hevents (hcancel hnone)

lemma steady_begin (settings : Settings) (catalog : Catalog) (reply : Query → Option Answer)
    (rules : List Rule) (cancelled : Bool) (cancelAfter : Option Time.Duration) :
    Steady settings catalog reply rules 0 []
      (begin (Pass.begin settings catalog rules cancelled) cancelAfter) := by
  have hunpolled : ∀ slot ∈ (Pass.begin settings catalog rules cancelled).slots,
    slot.isPolled = false := by
    intro slot hs
    obtain ⟨rule, _, rfl⟩ := List.mem_map.mp hs
    rfl
  refine ⟨rfl, rfl, Pass.orderly_begin settings catalog rules cancelled _, hunpolled, fun i => ?_,
    .nil, nofun, rfl, nofun, .nil, le_rfl, Nat.zero_le _, Nat.zero_le _, rfl⟩
  rw [begin, Pass.begin, List.getElem?_map]
  cases rules[i]? <;> simp [Slot.isRunning]

theorem evaluate_prompt (reply : Query → Option Answer) (cancelAfter : Option Time.Duration)
    {settings : Settings} (hworkers : 1 ≤ settings.maxWorkers) (catalog : Catalog)
    (rules : List Rule) (cancelled : Bool) :
    let last :=
      evaluate (fun _ query => .prompt (reply query)) 0 cancelAfter settings catalog rules cancelled
    last.pass.isDone ∧
      (∃ events, last.pass = (Pass.begin settings catalog rules cancelled).run events) ∧
      (cancelAfter = none → cancelled = false → last.pass.cancelled = false ∧
        last.pass.evaluations = rules.map fun rule =>
          .alone settings.maxRows catalog rule (answerOf settings.timeout catalog reply rule)) := by
  obtain ⟨hdone, n, due, events, hsteady, hpass, hcancel⟩ :=
    (steady_begin settings catalog reply rules cancelled cancelAfter).run hworkers
      (turnBound rules.length 0) (by
      have hnone :
        (begin (Pass.begin settings catalog rules cancelled) cancelAfter).flights.length = 0 := rfl
      rw [work, hnone, turnBound, List.length_nil]
      omega)
  intro last
  have hpass : last.pass = (Pass.begin settings catalog rules cancelled).run events := hpass
  refine ⟨hdone, ⟨events, hpass⟩, fun hnone huncancelled => ?_⟩
  have hcalm : last.pass.cancelled = false := by
    rw [hpass]
    exact Pass.cancelled_run huncancelled fun event he hcancelled => hcancel hnone (hcancelled ▸ he)
  refine ⟨hcalm, (hsteady.orderly.evaluations_of_isDone hdone hcalm).trans ?_⟩
  rw [hsteady.settings_eq, hsteady.catalog_eq]
  exact ListFacts.mapIdx_getElem? (Evaluation.alone settings.maxRows catalog) _ _ rules

end Cooperative

end Compliance.Scan
