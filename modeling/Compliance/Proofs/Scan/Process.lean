import Compliance.Proofs.Scan.Schedule
import Compliance.Scan.Process

/-! What one step of a scan can do, and how a whole scan stands after any moments: it is underway
and has touched nothing, or it ended in one step of its own. -/

namespace Compliance.Scan

open Result

inductive Pass.Polls (p : Pass) (rule : Rule) (query : Query) : Slot → Prop
  | running (hc : p.cancelled = false) : Polls p rule query (.running rule query)
  | polled : Polls p rule query (.polled rule query)

inductive Pass.Moves (p : Pass) : Event → Slot → Slot → Prop
  | stays (event : Event) (slot : Slot) : Moves p event slot slot
  | starts (rule : Rule) : Moves p .start (.waiting rule) (p.startSlot rule)
  | looks (i : ℕ) (rule : Rule) (query : Query) (hc : p.cancelled = false) :
    Moves p (.look i) (.running rule query) (.polled rule query)
  | skips (event : Event) (rule : Rule) (query : Query) (hc : p.cancelled) :
    Moves p event (.running rule query) (endSlot rule .skipped)
  | returns (i : ℕ) (answer : Option Answer) (expired : Bool) (rule : Rule) (query : Query) {slot : Slot}
    (hs : p.Polls rule query slot)
    (hnone : Execution.poll p.settings.timeout ⟨false, answer, expired⟩ = none) :
    Moves p (.turn i answer expired) slot (.running rule query)
  | ends (i : ℕ) (answer : Option Answer) (expired : Bool) (rule : Rule) (query : Query) {slot : Slot}
    (hs : p.Polls rule query slot) (a : Answer)
    (ha : Execution.poll p.settings.timeout ⟨false, answer, expired⟩ = some a) :
    Moves p (.turn i answer expired) slot (endSlot rule (.ofAnswer rule query p.settings.maxRows a))

inductive Slot.IsOf (catalog : Catalog) (rule : Rule) : Slot → Prop
  | waiting : IsOf catalog rule (.waiting rule)
  | running {query : Query} (h : Query.compile catalog rule = .ok query) : IsOf catalog rule
    (.running rule query)
  | polled {query : Query} (h : Query.compile catalog rule = .ok query) : IsOf catalog rule
    (.polled rule query)
  | ended (outcome : Outcome) : IsOf catalog rule (.ended ⟨rule.id, rule.name, outcome⟩)

structure Pass.IsOver (settings : Settings) (catalog : Catalog) (rules : List Rule)
    (p : Pass) : Prop where
  settings_eq : p.settings = settings
  catalog_eq : p.catalog = catalog
  length_eq : p.slots.length = rules.length
  slots : ∀ (i : ℕ) rule, rules[i]? = some rule → ∃ slot, p.slots[i]? = some slot ∧
    Slot.IsOf catalog rule slot

namespace Pass

variable {p : Pass} {event : Event} {slot slot' : Slot} {rule : Rule} {rules : List Rule} {i : ℕ}
  {settings : Settings} {catalog : Catalog}

lemma Polls.compile_eq {query : Query} {rule' : Rule} (h : p.Polls rule query slot)
    (hs : slot.IsOf catalog rule') :
    rule' = rule ∧ Query.compile catalog rule = .ok query := by
  cases h with
  | running =>
    cases hs with
    | running hq => exact ⟨rfl, hq⟩
  | polled =>
    cases hs with
    | polled hq => exact ⟨rfl, hq⟩

lemma Polls.evaluation?_eq {query : Query} (h : p.Polls rule query slot) : slot.evaluation? = none := by
  cases h <;> rfl

lemma Polls.not_waiting {query : Query} (h : p.Polls rule query slot) : slot.isWaiting = false := by
  cases h <;> rfl

lemma moves_lookSlot (p : Pass) (i : ℕ) (slot : Slot) : p.Moves (.look i) slot (p.lookSlot slot) := by
  cases slot with
  | waiting | polled | ended => exact .stays _ _
  | running rule query =>
    rw [lookSlot]
    split_ifs with hc
    · exact .skips _ rule query hc
    · exact .looks i rule query (Bool.eq_false_iff.mpr hc)

lemma moves_settleSlot {query : Query} (hs : p.Polls rule query slot) (i : ℕ)
    (answer : Option Answer) (expired : Bool) :
    p.Moves (.turn i answer expired) slot (p.settleSlot answer expired (.polled rule query)) := by
  rw [settleSlot]
  split
  next a ha => exact .ends i answer expired rule query hs a ha
  next hnone => exact .returns i answer expired rule query hs hnone

lemma moves_turnSlot (p : Pass) (i : ℕ) (answer : Option Answer) (expired : Bool) (slot : Slot) :
    p.Moves (.turn i answer expired) slot (p.turnSlot answer expired slot) := by
  cases slot with
  | waiting | ended => exact .stays _ _
  | polled rule query => exact moves_settleSlot .polled i answer expired
  | running rule query =>
    rw [turnSlot, lookSlot]
    split_ifs with hc
    · exact .skips _ rule query hc
    · exact moves_settleSlot (.running (Bool.eq_false_iff.mpr hc)) i answer expired

lemma moves_step (hs : p.slots[i]? = some slot) (event : Event) :
    ∃ slot', (p.step event).slots[i]? = some slot' ∧ p.Moves event slot slot' := by
  cases event with
  | cancel => exact ⟨slot, hs, .stays _ _⟩
  | start =>
    rw [step]
    split_ifs with hroom
    swap
    · exact ⟨slot, hs, .stays _ _⟩
    rw [startFirst_eq, List.getElem?_modify, hs]
    by_cases hi : p.slots.findIdx Slot.isWaiting = i
    swap
    · exact ⟨slot, by simp [hi], .stays _ _⟩
    refine ⟨p.launchSlot slot, by simp [hi], ?_⟩
    cases slot with
    | waiting rule => exact .starts rule
    | running | polled | ended => exact .stays _ _
  | look j =>
    rw [step, List.getElem?_modify, hs]
    by_cases hi : j = i
    · exact ⟨p.lookSlot slot, by simp [hi], moves_lookSlot p j slot⟩
    · exact ⟨slot, by simp [hi], .stays _ _⟩
  | turn j answer expired =>
    rw [step, List.getElem?_modify, hs]
    by_cases hi : j = i
    · exact ⟨p.turnSlot answer expired slot, by simp [hi], moves_turnSlot p j answer expired slot⟩
    · exact ⟨slot, by simp [hi], .stays _ _⟩

lemma length_step (p : Pass) (event : Event) : (p.step event).slots.length = p.slots.length := by
  cases event with
  | cancel => rfl
  | start =>
    rw [step]
    split_ifs
    · rw [startFirst_eq, List.length_modify]
    · rfl
  | look slot => exact List.length_modify ..
  | turn slot answer expired => exact List.length_modify ..

lemma Moves.isOf (h : p.Moves event slot slot') (hs : slot.IsOf p.catalog rule) :
    slot'.IsOf p.catalog rule := by
  cases h with
  | stays => exact hs
  | starts =>
    cases hs
    rw [startSlot]
    split_ifs
    · exact .ended .skipped
    · cases hq : Query.compile p.catalog rule with
      | ok query => exact .running hq
      | error error => exact .ended (.compileFailed error)
  | looks =>
    cases hs with
    | running hq => exact .polled hq
  | skips =>
    cases hs
    exact .ended .skipped
  | returns _ _ _ _ _ hpolls =>
    obtain ⟨rfl, hq⟩ := hpolls.compile_eq hs
    exact .running hq
  | ends _ _ _ _ _ hpolls =>
    obtain ⟨rfl, _⟩ := hpolls.compile_eq hs
    exact .ended _

lemma cancelled_step_eq (p : Pass) (event : Event) :
    (p.step event).cancelled = (p.cancelled || event.isCancel) := by
  cases event with
  | start =>
    rw [step]
    split_ifs <;> exact (Bool.or_false _).symm
  | cancel => exact (Bool.or_true _).symm
  | look | turn => exact (Bool.or_false _).symm

lemma isOver_begin (settings : Settings) (catalog : Catalog) (rules : List Rule) (cancelled : Bool) :
    IsOver settings catalog rules (begin settings catalog rules cancelled) where
  settings_eq := rfl
  catalog_eq := rfl
  length_eq := List.length_map _
  slots i rule hr := ⟨.waiting rule, by rw [begin, List.getElem?_map, hr, Option.map_some], .waiting⟩

lemma IsOver.step (h : p.IsOver settings catalog rules) (event : Event) :
    (p.step event).IsOver settings catalog rules where
  settings_eq := (settings_step p event).trans h.settings_eq
  catalog_eq := (catalog_step p event).trans h.catalog_eq
  length_eq := (length_step p event).trans h.length_eq
  slots i rule hr := by
    obtain ⟨slot, hs, hof⟩ := h.slots i rule hr
    obtain ⟨slot', hs', hmoves⟩ := moves_step hs event
    rw [← h.catalog_eq] at hof ⊢
    exact ⟨slot', hs', hmoves.isOf hof⟩

lemma IsOver.isOf (h : p.IsOver settings catalog rules) (hs : p.slots[i]? = some slot) :
    ∃ rule, rules[i]? = some rule ∧ slot.IsOf catalog rule := by
  have hi : i < rules.length := by
    rw [← h.length_eq]
    exact (List.getElem?_eq_some_iff.mp hs).1
  obtain ⟨slot', hs', hof⟩ := h.slots i rules[i] (List.getElem?_eq_getElem hi)
  obtain rfl := Option.some.inj (hs.symm.trans hs')
  exact ⟨rules[i], List.getElem?_eq_getElem hi, hof⟩

lemma Moves.kept (h : p.Moves event slot slot') {e : Evaluation} (he : slot.evaluation? = some e) :
    slot'.evaluation? = some e := by
  cases h with
  | stays => exact he
  | starts | looks | skips => cases he
  | returns _ _ _ _ _ hpolls | ends _ _ _ _ _ hpolls =>
    rw [hpolls.evaluation?_eq] at he
    cases he

lemma Moves.not_waiting (h : p.Moves event slot slot') (hs : slot.isWaiting = false) :
    slot'.isWaiting = false := by
  cases h with
  | stays => exact hs
  | starts => cases hs
  | looks | skips | returns | ends => rfl

lemma Moves.skipped (h : p.Moves event slot slot') (hc : p.cancelled) (hs : slot.IsOf catalog rule)
    (hpolled : slot.isPolled = false) :
    slot' = slot ∨ slot'.isPolled = false ∧ slot'.evaluation? = some ⟨rule.id, rule.name, .skipped⟩ := by
  cases h with
  | stays => exact .inl rfl
  | starts =>
    cases hs
    rw [startSlot, if_pos hc]
    exact .inr ⟨rfl, rfl⟩
  | looks _ _ _ huncancelled => simp [hc] at huncancelled
  | skips =>
    cases hs
    exact .inr ⟨rfl, rfl⟩
  | returns _ _ _ _ _ hpolls | ends _ _ _ _ _ hpolls =>
    cases hpolls with
    | polled => cases hpolled
    | running huncancelled => simp [hc] at huncancelled

lemma poll_ne_cancelled {deadline : Time.Duration} {answer : Option Answer} {expired : Bool} {a : Answer}
    (ha : answer ≠ some (.error .cancelled))
    (h : Execution.poll deadline ⟨false, answer, expired⟩ = some a) :
    a ≠ .error .cancelled := by
  rintro rfl
  rw [Execution.poll, if_neg Bool.false_ne_true] at h
  cases answer with
  | some answer =>
    obtain rfl := Option.some.inj h
    exact ha rfl
  | none => cases expired <;> cases h

lemma ofAnswer_ne_skipped {query : Query} {maxRows : ℕ} {a : Answer} (ha : a ≠ .error .cancelled) :
    Outcome.ofAnswer rule query maxRows a ≠ .skipped := by
  rcases a with (_ | _ | _ | _) | rows
  case error.cancelled => exact absurd rfl ha
  all_goals exact nofun

lemma Moves.unskipped (h : p.Moves event slot slot') (hc : p.cancelled = false)
    (hhonest : ∀ slot expired, event ≠ .turn slot (some (.error .cancelled)) expired)
    (hnone : slot.evaluation? = none) {e : Evaluation} (he : slot'.evaluation? = some e) :
    e.outcome ≠ .skipped := by
  cases h with
  | stays =>
    rw [hnone] at he
    cases he
  | starts rule =>
    rw [startSlot, if_neg (Bool.eq_false_iff.mp hc)] at he
    cases hq : Query.compile p.catalog rule with
    | ok query =>
      rw [hq] at he
      cases he
    | error error =>
      rw [hq] at he
      obtain rfl := Option.some.inj he
      rintro ⟨⟩
  | looks | returns => cases he
  | skips _ _ _ hcancelled => simp [hc] at hcancelled
  | ends i answer expired rule query _ a ha =>
    obtain rfl := Option.some.inj he
    exact ofAnswer_ne_skipped
      (poll_ne_cancelled (fun hcancelled => hhonest i expired (by rw [hcancelled])) ha)

lemma polls_of_lookSlot (h : (p.lookSlot slot).isPolled) : ∃ rule query, p.Polls rule query slot := by
  cases slot with
  | waiting | ended => cases h
  | polled rule query => exact ⟨rule, query, .polled⟩
  | running rule query =>
    rw [lookSlot] at h
    split_ifs at h with hc
    · cases h
    · exact ⟨rule, query, .running (Bool.eq_false_iff.mpr hc)⟩

lemma polls_of_asked (h : p.asked event = some i) :
    ∃ answer expired slot rule query, event = .turn i answer expired ∧ p.slots[i]? = some slot ∧
      p.Polls rule query slot := by
  cases event with
  | start | cancel | look => cases h
  | turn j answer expired =>
    rw [asked] at h
    split_ifs at h with hpolled
    obtain rfl := Option.some.inj h
    cases hs : p.slots[j]? with
    | none =>
      rw [hs] at hpolled
      cases hpolled
    | some slot =>
      rw [hs] at hpolled
      obtain ⟨rule, query, hpolls⟩ := polls_of_lookSlot hpolled
      exact ⟨answer, expired, slot, rule, query, rfl, rfl, hpolls⟩

lemma not_waiting_of_asked (h : p.asked event = some i) :
    ∃ slot, p.slots[i]? = some slot ∧ slot.isWaiting = false := by
  obtain ⟨_, _, slot, _, _, _, hs, hpolls⟩ := polls_of_asked h
  exact ⟨slot, hs, hpolls.not_waiting⟩

lemma slots_eq_of_isDone (hd : p.isDone) : p.slots = p.evaluations.map .ended := by
  rw [isDone, List.all_eq_true] at hd
  rw [evaluations]
  generalize p.slots = slots at hd
  induction slots with
  | nil => rfl
  | cons slot slots ih =>
    rw [List.forall_mem_cons] at hd
    cases slot with
    | ended e => exact congrArg (Slot.ended e :: ·) (ih hd.2)
    | waiting | running | polled => simp [Slot.evaluation?] at hd

lemma getElem?_evaluations (hd : p.isDone) (i : ℕ) :
    p.evaluations[i]? = p.slots[i]?.bind Slot.evaluation? := by
  rw [slots_eq_of_isDone hd, List.getElem?_map]
  cases p.evaluations[i]? <;> rfl

end Pass

variable {S : Type}

inductive Underway (ports : Ports S) (settings : Settings) (state : S) : Process S → Prop
  | fetching (cancelled : Bool) : Underway ports settings state ⟨state, cancelled, .fetching, []⟩
  | loading {rules : List Rule} (hfetch : ports.fetch Rule.Status.scannable state = .ok rules)
    (hne : rules ≠ [])
    (cancelled : Bool) :
    Underway ports settings state ⟨state, cancelled, .loading rules, [.fetch Rule.Status.scannable]⟩
  | evaluating {rules : List Rule} {catalog : Catalog} {pass : Pass} {asked : List ℕ}
    (hfetch : ports.fetch Rule.Status.scannable state = .ok rules) (hne : rules ≠ [])
    (hcatalog : ports.catalog state = .ok catalog) (hpass : pass.IsOver settings catalog rules)
    (hasked : ∀ i ∈ asked, ∃ slot, pass.slots[i]? = some slot ∧ slot.isWaiting = false) :
    Underway ports settings state
      ⟨state, pass.cancelled, .evaluating pass,
        .fetch Rule.Status.scannable :: .catalog :: asked.map .query⟩

inductive Concludes (ports : Ports S) (settings : Settings) (clock : Clock) (p : Process S)
    (pass : Pass) (q : Process S) :
    Prop
  | discarded (hcancelled : p.cancelled) (hpersist : settings.persistOnCancel = false)
    (hstate : q.state = p.state) (hstage : q.stage = .ended pass.evaluations (.error .cancelled))
    (hcalls : q.calls = p.calls)
  | recorded (hpersist : p.cancelled → settings.persistOnCancel)
    (hstate : q.state = (ports.persist pass.candidates settings.dedup p.state).2)
    (hstage : q.stage = .ended pass.evaluations
      (((ports.persist pass.candidates settings.dedup p.state).1.mapError .persistence).map
        fun recorded =>
        Report.ofEvaluations clock.startedAt clock.durationMillis pass.evaluations recorded p.cancelled))
    (hcalls : q.calls = p.calls ++ [.persist pass.candidates settings.dedup])

inductive Ends (ports : Ports S) (settings : Settings) (clock : Clock) (p q : Process S) : Prop
  | unavailable {cause : Failure}
    (h : ports.fetch Rule.Status.scannable p.state = .error cause ∨ ports.catalog p.state = .error cause)
    (hstate : q.state = p.state) (hstage : q.stage = .ended [] (.error (.storeUnavailable cause)))
    (hbatches : q.batches = [])
  | empty (h : ports.fetch Rule.Status.scannable p.state = .ok []) (hstate : q.state = p.state)
    (hstage : q.stage = .ended [] (.ok (Report.empty clock.startedAt))) (hbatches : q.batches = [])
  | concluded {pass : Pass} (h : p.stage = .evaluating pass) (hdone : pass.isDone)
    (hconcludes : Concludes ports settings clock p pass q)

namespace Process

variable {ports : Ports S} {settings : Settings} {clock : Clock} {state : S} {p q : Process S}

lemma queried_queries (state : S) (cancelled : Bool) (stage : Stage) (asked : List ℕ) :
    queried ⟨state, cancelled, stage, asked.map .query⟩ = asked := by
  rw [queried, List.filterMap_map]
  exact List.filterMap_some

lemma batches_eq_nil (h : Underway ports settings state p) : p.batches = [] := by
  cases h with
  | fetching | loading => rfl
  | evaluating =>
    simp [batches]

lemma batches_recorded (h : Underway ports settings state p) {candidates : List Violation.Candidate}
    {policy : Violation.DedupPolicy} (hcalls : q.calls = p.calls ++ [.persist candidates policy]) :
    q.batches = [(candidates, policy)] := by
  have hnone := batches_eq_nil h
  rw [batches] at hnone ⊢
  rw [hcalls, List.filterMap_append, hnone]
  rfl

lemma state_eq (h : Underway ports settings state p) : p.state = state := by
  cases h <;> rfl

lemma underway_react (h : Underway ports settings state p) (event : Event) :
    Underway ports settings state (p.react event) := by
  cases h with
  | fetching cancelled => exact .fetching _
  | loading hfetch hne cancelled => exact .loading hfetch hne _
  | @evaluating rules catalog pass asked hfetch hne hcatalog hpass hasked =>
    have hcalls : Call.fetch Rule.Status.scannable :: .catalog :: asked.map .query ++
      (pass.asked event).toList.map .query =
        .fetch Rule.Status.scannable :: .catalog :: (asked ++ (pass.asked event).toList).map .query := by
      rw [List.map_append]
      rfl
    simp only [react, ← Pass.cancelled_step_eq, hcalls]
    refine .evaluating hfetch hne hcatalog (hpass.step event) fun i hi => ?_
    obtain ⟨slot, hs, hw⟩ : ∃ slot, pass.slots[i]? = some slot ∧ slot.isWaiting = false := by
      rcases List.mem_append.mp hi with hi | hi
      · exact hasked i hi
      · exact Pass.not_waiting_of_asked (Option.mem_toList.mp hi)
    obtain ⟨slot', hs', hmoves⟩ := Pass.moves_step hs event
    exact ⟨slot', hs', hmoves.not_waiting hw⟩

lemma underway_advance (h : Underway ports settings state p) :
    Underway ports settings state (p.advance ports settings clock) ∨
      Ends ports settings clock p (p.advance ports settings clock) := by
  cases h with
  | fetching cancelled =>
    rw [advance]
    cases hfetch : ports.fetch Rule.Status.scannable state with
    | error cause => exact .inr (.unavailable (.inl hfetch) rfl rfl rfl)
    | ok rules =>
      cases rules with
      | nil => exact .inr (.empty hfetch rfl rfl rfl)
      | cons rule rules => exact .inl (.loading hfetch (List.cons_ne_nil rule rules) cancelled)
  | @loading rules hfetch hne cancelled =>
    rw [advance]
    cases hcatalog : ports.catalog state with
    | error cause => exact .inr (.unavailable (.inr hcatalog) rfl rfl rfl)
    | ok catalog =>
      have hasked : ∀ i ∈ ([] : List ℕ), ∃ slot,
        (Pass.begin settings catalog rules cancelled).slots[i]? = some slot ∧
          slot.isWaiting = false := nofun
      exact .inl
        (.evaluating hfetch hne hcatalog (Pass.isOver_begin settings catalog rules cancelled) hasked)
  | @evaluating rules catalog pass asked hfetch hne hcatalog hpass hasked =>
    simp only [advance]
    split_ifs with hdone
    swap
    · exact .inl (.evaluating hfetch hne hcatalog hpass hasked)
    right
    rw [conclude]
    split_ifs with hdiscard
    · rw [Bool.and_eq_true, Bool.not_eq_true'] at hdiscard
      exact .concluded rfl hdone (.discarded hdiscard.1 hdiscard.2 rfl rfl rfl)
    · refine .concluded rfl hdone (.recorded (fun hc => ?_) rfl rfl rfl)
      have hc : pass.cancelled = true := hc
      simpa [hc] using hdiscard

lemma ends_step (h : Ends ports settings clock p q) (moment : Moment) :
    Ends ports settings clock p (q.step ports settings clock moment) := by
  have hkept : ∀ evaluations result, q.stage = .ended evaluations result →
      (q.step ports settings clock moment).state = q.state ∧
        (q.step ports settings clock moment).stage = q.stage ∧
        (q.step ports settings clock moment).calls = q.calls := by
    intro evaluations result hstage
    obtain ⟨state, cancelled, stage, calls⟩ := q
    obtain rfl : stage = .ended evaluations result := hstage
    cases moment <;> exact ⟨rfl, rfl, rfl⟩
  cases h with
  | unavailable h hstate hstage hbatches =>
    obtain ⟨h₁, h₂, h₃⟩ := hkept _ _ hstage
    exact .unavailable h (h₁.trans hstate) (h₂.trans hstage) ((congrArg _ h₃).trans hbatches)
  | empty h hstate hstage hbatches =>
    obtain ⟨h₁, h₂, h₃⟩ := hkept _ _ hstage
    exact .empty h (h₁.trans hstate) (h₂.trans hstage) ((congrArg _ h₃).trans hbatches)
  | concluded h hdone hconcludes =>
    refine .concluded h hdone ?_
    cases hconcludes with
    | discarded hcancelled hpersist hstate hstage hcalls =>
      obtain ⟨h₁, h₂, h₃⟩ := hkept _ _ hstage
      exact .discarded hcancelled hpersist (h₁.trans hstate) (h₂.trans hstage) (h₃.trans hcalls)
    | recorded hpersist hstate hstage hcalls =>
      obtain ⟨h₁, h₂, h₃⟩ := hkept _ _ hstage
      exact .recorded hpersist (h₁.trans hstate) (h₂.trans hstage) (h₃.trans hcalls)

lemma exists_stage_of_concludes {pass : Pass} (h : Concludes ports settings clock p pass q) :
    ∃ result, q.stage = .ended pass.evaluations result := by
  cases h with
  | discarded _ _ _ hstage | recorded _ _ hstage => exact ⟨_, hstage⟩

lemma exists_stage_of_ends (h : Ends ports settings clock p q) :
    ∃ evaluations result, q.stage = .ended evaluations result := by
  cases h with
  | unavailable _ _ hstage | empty _ _ hstage => exact ⟨_, _, hstage⟩
  | @concluded pass _ _ hconcludes => exact ⟨pass.evaluations, exists_stage_of_concludes hconcludes⟩

lemma run_append (p : Process S) (before after : List Moment) :
    p.run ports settings clock (before ++ after) =
      (p.run ports settings clock before).run ports settings clock after :=
  List.foldl_append

lemma run_concat (p : Process S) (moments : List Moment) (moment : Moment) :
    p.run ports settings clock (moments ++ [moment]) =
      (p.run ports settings clock moments).step ports settings clock moment :=
  run_append p moments [moment]

theorem run_cases (ports : Ports S) (settings : Settings) (clock : Clock) (state : S)
    (moments : List Moment) :
    Underway ports settings state ((begin state).run ports settings clock moments) ∨
      ∃ before after, moments = before ++ .advance :: after ∧
        Underway ports settings state ((begin state).run ports settings clock before) ∧
        Ends ports settings clock ((begin state).run ports settings clock before)
          ((begin state).run ports settings clock moments) := by
  induction moments using List.reverseRecOn with
  | nil => exact .inl (.fetching false)
  | append_singleton moments moment ih =>
    rw [run_concat]
    rcases ih with h | ⟨before, after, rfl, hbefore, hends⟩
    swap
    -- it has ended before, and the last moment leaves what ended
    · exact .inr ⟨before, after ++ [moment], by simp, hbefore, ends_step hends moment⟩
    cases moment with
    | event event => exact .inl (underway_react h event)
    | advance => exact (underway_advance h).imp_right fun hends => ⟨moments, [], rfl, h, hends⟩

lemma run_events (ports : Ports S) (settings : Settings) (clock : Clock) (state : S) (pass : Pass)
    (calls : List Call) (events : List Event) : ∃ more,
    (⟨state, pass.cancelled, .evaluating pass, calls⟩ : Process S).run ports settings clock
      (events.map .event) =
      ⟨state, (pass.run events).cancelled, .evaluating (pass.run events), more⟩ := by
  induction events generalizing pass calls with
  | nil => exact ⟨calls, rfl⟩
  | cons event events ih =>
    have hevent : (⟨state, pass.cancelled, .evaluating pass, calls⟩ : Process S).step ports settings
      clock (.event event) =
        ⟨state, (pass.step event).cancelled, .evaluating (pass.step event),
          calls ++ (pass.asked event).toList.map .query⟩ := by
      rw [Pass.cancelled_step_eq]
      rfl
    obtain ⟨more, hmore⟩ := ih (pass.step event) (calls ++ (pass.asked event).toList.map .query)
    refine ⟨more, ?_⟩
    rw [List.map_cons, run, List.foldl_cons, hevent]
    exact hmore

end Process

structure Ports.Serves {T : Type} (ports : Ports T) (store : Store S) (embed : S → T) : Prop where
  fetch : ∀ statuses s, ports.fetch statuses (embed s) = store.fetch statuses s
  catalog : ∀ s, ports.catalog (embed s) = store.catalog s
  persist : ∀ candidates policy s, ports.persist candidates policy (embed s) =
    match store.persist candidates policy s with
    | .ok (recorded, s') => (.ok recorded, embed s')
    | .error failure => (.error failure, embed s)

def Evaluate.ByEvents (evaluate : Evaluate) (settings : Settings) (cancelled : Bool) : Prop :=
  ∀ catalog rules, ∃ events, ((Pass.begin settings catalog rules cancelled).run events).isDone ∧
    evaluate settings catalog rules =
      (((Pass.begin settings catalog rules cancelled).run events).evaluations,
        ((Pass.begin settings catalog rules cancelled).run events).cancelled)

namespace Process

lemma conclude_recorded {ports : Ports S} {settings : Settings} {p : Process S}
    (h : ¬ (p.cancelled && !settings.persistOnCancel)) (clock : Clock) (pass : Pass) :
    p.conclude ports settings clock pass = { p with
      state := (ports.persist pass.candidates settings.dedup p.state).2
      stage := .ended pass.evaluations
        (((ports.persist pass.candidates settings.dedup p.state).1.mapError .persistence).map
          fun recorded =>
          Report.ofEvaluations clock.startedAt clock.durationMillis pass.evaluations recorded
            p.cancelled)
      calls := p.calls ++ [.persist pass.candidates settings.dedup] } := by
  rw [conclude, if_neg h]

section
variable {T : Type} {ports : Ports T} {settings : Settings} {state : T} {rules : List Rule}
  {catalog : Catalog}

lemma exists_start (ports : Ports T) (settings : Settings) (clock : Clock) (state : T)
    (cancelled : Bool) :
    ∃ start, (begin state).run ports settings clock start = ⟨state, cancelled, .fetching, []⟩ := by
  cases cancelled with
  | false => exact ⟨[], rfl⟩
  | true => exact ⟨[.event .cancel], rfl⟩

lemma step_fetching (hfetch : ports.fetch Rule.Status.scannable state = .ok rules)
    (hne : rules ≠ []) (clock : Clock) (cancelled : Bool) :
    (⟨state, cancelled, .fetching, []⟩ : Process T).step ports settings clock .advance =
      ⟨state, cancelled, .loading rules, [.fetch Rule.Status.scannable]⟩ := by
  obtain ⟨rule, rest, rfl⟩ := List.exists_cons_of_ne_nil hne
  rw [step, advance]
  dsimp only
  rw [hfetch]
  rfl

lemma step_loading (hcatalog : ports.catalog state = .ok catalog) (clock : Clock) (cancelled : Bool)
    (calls : List Call) :
    (⟨state, cancelled, .loading rules, calls⟩ : Process T).step ports settings clock .advance =
      ⟨state, cancelled, .evaluating (Pass.begin settings catalog rules cancelled),
        calls ++ [.catalog]⟩ := by
  rw [step, advance]
  dsimp only
  rw [hcatalog]

lemma exists_moments_of_isDone (hfetch : ports.fetch Rule.Status.scannable state = .ok rules)
    (hne : rules ≠ []) (hcatalog : ports.catalog state = .ok catalog) (clock : Clock)
    {cancelled : Bool} {events : List Event} {pass : Pass}
    (hpass : (Pass.begin settings catalog rules cancelled).run events = pass) (hdone : pass.isDone) :
    ∃ moments calls, (begin state).run ports settings clock moments =
      conclude ports settings clock ⟨state, pass.cancelled, .evaluating pass, calls⟩ pass := by
  obtain ⟨start, hstart⟩ := exists_start ports settings clock state cancelled
  obtain ⟨calls, hevents⟩ :=
    run_events ports settings clock state (Pass.begin settings catalog rules cancelled)
    ([.fetch Rule.Status.scannable] ++ [.catalog]) events
  refine ⟨start ++ [.advance] ++ [.advance] ++ events.map .event ++ [.advance], calls, ?_⟩
  rw [run_concat, run_append, run_concat, run_concat, hstart, step_fetching hfetch hne,
    step_loading hcatalog]
  rw [hpass] at hevents
  exact (congrArg (step ports settings clock · .advance) hevents).trans (if_pos hdone)

end

theorem exists_moments {T : Type} {ports : Ports T} {store : Store S} {embed : S → T}
    (h : ports.Serves store embed) {settings : Settings} {evaluate : Evaluate} {cancelled : Bool}
    (hevaluate : evaluate.ByEvents settings cancelled) (clock : Clock) (state : S) :
    ∃ moments evaluations,
      let last := (begin (embed state)).run ports settings clock moments
      match Scan.run store evaluate settings clock state with
      | .ok (report, state) => last.stage = .ended evaluations (.ok report) ∧ last.state = embed state
      | .error error => last.stage = .ended evaluations (.error error) ∧ last.state = embed state := by
  obtain ⟨start, hstart⟩ := exists_start ports settings clock (embed state) cancelled
  cases hfetch : store.fetch Rule.Status.scannable state with
  | error cause =>
    have hrun : Scan.run store evaluate settings clock state = .error (.storeUnavailable cause) := by
      rw [Scan.run, hfetch]
      rfl
    refine ⟨start ++ [.advance], [], ?_⟩
    rw [hrun, run_concat, hstart, step, advance]
    dsimp only
    rw [h.fetch, hfetch]
    exact ⟨rfl, rfl⟩
  | ok rules =>
    have hfetch' : ports.fetch Rule.Status.scannable (embed state) = .ok rules :=
      (h.fetch _ _).trans hfetch
    by_cases hne : rules = []
    · have hrun : Scan.run store evaluate settings clock state =
        .ok (Report.empty clock.startedAt, state) := by
        rw [Scan.run, hfetch, hne]
        rfl
      refine ⟨start ++ [.advance], [], ?_⟩
      rw [hrun, run_concat, hstart, step, advance]
      dsimp only
      rw [hfetch', hne]
      exact ⟨rfl, rfl⟩
    have hempty : rules.isEmpty = false := List.isEmpty_eq_false_iff.mpr hne
    cases hcatalog : store.catalog state with
    | error cause =>
      have hrun : Scan.run store evaluate settings clock state = .error (.storeUnavailable cause) := by
        simp only [Scan.run, hfetch, hcatalog, hempty, Except.mapError, ok_bind]
        rfl
      refine ⟨start ++ [.advance] ++ [.advance], [], ?_⟩
      rw [hrun, run_concat, run_concat, hstart, step_fetching hfetch' hne, step, advance]
      dsimp only
      rw [h.catalog, hcatalog]
      exact ⟨rfl, rfl⟩
    | ok catalog =>
      obtain ⟨events, hdone, hev⟩ := hevaluate catalog rules
      generalize hpass : (Pass.begin settings catalog rules cancelled).run events = pass at hdone hev
      obtain ⟨moments, calls, hmoments⟩ :=
        exists_moments_of_isDone hfetch' hne ((h.catalog _).trans hcatalog) clock hpass hdone
      refine ⟨moments, pass.evaluations, ?_⟩
      rw [hmoments, run_of_evaluate hfetch hne hcatalog hev]
      split_ifs with hdiscard
      · rw [conclude, if_pos hdiscard]
        exact ⟨rfl, rfl⟩
      · rw [conclude_recorded hdiscard, h.persist, Pass.candidates]
        cases store.persist (pass.evaluations.flatMap (·.outcome.candidates)) settings.dedup state
          <;> exact ⟨rfl, rfl⟩

end Process

end Compliance.Scan
