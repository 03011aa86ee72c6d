import Compliance.Proofs.Scan.Process

/-! A scan that is cancelled keeps what has ended by then, ends the polls that are under way, and
skips the rest. -/

namespace Compliance.Scan

open Result

/-- Moments without a cancellation, in which no query answers that it was cancelled either. -/
structure Calm (moments : List Moment) : Prop where
  uncancelled : .event .cancel ∉ moments
  honest : ∀ slot expired, .event (.turn slot (some (.error .cancelled)) expired) ∉ moments

lemma Calm.nil : Calm [] := ⟨List.not_mem_nil, fun _ _ => List.not_mem_nil⟩

lemma Calm.cons_advance {moments : List Moment} (h : Calm moments) : Calm (.advance :: moments) where
  uncancelled he := (List.mem_cons.mp he).elim nofun h.uncancelled
  honest slot expired he := (List.mem_cons.mp he).elim nofun (h.honest slot expired)

lemma Calm.of_append {before after : List Moment} (h : Calm (before ++ after)) : Calm before where
  uncancelled he := h.uncancelled (List.mem_append_left _ he)
  honest slot expired he := h.honest slot expired (List.mem_append_left _ he)

def Moment.turnOf (slot : ℕ) : Moment → Option Turn
  | .event (.turn i answer expired) => if i = slot then some ⟨false, answer, expired⟩ else none
  | _ => none

lemma Moment.turnOf_eq_some {moment : Moment} {slot : ℕ} {turn : Turn}
    (h : moment.turnOf slot = some turn) :
    ∃ answer expired, moment = .event (.turn slot answer expired) ∧ turn = ⟨false, answer, expired⟩ := by
  rcases moment with _ | _ | _ | _ | ⟨i, answer, expired⟩
  case event.turn =>
    rw [turnOf] at h
    split_ifs at h with hi
    exact ⟨answer, expired, by rw [hi], (Option.some.inj h).symm⟩
  all_goals cases h

namespace Pass

variable {p : Pass} {event : Event} {slot : Slot} {rule : Rule} {query : Query} {i : ℕ}

lemma Polls.turnSlot_eq (h : p.Polls rule query slot) (answer : Option Answer) (expired : Bool) :
    p.turnSlot answer expired slot = p.settleSlot answer expired (.polled rule query) := by
  cases h with
  | polled => rfl
  | running hc => rw [turnSlot, lookSlot, if_neg (Bool.eq_false_iff.mp hc)]

lemma polls_of_isRunning {catalog : Catalog} (hof : slot.IsOf catalog rule) (hr : slot.isRunning)
    (hc : p.cancelled = false) : ∃ query, p.Polls rule query slot ∧
      Query.compile catalog rule = .ok query := by
  cases hof with
  | waiting | ended => cases hr
  | running hq => exact ⟨_, .running hc, hq⟩
  | polled hq => exact ⟨_, .polled, hq⟩

lemma getElem?_turn (hs : p.slots[i]? = some slot) (answer : Option Answer) (expired : Bool) :
    (p.step (.turn i answer expired)).slots[i]? = some (p.turnSlot answer expired slot) := by
  rw [step, List.getElem?_modify, hs]
  simp

lemma polled_step (hs : p.slots[i]? = some (.polled rule query))
    (h : (Moment.event event).turnOf i = none) :
    (p.step event).slots[i]? = some (.polled rule query) := by
  have hmodify : ∀ j f, (j = i → f (.polled rule query) = .polled rule query) →
      (p.slots.modify j f)[i]? = some (.polled rule query) := by
    intro j f hf
    rw [List.getElem?_modify, hs]
    by_cases hj : j = i
    · simp [hj, hf hj]
    · simp [hj]
  cases event with
  | cancel => exact hs
  | look j => exact hmodify j p.lookSlot fun _ => rfl
  | turn j answer expired =>
    refine hmodify j _ fun hj => ?_
    rw [Moment.turnOf, if_pos hj] at h
    cases h
  | start =>
    rw [step]
    split_ifs
    · rw [startFirst_eq]
      exact hmodify _ p.launchSlot fun _ => rfl
    · exact hs

lemma polled_of_step (hc : p.cancelled) (h : (p.step event).slots[i]?.any Slot.isPolled) :
    p.slots[i]?.any Slot.isPolled ∧ (Moment.event event).turnOf i = none := by
  cases hs : p.slots[i]? with
  | none =>
    have hlength := length_step p event
    rw [List.getElem?_eq_none_iff, ← hlength, ← List.getElem?_eq_none_iff] at hs
    rw [hs] at h
    cases h
  | some slot =>
    obtain ⟨slot', hs', hmoves⟩ := moves_step hs event
    rw [hs'] at h
    refine ⟨?_, Option.eq_none_iff_forall_ne_some.mpr fun turn hturn => ?_⟩
    · cases hmoves with
      | stays => exact h
      | starts =>
        rw [startSlot, if_pos hc] at h
        cases h
      | looks _ _ _ huncancelled => simp [hc] at huncancelled
      | skips | returns | ends => cases h
    · obtain ⟨answer, expired, hevent, _⟩ := Moment.turnOf_eq_some hturn
      obtain rfl := Moment.event.inj hevent
      rw [getElem?_turn hs] at hs'
      obtain rfl := Option.some.inj hs'
      rw [Option.any_some, isPolled_turnSlot] at h
      cases h

end Pass

namespace Process

/-- What a scan still gets from the query of a slot if it is cancelled now: what the poll that is
under way comes to. -/
def owed {S : Type} (p : Process S) (deadline : Time.Duration) (slot : ℕ) (after : List Moment) :
    Option Answer :=
  if p.isPolled slot then (after.findSome? (Moment.turnOf slot)).bind (Execution.poll deadline) else none

variable {S : Type} {ports : Ports S} {settings : Settings} {clock : Clock} {state : S} {p : Process S}
  {moments before after : List Moment} {rules : List Rule} {catalog : Catalog} {pass : Pass} {i : ℕ}

lemma cancelled_step (p : Process S) (moment : Moment) :
    (p.step ports settings clock moment).cancelled ↔ p.cancelled ∨ moment = .event .cancel := by
  obtain ⟨state, cancelled, stage, calls⟩ := p
  cases moment with
  | advance =>
    rw [or_iff_left nofun]
    cases stage with
    | fetching | loading | ended => rfl
    | evaluating pass =>
      rw [step, advance]
      dsimp only
      split_ifs
      · rw [conclude]
        split_ifs <;> rfl
      · rfl
  | event event => cases stage <;> cases event <;> simp [step, react, Event.isCancel]

lemma evaluating_step {moment : Moment}
    (h : (p.step ports settings clock moment).stage = .evaluating pass) :
    p.stage = .evaluating pass ∨
      (∃ before event, p.stage = .evaluating before ∧ moment = .event event ∧ pass = before.step event) ∨
      ∃ rules catalog, pass = .begin settings catalog rules p.cancelled := by
  obtain ⟨state, cancelled, stage, calls⟩ := p
  cases moment with
  | event event =>
    cases stage with
    | fetching | loading | ended => exact .inl h
    | evaluating before => exact .inr (.inl ⟨before, event, rfl, rfl, (Stage.evaluating.inj h).symm⟩)
  | advance =>
    rw [step, advance] at h
    cases stage with
    | fetching =>
      dsimp only at h
      split at h <;> cases h
    | loading rules =>
      dsimp only at h
      cases hcatalog : ports.catalog state with
      | error cause =>
        rw [hcatalog] at h
        cases h
      | ok catalog =>
        rw [hcatalog] at h
        exact .inr (.inr ⟨rules, catalog, (Stage.evaluating.inj h).symm⟩)
    | evaluating before =>
      dsimp only at h
      split_ifs at h
      · rw [conclude] at h
        split_ifs at h
      · exact .inl h
    | ended => exact .inl h

lemma evaluation?_advance (ports : Ports S) (settings : Settings) (clock : Clock)
    (p : Process S) (i : ℕ) :
    (p.advance ports settings clock).evaluation? i = p.evaluation? i := by
  obtain ⟨state, cancelled, stage, calls⟩ := p
  rw [advance]
  cases stage with
  | fetching =>
    dsimp only
    rcases ports.fetch Rule.Status.scannable state with cause | _ | _ <;> rfl
  | loading rules =>
    dsimp only
    cases ports.catalog state with
    | error cause => rfl
    | ok catalog =>
      -- no slot of a pass that begins has ended
      change ((Pass.begin settings catalog rules cancelled).slots[i]?).bind Slot.evaluation? = none
      rw [Pass.begin, List.getElem?_map]
      cases rules[i]? <;> rfl
  | evaluating pass =>
    dsimp only
    split_ifs with hdone
    · have hend : pass.evaluations[i]? = pass.slots[i]?.bind Slot.evaluation? :=
        Pass.getElem?_evaluations hdone i
      rw [conclude]
      split_ifs <;> exact hend
    · rfl
  | ended => rfl

lemma evaluation?_evaluating (state : S) (cancelled : Bool) (pass : Pass) (event : Event)
    (calls : List Call) (i : ℕ) :
    (react ⟨state, cancelled, .evaluating pass, calls⟩ event).evaluation? i =
      pass.slots[i]?.bind Slot.evaluation? ∨
      ∃ slot slot', pass.slots[i]? = some slot ∧ slot.evaluation? = none ∧ pass.Moves event slot slot' ∧
        (react ⟨state, cancelled, .evaluating pass, calls⟩ event).evaluation? i = slot'.evaluation? := by
  change (pass.step event).slots[i]?.bind Slot.evaluation? = _ ∨
    ∃ slot slot', _ ∧ _ ∧ _ ∧ (pass.step event).slots[i]?.bind Slot.evaluation? = _
  cases hs : pass.slots[i]? with
  | none =>
    left
    rw [List.getElem?_eq_none_iff] at hs
    rw [List.getElem?_eq_none (by rwa [Pass.length_step])]
  | some slot =>
    obtain ⟨slot', hs', hmoves⟩ := Pass.moves_step hs event
    rw [hs', Option.bind_some]
    cases he : slot.evaluation? with
    | some e => exact .inl ((hmoves.kept he).trans he.symm)
    | none => exact .inr ⟨slot, slot', rfl, he, hmoves, rfl⟩

lemma evaluation?_step (ports : Ports S) (settings : Settings) (clock : Clock) (p : Process S)
    (moment : Moment) (i : ℕ) :
    (p.step ports settings clock moment).evaluation? i = p.evaluation? i ∨
      ∃ pass event slot slot', p.stage = .evaluating pass ∧ moment = .event event ∧
        pass.slots[i]? = some slot ∧
        slot.evaluation? = none ∧ pass.Moves event slot slot' ∧
        (p.step ports settings clock moment).evaluation? i = slot'.evaluation? := by
  cases moment with
  | advance => exact .inl (evaluation?_advance ports settings clock p i)
  | event event =>
    obtain ⟨state, cancelled, stage, calls⟩ := p
    cases stage with
    | fetching | loading | ended => exact .inl rfl
    | evaluating pass =>
      refine (evaluation?_evaluating state cancelled pass event calls i).imp_right ?_
      rintro ⟨slot, slot', hs, hnone, hmoves, h⟩
      exact ⟨pass, event, slot, slot', rfl, rfl, hs, hnone, hmoves, h⟩

lemma isPolled_turn (ports : Ports S) (settings : Settings) (clock : Clock)
    (hstage : p.stage = .evaluating pass) {slot : Slot} (hs : pass.slots[i]? = some slot)
    (answer : Option Answer) (expired : Bool) :
    (p.step ports settings clock (.event (.turn i answer expired))).isPolled i = false := by
  rw [step, react, hstage, isPolled]
  dsimp only
  rw [Pass.getElem?_turn hs, Option.any_some, Pass.isPolled_turnSlot]

lemma queried_step (p : Process S) (moment : Moment)
    (h : ∀ pass, p.stage = .evaluating pass → pass.cancelled) :
    (p.step ports settings clock moment).queried = p.queried ∨
      ∃ i, (p.step ports settings clock moment).queried = p.queried ++ [i] ∧ p.isPolled i ∧
        ((p.step ports settings clock moment).isPolled i) = false := by
  obtain ⟨state, cancelled, stage, calls⟩ := p
  cases moment with
  | event event =>
    cases stage with
    | fetching | loading | ended => exact .inl rfl
    | evaluating pass =>
      have hc : pass.cancelled := h pass rfl
      cases hasked : pass.asked event with
      | none =>
        left
        rw [step, react]
        dsimp only
        rw [hasked]
        exact congrArg (List.filterMap _) (List.append_nil calls)
      | some i =>
        obtain ⟨answer, expired, slot, rule, query, rfl, hs, hpolls⟩ := Pass.polls_of_asked hasked
        refine .inr ⟨i, ?_, ?_, isPolled_turn ports settings clock rfl hs answer expired⟩
        · rw [step, react]
          dsimp only
          rw [hasked]
          exact List.filterMap_append
        · rw [isPolled]
          dsimp only
          rw [hs]
          cases hpolls with
          | polled => rfl
          | running huncancelled => simp [hc] at huncancelled
  | advance =>
    left
    cases stage with
    | fetching | loading => exact List.filterMap_append.trans (List.append_nil _)
    | ended => rfl
    | evaluating pass =>
      rw [step, advance]
      dsimp only
      split_ifs
      · rw [conclude]
        split_ifs
        · rfl
        · exact List.filterMap_append.trans (List.append_nil _)
      · rfl

lemma cancelled_run (p : Process S) (moments : List Moment) :
    (p.run ports settings clock moments).cancelled ↔ p.cancelled ∨ .event .cancel ∈ moments := by
  induction moments generalizing p with
  | nil => simp [run]
  | cons moment moments ih =>
    change ((p.step ports settings clock moment).run ports settings clock moments).cancelled ↔ _
    rw [ih, cancelled_step, List.mem_cons, or_assoc, @eq_comm _ moment]

lemma cancelled_begin (ports : Ports S) (settings : Settings) (clock : Clock) (state : S)
    (moments : List Moment) :
    ((begin state).run ports settings clock moments).cancelled ↔ .event .cancel ∈ moments := by
  rw [cancelled_run]
  exact or_iff_right Bool.false_ne_true

structure Evaluates (ports : Ports S) (settings : Settings) (state : S) (p : Process S) (pass : Pass)
    (rules : List Rule) (catalog : Catalog) : Prop where
  fetched : ports.fetch Rule.Status.scannable state = .ok rules
  loaded : ports.catalog state = .ok catalog
  isOver : pass.IsOver settings catalog rules
  cancelled : pass.cancelled = p.cancelled
  asked : ∀ i ∈ p.queried, ∃ slot, pass.slots[i]? = some slot ∧ slot.isWaiting = false

lemma exists_evaluates (h : ((begin state).run ports settings clock moments).stage = .evaluating pass) :
    ∃ rules catalog, Evaluates ports settings state ((begin state).run ports settings clock moments)
      pass rules catalog := by
  rcases run_cases ports settings clock state moments with hunder | ⟨_, _, _, _, hends⟩
  · generalize (begin state).run ports settings clock moments = p at h hunder
    cases hunder with
    | fetching | loading => exact nomatch h
    | @evaluating rules catalog pass' asked hfetch hne hcatalog hpass hasked =>
      obtain rfl : pass' = pass := Stage.evaluating.inj h
      refine ⟨rules, catalog, hfetch, hcatalog, hpass, rfl, ?_⟩
      change ∀ i ∈ queried ⟨state, pass'.cancelled, .evaluating pass', asked.map .query⟩, _
      rwa [queried_queries]
  · obtain ⟨evaluations, result, hstage⟩ := exists_stage_of_ends hends
    rw [hstage] at h
    exact nomatch h

lemma evaluates_run (hfetch : ports.fetch Rule.Status.scannable state = .ok rules)
    (hcatalog : ports.catalog state = .ok catalog)
    (h : ((begin state).run ports settings clock moments).stage = .evaluating pass) :
    Evaluates ports settings state ((begin state).run ports settings clock moments)
      pass rules catalog := by
  obtain ⟨rules', catalog', hev⟩ := exists_evaluates h
  obtain rfl := Except.ok.inj (hfetch.symm.trans hev.fetched)
  obtain rfl := Except.ok.inj (hcatalog.symm.trans hev.loaded)
  exact hev

lemma cancelled_of_evaluates
    (h : Evaluates ports settings state ((begin state).run ports settings clock moments) pass
      rules catalog) (hcalm : Calm moments) : pass.cancelled = false := by
  rw [h.cancelled, ← Bool.not_eq_true, cancelled_begin]
  exact hcalm.uncancelled

lemma ne_skipped_run (hcalm : Calm moments) {e : Evaluation}
    (he : ((begin state).run ports settings clock moments).evaluation? i = some e) :
    e.outcome ≠ .skipped := by
  induction moments using List.reverseRecOn with
  | nil => exact nomatch he
  | append_singleton moments moment ih =>
    rw [run_concat] at he
    rcases evaluation?_step ports settings clock
      ((begin state).run ports settings clock moments) moment i
        with h | ⟨pass, event, slot, slot', hstage, rfl, _, hnone, hmoves, h⟩
    · exact ih hcalm.of_append (h ▸ he)
    · obtain ⟨rules, catalog, hev⟩ := exists_evaluates hstage
      refine hmoves.unskipped (cancelled_of_evaluates hev hcalm.of_append)
        (fun slot expired hevent => ?_) hnone (h ▸ he)
      exact hcalm.honest slot expired
        (List.mem_append_right _ (by rw [hevent]; exact List.mem_singleton_self _))

lemma evaluation?_polls (ports : Ports S) (settings : Settings) (clock : Clock) {p : Process S}
    (hstage : p.stage = .evaluating pass) {slot : Slot} (hs : pass.slots[i]? = some slot)
    {rule : Rule} {query : Query} (hpolls : pass.Polls rule query slot) (answer : Option Answer)
    (expired : Bool) :
    (p.step ports settings clock (.event (.turn i answer expired))).evaluation? i =
      (pass.settleSlot answer expired (.polled rule query)).evaluation? := by
  rw [step, react, hstage, evaluation?]
  dsimp only
  rw [Pass.getElem?_turn hs, Option.bind_some, hpolls.turnSlot_eq]

lemma evaluation?_settleSlot {rule : Rule} {query : Query} (hpass : pass.IsOver settings catalog rules)
    (hq : Query.compile catalog rule = .ok query) (answer : Option Answer) (expired : Bool) :
    (pass.settleSlot answer expired (.polled rule query)).evaluation? =
      (Execution.poll settings.timeout ⟨false, answer, expired⟩).map
        (.alone settings.maxRows catalog rule) := by
  rw [Pass.settleSlot, hpass.settings_eq]
  split
  next a ha =>
    rw [← hpass.catalog_eq] at hq ⊢
    rw [ha, ← hpass.settings_eq, Pass.endSlot_alone hq]
    rfl
  next hnone =>
    rw [hnone]
    rfl

lemma evaluation?_turn (hfetch : ports.fetch Rule.Status.scannable state = .ok rules)
    (hcatalog : ports.catalog state = .ok catalog) (hcalm : Calm moments) {rule : Rule}
    (hr : rules[i]? = some rule)
    (hrunning : ((begin state).run ports settings clock moments).isRunning i)
    {answer : Option Answer} {expired : Bool} (ha : answer = none → expired) :
    ((begin state).run ports settings clock
      (moments ++ [.event (.turn i answer expired)])).evaluation? i =
      some (.alone settings.maxRows catalog rule
        (answer.getD (.error (.timeout settings.timeout)))) := by
  have hpoll : Execution.poll settings.timeout ⟨false, answer, expired⟩ =
      some (answer.getD (.error (.timeout settings.timeout))) := by
    cases answer with
    | some answer => rfl
    | none =>
      rw [ha rfl]
      rfl
  cases hstage : ((begin state).run ports settings clock moments).stage with
  | fetching | loading | ended =>
    rw [isRunning, hstage] at hrunning
    exact nomatch hrunning
  | evaluating pass =>
    have hev := evaluates_run hfetch hcatalog hstage
    obtain ⟨slot, hs, hof⟩ := hev.isOver.slots i rule hr
    rw [isRunning, hstage] at hrunning
    dsimp only at hrunning
    rw [hs] at hrunning
    obtain ⟨query, hpolls, hq⟩ := Pass.polls_of_isRunning hof hrunning (cancelled_of_evaluates hev hcalm)
    rw [run_concat, evaluation?_polls ports settings clock hstage hs hpolls,
      evaluation?_settleSlot hev.isOver hq, hpoll]
    rfl

/-! From a cancellation on -/

lemma cancelled_of_mem (hcancel : .event .cancel ∈ moments)
    (h : ((begin state).run ports settings clock moments).stage = .evaluating pass) :
    pass.cancelled := by
  obtain ⟨rules, catalog, hev⟩ := exists_evaluates h
  rw [hev.cancelled, cancelled_begin]
  exact hcancel

lemma exists_stage_of_isPolled (h : p.isPolled i) :
    ∃ pass, p.stage = .evaluating pass ∧ pass.slots[i]?.any Slot.isPolled := by
  obtain ⟨state, cancelled, stage, calls⟩ := p
  cases stage with
  | fetching | loading | ended => cases h
  | evaluating pass => exact ⟨pass, rfl, h⟩

lemma evaluation?_of_isPolled (h : p.isPolled i) : p.evaluation? i = none := by
  obtain ⟨pass, hstage, hpolled⟩ := exists_stage_of_isPolled h
  rw [evaluation?, hstage]
  dsimp only
  cases hs : pass.slots[i]? with
  | none => rfl
  | some slot =>
    rw [hs] at hpolled
    cases slot with
    | polled => rfl
    | waiting | running | ended => cases hpolled

lemma isPolled_step (p : Process S) (moment : Moment)
    (h : ∀ pass, p.stage = .evaluating pass → pass.cancelled)
    (hpolled : (p.step ports settings clock moment).isPolled i) : p.isPolled i := by
  obtain ⟨pass, hstage, hpolled⟩ := exists_stage_of_isPolled hpolled
  rw [isPolled]
  rcases evaluating_step hstage with hp | ⟨before, event, hp, rfl, rfl⟩ | ⟨rules, catalog, rfl⟩
  · rw [hp]
    exact hpolled
  · rw [hp]
    exact (Pass.polled_of_step (h before hp) hpolled).1
  · rw [Pass.begin, List.getElem?_map] at hpolled
    cases hr : rules[i]? <;> rw [hr] at hpolled <;> cases hpolled

lemma evaluation?_cancelled (settings : Settings) (clock : Clock)
    (hfetch : ports.fetch Rule.Status.scannable state = .ok rules) (hcancel : .event .cancel ∈ before)
    (hpolled : ((begin state).run ports settings clock before).isPolled i = false)
    (after : List Moment) :
    let scan := (begin state).run ports settings clock
    (scan (before ++ after)).isPolled i = false ∧
      ((scan (before ++ after)).evaluation? i = (scan before).evaluation? i ∨
        (scan before).evaluation? i = none ∧ ∃ rule, rules[i]? = some rule ∧
          (scan (before ++ after)).evaluation? i = some ⟨rule.id, rule.name, .skipped⟩) := by
  intro scan
  induction after using List.reverseRecOn with
  | nil =>
    rw [List.append_nil]
    exact ⟨hpolled, .inl rfl⟩
  | append_singleton after moment ih =>
    obtain ⟨hunpolled, ih⟩ := ih
    have hrun : scan (before ++ (after ++ [moment])) =
      (scan (before ++ after)).step ports settings clock moment := by
      rw [← run_concat, List.append_assoc]
    have hcancelled : ∀ pass, (scan (before ++ after)).stage = .evaluating pass →
      pass.cancelled := fun pass =>
      cancelled_of_mem (List.mem_append_left after hcancel)
    rw [hrun]
    refine ⟨Bool.eq_false_iff.mpr fun h => ?_, ?_⟩
    · rw [isPolled_step _ moment hcancelled h] at hunpolled
      cases hunpolled
    rcases evaluation?_step ports settings clock (scan (before ++ after)) moment i with
      h | ⟨pass, event, slot, slot', hstage, _, hs, hnone, hmoves, h⟩
    · rwa [h]
    obtain ⟨rules', catalog, hev⟩ := exists_evaluates hstage
    obtain rfl := Except.ok.inj (hfetch.symm.trans hev.fetched)
    obtain ⟨rule, hr, hof⟩ := hev.isOver.isOf hs
    have hnow : (scan (before ++ after)).evaluation? i = none := by
      rw [evaluation?, hstage]
      exact (congrArg (·.bind Slot.evaluation?) hs).trans hnone
    have hslot : slot.isPolled = false := by
      rw [isPolled, hstage] at hunpolled
      dsimp only at hunpolled
      rwa [hs] at hunpolled
    rw [h]
    rcases hmoves.skipped (hcancelled pass hstage) hof hslot with rfl | ⟨_, hskipped⟩
    · rw [hnone]
      rwa [hnow] at ih
    -- the last moment skips the slot, which had therefore not ended before
    have hbefore : (scan before).evaluation? i = none := by
      rcases ih with ih | ⟨ih, _⟩
      · exact ih.symm.trans hnow
      · exact ih
    exact .inr ⟨hbefore, rule, hr, hskipped⟩

lemma queried_cancelled (settings : Settings) (clock : Clock) (hcancel : .event .cancel ∈ before)
    (after : List Moment) :
    let scan := (begin state).run ports settings clock
    ∃ asked, (scan (before ++ after)).queried = (scan before).queried ++ asked ∧ asked.Nodup ∧
      (∀ i, (scan (before ++ after)).isPolled i → (scan before).isPolled i) ∧
      ∀ i ∈ asked, (scan before).isPolled i ∧ (scan (before ++ after)).isPolled i = false := by
  intro scan
  induction after using List.reverseRecOn with
  | nil =>
    rw [List.append_nil]
    exact ⟨[], (List.append_nil _).symm, .nil, fun i hi => hi, nofun⟩
  | append_singleton after moment ih =>
    obtain ⟨asked, hqueried, hnodup, hkept, hasked⟩ := ih
    have hrun : scan (before ++ (after ++ [moment])) =
      (scan (before ++ after)).step ports settings clock moment := by
      rw [← run_concat, List.append_assoc]
    have hcancelled : ∀ pass, (scan (before ++ after)).stage = .evaluating pass →
      pass.cancelled := fun pass =>
      cancelled_of_mem (List.mem_append_left after hcancel)
    have hstep : ∀ i, ((scan (before ++ after)).step ports settings clock moment).isPolled i →
        (scan (before ++ after)).isPolled i := fun i => isPolled_step _ moment hcancelled
    have hended : ∀ i ∈ asked, (scan before).isPolled i ∧
        ((scan (before ++ after)).step ports settings clock moment).isPolled i = false := by
      intro i hi
      refine ⟨(hasked i hi).1, Bool.eq_false_iff.mpr fun h => ?_⟩
      have hnot := (hasked i hi).2
      rw [hstep i h] at hnot
      cases hnot
    rw [hrun]
    rcases queried_step (scan (before ++ after)) moment hcancelled with h | ⟨i, h, hi, hi'⟩
    · exact ⟨asked, h.trans hqueried, hnodup, fun i hi => hkept i (hstep i hi), hended⟩
    have hfresh : i ∉ asked := by
      intro hmem
      rw [(hasked i hmem).2] at hi
      cases hi
    refine ⟨asked ++ [i], ?_, List.nodup_append.mpr ?_, fun j hj => hkept j (hstep j hj), fun j hj => ?_⟩
    · rw [h, hqueried, List.append_assoc]
    · refine ⟨hnodup, List.nodup_singleton i, fun j hj k hk => ?_⟩
      rw [List.mem_singleton.mp hk]
      exact fun he => hfresh (he ▸ hj)
    · rcases List.mem_append.mp hj with hj | hj
      · exact hended j hj
      · obtain rfl := List.mem_singleton.mp hj
        exact ⟨hkept j hi, hi'⟩

lemma polled_step (ports : Ports S) (settings : Settings) (clock : Clock) {p : Process S}
    {rule : Rule} {query : Query} {moment : Moment} (h : p.stage = .evaluating pass)
    (hs : pass.slots[i]? = some (.polled rule query)) (hmoment : moment.turnOf i = none) :
    ∃ pass, (p.step ports settings clock moment).stage = .evaluating pass ∧
      pass.slots[i]? = some (.polled rule query) := by
  cases moment with
  | event event =>
    rw [step, react, h]
    exact ⟨pass.step event, rfl, Pass.polled_step hs hmoment⟩
  | advance =>
    have hdone : ¬ pass.isDone := by
      intro hdone
      cases Pass.isSome_of_isDone hdone hs
    rw [step, advance, h]
    dsimp only
    rw [if_neg hdone]
    exact ⟨pass, h, hs⟩

lemma polled_run (ports : Ports S) (settings : Settings) (clock : Clock) {p : Process S}
    {rule : Rule} {query : Query} {quiet : List Moment} (h : p.stage = .evaluating pass)
    (hs : pass.slots[i]? = some (.polled rule query))
    (hquiet : ∀ moment ∈ quiet, moment.turnOf i = none) :
    ∃ pass, (p.run ports settings clock quiet).stage = .evaluating pass ∧
      pass.slots[i]? = some (.polled rule query) := by
  induction quiet generalizing p pass with
  | nil => exact ⟨pass, h, hs⟩
  | cons moment quiet ih =>
    rw [List.forall_mem_cons] at hquiet
    obtain ⟨pass', hstage', hs'⟩ := polled_step ports settings clock h hs hquiet.1
    exact ih hstage' hs' hquiet.2

lemma evaluation?_owed (hfetch : ports.fetch Rule.Status.scannable state = .ok rules)
    (hcatalog : ports.catalog state = .ok catalog) (hcancel : .event .cancel ∈ before)
    (hpolled : ((begin state).run ports settings clock before).isPolled i) {rule : Rule}
    (hr : rules[i]? = some rule) {after : List Moment} {e : Evaluation}
    (h : ((begin state).run ports settings clock (before ++ after)).evaluation? i = some e) :
    e = ((((begin state).run ports settings clock before).owed settings.timeout i after).map
      (.alone settings.maxRows catalog rule)).getD ⟨rule.id, rule.name, .skipped⟩ := by
  obtain ⟨pass, hstage, hslot⟩ := exists_stage_of_isPolled hpolled
  have hev := evaluates_run hfetch hcatalog hstage
  obtain ⟨query, hs, hq⟩ : ∃ query, pass.slots[i]? = some (.polled rule query) ∧
      Query.compile catalog rule = .ok query := by
    obtain ⟨slot, hs, hof⟩ := hev.isOver.slots i rule hr
    rw [hs] at hslot
    cases hof with
    | waiting | running | ended => cases hslot
    | @polled query hq => exact ⟨query, hs, hq⟩
  rw [owed, if_pos hpolled]
  cases hturn : after.findSome? (Moment.turnOf i) with
  | none =>
    -- the poll is still under way
    obtain ⟨pass', hstage', hs'⟩ :=
      polled_run ports settings clock hstage hs (List.findSome?_eq_none_iff.mp hturn)
    rw [run_append, evaluation?, hstage'] at h
    dsimp only at h
    rw [hs'] at h
    cases h
  | some turn =>
    obtain ⟨quiet, moment, rest, rfl, hmoment, hquiet⟩ := List.findSome?_eq_some_iff.mp hturn
    obtain ⟨answer, expired, rfl, rfl⟩ := Moment.turnOf_eq_some hmoment
    obtain ⟨pass', hstage', hs'⟩ := polled_run ports settings clock hstage hs hquiet
    rw [← run_append] at hstage'
    have hover := (evaluates_run hfetch hcatalog hstage').isOver
    have hends : ((begin state).run ports settings clock
        (before ++ quiet ++ [.event (.turn i answer expired)])).evaluation? i =
        (Execution.poll settings.timeout ⟨false, answer, expired⟩).map
          (.alone settings.maxRows catalog rule) := by
      rw [run_concat, evaluation?_polls ports settings clock hstage' hs' .polled,
        evaluation?_settleSlot hover hq]
    have hunpolled : ((begin state).run ports settings clock
        (before ++ quiet ++ [.event (.turn i answer expired)])).isPolled i = false := by
      rw [run_concat]
      exact isPolled_turn ports settings clock hstage' hs' answer expired
    obtain ⟨_, hrest⟩ := evaluation?_cancelled settings clock hfetch (by simp [hcancel]) hunpolled rest
    rw [Option.bind_some, ← hends]
    rw [← List.append_cons, List.append_assoc] at hrest
    rcases hrest with hkept | ⟨hnone, rule', hr', hskipped⟩
    · rw [← hkept, h]
      rfl
    · obtain rfl := Option.some.inj (hr.symm.trans hr')
      rw [hnone]
      exact Option.some.inj (h.symm.trans hskipped)

lemma queried_concludes {q : Process S} (h : Concludes ports settings clock p pass q) :
    q.queried = p.queried := by
  cases h with
  | discarded _ _ _ _ hcalls => rw [queried, hcalls, ← queried]
  | recorded _ _ _ hcalls =>
    rw [queried, hcalls, List.filterMap_append, ← queried]
    exact List.append_nil _

section
variable (hfetch : ports.fetch Rule.Status.scannable state = .ok rules) (hne : rules ≠ [])
  (hcatalog : ports.catalog state = .ok catalog)
include hfetch hne hcatalog

lemma exists_concludes {evaluations : List Evaluation} {result : Except ScanError Report}
    (h : ((begin state).run ports settings clock moments).stage = .ended evaluations result) :
    ∃ within rest pass, moments = within ++ .advance :: rest ∧ evaluations = pass.evaluations ∧
      ((begin state).run ports settings clock within).stage = .evaluating pass ∧ pass.isDone ∧
      Underway ports settings state ((begin state).run ports settings clock within) ∧
      Concludes ports settings clock ((begin state).run ports settings clock within) pass
        ((begin state).run ports settings clock moments) := by
  rcases run_cases ports settings clock state moments
    with hunder | ⟨within, rest, hmoments, hwithin, hends⟩
  · generalize (begin state).run ports settings clock moments = p at h hunder
    cases hunder <;> exact nomatch h
  have hstate := state_eq hwithin
  cases hends with
  | unavailable hcause =>
    rw [hstate, hfetch, hcatalog] at hcause
    rcases hcause with hcause | hcause <;> exact nomatch hcause
  | empty hempty =>
    rw [hstate, hfetch] at hempty
    exact absurd (Except.ok.inj hempty) hne
  | @concluded pass hstage hdone hconcludes =>
    obtain ⟨_, hq⟩ := exists_stage_of_concludes hconcludes
    exact ⟨within, rest, pass, hmoments, (Stage.ended.inj (h.symm.trans hq)).1, hstage, hdone,
      hwithin, hconcludes⟩

lemma length_evaluations {evaluations : List Evaluation} {result : Except ScanError Report}
    (h : ((begin state).run ports settings clock moments).stage = .ended evaluations result) :
    evaluations.length = rules.length := by
  obtain ⟨within, rest, pass, _, rfl, hstage, hdone, _, _⟩ := exists_concludes hfetch hne hcatalog h
  rw [← (evaluates_run hfetch hcatalog hstage).isOver.length_eq, Pass.slots_eq_of_isDone hdone, List.length_map]

lemma started_of_queried (hi : i ∈ ((begin state).run ports settings clock moments).queried) :
    ((begin state).run ports settings clock moments).isRunning i ∨
      (((begin state).run ports settings clock moments).evaluation? i).isSome := by
  have hevaluating : ∀ {moments pass}, ((begin state).run ports settings clock moments).stage =
    .evaluating pass →
      i ∈ ((begin state).run ports settings clock moments).queried →
      ∃ slot, pass.slots[i]? = some slot ∧ slot.isWaiting = false := by
    intro moments pass hstage hi
    obtain ⟨rules, catalog, hev⟩ := exists_evaluates hstage
    exact hev.asked i hi
  cases hstage : ((begin state).run ports settings clock moments).stage with
  | fetching | loading =>
    rcases run_cases ports settings clock state moments with hunder | ⟨_, _, _, _, hends⟩
    · generalize (begin state).run ports settings clock moments = p at hi hstage hunder
      cases hunder with
      | fetching | loading => exact nomatch hi
      | evaluating => exact nomatch hstage
    · obtain ⟨_, _, hended⟩ := exists_stage_of_ends hends
      exact nomatch hstage.symm.trans hended
  | evaluating pass =>
    obtain ⟨slot, hs, hw⟩ := hevaluating hstage hi
    rw [isRunning, evaluation?, hstage]
    dsimp only
    rw [hs]
    cases slot with
    | waiting => exact nomatch hw
    | running | polled => exact .inl rfl
    | ended => exact .inr rfl
  | ended evaluations result =>
    obtain ⟨within, rest, pass, _, rfl, hwithin, hdone, _, hconcludes⟩ :=
      exists_concludes hfetch hne hcatalog hstage
    rw [queried_concludes hconcludes] at hi
    obtain ⟨slot, hs, _⟩ := hevaluating hwithin hi
    right
    rw [evaluation?, hstage]
    dsimp only
    rw [Pass.getElem?_evaluations hdone, hs]
    exact Pass.isSome_of_isDone hdone hs

end

/-! A scan can always come to its end -/

def CanEnd (ports : Ports S) (settings : Settings) (clock : Clock) (p : Process S) : Prop :=
  ∃ rest, Calm rest ∧ ∃ evaluations result, (p.run ports settings clock rest).stage =
    .ended evaluations result

lemma CanEnd.of_advance (h : CanEnd ports settings clock (p.advance ports settings clock)) :
    CanEnd ports settings clock p := by
  obtain ⟨rest, hrest, hended⟩ := h
  exact ⟨.advance :: rest, hrest.cons_advance, hended⟩

lemma canEnd_of_ended {evaluations : List Evaluation} {result : Except ScanError Report}
    (h : p.stage = .ended evaluations result) : CanEnd ports settings clock p :=
  ⟨[], .nil, evaluations, result, h⟩

lemma calm_of_undisturbed {events : List Event} {deadline : Time.Duration}
    (h : Undisturbed deadline (fun _ => .ok []) events) : Calm (events.map .event ++ [.advance]) := by
  have hevent : ∀ event, .event event ∈ events.map Moment.event ++ [.advance] → event ∈ events := by
    intro event he
    rcases List.mem_append.mp he with he | he
    · obtain ⟨event', he, h⟩ := List.mem_map.mp he
      exact Moment.event.inj h ▸ he
    · exact nomatch List.mem_singleton.mp he
  exact ⟨fun he => (h _ (hevent _ he)).1 rfl, fun slot expired he =>
    nomatch (h _ (hevent _ he)).2 (.error .cancelled) rfl⟩

lemma canEnd_of_evaluating (hworkers : 1 ≤ pass.settings.maxWorkers) (calls : List Call) :
    CanEnd ports settings clock ⟨state, pass.cancelled, .evaluating pass, calls⟩ := by
  obtain ⟨events, hevents, hdone⟩ := Pass.exists_isDone hworkers fun _ => .ok []
  obtain ⟨more, hrun⟩ := run_events ports settings clock state pass calls events
  refine ⟨events.map .event ++ [.advance], calm_of_undisturbed hevents,
    (pass.run events).evaluations, ?_⟩
  rw [run_concat, hrun, step, advance]
  dsimp only
  rw [if_pos hdone, conclude]
  split_ifs <;> exact ⟨_, rfl⟩

lemma canEnd_of_underway (hworkers : 1 ≤ settings.maxWorkers) (h : Underway ports settings state p) :
    CanEnd ports settings clock p := by
  have hevaluating : ∀ {rules catalog pass asked}, pass.IsOver settings catalog rules →
      CanEnd ports settings clock ⟨state, pass.cancelled, .evaluating pass, asked⟩ := fun hpass =>
    canEnd_of_evaluating (by rwa [hpass.settings_eq]) _
  have hloading : ∀ rules cancelled calls,
    CanEnd ports settings clock ⟨state, cancelled, .loading rules, calls⟩ := by
    intro rules cancelled calls
    refine .of_advance ?_
    rw [advance]
    cases ports.catalog state with
    | error cause => exact canEnd_of_ended rfl
    | ok catalog => exact hevaluating (Pass.isOver_begin settings catalog rules cancelled)
  cases h with
  | fetching cancelled =>
    refine .of_advance ?_
    rw [advance]
    cases ports.fetch Rule.Status.scannable state with
    | error cause => exact canEnd_of_ended rfl
    | ok rules =>
      cases rules with
      | nil => exact canEnd_of_ended rfl
      | cons rule rules => exact hloading _ _ _
  | loading => exact hloading _ _ _
  | evaluating _ _ _ hpass => exact hevaluating hpass

lemma canEnd_run (ports : Ports S) (clock : Clock) (state : S) (hworkers : 1 ≤ settings.maxWorkers)
    (moments : List Moment) :
    CanEnd ports settings clock ((begin state).run ports settings clock moments) := by
  rcases run_cases ports settings clock state moments with hunder | ⟨_, _, _, _, hends⟩
  · exact canEnd_of_underway hworkers hunder
  · obtain ⟨_, _, hended⟩ := exists_stage_of_ends hends
    exact canEnd_of_ended hended

lemma step_cancel (ports : Ports S) (settings : Settings) (clock : Clock) (p : Process S) :
    (p.step ports settings clock (.event .cancel)).evaluation? = p.evaluation? ∧
      (p.step ports settings clock (.event .cancel)).isPolled = p.isPolled ∧
      (p.step ports settings clock (.event .cancel)).queried = p.queried := by
  rcases p with ⟨_, _, _ | _ | _ | _, _⟩
  case evaluating calls pass => exact ⟨rfl, rfl, congrArg (List.filterMap _) (List.append_nil calls)⟩
  all_goals exact ⟨rfl, rfl, rfl⟩

lemma evaluations_cancelled (hfetch : ports.fetch Rule.Status.scannable state = .ok rules)
    (hne : rules ≠ []) (hcatalog : ports.catalog state = .ok catalog)
    {evaluations : List Evaluation} {result : Except ScanError Report}
    (h : ((begin state).run ports settings clock (before ++ .event .cancel :: after)).stage =
      .ended evaluations result) :
    let scan := (begin state).run ports settings clock
    evaluations = rules.mapIdx fun i rule =>
      (((scan before).evaluation? i).or
        (((scan before).owed settings.timeout i after).map (.alone settings.maxRows catalog rule))).getD
          ⟨rule.id, rule.name, .skipped⟩ := by
  intro scan
  obtain ⟨hevaluation, hpolled, _⟩ := step_cancel ports settings clock (scan before)
  rw [← run_concat] at hevaluation hpolled
  have howed : (scan before).owed = (scan (before ++ [.event .cancel])).owed := by
    funext deadline i after
    rw [owed, owed, hpolled]
  rw [← hevaluation, howed]
  have hlength := length_evaluations hfetch hne hcatalog h
  refine List.ext_getElem (by rw [hlength, List.length_mapIdx]) fun i hi hi' => ?_
  have hlast : (scan (before ++ [.event .cancel] ++ after)).evaluation? i = some evaluations[i] := by
    rw [List.append_assoc, List.singleton_append, evaluation?, h]
    exact List.getElem?_eq_getElem hi
  have hr : rules[i]? = some rules[i] := List.getElem?_eq_getElem (hlength ▸ hi)
  have hcancel : Moment.event .cancel ∈ before ++ [.event .cancel] := by simp
  rw [List.getElem_mapIdx]
  cases hslot : (scan (before ++ [.event .cancel])).isPolled i with
  | true =>
    rw [evaluation?_of_isPolled hslot, Option.none_or]
    exact evaluation?_owed hfetch hcatalog hcancel hslot hr hlast
  | false =>
    have hnothing : (scan (before ++ [.event .cancel])).owed settings.timeout i after = none :=
      if_neg (by simp [hslot])
    obtain ⟨_, hrest⟩ := evaluation?_cancelled settings clock hfetch hcancel hslot after
    rw [hnothing, Option.map_none, Option.or_none]
    rcases hrest with hkept | ⟨hnone, rule, hr', hskipped⟩
    · rw [← hkept, hlast, Option.getD_some]
    · obtain rfl := Option.some.inj (hr.symm.trans hr')
      rw [hnone, Option.getD_none]
      exact Option.some.inj (hlast.symm.trans hskipped)

/-- A scan that is cancelled at any moment keeps what has ended by then, and skips the other rules.
Of the queries only those may still answer, once each, of which a poll is under way at that moment.
A scan that is not cancelled skips no rule. What is recorded is what was found by the rules that are
reported to match, unless the scan was cancelled by its end and is then to record nothing. -/
theorem cancellation_honest (hfetch : ports.fetch Rule.Status.scannable state = .ok rules)
    (hne : rules ≠ []) (hcatalog : ports.catalog state = .ok catalog)
    (hworkers : 1 ≤ settings.maxWorkers) (clock : Clock) :
    let scan := (begin state).run ports settings clock
    (∀ before, Calm before →
      (∀ i e, (scan before).evaluation? i = some e → e.outcome ≠ .skipped) ∧
      (∀ i rule answer (expired : Bool), rules[i]? = some rule → (scan before).isRunning i →
        (answer = none → expired) →
        (scan (before ++ [.event (.turn i answer expired)])).evaluation? i =
          some (.alone settings.maxRows catalog rule
            (answer.getD (.error (.timeout settings.timeout))))) ∧
      ∀ after,
        (∃ asked,
          (scan (before ++ .event .cancel :: after)).queried = (scan before).queried ++ asked ∧
          asked.Nodup ∧ ∀ i ∈ asked, (scan before).isPolled i) ∧
        (∀ i ∈ (scan before).queried, (scan before).isRunning i ∨ ((scan before).evaluation? i).isSome) ∧
        ∀ evaluations result, (scan (before ++ .event .cancel :: after)).stage =
          .ended evaluations result →
          evaluations = rules.mapIdx fun i rule =>
            (((scan before).evaluation? i).or
              (((scan before).owed settings.timeout i after).map
                (.alone settings.maxRows catalog rule))).getD
                ⟨rule.id, rule.name, .skipped⟩) ∧
    (∀ moments evaluations result, (scan moments).stage = .ended evaluations result →
      ∃ within rest pass cancelled, moments = within ++ .advance :: rest ∧
        (scan within).stage = .evaluating pass ∧
        pass.isDone ∧ evaluations = pass.evaluations ∧ evaluations.length = rules.length ∧
        (cancelled = true ↔ .event .cancel ∈ within) ∧
        if cancelled && !settings.persistOnCancel then
          result = .error .cancelled ∧ (scan moments).batches = [] ∧ (scan moments).state = state
        else
          let batch := evaluations.flatMap (·.outcome.candidates)
          (scan moments).batches = [(batch, settings.dedup)] ∧
          (scan moments).state = (ports.persist batch settings.dedup state).2 ∧
          result = ((ports.persist batch settings.dedup state).1.mapError .persistence).map
            fun recorded =>
            Report.ofEvaluations clock.startedAt clock.durationMillis evaluations recorded cancelled) ∧
    ∀ moments, ∃ rest, Calm rest ∧ ∃ evaluations result,
      (scan (moments ++ rest)).stage = .ended evaluations result := by
  intro scan
  refine ⟨fun before hcalm => ⟨fun i e => ne_skipped_run hcalm, ?_, ?_⟩, ?_, ?_⟩
  · intro i rule answer expired hr hrunning ha
    exact evaluation?_turn hfetch hcatalog hcalm hr hrunning ha
  · intro after
    refine ⟨?_, fun i => started_of_queried hfetch hne hcatalog,
      fun evaluations result => evaluations_cancelled hfetch hne hcatalog⟩
    obtain ⟨asked, hqueried, hnodup, _, hasked⟩ :=
      queried_cancelled settings clock (List.mem_append_right before (List.mem_singleton_self _)) after
    obtain ⟨_, hpolled, hbefore⟩ := step_cancel ports settings clock (scan before)
    rw [← run_concat] at hpolled hbefore
    rw [List.append_assoc, List.singleton_append] at hqueried
    refine ⟨asked, hqueried.trans (congrArg (· ++ asked) hbefore), hnodup, fun i hi => ?_⟩
    rw [← hpolled]
    exact (hasked i hi).1
  · intro moments evaluations result hended
    obtain ⟨within, rest, pass, hmoments, rfl, hstage, hdone, hwithin, hconcludes⟩ :=
      exists_concludes hfetch hne hcatalog hended
    refine ⟨within, rest, pass, (scan within).cancelled, hmoments, hstage, hdone, rfl,
      length_evaluations hfetch hne hcatalog hended, cancelled_begin .., ?_⟩
    have hstate := state_eq hwithin
    cases hconcludes with
    | discarded hcancelled hpersist hlast hq hcalls =>
      rw [hcancelled, hpersist]
      refine ⟨(Stage.ended.inj (hended.symm.trans hq)).2, ?_, hlast.trans hstate⟩
      rw [batches, hcalls]
      exact batches_eq_nil hwithin
    | recorded hpersist hlast hq hcalls =>
      have hnot : ((scan within).cancelled && !settings.persistOnCancel) = false := by
        cases hc : (scan within).cancelled with
        | false => rfl
        | true => simp [hpersist hc]
      rw [hstate] at hlast hq
      rw [if_neg (Bool.eq_false_iff.mp hnot)]
      exact ⟨batches_recorded hwithin hcalls, hlast, (Stage.ended.inj (hended.symm.trans hq)).2⟩
  · intro moments
    obtain ⟨rest, hcalm, hended⟩ := canEnd_run ports clock state hworkers moments
    rw [← run_append] at hended
    exact ⟨rest, hcalm, hended⟩

/-! Three rules, of which one is being polled and one has no query when the scan is cancelled -/

def batchPorts : Ports (List (List Violation.Candidate)) where
  fetch _ _ := .ok threeRules
  catalog _ := .ok Query.peopleCatalog
  persist batch _ batches := (.ok [], batches ++ [batch])

def untilCancelled : List Moment := [.advance, .advance, .event .start, .event .start, .event .start,
  .event (.turn 2 none false), .event (.look 0)]

def lastTurn : Moment := .event (.turn 0 (some (threeAnswers 0)) false)

lemma calm_untilCancelled : Calm untilCancelled := ⟨by simp [untilCancelled], by simp [untilCancelled]⟩

lemma isPolled_untilCancelled :
    let p := (begin []).run batchPorts Settings.usual default untilCancelled
    p.isPolled 0 = true ∧ p.isPolled 1 = false ∧ p.isPolled 2 = false := by
  have h : [0, 1, 2].map ((begin []).run batchPorts Settings.usual default untilCancelled).isPolled =
      [true, false, false] := by decide +kernel
  simpa using h

theorem cancellation_threeRules :
    let scan := (begin []).run batchPorts Settings.usual default
    ∃ rest evaluations result,
      (scan (untilCancelled ++ .event .cancel :: lastTurn :: rest)).stage = .ended evaluations result ∧
      evaluations.map (·.outcome.label) = ["matched", "compile_failed", "skipped"] := by
  intro scan
  have hfetch : batchPorts.fetch Rule.Status.scannable [] = .ok threeRules := rfl
  have hcatalog : batchPorts.catalog [] = .ok Query.peopleCatalog := rfl
  have hworkers : 1 ≤ Settings.usual.maxWorkers := by decide
  obtain ⟨hcalm, _, hends⟩ := cancellation_honest hfetch (List.cons_ne_nil _ _) hcatalog hworkers default
  obtain ⟨rest, _, evaluations, result, hended⟩ := hends (untilCancelled ++ [.event .cancel, lastTurn])
  rw [List.append_assoc, List.cons_append, List.singleton_append] at hended
  refine ⟨rest, evaluations, result, hended, ?_⟩
  have hevaluations :=
    ((hcalm untilCancelled calm_untilCancelled).2.2 (lastTurn :: rest)).2.2 evaluations result hended
  obtain ⟨hpolled, hcompiled, hrunning⟩ := isPolled_untilCancelled
  have h₀ : (scan untilCancelled).owed Settings.usual.timeout 0 (lastTurn :: rest) =
    some (threeAnswers 0) := by
    rw [owed, if_pos hpolled]
    rfl
  have h₁ : (scan untilCancelled).owed Settings.usual.timeout 1 (lastTurn :: rest) = none :=
    if_neg (Bool.eq_false_iff.mp hcompiled)
  have h₂ : (scan untilCancelled).owed Settings.usual.timeout 2 (lastTurn :: rest) = none :=
    if_neg (Bool.eq_false_iff.mp hrunning)
  change evaluations = threeRules.mapIdx fun i rule =>
    (((scan untilCancelled).evaluation? i).or
      (((scan untilCancelled).owed _ i (lastTurn :: rest)).map _)).getD _
      at hevaluations
  rw [hevaluations, threeRules]
  simp only [List.mapIdx_cons, List.mapIdx_nil, Nat.reduceAdd, h₀, h₁, h₂]
  decide +kernel

/-- A rule that has not answered when the scan is cancelled may answer yet: the poll that is under
way is ended. -/
theorem cancellation_within_poll :
    ¬ ∀ before after evaluations result, Calm before →
      let scan := (begin []).run batchPorts Settings.usual default
      (scan (before ++ .event .cancel :: after)).stage = .ended evaluations result →
      ∀ (i : ℕ) rule, threeRules[i]? = some rule → (scan before).evaluation? i = none →
        evaluations[i]? = some ⟨rule.id, rule.name, .skipped⟩ := by
  intro h
  have hfetch : batchPorts.fetch Rule.Status.scannable [] = .ok threeRules := rfl
  have hworkers : 1 ≤ Settings.usual.maxWorkers := by decide
  have hpolled : ((begin []).run batchPorts Settings.usual default untilCancelled).isPolled 0 :=
    isPolled_untilCancelled.1
  have hmatched : (((begin []).run batchPorts Settings.usual default
      (untilCancelled ++ [.event .cancel, lastTurn])).evaluation? 0).map (·.outcome.label) =
        some "matched" := by
    decide +kernel
  have hunpolled : ((begin []).run batchPorts Settings.usual default
      (untilCancelled ++ [.event .cancel, lastTurn])).isPolled 0 = false := by
    refine Bool.eq_false_iff.mpr fun hpolled => ?_
    rw [evaluation?_of_isPolled hpolled] at hmatched
    cases hmatched
  obtain ⟨rest, _, evaluations, result, hended⟩ :=
    canEnd_run batchPorts default [] hworkers (untilCancelled ++ [.event .cancel, lastTurn])
  rw [← run_append] at hended
  obtain ⟨_, hkept⟩ := evaluation?_cancelled Settings.usual default hfetch (by simp) hunpolled rest
  rw [List.append_assoc, List.cons_append, List.singleton_append] at hended hkept
  have hskipped :=
    h untilCancelled (lastTurn :: rest) evaluations result calm_untilCancelled hended 0 Query.ageRule rfl
    (evaluation?_of_isPolled hpolled)
  rcases hkept with hkept | ⟨hnone, _⟩
  · rw [evaluation?, hended] at hkept
    dsimp only at hkept
    rw [← hkept, hskipped] at hmatched
    revert hmatched
    decide
  · rw [hnone] at hmatched
    cases hmatched

end Process

end Compliance.Scan
