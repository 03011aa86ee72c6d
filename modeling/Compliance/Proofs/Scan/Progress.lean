import Compliance.Proofs.Scan.Cancellation

/-! A scan that nothing cancels: each rule with a query has it run, and comes to what it comes to by
itself. -/

namespace Compliance.Scan

open Result

namespace Pass

variable {p : Pass} {event : Event} {slot slot' : Slot} {rule : Rule}

lemma Moves.alone (h : p.Moves event slot slot') (hc : p.cancelled = false)
    (hhonest : ∀ slot expired, event ≠ .turn slot (some (.error .cancelled)) expired)
    (hof : slot.IsOf p.catalog rule) (hnone : slot.evaluation? = none) {e : Evaluation}
    (he : slot'.evaluation? = some e) :
    ∃ answer ≠ .error .cancelled, e = .alone p.settings.maxRows p.catalog rule answer := by
  cases h with
  | stays =>
    rw [hnone] at he
    cases he
  | starts =>
    cases hof
    rw [startSlot, if_neg (Bool.eq_false_iff.mp hc)] at he
    cases hq : Query.compile p.catalog rule with
    | ok query =>
      rw [hq] at he
      cases he
    | error error =>
      rw [hq] at he
      obtain rfl := Option.some.inj he
      -- a rule without a query comes to the same whatever is answered
      exact ⟨.ok [], by rintro ⟨⟩, by rw [Evaluation.alone, hq]⟩
  | looks | returns => cases he
  | skips _ _ _ hcancelled => simp [hc] at hcancelled
  | ends i answer expired _ _ hpolls a ha =>
    obtain ⟨rfl, hq⟩ := hpolls.compile_eq hof
    obtain rfl := Option.some.inj he
    refine ⟨a, poll_ne_cancelled (fun hcancelled => hhonest i expired (by rw [hcancelled])) ha, ?_⟩
    rw [Evaluation.alone, hq]

lemma Moves.running (h : p.Moves event slot slot') (hc : p.cancelled = false)
    (hof : slot.IsOf p.catalog rule) {query : Query} (hq : Query.compile p.catalog rule = .ok query)
    (hs : slot'.isWaiting = false) :
    slot' = .running rule query ∨ slot.isWaiting = false := by
  cases h with
  | stays => exact .inr hs
  | starts =>
    cases hof
    rw [startSlot, if_neg (Bool.eq_false_iff.mp hc), hq]
    exact .inl rfl
  | looks | skips => exact .inr rfl
  | returns _ _ _ _ _ hpolls | ends _ _ _ _ _ hpolls => exact .inr hpolls.not_waiting

end Pass

namespace Process

variable {S : Type} {ports : Ports S} {settings : Settings} {clock : Clock} {state : S} {p : Process S}
  {moments : List Moment} {rules : List Rule} {catalog : Catalog} {pass : Pass} {i : ℕ} {rule : Rule}

lemma evaluation?_alone (hfetch : ports.fetch Rule.Status.scannable state = .ok rules)
    (hcatalog : ports.catalog state = .ok catalog) (hcalm : Calm moments)
    (hr : rules[i]? = some rule) {e : Evaluation}
    (he : ((begin state).run ports settings clock moments).evaluation? i = some e) :
    ∃ answer ≠ .error .cancelled, e = .alone settings.maxRows catalog rule answer := by
  induction moments using List.reverseRecOn with
  | nil => exact nomatch he
  | append_singleton moments moment ih =>
    rw [run_concat] at he
    rcases evaluation?_step ports settings clock ((begin state).run ports settings clock moments)
      moment i with
      h | ⟨pass, event, slot, slot', hstage, rfl, hs, hnone, hmoves, h⟩
    · exact ih hcalm.of_append (h ▸ he)
    · obtain ⟨rules', catalog', hev⟩ := exists_evaluates hstage
      obtain rfl := Except.ok.inj (hfetch.symm.trans hev.fetched)
      obtain rfl := Except.ok.inj (hcatalog.symm.trans hev.loaded)
      obtain ⟨rule', hr', hof⟩ := hev.isOver.isOf hs
      obtain rfl := Option.some.inj (hr.symm.trans hr')
      rw [← hev.isOver.catalog_eq, ← hev.isOver.settings_eq]
      refine hmoves.alone (cancelled_of_evaluates hev hcalm.of_append) (fun slot expired hevent => ?_)
        (hev.isOver.catalog_eq ▸ hof) hnone (h ▸ he)
      exact hcalm.honest slot expired
        (List.mem_append_right _ (by rw [hevent]; exact List.mem_singleton_self _))

lemma exists_running (hfetch : ports.fetch Rule.Status.scannable state = .ok rules)
    (hcatalog : ports.catalog state = .ok catalog) (hcalm : Calm moments)
    (hr : rules[i]? = some rule) {query : Query} (hq : Query.compile catalog rule = .ok query)
    (hstage : ((begin state).run ports settings clock moments).stage = .evaluating pass) {slot : Slot}
    (hs : pass.slots[i]? = some slot) (hstarted : slot.isWaiting = false) :
    ∃ within pass, within <+: moments ∧ ((begin state).run ports settings clock within).stage =
      .evaluating pass ∧
      pass.slots[i]? = some (.running rule query) := by
  induction moments using List.reverseRecOn generalizing pass slot with
  | nil => cases hstage
  | append_singleton moments moment ih =>
    have hstep := hstage
    rw [run_concat] at hstep
    rcases evaluating_step hstep with h | ⟨before, event, h, rfl, rfl⟩ | ⟨rules', catalog', rfl⟩
    · obtain ⟨within, pass, hwithin, h⟩ := ih hcalm.of_append h hs hstarted
      exact ⟨within, pass, hwithin.trans (List.prefix_append ..), h⟩
    · obtain ⟨rules', catalog', hev⟩ := exists_evaluates h
      obtain rfl := Except.ok.inj (hfetch.symm.trans hev.fetched)
      obtain rfl := Except.ok.inj (hcatalog.symm.trans hev.loaded)
      obtain ⟨slot₀, hs₀, hof⟩ := hev.isOver.slots i rule hr
      obtain ⟨slot', hs', hmoves⟩ := Pass.moves_step hs₀ event
      obtain rfl := Option.some.inj (hs.symm.trans hs')
      rw [← hev.isOver.catalog_eq] at hof hq
      rcases hmoves.running (cancelled_of_evaluates hev hcalm.of_append) hof hq hstarted
        with rfl | hearlier
      · exact ⟨_, _, List.prefix_rfl, hstage, hs⟩
      · obtain ⟨within, pass, hwithin, h⟩ := ih hcalm.of_append h hs₀ hearlier
        exact ⟨within, pass, hwithin.trans (List.prefix_append ..), h⟩
    · obtain ⟨rule', _, rfl⟩ : ∃ rule', rules'[i]? = some rule' ∧ Slot.waiting rule' = slot := by
        simpa [Pass.begin] using hs
      cases hstarted

lemma report_of_calm (hcalm : Calm moments) {evaluations : List Evaluation} {report : Report}
    (h : ((begin state).run ports settings clock moments).stage = .ended evaluations (.ok report)) :
    ∃ rules, ports.fetch Rule.Status.scannable state = .ok rules ∧ report.rules.length = rules.length ∧
      ∀ (i : ℕ) rule, rules[i]? = some rule → ∃ catalog answer, ports.catalog state = .ok catalog ∧
        answer ≠ .error .cancelled ∧
        report.rules[i]? = some (RuleLine.ofEvaluation (.alone settings.maxRows catalog rule answer)) ∧
        ∀ query, Query.compile catalog rule = .ok query → ∃ within pass, within <+: moments ∧
          ((begin state).run ports settings clock within).stage = .evaluating pass ∧
          pass.slots[i]? = some (.running rule query) := by
  rcases run_cases ports settings clock state moments with hunder | ⟨before, after, rfl, hbefore, hends⟩
  · generalize (begin state).run ports settings clock moments = p at h hunder
    cases hunder <;> exact nomatch h
  have hstate := state_eq hbefore
  cases hends with
  | unavailable _ _ hstage => exact nomatch h.symm.trans hstage
  | empty hfetch _ hstage =>
    rw [hstate] at hfetch
    obtain ⟨_, hreport⟩ := Stage.ended.inj (h.symm.trans hstage)
    obtain rfl := Except.ok.inj hreport
    exact ⟨[], hfetch, rfl, fun i rule hr => nomatch hr⟩
  | @concluded pass hstage hdone hconcludes =>
    have hcalm := hcalm.of_append
    obtain ⟨rules, catalog, hev⟩ := exists_evaluates hstage
    have hlines : report.rules = pass.evaluations.map RuleLine.ofEvaluation := by
      cases hconcludes with
      | discarded _ _ _ hq =>
        obtain ⟨_, hreport⟩ := Stage.ended.inj (h.symm.trans hq)
        exact nomatch hreport
      | recorded _ _ hq =>
        obtain ⟨_, hreport⟩ := Stage.ended.inj (h.symm.trans hq)
        obtain ⟨recorded, _, rfl⟩ := map_eq_ok.mp hreport.symm
        rfl
    refine ⟨rules, hev.fetched, ?_, fun i rule hr => ?_⟩
    · rw [hlines, List.length_map, ← hev.isOver.length_eq, Pass.slots_eq_of_isDone hdone,
        List.length_map]
    obtain ⟨slot, hs, hof⟩ := hev.isOver.slots i rule hr
    obtain ⟨e, he, rfl⟩ : ∃ e, pass.evaluations[i]? = some e ∧ Slot.ended e = slot := by
      rw [Pass.slots_eq_of_isDone hdone, List.getElem?_map] at hs
      exact Option.map_eq_some_iff.mp hs
    have hshown : ((begin state).run ports settings clock before).evaluation? i = some e := by
      rw [evaluation?, hstage]
      exact congrArg (·.bind Slot.evaluation?) hs
    obtain ⟨answer, hanswer, rfl⟩ := evaluation?_alone hev.fetched hev.loaded hcalm hr hshown
    refine ⟨catalog, answer, hev.loaded,
      hanswer, by rw [hlines, List.getElem?_map, he]; rfl, fun query hq => ?_⟩
    obtain ⟨within, pass', hwithin, hrunning⟩ :=
      exists_running hev.fetched hev.loaded hcalm hr hq hstage hs rfl
    exact ⟨within, pass', hwithin.trans (List.prefix_append ..), hrunning⟩

end Process

end Compliance.Scan
