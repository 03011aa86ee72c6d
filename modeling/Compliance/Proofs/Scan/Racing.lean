import Compliance.Scan.Cooperative
import Mathlib.Data.List.Basic
import Mathlib.Order.MinMax
import Mathlib.Order.WithBot
import Mathlib.Tactic.Lemma
import Mathlib.Tactic.SplitIfs

/-!
A query, its deadline and a cancellation race for the outcome. Each of them comes at its own moment,
but which of them came first is only seen at the polls.
-/

namespace Compliance.Scan

/-- A poll looks at the token when it starts, and then, until it ends, at the answer and at the
deadline. -/
structure Poll (T : Type) where
  starts : T
  ends : T

/-- When the token fires, when the runner has which answer, and when the deadline passes; `⊤` is
never. -/
structure Race (T : Type) where
  fires : WithTop T
  answers : WithTop T
  answer : Answer
  due : T

namespace Race

variable {T : Type} [LinearOrder T] {r : Race T} {deadline : Time.Duration} {p q : Poll T}
  {polls : List (Poll T)}

/-- Of what comes at one moment, the token is before the answer and the answer before the deadline. -/
def winner (r : Race T) (deadline : Time.Duration) : Answer :=
  if r.fires ≤ r.answers ∧ r.fires ≤ r.due then .error .cancelled
  else if r.answers ≤ r.due then r.answer
  else .error (.timeout deadline)

def turn (r : Race T) (p : Poll T) : Turn :=
  ⟨r.fires ≤ p.starts, if r.answers ≤ p.ends then some r.answer else none, r.due ≤ p.ends⟩

def run (r : Race T) (deadline : Time.Duration) (polls : List (Poll T)) : Option Answer :=
  Execution.run deadline (polls.map r.turn)

def isOverBy (r : Race T) (p : Poll T) : Bool := r.answers ≤ p.ends || r.due ≤ p.ends

def seenAt (r : Race T) (deadline : Time.Duration) (p : Poll T) : Answer :=
  if r.fires ≤ p.starts then .error .cancelled
  else if r.answers ≤ p.ends then r.answer
  else .error (.timeout deadline)

lemma poll_turn (r : Race T) (deadline : Time.Duration) (p : Poll T) :
    Execution.poll deadline (r.turn p) = if r.fires ≤ p.starts ∨
      r.isOverBy p then some (r.seenAt deadline p) else none := by
  rw [Execution.poll, turn, seenAt, isOverBy]
  by_cases hfires : r.fires ≤ p.starts
  · simp [hfires]
  · by_cases hanswers : r.answers ≤ p.ends
    · simp [hfires, hanswers]
    · simp [hfires, hanswers]

lemma run_cons (r : Race T) (deadline : Time.Duration) (p : Poll T) (polls : List (Poll T)) :
    r.run deadline (p :: polls) =
      if r.fires ≤ p.starts ∨ r.isOverBy p then some (r.seenAt deadline p)
      else r.run deadline polls := by
  rw [run, List.map_cons, Execution.run, List.findSome?_cons, poll_turn]
  split_ifs <;> rfl

lemma run_of_fired (h : r.fires ≤ p.starts) :
    r.run deadline (p :: polls) = some (.error .cancelled) := by
  rw [run_cons, if_pos (.inl h), seenAt, if_pos h]

lemma run_eq_seenAt (hsorted : polls.Pairwise fun p q => p.starts ≤ q.starts)
    (hp : polls.find? r.isOverBy = some p) :
    r.run deadline polls = some (r.seenAt deadline p) := by
  induction polls with
  | nil => cases hp
  | cons q polls ih =>
    obtain ⟨hle, hsorted⟩ := List.pairwise_cons.mp hsorted
    rw [List.find?_cons] at hp
    by_cases hover : r.isOverBy q
    · obtain rfl : q = p := by simpa [hover] using hp
      rw [run_cons, if_pos (.inr hover)]
    · have hp' : polls.find? r.isOverBy = some p := by simpa [hover] using hp
      by_cases hfires : r.fires ≤ q.starts
      · have hqp := hle p (List.mem_of_find?_eq_some hp')
        have hfires' : r.fires ≤ p.starts := hfires.trans (WithTop.coe_le_coe.mpr hqp)
        rw [run_of_fired hfires, seenAt, if_pos hfires']
      · rw [run_cons, if_neg (by simp [hfires, hover])]
        exact ih hsorted hp'

lemma isOverBy_iff : r.isOverBy p ↔ r.answers ≤ p.ends ∨ (r.due : WithTop T) ≤ p.ends := by
  simp [isOverBy]

lemma seenAt_eq_winner (hinstant : p.starts = p.ends) (hanswers : p.starts ≤ r.answers)
    (hdue : p.starts ≤ (r.due : WithTop T)) (h : r.fires ≤ p.starts ∨ r.isOverBy p) :
    r.seenAt deadline p = r.winner deadline := by
  rw [isOverBy_iff, ← hinstant] at h
  rw [seenAt, winner, ← hinstant]
  by_cases hfired : r.fires ≤ p.starts
  · rw [if_pos hfired, if_pos ⟨hfired.trans hanswers, hfired.trans hdue⟩]
  · rw [if_neg hfired]
    by_cases hanswered : r.answers ≤ p.starts
    · rw [if_pos hanswered, if_neg fun hfirst => hfired (hfirst.1.trans hanswered),
        if_pos (hanswered.trans hdue)]
    · have hover : (r.due : WithTop T) ≤ p.starts := (h.resolve_left hfired).resolve_left hanswered
      rw [if_neg hanswered, if_neg fun hfirst => hfired (hfirst.2.trans hover),
        if_neg fun hfirst => hanswered (hfirst.trans hover)]

lemma run_eq_winner (hinstant : ∀ p ∈ polls, p.starts = p.ends)
    (hsorted : polls.Pairwise fun p q => p.starts ≤ q.starts) (hp : p ∈ polls)
    (hmoment : (p.starts : WithTop T) = min r.fires (min r.answers r.due)) :
    r.run deadline polls = some (r.winner deadline) := by
  induction polls with
  | nil => cases hp
  | cons q polls ih =>
    obtain ⟨hle, hsorted⟩ := List.pairwise_cons.mp hsorted
    obtain ⟨hq, hinstant⟩ := List.forall_mem_cons.mp hinstant
    rw [run_cons]
    by_cases hseen : r.fires ≤ q.starts ∨ r.isOverBy q
    · have hqp : (q.starts : WithTop T) ≤ p.starts := by
        obtain rfl | hmem := List.mem_cons.mp hp
        · exact le_rfl
        · exact WithTop.coe_le_coe.mpr (hle p hmem)
      rw [hmoment, le_min_iff, le_min_iff] at hqp
      rw [if_pos hseen, seenAt_eq_winner hq hqp.2.1 hqp.2.2 hseen]
    · rw [if_neg hseen]
      refine ih hinstant hsorted ((List.mem_cons.mp hp).resolve_left ?_)
      rintro rfl
      rw [isOverBy_iff, ← hq, ← min_le_iff, ← min_le_iff] at hseen
      exact hseen hmoment.ge

lemma seenAt_of_unanswered (other : Answer) (h : r.fires ≤ p.starts ∨ ¬ r.answers ≤ p.ends) :
    { r with answer := other }.seenAt deadline p = r.seenAt deadline p := by
  rw [seenAt, seenAt]
  by_cases hfired : r.fires ≤ p.starts
  · rw [if_pos hfired, if_pos hfired]
  · rw [if_neg hfired, if_neg hfired, if_neg (h.resolve_left hfired), if_neg (h.resolve_left hfired)]

/-- The first poll by whose end the answer has come or the deadline has passed decides, if the polls
go on that long. -/
theorem run_decided (r : Race T) (deadline : Time.Duration) (polls : List (Poll T))
    (hsorted : polls.Pairwise fun p q => p.starts ≤ q.starts) (hdue : ∃ p ∈ polls, r.due ≤ p.ends) :
    (∃ p, polls.find? r.isOverBy = some p ∧
      r.run deadline polls = some (if r.fires ≤ p.starts then .error .cancelled
        else if r.answers ≤ p.ends then r.answer else .error (.timeout deadline)) ∧
      ∀ other : Answer, r.fires ≤ p.starts ∨ ¬ r.answers ≤ p.ends →
        { r with answer := other }.run deadline polls = r.run deadline polls) ∧
    (∀ p, polls.head? = some p → r.fires ≤ p.starts → r.run deadline polls = some (.error .cancelled)) ∧
    ((∀ p ∈ polls, p.starts = p.ends) →
      (∃ p ∈ polls, (p.starts : WithTop T) = min r.fires (min r.answers r.due)) →
        r.run deadline polls = some (r.winner deadline)) := by
  refine ⟨?_, fun p hp hfired => ?_, fun hinstant hprompt => ?_⟩
  · obtain ⟨q, hq, hover⟩ := hdue
    have hsome : (polls.find? r.isOverBy).isSome :=
      List.find?_isSome.mpr ⟨q, hq, isOverBy_iff.mpr (.inr (WithTop.coe_le_coe.mpr hover))⟩
    obtain ⟨p, hp⟩ := Option.isSome_iff_exists.mp hsome
    refine ⟨p, hp, run_eq_seenAt hsorted hp, fun other hunused => ?_⟩
    have hother : polls.find? { r with answer := other }.isOverBy = some p := hp
    rw [run_eq_seenAt hsorted hp, run_eq_seenAt hsorted hother, seenAt_of_unanswered other hunused]
  · obtain ⟨rest, rfl⟩ := List.head?_eq_some_iff.mp hp
    exact run_of_fired hfired
  · obtain ⟨p, hp, hmoment⟩ := hprompt
    exact run_eq_winner hinstant hsorted hp hmoment

/-! All three at one moment, and a token that fires before a late answer but within the poll of it -/

def photoFinish : Race ℕ := ⟨WithTop.some 5, WithTop.some 5, .ok [], 5⟩

theorem run_decided_photoFinish :
    photoFinish.run ⟨5⟩ [⟨0, 0⟩, ⟨5, 5⟩] = some (.error .cancelled) ∧
      photoFinish.run ⟨5⟩ [⟨0, 4⟩, ⟨4, 6⟩] = some (.ok []) ∧
        photoFinish.run ⟨5⟩ [⟨6, 7⟩] = some (.error .cancelled) := by
  refine ⟨?_, ?_, ?_⟩
  · obtain ⟨-, -, hprompt⟩ := run_decided photoFinish ⟨5⟩ [⟨0, 0⟩, ⟨5, 5⟩] (by decide) (by decide)
    rw [hprompt (by decide) ⟨⟨5, 5⟩, by simp, rfl⟩]
    decide
  · obtain ⟨⟨p, hp, hrun, -⟩, -⟩ := run_decided photoFinish ⟨5⟩ [⟨0, 4⟩, ⟨4, 6⟩] (by decide) (by decide)
    obtain rfl : (⟨4, 6⟩ : Poll ℕ) = p := Option.some.inj hp
    rw [hrun]
    decide
  · obtain ⟨-, hfired, -⟩ := run_decided photoFinish ⟨5⟩ [⟨6, 7⟩] (by decide) (by decide)
    exact hfired _ rfl (by decide)

lemma run_append_of_unseen {before : List (Poll T)}
    (h : ∀ p ∈ before, ¬ (r.fires ≤ p.starts ∨ r.isOverBy p)) :
    r.run deadline (before ++ polls) = r.run deadline polls := by
  induction before with
  | nil => rfl
  | cons q before ih =>
    rw [List.cons_append, run_cons, if_neg (h q List.mem_cons_self)]
    exact ih fun p hp => h p (List.mem_cons_of_mem q hp)

end Race

/-! A query on its own: its turns as polls, three moments each -/

namespace Behaviour

variable {b : Behaviour} {deadline : Time.Duration} {cancelled : Bool}

lemma execute_answer (b : Behaviour) (deadline : Time.Duration) (cancelled : Bool) :
    (b.execute deadline cancelled).1 =
      if cancelled then .error .cancelled
      else b.answer.getD (if b.cancels then .error .cancelled else .error (.timeout deadline)) := by
  obtain ⟨yields, cancels, answer⟩ := b
  have hunanswered : (List.replicate yields (⟨false, none, false⟩ : Turn)).findSome?
    (Execution.poll deadline) = none := by
    simp [Execution.poll]
  cases cancelled with
  | true => cases yields <;> simp [execute, Execution.run, Execution.poll, List.replicate_succ]
  | false =>
    rw [execute, Execution.run, List.findSome?_append, hunanswered]
    cases answer <;> cases cancels <;> simp [Execution.poll]

/-- The runner fires the token, if it does, in the poll in which it answers, and before its answer. -/
def race (b : Behaviour) (cancelled : Bool) : Race ℕ where
  fires := if cancelled then WithTop.some 0 else if b.cancels then WithTop.some (3 * b.yields + 1) else ⊤
  answers := if b.answer.isSome then WithTop.some (3 * b.yields + 2) else ⊤
  answer := b.answer.getD (.error .cancelled)
  due := 3 * b.yields + 5

def pollAt (k : ℕ) : Poll ℕ := ⟨3 * k, 3 * k + 2⟩

lemma fires_race_le_iff (b : Behaviour) (k : ℕ) :
    (b.race false).fires ≤ WithTop.some (pollAt k).starts ↔ b.cancels ∧ b.yields < k := by
  rw [race, pollAt]
  cases b.cancels with
  | false => simp only [Bool.false_eq_true, if_false, false_and, iff_false, not_le, WithTop.coe_lt_top]
  | true =>
    simp only [Bool.false_eq_true, if_false, if_true, true_and, WithTop.coe_le_coe]
    omega

lemma answers_race_le_iff (b : Behaviour) (k : ℕ) :
    (b.race false).answers ≤ WithTop.some (pollAt k).ends ↔ b.answer.isSome ∧ b.yields ≤ k := by
  rw [race, pollAt]
  cases b.answer.isSome with
  | false => simp only [Bool.false_eq_true, if_false, false_and, iff_false, not_le, WithTop.coe_lt_top]
  | true =>
    simp only [if_true, true_and, WithTop.coe_le_coe]
    omega

lemma isOverBy_race_iff (b : Behaviour) (k : ℕ) :
    (b.race false).isOverBy (pollAt k) ↔ b.answer.isSome ∧ b.yields ≤ k ∨ b.yields < k := by
  rw [Race.isOverBy_iff, answers_race_le_iff, WithTop.coe_le_coe]
  have hdue : (b.race false).due ≤ (pollAt k).ends ↔ b.yields < k := by
    simp only [race, pollAt]
    omega
  rw [hdue]

theorem run_race (b : Behaviour) (deadline : Time.Duration) (cancelled : Bool) :
    (b.race cancelled).run deadline ((List.range (b.yields + 2)).map pollAt) =
      some (b.execute deadline cancelled).1 := by
  rw [execute_answer]
  cases cancelled with
  | true =>
    rw [List.range_succ_eq_map, List.map_cons]
    exact Race.run_of_fired le_rfl
  | false =>
    have hunseen : ∀ p ∈ (List.range b.yields).map pollAt,
        ¬ ((b.race false).fires ≤ WithTop.some p.starts ∨ (b.race false).isOverBy p) := by
      intro p hp
      obtain ⟨k, hk, rfl⟩ := List.mem_map.mp hp
      rw [List.mem_range] at hk
      rw [fires_race_le_iff, isOverBy_race_iff]
      omega
    rw [List.range_succ, List.range_succ, List.map_append, List.map_append, List.append_assoc,
      Race.run_append_of_unseen hunseen]
    simp only [List.map_cons, List.map_nil, List.cons_append, List.nil_append, Race.run_cons,
      fires_race_le_iff, isOverBy_race_iff, Race.seenAt, answers_race_le_iff]
    cases hanswer : b.answer with
    | some answer => simp [race, hanswer]
    | none => cases b.cancels <;> simp

def selfCancelling : Behaviour := ⟨1, true, some (.ok [[some "1"]])⟩

theorem winner_selfCancelling :
    (selfCancelling.race false).winner ⟨5000000000⟩ = .error .cancelled ∧
      (selfCancelling.execute ⟨5000000000⟩ false).1 = .ok [[some "1"]] := by
  decide

end Behaviour

end Compliance.Scan
