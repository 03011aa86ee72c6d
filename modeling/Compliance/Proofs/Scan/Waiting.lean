import Mathlib.Data.List.Count
import Mathlib.Tactic.Lemma
import Mathlib.Tactic.SplitIfs
import Compliance.Scan.Waiting

/-! Whoever waits for a cancellation is woken by it, in whatever order the tasks take their steps. -/

namespace Compliance.Scan.Tasks

variable {w : Tasks} {task other : ℕ} {act : Act}

lemma isListening_of_isCommitted {phase : Phase} (h : phase.isCommitted) : phase.isListening := by
  cases phase <;> first | rfl | cases h

@[simp] lemma phase_move_self (w : Tasks) (task : ℕ) (phase : Phase) :
    (w.move task phase).phase task = phase :=
  if_pos rfl

lemma phase_move_of_ne (w : Tasks) {task other : ℕ} (h : other ≠ task) (phase : Phase) :
    (w.move task phase).phase other = w.phase other :=
  if_neg h

lemma forall_move {p : ℕ → Phase → Prop} {phase : Phase} (htask : p task phase)
    (hothers : ∀ t ≠ task, p t (w.phase t)) (t : ℕ) : p t ((w.move task phase).phase t) := by
  by_cases ht : t = task
  · subst ht
    rwa [phase_move_self]
  · rw [phase_move_of_ne w ht]
    exact hothers t ht

inductive Moves (w : Tasks) (task : ℕ) : Act → Tasks → Prop
  | idle (act : Act) (h : act = .go ∨ act = .drop → (w.phase task).isWaiting = false) :
  Moves w task act w
  | enter (h : w.phase task = .outside) : Moves w task .wait (w.move task .entered)
  | raise (h : w.phase task = .outside) :
    Moves w task .cancel { w.move task .raised with signal := w.signal.raise }
  | drop (h : (w.phase task).isWaiting) : Moves w task .drop (w.leave task)
  | enable (h : w.phase task = .entered) :
    Moves w task .go { w.move task .enabled with signal := w.signal.register task }
  | commit (h : w.phase task = .enabled)
    (hflag : ¬ w.signal.cancelled) : Moves w task .go (w.move task .unraised)
  | park (h : (w.phase task).isCommitted)
    (hwoken : task ∉ w.signal.woken) : Moves w task .go (w.move task .parked)
  | finish (h : (w.phase task).isListening) (hdone : w.signal.cancelled ∨ task ∈ w.signal.woken) :
    Moves w task .go (w.finish task)
  | wake (h : w.phase task = .raised) :
    Moves w task .go { w.move task .outside with signal := w.signal.wake, cancelled := w.cancelled + 1 }

lemma moves_of_committed (h : (w.phase task).isCommitted) (hlistening : (w.phase task).isListening) :
    Moves w task .go (if w.signal.resume task then w.finish task else w.move task .parked) := by
  split_ifs with hwoken
  · exact .finish hlistening (.inr (List.contains_iff_mem.mp hwoken))
  · exact .park h fun hmem => hwoken (List.contains_iff_mem.mpr hmem)

lemma moves_step (w : Tasks) (task : ℕ) (act : Act) : Moves w task act (w.step task act) := by
  cases act with
  | wait =>
    rw [step]
    split
    next h => exact .enter h
    next => exact .idle _ (by simp)
  | cancel =>
    rw [step]
    split
    next h => exact .raise h
    next => exact .idle _ (by simp)
  | drop =>
    rw [step]
    split_ifs with h
    · exact .drop h
    · exact .idle _ fun _ => Bool.eq_false_iff.mpr h
  | go =>
    rw [step]
    split
    next h => exact .idle _ fun _ => h ▸ rfl
    next h => exact .enable h
    next h =>
      split_ifs with hflag
      · exact .finish (h ▸ rfl) (.inl hflag)
      · exact .commit h hflag
    next h => exact moves_of_committed (h ▸ rfl) (h ▸ rfl)
    next h => exact moves_of_committed (h ▸ rfl) (h ▸ rfl)
    next h => exact .wake h

lemma signal_cancel (h : w.phase task = .outside) :
    ((w.step task .cancel).step task .go).signal = w.signal.cancel := by
  simp only [step, h, phase_move_self]
  rfl

lemma signal_enter (h : w.phase task = .outside) :
    ((w.step task .wait).step task .go).signal = (w.signal.enter task).1 ∧
      (((w.step task .wait).step task .go).step task .go).returned =
        if (w.signal.enter task).2 then task :: w.returned else w.returned := by
  have hentered : (w.step task .wait).step task .go =
      { (w.move task .entered).move task .enabled with signal := w.signal.register task } := by
    simp only [step, h, phase_move_self]
    rfl
  rw [hentered]
  refine ⟨rfl, ?_⟩
  simp only [step, phase_move_self]
  change (if w.signal.cancelled then _ else _ : Tasks).returned = if w.signal.cancelled then _ else _
  split_ifs <;> rfl

structure Sound (w : Tasks) : Prop where
  raised : ∀ t, w.phase t = .raised → w.signal.cancelled
  woken : ∀ t ∈ w.signal.woken, w.signal.cancelled
  cancelled : w.cancelled ≠ 0 → w.signal.cancelled
  returned : w.returned ≠ [] → w.signal.cancelled
  listening : ∀ t, (w.phase t).isListening → t ∈ w.signal.registered ∨ t ∈ w.signal.woken
  /-- A task that found the flag down is not passed over by a cancellation. -/
  committed : w.cancelled ≠ 0 → ∀ t, (w.phase t).isCommitted → t ∈ w.signal.woken

lemma sound_fresh : Sound fresh := by
  constructor <;> simp [fresh, Signal.fresh, Phase.isListening, Phase.isCommitted]

lemma Sound.move (h : w.Sound) {phase : Phase} (hraised : phase = .raised → w.signal.cancelled)
    (hlistening : phase.isListening → (w.phase task).isListening)
    (hcommitted : w.cancelled ≠ 0 → phase.isCommitted → (w.phase task).isCommitted) :
    (w.move task phase).Sound where
  raised := forall_move (p := fun _ phase => phase = .raised → _) hraised fun t _ => h.raised t
  woken := h.woken
  cancelled := h.cancelled
  returned := h.returned
  listening :=
    forall_move (p := fun t phase => phase.isListening → t ∈ w.signal.registered ∨ t ∈ w.signal.woken)
    (fun hphase => h.listening task (hlistening hphase)) fun t _ => h.listening t
  committed hdone := forall_move (p := fun t phase => phase.isCommitted → t ∈ w.signal.woken)
    (fun hphase => h.committed hdone task (hcommitted hdone hphase)) fun t _ => h.committed hdone t

lemma Sound.leave (h : w.Sound) (task : ℕ) : (w.leave task).Sound where
  raised := forall_move (p := fun _ phase => phase = .raised → _) nofun fun t _ => h.raised t
  woken t ht := h.woken t ((List.mem_filter.mp ht).1)
  cancelled := h.cancelled
  returned := h.returned
  listening := by
    refine forall_move (p := fun t phase => phase.isListening → t ∈ (w.signal.leave task).registered ∨
      t ∈ (w.signal.leave task).woken) nofun fun t ht hphase => ?_
    have hother : decide (t ≠ task) := decide_eq_true ht
    exact (h.listening t hphase).imp (List.mem_filter.mpr ⟨·, hother⟩) (List.mem_filter.mpr ⟨·, hother⟩)
  committed hdone :=
    forall_move (p := fun t phase => phase.isCommitted → t ∈ (w.signal.leave task).woken) nofun
    fun t ht hphase => List.mem_filter.mpr ⟨h.committed hdone t hphase, decide_eq_true ht⟩

lemma Sound.finish (h : w.Sound) (hflag : w.signal.cancelled) (task : ℕ) : (w.finish task).Sound :=
  { h.leave task with returned := fun _ => hflag }

lemma Sound.enable (h : w.Sound) (task : ℕ) :
    Sound { w.move task .enabled with signal := w.signal.register task } where
  raised := forall_move (p := fun _ phase => phase = .raised → _) nofun fun t _ => h.raised t
  woken := h.woken
  cancelled := h.cancelled
  returned := h.returned
  listening := by
    refine forall_move (p := fun t phase => phase.isListening → t ∈ (w.signal.register task).registered ∨
      t ∈ w.signal.woken) (fun _ => .inl (List.mem_cons_self ..)) fun t ht hphase => ?_
    exact (h.listening t hphase).imp_left fun hmem =>
      List.mem_cons_of_mem _ (List.mem_filter.mpr ⟨hmem, decide_eq_true ht⟩)
  committed hdone := forall_move (p := fun t phase => phase.isCommitted → t ∈ w.signal.woken) nofun
    fun t _ => h.committed hdone t

lemma Sound.raise (h : w.Sound) (task : ℕ) :
    Sound { w.move task .raised with signal := w.signal.raise } where
  raised _ _ := rfl
  woken _ _ := rfl
  cancelled _ := rfl
  returned _ := rfl
  listening :=
    forall_move (p := fun t phase => phase.isListening → t ∈ w.signal.registered ∨
      t ∈ w.signal.woken) nofun
    fun t _ => h.listening t
  committed hdone := forall_move (p := fun t phase => phase.isCommitted → t ∈ w.signal.woken) nofun
    fun t _ => h.committed hdone t

lemma Sound.wake (h : w.Sound) (hraised : w.phase task = .raised) :
    Sound { w.move task .outside with signal := w.signal.wake, cancelled := w.cancelled + 1 } where
  raised _ _ := h.raised task hraised
  woken _ _ := h.raised task hraised
  cancelled _ := h.raised task hraised
  returned := h.returned
  listening :=
    forall_move (p := fun t phase => phase.isListening → t ∈ [] ∨ t ∈ w.signal.wake.woken) nofun
    fun t _ hphase => .inr (List.mem_append.mpr (h.listening t hphase))
  committed _ := by
    refine forall_move (p := fun t phase => phase.isCommitted →
      t ∈ w.signal.wake.woken) nofun fun t _ hphase => ?_
    exact List.mem_append.mpr (h.listening t (isListening_of_isCommitted hphase))

lemma Sound.moves (h : w.Sound) {v : Tasks} (hmoves : Moves w task act v) : v.Sound := by
  cases hmoves with
  | idle => exact h
  | enter => exact h.move nofun nofun nofun
  | raise => exact h.raise task
  | drop => exact h.leave task
  | enable => exact h.enable task
  | commit hphase hflag =>
    exact h.move nofun (fun _ => hphase ▸ rfl) fun hdone => absurd (h.cancelled hdone) hflag
  | park hphase => exact h.move nofun (fun _ => isListening_of_isCommitted hphase) fun _ _ => hphase
  | finish _ hdone => exact h.finish (hdone.elim id (h.woken task)) task
  | wake hphase => exact h.wake hphase

lemma run_cons (w : Tasks) (act : ℕ × Act) (acts : List (ℕ × Act)) :
    w.run (act :: acts) = (w.step act.1 act.2).run acts := rfl

lemma run_append (w : Tasks) (acts more : List (ℕ × Act)) :
    w.run (acts ++ more) = (w.run acts).run more :=
  List.foldl_append

lemma Sound.run (h : w.Sound) (acts : List (ℕ × Act)) : (w.run acts).Sound := by
  induction acts generalizing w with
  | nil => exact h
  | cons act acts ih => exact ih (h.moves (moves_step ..))

lemma phase_of_ne {v : Tasks} (h : Moves w task act v) (hne : other ≠ task) :
    v.phase other = w.phase other := by
  cases h with
  | idle => rfl
  | _ => exact phase_move_of_ne w hne _

lemma cancelled_moves {v : Tasks} (h : Moves w task act v) (hdone : w.cancelled ≠ 0) :
    v.cancelled ≠ 0 := by
  cases h with
  | wake => exact Nat.succ_ne_zero _
  | _ => exact hdone

lemma count_returned_moves {v : Tasks} (h : Moves w task act v) (t : ℕ) :
    w.returned.count t ≤ v.returned.count t := by
  cases h with
  | finish => exact List.count_le_count_cons
  | _ => exact Nat.le_refl _

lemma flag_moves {v : Tasks} (h : Moves w task act v) (hflag : v.signal.cancelled) :
    w.signal.cancelled ∨ act = .cancel := by
  cases h with
  | raise => exact .inr rfl
  | _ => exact .inl hflag

lemma isCommitted_moves (hw : w.Sound) (hdone : w.cancelled ≠ 0) {v : Tasks} (h : Moves w task act v)
    (hv : (v.phase other).isCommitted) : (w.phase other).isCommitted := by
  by_cases hne : other = task
  · subst hne
    cases h with
    | idle => exact hv
    | park h => exact h
    | commit _ hflag => exact absurd (hw.cancelled hdone) hflag
    | _ => exact absurd hv (by simp [leave, finish, Phase.isCommitted])
  · rwa [← phase_of_ne h hne]

def stepsLeft : Phase → ℕ
  | .entered => 2
  | .enabled | .unraised | .parked => 1
  | .outside | .raised => 0

lemma returned_or_nearer (hw : w.Sound) (hdone : w.cancelled ≠ 0)
    (hwaiting : (w.phase task).isWaiting) {v : Tasks} (h : Moves w task .go v) :
    v.returned = task :: w.returned ∨
      (v.phase task).isWaiting ∧ stepsLeft (v.phase task) + 1 = stepsLeft (w.phase task) := by
  cases h with
  | idle _ hidle => exact absurd hwaiting (by simp [hidle])
  | enable hphase =>
    refine .inr ⟨?_, ?_⟩
    · rw [phase_move_self]
      rfl
    · rw [phase_move_self, hphase]
      rfl
  | commit _ hflag => exact absurd (hw.cancelled hdone) hflag
  | park hcommitted hwoken => exact absurd (hw.committed hdone task hcommitted) hwoken
  | finish => exact .inl rfl
  | wake hphase => exact absurd hwaiting (by simp [hphase, Phase.isWaiting])

lemma phase_of_others (hwaiting : (w.phase task).isWaiting) {v : Tasks} (h : Moves w other act v)
    (hgo : (other, act) ≠ (task, .go)) (hdrop : (other, act) ≠ (task, .drop)) :
    v.phase task = w.phase task := by
  by_cases hne : task = other
  · subst hne
    have houtside : w.phase task ≠ .outside :=
      fun hphase => absurd hwaiting (by simp [hphase, Phase.isWaiting])
    cases h with
    | idle => rfl
    | enter hphase | raise hphase => exact absurd hphase houtside
    | drop => exact absurd rfl hdrop
    | _ => exact absurd rfl hgo
  · exact phase_of_ne h hne

lemma stepsLeft_pos {phase : Phase} (h : phase.isWaiting) : 0 < stepsLeft phase := by
  cases phase <;> first | decide | cases h

lemma stepsLeft_le (phase : Phase) : stepsLeft phase ≤ 2 := by
  cases phase <;> decide

lemma count_returned_run (w : Tasks) (acts : List (ℕ × Act)) (t : ℕ) :
    w.returned.count t ≤ (w.run acts).returned.count t := by
  induction acts generalizing w with
  | nil => exact Nat.le_refl _
  | cons act acts ih => exact Nat.le_trans (count_returned_moves (moves_step w act.1 act.2) t) (ih _)

lemma cancelled_run (hdone : w.cancelled ≠ 0) (acts : List (ℕ × Act)) : (w.run acts).cancelled ≠ 0 := by
  induction acts generalizing w with
  | nil => exact hdone
  | cons act acts ih => exact ih (cancelled_moves (moves_step ..) hdone)

lemma isCommitted_run (hw : w.Sound) (hdone : w.cancelled ≠ 0) (acts : List (ℕ × Act))
    (h : ((w.run acts).phase task).isCommitted) : (w.phase task).isCommitted := by
  induction acts generalizing w with
  | nil => exact h
  | cons act acts ih =>
    have hmoves := moves_step w act.1 act.2
    exact isCommitted_moves hw hdone hmoves (ih (hw.moves hmoves) (cancelled_moves hmoves hdone) h)

lemma flag_run {acts : List (ℕ × Act)} (h : (w.run acts).signal.cancelled) :
    w.signal.cancelled ∨ ∃ task, (task, Act.cancel) ∈ acts := by
  induction acts generalizing w with
  | nil => exact .inl h
  | cons act acts ih =>
    rcases ih h with hflag | ⟨task, hmem⟩
    · refine (flag_moves (moves_step ..) hflag).imp_right fun hcancel => ⟨act.1, ?_⟩
      exact List.mem_cons.mpr (.inl (Prod.ext rfl hcancel.symm))
    · exact .inr ⟨task, List.mem_cons_of_mem _ hmem⟩

lemma returned_run (hw : w.Sound) (hdone : w.cancelled ≠ 0) (hwaiting : (w.phase task).isWaiting)
    {acts : List (ℕ × Act)} (hdrop : (task, .drop) ∉ acts)
    (hgo : stepsLeft (w.phase task) ≤ acts.count (task, .go)) :
    w.returned.count task < (w.run acts).returned.count task := by
  induction acts generalizing w with
  | nil => exact absurd (stepsLeft_pos hwaiting) (Nat.not_lt.mpr hgo)
  | cons act acts ih =>
    obtain ⟨other, act⟩ := act
    have hmoves := moves_step w other act
    have hcount := count_returned_moves hmoves task
    have hw' := hw.moves hmoves
    have hdone' := cancelled_moves hmoves hdone
    have hdrop' := fun hmem => hdrop (List.mem_cons_of_mem _ hmem)
    rw [run_cons]
    by_cases hgoes : (other, act) = (task, .go)
    · obtain ⟨rfl, rfl⟩ := Prod.mk.inj hgoes
      rw [List.count_cons_self] at hgo
      rcases returned_or_nearer hw hdone hwaiting hmoves with hreturned | ⟨hwaiting', hleft⟩
      · refine Nat.lt_of_lt_of_le ?_ (count_returned_run _ acts other)
        rw [hreturned, List.count_cons_self]
        exact Nat.lt_succ_self _
      · exact Nat.lt_of_le_of_lt hcount (ih hw' hdone' hwaiting' hdrop' (by omega))
    · rw [List.count_cons_of_ne hgoes] at hgo
      have hphase := phase_of_others hwaiting hmoves hgoes fun heq => hdrop (heq ▸ List.mem_cons_self ..)
      rw [← hphase] at hwaiting hgo
      exact Nat.lt_of_le_of_lt hcount (ih hw' hdone' hwaiting hdrop' hgo)

/-- In whatever order any number of tasks take their steps: nobody returns from waiting before the
flag is up, and it is up only if somebody cancels. Once one cancellation has come to its end, and
ever after, the flag is up, every task that waits to be woken has been woken, no other task comes to
wait so, and a task that waits returns with its second step at the latest unless it gives up. -/
theorem no_lost_wakeup (acts : List (ℕ × Act)) :
    ((fresh.run acts).returned ≠ [] → (fresh.run acts).signal.cancelled) ∧
    ((fresh.run acts).signal.cancelled → ∃ task, (task, Act.cancel) ∈ acts) ∧
    ((fresh.run acts).cancelled ≠ 0 → ∀ more : List (ℕ × Act),
      (fresh.run (acts ++ more)).cancelled ≠ 0 ∧ (fresh.run (acts ++ more)).signal.cancelled ∧
      (∀ task, ((fresh.run (acts ++ more)).phase task).isCommitted →
        ((fresh.run acts).phase task).isCommitted ∧ (fresh.run (acts ++ more)).signal.resume task) ∧
      ∀ task, ((fresh.run acts).phase task).isWaiting → (task, .drop) ∉ more →
        2 ≤ more.count (task, .go) →
        (fresh.run acts).returned.count task < (fresh.run (acts ++ more)).returned.count task) := by
  have hsound := sound_fresh.run acts
  refine ⟨hsound.returned, fun hflag => (flag_run hflag).resolve_left nofun, fun hdone more => ?_⟩
  rw [run_append]
  have hdone' := cancelled_run hdone more
  have hsound' := hsound.run more
  refine ⟨hdone', hsound'.cancelled hdone', fun task hcommitted =>
    ⟨isCommitted_run hsound hdone more hcommitted, ?_⟩, fun task hwaiting hdrop hgo => ?_⟩
  · exact List.contains_iff_mem.mpr (hsound'.committed hdone' task hcommitted)
  · exact returned_run hsound hdone hwaiting hdrop (Nat.le_trans (stepsLeft_le _) hgo)

/-! A task that finds the flag down before it is raised, and one that reads it between the raising
and the waking -/

def racingActs : List (ℕ × Act) :=
  [(0, .wait), (1, .wait), (1, .go), (1, .go), (0, .go), (2, .cancel), (1, .go), (3, .cancel),
    (0, .go), (2, .go), (4, .wait)]

theorem no_lost_wakeup_racingActs :
    ((fresh.run racingActs).phase 1).isCommitted ∧ (fresh.run racingActs).signal.resume 1 ∧
      (fresh.run racingActs).returned = [0] ∧
      0 < (fresh.run (racingActs ++ [(3, .go), (1, .go), (4, .go), (1, .wait), (4, .go),
        (1, .go)])).returned.count 4 := by
  obtain ⟨_, _, hdone⟩ := no_lost_wakeup racingActs
  have hone : (fresh.run racingActs).cancelled ≠ 0 := by decide
  obtain ⟨_, _, hwoken, _⟩ := hdone hone []
  obtain ⟨_, _, _, hreturns⟩ := hdone hone [(3, .go), (1, .go), (4, .go), (1, .wait), (4, .go), (1, .go)]
  have hcommitted : ((fresh.run racingActs).phase 1).isCommitted := by decide
  refine ⟨hcommitted, (hwoken 1 hcommitted).2, by decide, ?_⟩
  exact Nat.lt_of_le_of_lt (Nat.zero_le _) (hreturns 4 (by decide) (by decide) (by decide))

end Compliance.Scan.Tasks
