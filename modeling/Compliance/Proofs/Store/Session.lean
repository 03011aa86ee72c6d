import Compliance.Proofs.Store.Recording
import Compliance.Store.Session

/-! A transaction is all or nothing: whatever is refused in it, the store is as it was or holds the
whole batch. -/

namespace Compliance.Store

open Database Result
open Violation (Candidate DedupPolicy)

@[simp] lemma Session.current_open (saved working : Store) :
    (⟨saved, some working⟩ : Session).current = working := rfl

@[simp] lemma Session.saved_opened (s : Store) : (Session.opened s).saved = s := rfl

namespace Action

variable {α β : Type} {refusals : Refusals}

lemma bind_apply (a : Action α) (f : α → Action β) (c : Session) : (a >>= f) c =
    match a c with
    | (.ok x, c) => f x c
    | (.error failure, c) => (.error failure, c) := by
  change (let r := a c; ExceptT.bindCont f r.1 r.2) = _
  rcases a c with ⟨_ | _, _⟩ <;> rfl

lemma bind_pure_apply (a : Action α) (f : α → β) (c : Session) : ((a >>= fun x => pure (f x)) c).1 =
    (a c).1.map f := by
  rw [bind_apply]
  rcases a c with ⟨_ | _, _⟩ <;> rfl

section
variable {c c' : Session} {statement : Statement}

lemma of_pure_eq_ok {x y : α} (h : (pure x : Action α) c = (.ok y, c')) : x = y ∧ c = c' := by
  obtain ⟨h, rfl⟩ := Prod.ext_iff.mp h
  exact ⟨Except.ok.inj h, rfl⟩

lemma of_bind_eq_ok {a : Action α} {f : α → Action β} {y : β} (h : (a >>= f) c = (.ok y, c')) :
    ∃ x between, a c = (.ok x, between) ∧ f x between = (.ok y, c') := by
  rw [bind_apply] at h
  rcases ha : a c with ⟨failure | x, between⟩
  all_goals rw [ha] at h
  · cases (Prod.ext_iff.mp h).1
  · exact ⟨x, between, rfl, h⟩

lemma of_look_eq_ok {f : Store → Except Failure α} {x : α}
    (h : look refusals statement f c = (.ok x, c')) :
    f c.current = .ok x ∧ c = c' := by
  rw [look] at h
  cases hr : refusals statement with
  | some failure =>
    rw [hr] at h
    cases (Prod.ext_iff.mp h).1
  | none =>
    rw [hr] at h
    exact Prod.ext_iff.mp h

lemma of_change_eq_ok {f : Store → Except Failure Store}
    (h : change refusals statement f c = (.ok (), c')) :
    ∃ s, f c.current = .ok s ∧ c.put s = c' := by
  rw [change] at h
  cases hr : refusals statement with
  | some failure =>
    rw [hr] at h
    cases (Prod.ext_iff.mp h).1
  | none =>
    rw [hr] at h
    cases hf : f c.current with
    | error failure =>
      rw [hf] at h
      cases (Prod.ext_iff.mp h).1
    | ok s =>
      rw [hf] at h
      exact ⟨s, rfl, (Prod.ext_iff.mp h).2⟩

end

def Confined (a : Action α) : Prop :=
  ∀ saved working, ∃ working', (a ⟨saved, some working⟩).2 = ⟨saved, some working'⟩

lemma confined_pure (x : α) : Confined (pure x : Action α) := fun _ working => ⟨working, rfl⟩

lemma Confined.bind {a : Action α} {f : α → Action β} (ha : Confined a) (hf : ∀ x, Confined (f x)) :
    Confined (a >>= f) := by
  intro saved working
  obtain ⟨between, hbetween⟩ := ha saved working
  rw [bind_apply]
  rcases h : a ⟨saved, some working⟩ with ⟨failure | x, c⟩
  · rw [h] at hbetween
    exact ⟨between, hbetween⟩
  · rw [h] at hbetween
    obtain rfl : c = ⟨saved, some between⟩ := hbetween
    exact hf x saved between

lemma confined_look (statement : Statement) (f : Store → Except Failure α) :
    Confined (look refusals statement f) := by
  intro saved working
  rw [look]
  cases refusals statement <;> exact ⟨working, rfl⟩

lemma confined_change (statement : Statement) (f : Store → Except Failure Store) :
    Confined (change refusals statement f) := by
  intro saved working
  rw [change]
  cases refusals statement with
  | some failure => exact ⟨working, rfl⟩
  | none =>
    rw [Session.current_open]
    cases f working with
    | ok s => exact ⟨s, rfl⟩
    | error failure => exact ⟨working, rfl⟩

lemma transaction_cases {body : Action α} (hbody : Confined body) (refusals : Refusals) (s : Store) :
    (∃ failure, transaction refusals body (.opened s) = (.error failure, .opened s)) ∨
      ∃ a working, body ⟨s, some s⟩ = (.ok a, ⟨s, some working⟩) ∧
        transaction refusals body (.opened s) = (.ok a, .opened working) := by
  obtain ⟨working, hworking⟩ := hbody s s
  rw [transaction, Session.saved_opened]
  cases refusals .start with
  | some failure => exact .inl ⟨failure, rfl⟩
  | none =>
    rcases h : body ⟨s, some s⟩ with ⟨failure | a, c⟩
    all_goals
      rw [h] at hworking
      obtain rfl : c = ⟨s, some working⟩ := hworking
    · exact .inl ⟨failure, rfl⟩
    · cases refusals .commit with
      | some failure => exact .inl ⟨failure, rfl⟩
      | none => exact .inr ⟨a, working, rfl, rfl⟩

lemma transaction_willing (body : Action α) (s : Store) :
    (transaction (fun _ => none) body (.opened s)).1 = (body ⟨s, some s⟩).1 := by
  rw [transaction, Session.saved_opened]
  rcases body ⟨s, some s⟩ with ⟨_ | _, _⟩ <;> rfl

end Action

variable {refusals : Refusals} {newId : ℕ → String} {now : Time.Timestamp} {policy : DedupPolicy}
  {place taken : ℕ} {batch : List Candidate}

lemma recordFrom_cons (refusals : Refusals) (newId : ℕ → String) (now : Time.Timestamp)
    (policy : DedupPolicy) (place taken : ℕ) (c : Candidate) (batch : List Candidate) :
    recordFrom refusals newId now policy place taken (c :: batch) = do
      let passed ← isPassedOver refusals place c.key policy
      if passed then recordFrom refusals newId now policy (place + 1) taken batch
      else
        Action.change refusals (.insert place) (insertViolation (c.record (newId taken) now))
        return c.record (newId taken) now ::
          (← recordFrom refusals newId now policy (place + 1) (taken + 1) batch) := rfl

lemma confined_recordFrom (refusals : Refusals) (newId : ℕ → String) (now : Time.Timestamp)
    (policy : DedupPolicy) (place taken : ℕ) (batch : List Candidate) :
    Action.Confined (recordFrom refusals newId now policy place taken batch) := by
  induction batch generalizing place taken with
  | nil => exact Action.confined_pure []
  | cons c batch ih =>
    rw [recordFrom_cons]
    refine Action.Confined.bind ?_ fun passed => ?_
    · cases policy with
      | append => exact Action.confined_pure false
      | skipOpen => exact Action.confined_look _ _
    · cases passed with
      | true => exact ih _ _
      | false =>
        refine Action.Confined.bind (Action.confined_change _ _) fun _ => ?_
        exact Action.Confined.bind (ih _ _) fun _ => Action.confined_pure _

section
variable {saved w : Store} {rows : List ViolationRow} {c : Session}

lemma isReported_eq (hw : w.violations = some rows) (key : String × String × String) :
    isReported key w = .ok (hasOpen rows key) := by
  rw [isReported, violationRows_eq_ok.mpr hw]
  rfl

lemma insertViolation_eq (hw : w.violations = some rows) (v : Violation) :
    insertViolation v w = asFailure do
      let row ← rowOfViolation v
      let more ← addRow ViolationRow.id row rows
      return { w with violations := some more } := by
  rw [insertViolation, violationRows_eq_ok.mpr hw]
  rfl

lemma isPassedOver_ok (hw : w.violations = some rows) {key : String × String × String} {passed : Bool}
    (h : isPassedOver refusals place key policy ⟨saved, some w⟩ = (.ok passed, c)) :
    passed = decide (policy = .skipOpen ∧ hasOpen rows key) ∧ c = ⟨saved, some w⟩ := by
  cases policy with
  | append =>
    obtain ⟨rfl, rfl⟩ := Action.of_pure_eq_ok h
    exact ⟨rfl, rfl⟩
  | skipOpen =>
    obtain ⟨hlook, rfl⟩ := Action.of_look_eq_ok h
    rw [Session.current_open, isReported_eq hw] at hlook
    exact ⟨by simp [Except.ok.inj hlook], rfl⟩

lemma insert_ok (hw : w.violations = some rows) {v : Violation}
    (h : Action.change refusals (.insert place) (insertViolation v) ⟨saved, some w⟩ = (.ok (), c)) :
    ∃ row more, rowOfViolation v = .ok row ∧ addRow ViolationRow.id row rows = .ok more ∧
      c = ⟨saved, some { w with violations := some more }⟩ := by
  obtain ⟨working, hi, rfl⟩ := Action.of_change_eq_ok h
  rw [Session.current_open, insertViolation_eq hw] at hi
  obtain ⟨row, hrow, hi⟩ := bind_eq_ok.mp (mapError_eq_ok.mp hi)
  obtain ⟨more, hmore, hi⟩ := bind_eq_ok.mp hi
  obtain rfl := pure_eq_ok.mp hi
  exact ⟨row, more, hrow, hmore, rfl⟩

lemma recordFrom_ok (hw : w.violations = some rows) {recorded : List Violation}
    (h : recordFrom refusals newId now policy place taken batch ⟨saved, some w⟩ = (.ok recorded, c)) :
    ∃ rows', recordAll newId now policy taken rows batch = .ok (recorded, rows') ∧
      c = ⟨saved, some { w with violations := some rows' }⟩ := by
  induction batch generalizing place taken w rows recorded c with
  | nil =>
    obtain ⟨rfl, rfl⟩ := Action.of_pure_eq_ok h
    exact ⟨rows, rfl, by rw [← hw]⟩
  | cons candidate batch ih =>
    rw [recordFrom_cons] at h
    obtain ⟨passed, _, hpassed, h⟩ := Action.of_bind_eq_ok h
    obtain ⟨rfl, rfl⟩ := isPassedOver_ok hw hpassed
    rw [recordAll_cons]
    by_cases hskip : policy = .skipOpen ∧ hasOpen rows candidate.key
    · rw [if_pos hskip]
      rw [decide_eq_true hskip] at h
      exact ih hw h
    · rw [if_neg hskip]
      rw [decide_eq_false hskip] at h
      obtain ⟨_, _, hinsert, h⟩ := Action.of_bind_eq_ok h
      obtain ⟨row, more, hrow, hmore, rfl⟩ := insert_ok hw hinsert
      obtain ⟨rest, _, hrest, h⟩ := Action.of_bind_eq_ok h
      obtain ⟨rows', hrecord, rfl⟩ := ih rfl hrest
      obtain ⟨rfl, rfl⟩ := Action.of_pure_eq_ok h
      refine ⟨rows', ?_, rfl⟩
      rw [hrow, ok_bind, hmore, ok_bind, hrecord]
      rfl

lemma recordFrom_willing (hw : w.violations = some rows) (newId : ℕ → String) (now : Time.Timestamp)
    (policy : DedupPolicy) (place taken : ℕ) (batch : List Candidate) :
    (recordFrom (fun _ => none) newId now policy place taken batch ⟨saved, some w⟩).1 =
      (asFailure (recordAll newId now policy taken rows batch)).map (·.1) := by
  induction batch generalizing place taken w rows with
  | nil => rfl
  | cons candidate batch ih =>
    have hp : isPassedOver (fun _ => none) place candidate.key policy ⟨saved, some w⟩ =
        (.ok (decide (policy = .skipOpen ∧ hasOpen rows candidate.key)), ⟨saved, some w⟩) := by
      cases policy with
      | append => rfl
      | skipOpen =>
        rw [isPassedOver, Action.look, Session.current_open, isReported_eq hw]
        simp
    rw [recordFrom_cons, Action.bind_apply, hp, recordAll_cons]
    split_ifs with hpassed
    · rw [decide_eq_true hpassed]
      exact ih hw (place + 1) taken
    · rw [decide_eq_false hpassed]
      change ((Action.change _ _ _ >>= _) _).1 = _
      rw [Action.bind_apply, Action.change, Session.current_open, insertViolation_eq hw]
      cases hrow : rowOfViolation (candidate.record (newId taken) now) with
      | error fault => rfl
      | ok row =>
        rw [ok_bind, ok_bind]
        cases hmore : addRow ViolationRow.id row rows with
        | error fault => rfl
        | ok more =>
          have hrest := ih (w := { w with violations := some more }) rfl (place + 1) (taken + 1)
          change ((recordFrom _ _ _ _ _ _ _ >>= _) _).1 = _
          rw [Action.bind_pure_apply, ok_bind]
          change Except.map
            _ (recordFrom _ _ _ _ _ _ _ ⟨saved, some { w with violations := some more }⟩).1 = _
          rw [hrest]
          cases recordAll newId now policy (taken + 1) more batch <;> rfl

lemma recordFrom_without_table (saved : Store) (hw : w.violations = none) (refusals : Refusals)
    (newId : ℕ → String) (now : Time.Timestamp) (policy : DedupPolicy) (place taken : ℕ)
    (candidate : Candidate) (batch : List Candidate) :
    ∃ failure,
      (recordFrom refusals newId now policy place taken (candidate :: batch) ⟨saved, some w⟩).1 =
        .error failure ∧
      ((∀ statement, refusals statement = none) →
        failure = .database (Fault.unknownTable violationsName).message) := by
  have hrows : w.violationRows = .error (.unknownTable violationsName) := by rw [violationRows, hw]
  rw [recordFrom_cons, Action.bind_apply]
  cases policy with
  | skipOpen =>
    rw [isPassedOver, Action.look, Session.current_open, isReported, hrows]
    cases hr : refusals (.check place) with
    | some failure => exact ⟨failure, rfl, fun h => by simp [h] at hr⟩
    | none => exact ⟨_, rfl, fun _ => rfl⟩
  | append =>
    change ∃ failure, ((Action.change _ _ _ >>= _) _).1 = _ ∧ _
    rw [Action.bind_apply, Action.change, Session.current_open, insertViolation, hrows]
    cases hr : refusals (.insert place) with
    | some failure => exact ⟨failure, rfl, fun h => by simp [h] at hr⟩
    | none => exact ⟨_, rfl, fun _ => rfl⟩

end

theorem recordBatch_cases (refusals : Refusals) (newId : ℕ → String) (now : Time.Timestamp)
    (batch : List Candidate) (policy : DedupPolicy) (s : Store) :
    (∃ failure, recordBatch refusals newId now batch policy (.opened s) = (.error failure, .opened s)) ∨
      ∃ recorded s', persist newId now batch policy s = .ok (recorded, s') ∧
        recordBatch refusals newId now batch policy (.opened s) = (.ok recorded, .opened s') := by
  rcases Action.transaction_cases (confined_recordFrom refusals newId now policy 0 0 batch)
    refusals s with h | ⟨recorded, working, hbody, h⟩
  · exact .inl h
  refine .inr ⟨recorded, working, ?_, h⟩
  cases batch with
  | nil =>
    obtain ⟨hrecorded, hworking⟩ := Prod.ext_iff.mp hbody
    obtain rfl := Except.ok.inj hrecorded
    obtain rfl := Option.some.inj (Session.mk.inj hworking).2
    rfl
  | cons candidate batch =>
    cases hs : s.violations with
    | none =>
      obtain ⟨failure, hfailure, _⟩ :=
        recordFrom_without_table s hs refusals newId now policy 0 0 candidate batch
      rw [hbody] at hfailure
      exact nomatch hfailure
    | some rows =>
      obtain ⟨rows', hrecord, hworking⟩ := recordFrom_ok hs hbody
      obtain rfl := Option.some.inj (Session.mk.inj hworking).2
      rw [persist, if_neg (List.cons_ne_nil _ _), violationRows_eq_ok.mpr hs, ok_bind, hrecord]
      rfl

theorem recordBatch_willing (newId : ℕ → String) (now : Time.Timestamp) (batch : List Candidate)
    (policy : DedupPolicy) (s : Store) : recordBatch (fun _ => none) newId now batch policy (.opened s) =
      match persist newId now batch policy s with
      | .ok (recorded, s') => (.ok recorded, .opened s')
      | .error failure => (.error failure, .opened s) := by
  have hbody : (recordBatch (fun _ => none) newId now batch policy (.opened s)).1 =
      (recordFrom (fun _ => none) newId now policy 0 0 batch ⟨s, some s⟩).1 :=
        Action.transaction_willing _ s
  rcases recordBatch_cases (fun _ => none) newId now batch policy s
    with ⟨failure, h⟩ | ⟨recorded, s', hp, h⟩
  swap
  · rw [h, hp]
  rw [h] at hbody ⊢
  cases batch with
  | nil => exact nomatch hbody
  | cons candidate batch =>
    rw [persist, if_neg (List.cons_ne_nil _ _)]
    cases hs : s.violations with
    | none =>
      obtain ⟨refusal, hrefusal, hreason⟩ :=
        recordFrom_without_table s hs (fun _ => none) newId now policy 0 0 candidate batch
      rw [hrefusal, hreason fun _ => rfl] at hbody
      obtain rfl := Except.error.inj hbody
      rw [violationRows, hs]
      rfl
    | some rows =>
      rw [recordFrom_willing hs] at hbody
      rw [violationRows_eq_ok.mpr hs, ok_bind]
      cases hr : recordAll newId now policy 0 rows (candidate :: batch) with
      | ok result =>
        rw [hr] at hbody
        cases hbody
      | error fault =>
        rw [hr] at hbody
        obtain rfl := Except.error.inj hbody
        rfl

end Compliance.Store
