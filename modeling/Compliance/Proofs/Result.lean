import Mathlib.Data.List.Perm.Basic
import Compliance.Proofs.Lists

/-! Results of computations that may fail. -/

namespace Compliance.Result

variable {ε ε' α β γ : Type}

@[simp] lemma ok_bind (a : α) (f : α → Except ε β) : (Except.ok a >>= f) = f a := rfl

@[simp] lemma error_bind (e : ε) (f : α → Except ε β) : (Except.error e >>= f) = Except.error e := rfl

lemma bind_eq_ok {x : Except ε α} {f : α → Except ε β} {b : β} :
    (x >>= f) = .ok b ↔ ∃ a, x = .ok a ∧ f a = .ok b := by
  cases x <;> simp

lemma bind_eq_error {x : Except ε α} {f : α → Except ε β} {e : ε} :
    (x >>= f) = .error e ↔ x = .error e ∨ ∃ a, x = .ok a ∧ f a = .error e := by
  cases x <;> simp

lemma exists_of_isOk {x : Except ε α} (h : x.isOk) : ∃ a, x = .ok a := by
  cases x with
  | ok a => exact ⟨a, rfl⟩
  | error e => cases h

lemma map_eq_ok {x : Except ε α} {f : α → β} {b : β} : x.map f = .ok b ↔ ∃ a, x = .ok a ∧ f a = b := by
  cases x <;> simp [Except.map]

lemma map_eq_error {x : Except ε α} {f : α → β} {e : ε} : x.map f = .error e ↔ x = .error e := by
  cases x <;> simp [Except.map]

lemma map_bind_unit {x : Except ε α} {f : α → Except ε β} {y : Except ε Unit}
    (h : ∀ a, ((f a).map fun _ => ()) = y) :
    ((x >>= f).map fun _ => ()) = (x.map fun _ => ()) >>= fun _ => y := by
  cases x with
  | error e => rfl
  | ok a => exact h a

lemma cases_of_map_eq_map {x : Except ε α} {y : Except ε β} {f : α → γ} {g : β → γ}
    (h : x.map f = y.map g) :
    (∃ e, x = .error e ∧ y = .error e) ∨ ∃ a b, x = .ok a ∧ y = .ok b ∧ f a = g b := by
  cases x with
  | error e =>
    cases y with
    | error e' => exact .inl ⟨e, rfl, congrArg _ (Except.error.inj h).symm⟩
    | ok b => cases h
  | ok a =>
    cases y with
    | error e => cases h
    | ok b => exact .inr ⟨a, b, rfl, rfl, Except.ok.inj h⟩

lemma mapError_eq_ok {x : Except ε α} {f : ε → ε'} {a : α} : x.mapError f = .ok a ↔ x = .ok a := by
  cases x <;> simp [Except.mapError]

lemma pure_eq_ok {a b : α} : (pure a : Except ε α) = .ok b ↔ a = b := by
  simp [pure, Except.pure]

lemma mapM_eq_ok {f : α → Except ε β} {l : List α} {r : List β} :
    l.mapM f = .ok r ↔ List.Forall₂ (fun a b => f a = .ok b) l r := by
  induction l generalizing r with
  | nil =>
    rw [List.mapM_nil, pure_eq_ok, List.forall₂_nil_left_iff, eq_comm]
  | cons a l ih =>
    rw [List.mapM_cons, bind_eq_ok, List.forall₂_cons_left_iff]
    refine exists_congr fun b => ?_
    simp only [bind_eq_ok, pure_eq_ok, ih]
    grind

lemma mapM_singleton_eq_ok {f : α → Except ε β} {a : α} {r : List β} :
    [a].mapM f = .ok r ↔ ∃ b, f a = .ok b ∧ r = [b] := by
  rw [mapM_eq_ok]
  simp [List.forall₂_cons_left_iff]

lemma mapM_pair_eq_ok {f : α → Except ε β} {a a' : α} {r : List β} :
    [a, a'].mapM f = .ok r ↔ ∃ b b', f a = .ok b ∧ f a' = .ok b' ∧ r = [b, b'] := by
  rw [mapM_eq_ok]
  simp only [List.forall₂_cons_left_iff, List.forall₂_nil_left_iff]
  grind

lemma exists_of_mem_mapM {f : α → Except ε β} {l : List α} {r : List β} (h : l.mapM f = .ok r)
    {b : β} (hb : b ∈ r) :
    ∃ a ∈ l, f a = .ok b := ListFacts.exists_left (mapM_eq_ok.mp h) hb

lemma exists_mapM {f : α → Except ε β} {l : List α} (h : ∀ a ∈ l, ∃ b, f a = .ok b) : ∃ r,
    l.mapM f = .ok r := by
  induction l with
  | nil => exact ⟨[], rfl⟩
  | cons a l ih =>
    obtain ⟨b, hb⟩ := h a (List.mem_cons_self ..)
    obtain ⟨r, hr⟩ := ih fun a ha => h a (List.mem_cons_of_mem _ ha)
    exact ⟨b :: r, mapM_eq_ok.mpr (.cons hb (mapM_eq_ok.mp hr))⟩

lemma mapM_perm {f : α → Except ε β} {l l' : List α} {r : List β} (h : l.mapM f = .ok r)
    (hperm : l'.Perm l) :
    ∃ r', l'.mapM f = .ok r' ∧ r'.Perm r := by
  obtain ⟨r', hr', hperm⟩ := List.perm_comp_forall₂ hperm (mapM_eq_ok.mp h)
  exact ⟨r', mapM_eq_ok.mpr hr', hperm⟩

lemma mapM_sublist {f : α → Except ε β} {l l' : List α} {r : List β} (h : l.mapM f = .ok r)
    (hsub : l'.Sublist l) :
    ∃ r', l'.mapM f = .ok r' ∧ r'.Sublist r := by
  rw [mapM_eq_ok] at h
  induction hsub generalizing r with
  | slnil => exact ⟨[], rfl, List.nil_sublist _⟩
  | cons a _ ih =>
    obtain ⟨b, rest, _, hrest, rfl⟩ := List.forall₂_cons_left_iff.mp h
    obtain ⟨r', hr', hsub⟩ := ih hrest
    exact ⟨r', hr', hsub.cons b⟩
  | cons_cons a _ ih =>
    obtain ⟨b, rest, hb, hrest, rfl⟩ := List.forall₂_cons_left_iff.mp h
    obtain ⟨r', hr', hsub⟩ := ih hrest
    exact ⟨b :: r', mapM_eq_ok.mpr (.cons hb (mapM_eq_ok.mp hr')), hsub.cons_cons b⟩

lemma mapM_map {δ : Type} {f : α → Except ε β} {g : γ → Except ε δ} {l : List α} {k : α → γ} {m : β → δ}
    (h : ∀ a ∈ l, g (k a) = (f a).map m) : (l.map k).mapM g = (l.mapM f).map (List.map m) := by
  induction l with
  | nil => rfl
  | cons a l ih =>
    rw [List.map_cons, List.mapM_cons, List.mapM_cons, h a (List.mem_cons_self ..),
      ih fun a ha => h a (List.mem_cons_of_mem _ ha)]
    cases f a with
    | error e => rfl
    | ok b => cases l.mapM f <;> rfl

lemma mapM_filter {f : α → Except ε β} {l : List α} {r : List β} (h : l.mapM f = .ok r)
    {p : α → Bool} {q : β → Bool} (hpq : ∀ a ∈ l, ∀ b, f a = .ok b → p a = q b) :
    (l.filter p).mapM f = .ok (r.filter q) := by
  rw [mapM_eq_ok] at h ⊢
  induction h with
  | nil => exact .nil
  | @cons a b l r hab _ ih =>
    have ih := ih fun a ha => hpq a (List.mem_cons_of_mem _ ha)
    rw [List.filter_cons, List.filter_cons, hpq a (List.mem_cons_self ..) b hab]
    split_ifs
    · exact .cons hab ih
    · exact ih

lemma eq_map_of_mapM {f : α → Except ε β} {g : α → β} {l : List α} {r : List β}
    (hg : ∀ a ∈ l, ∀ b, f a = .ok b → b = g a) (h : l.mapM f = .ok r) : r = l.map g := by
  induction l generalizing r with
  | nil => simpa using mapM_eq_ok.mp h
  | cons a l ih =>
    rw [List.mapM_cons] at h
    obtain ⟨b, hb, h⟩ := bind_eq_ok.mp h
    obtain ⟨rest, hrest, h⟩ := bind_eq_ok.mp h
    obtain rfl := pure_eq_ok.mp h
    rw [hg a (List.mem_cons_self ..) b hb, ih (fun a ha => hg a (List.mem_cons_of_mem _ ha)) hrest,
      List.map_cons]

section
variable {f : α → Except ε Unit} {l : List α}

lemma forM_cons (f : α → Except ε Unit) (a : α) (l : List α) : (a :: l).forM f = f a >>= fun _ =>
    l.forM f := rfl

lemma forM_append (f : α → Except ε Unit) (l l' : List α) : (l ++ l').forM f = l.forM f >>= fun _ =>
    l'.forM f := by
  induction l with
  | nil => rfl
  | cons a l ih =>
    rw [List.cons_append, forM_cons, forM_cons, ih]
    cases f a <;> rfl

lemma forM_eq_ok : l.forM f = .ok () ↔ ∀ a ∈ l, f a = .ok () := by
  induction l with
  | nil => exact iff_of_true rfl (by simp)
  | cons a l ih =>
    rw [forM_cons, bind_eq_ok, ih, List.forall_mem_cons]
    exact ⟨fun ⟨_, ha, hl⟩ => ⟨ha, hl⟩, fun ⟨ha, hl⟩ => ⟨(), ha, hl⟩⟩

lemma forM_eq_error {e : ε} : l.forM f = .error e ↔
    ∃ before a after, l = before ++ a :: after ∧ (∀ b ∈ before, f b = .ok ()) ∧ f a = .error e := by
  induction l with
  | nil =>
    refine iff_of_false (fun h => by cases h) ?_
    rintro ⟨before, a, after, hl, _⟩
    simp at hl
  | cons a l ih =>
    rw [forM_cons, bind_eq_error, ih]
    constructor
    · rintro (ha | ⟨_, ha, before, b, after, rfl, hbefore, hb⟩)
      · exact ⟨[], a, l, rfl, by simp, ha⟩
      · exact ⟨a :: before, b, after, rfl, List.forall_mem_cons.mpr ⟨ha, hbefore⟩, hb⟩
    · rintro ⟨before, b, after, hl, hbefore, hb⟩
      cases before with
      | nil =>
        obtain ⟨rfl, rfl⟩ := List.cons.inj hl
        exact .inl hb
      | cons c before =>
        obtain ⟨rfl, rfl⟩ := List.cons.inj hl
        obtain ⟨ha, hbefore⟩ := List.forall_mem_cons.mp hbefore
        exact .inr ⟨(), ha, before, b, after, rfl, hbefore, hb⟩

end

end Compliance.Result
