import Mathlib.Data.List.Forall2
import Mathlib.Data.List.Nodup
import Mathlib.Tactic.Lemma
import Compliance.Json.Basic

/-! Lists side by side, lists whose elements have keys, and sorted lists. -/

namespace Compliance.ListFacts

variable {α β γ : Type}

lemma exists_left {R : α → β → Prop} {l : List α} {r : List β} (h : List.Forall₂ R l r) {b : β}
    (hb : b ∈ r) :
    ∃ a ∈ l, R a b := by
  induction h with
  | nil => simp at hb
  | cons ha _ ih =>
    rcases List.mem_cons.mp hb with rfl | hb
    · exact ⟨_, List.mem_cons_self .., ha⟩
    · obtain ⟨a, hmem, ha⟩ := ih hb
      exact ⟨a, List.mem_cons_of_mem _ hmem, ha⟩

lemma exists_right {R : α → β → Prop} {l : List α} {r : List β} (h : List.Forall₂ R l r) {a : α}
    (ha : a ∈ l) :
    ∃ b ∈ r, R a b := exists_left h.flip ha

lemma exists_getElem?_right {R : α → β → Prop} {l : List α} {r : List β} (h : List.Forall₂ R l r)
    {i : ℕ} {a : α} (ha : l[i]? = some a) : ∃ b, r[i]? = some b ∧ R a b := by
  induction h generalizing i with
  | nil => cases ha
  | cons hab _ ih =>
    cases i with
    | zero =>
      obtain rfl := Option.some.inj ha
      exact ⟨_, rfl, hab⟩
    | succ i => exact ih ha

lemma forall₂_append_iff {R : α → β → Prop} {before after : List α} {r : List β} :
    List.Forall₂ R (before ++ after) r ↔
      ∃ r₁ r₂, List.Forall₂ R before r₁ ∧ List.Forall₂ R after r₂ ∧ r = r₁ ++ r₂ := by
  constructor
  · intro h
    refine ⟨_, _, List.forall₂_take_append r before after h.flip |>.flip,
      List.forall₂_drop_append r before after h.flip |>.flip, ?_⟩
    exact (List.take_append_drop before.length r).symm
  · rintro ⟨r₁, r₂, hbefore, hafter, rfl⟩
    exact List.rel_append hbefore hafter

lemma forall₂_append_cons_iff {R : α → β → Prop} {before after : List α} {a : α} {r : List β} :
    List.Forall₂ R (before ++ a :: after) r ↔
      ∃ r₁ b r₂, List.Forall₂ R before r₁ ∧ R a b ∧ List.Forall₂ R after r₂ ∧ r = r₁ ++ b :: r₂ := by
  rw [forall₂_append_iff]
  constructor
  · rintro ⟨r₁, _, hbefore, hrest, rfl⟩
    obtain ⟨b, r₂, hb, hafter, rfl⟩ := List.forall₂_cons_left_iff.mp hrest
    exact ⟨r₁, b, r₂, hbefore, hb, hafter, rfl⟩
  · rintro ⟨r₁, b, r₂, hbefore, hb, hafter, rfl⟩
    exact ⟨r₁, _, hbefore, .cons hb hafter, rfl⟩

lemma map_eq_map {R : α → β → Prop} {f : α → γ} {g : β → γ} {l : List α} {r : List β}
    (h : List.Forall₂ R l r) (hfg : ∀ a b, R a b → f a = g b) : l.map f = r.map g := by
  rw [← List.forall₂_eq_eq_eq, List.forall₂_map_left_iff, List.forall₂_map_right_iff]
  exact h.imp hfg

lemma mapIdx_getElem? (f : α → β → γ) (g : α → β) (b : β) (l : List α) :
    (l.mapIdx fun i a => f a ((l[i]?.map g).getD b)) = l.map fun a => f a (g a) := by
  refine List.ext_getElem (by simp) fun i hi _ => ?_
  rw [List.getElem_mapIdx, List.getElem_map, List.getElem?_eq_getElem, Option.map_some, Option.getD_some]

lemma pairwise_right {R : α → β → Prop} {S : α → α → Prop} {T : β → β → Prop} {l : List α} {r : List β}
    (h : List.Forall₂ R l r) (hl : l.Pairwise S)
    (hST : ∀ a b a' b', R a b → R a' b' → S a a' → T b b') : r.Pairwise T := by
  induction h with
  | nil => exact .nil
  | cons hab h ih =>
    obtain ⟨hfirst, hl⟩ := List.pairwise_cons.mp hl
    refine List.pairwise_cons.mpr ⟨fun b' hb' => ?_, ih hl⟩
    obtain ⟨a', ha', hab'⟩ := exists_left h hb'
    exact hST _ _ _ _ hab hab' (hfirst a' ha')

lemma forall₂_filterMap (f : α → Option β) (l : List α) :
    List.Forall₂ (fun a b => f a = some b) (l.filter (f · |>.isSome)) (l.filterMap f) := by
  induction l with
  | nil => exact .nil
  | cons a l ih =>
    rw [List.filterMap_cons, List.filter_cons]
    cases h : f a with
    | none => exact ih
    | some b => exact .cons h ih

lemma forall₂_mapIdx {R : α → β → Prop} {S : α → γ → Prop} {f : ℕ → β → γ} {l : List α} {r : List β}
    (h : List.Forall₂ R l r) (hRS : ∀ i a b, R a b → S a (f i b)) : List.Forall₂ S l (r.mapIdx f) := by
  induction h generalizing f with
  | nil => exact .nil
  | cons hab _ ih =>
    rw [List.mapIdx_cons]
    exact .cons (hRS 0 _ _ hab) (ih fun i => hRS (i + 1))

lemma find?_of_nodup [DecidableEq β] {key : α → β} {l : List α} (hkeys : (l.map key).Nodup) {a : α}
    (ha : a ∈ l) :
    l.find? (key · = key a) = some a := by
  cases hfind : l.find? (key · = key a) with
  | none => exact absurd (List.find?_eq_none.mp hfind a ha) (by simp)
  | some b =>
    have hkey : key b = key a := by simpa using List.find?_some hfind
    rw [List.inj_on_of_nodup_map hkeys (List.mem_of_find?_eq_some hfind) ha hkey]

lemma filter_of_nodup [DecidableEq β] {key : α → β} {l : List α} (hkeys : (l.map key).Nodup) {a : α}
    (ha : a ∈ l) :
    l.filter (key · = key a) = [a] := by
  obtain ⟨before, after, rfl⟩ := List.append_of_mem ha
  rw [List.map_append, List.map_cons, List.nodup_middle, List.nodup_cons, ← List.map_append] at hkeys
  have hother : ∀ b ∈ before ++ after, ¬ decide (key b = key a) := fun b hb h =>
    hkeys.1 (of_decide_eq_true h ▸ List.mem_map_of_mem hb)
  rw [List.filter_append, List.filter_cons, if_pos (decide_eq_true rfl),
    List.filter_eq_nil_iff.mpr fun b hb => hother b (List.mem_append_left _ hb),
    List.filter_eq_nil_iff.mpr fun b hb => hother b (List.mem_append_right _ hb), List.nil_append]

section
variable {key : String} {value : α} {fields : List (String × α)} {field : String × α}

lemma mem_insertKey (h : field ∈ insertKey key value fields) : field = (key, value) ∨
    field ∈ fields := by
  induction fields with
  | nil => exact .inl (List.mem_singleton.mp h)
  | cons first fields ih =>
    rw [insertKey] at h
    split_ifs at h
    · exact (List.mem_cons.mp h).imp_right (List.mem_cons_of_mem _)
    · exact List.mem_cons.mp h
    · rcases List.mem_cons.mp h with rfl | h
      · exact .inr (List.mem_cons_self ..)
      · exact (ih h).imp_right (List.mem_cons_of_mem _)

lemma sorted_insertKey (key : String) (value : α) (h : (fields.map (·.1)).Pairwise (· < ·)) :
    ((insertKey key value fields).map (·.1)).Pairwise (· < ·) := by
  induction fields with
  | nil => exact List.pairwise_singleton ..
  | cons first fields ih =>
    rw [List.map_cons, List.pairwise_cons] at h
    rw [insertKey]
    split_ifs with heq hlt
    · rw [List.map_cons, List.pairwise_cons]
      exact ⟨heq ▸ h.1, h.2⟩
    · rw [List.map_cons, List.map_cons, List.pairwise_cons, List.pairwise_cons]
      refine ⟨fun k hk => ?_, h⟩
      rcases List.mem_cons.mp hk with rfl | hk
      · exact hlt
      · exact String.lt_trans hlt (h.1 k hk)
    · rw [List.map_cons, List.pairwise_cons]
      refine ⟨fun k hk => ?_, ih h.2⟩
      obtain ⟨field, hfield, rfl⟩ := List.mem_map.mp hk
      rcases mem_insertKey hfield with rfl | hfield
      · by_contra hge
        exact heq (String.le_antisymm (String.not_lt.mp hge) (String.not_lt.mp hlt))
      · exact h.1 _ (List.mem_map_of_mem hfield)

lemma insertKey_of_lt (h : ∀ k ∈ fields.map (·.1), key < k) :
    insertKey key value fields = (key, value) :: fields := by
  cases fields with
  | nil => rfl
  | cons first fields =>
    have hlt : key < first.1 := h _ (List.mem_cons_self ..)
    rw [insertKey, if_neg (String.ne_of_lt hlt), if_pos hlt]

lemma filter_insertKey (p : String → Bool) (h : (fields.map (·.1)).Pairwise (· < ·)) :
    (insertKey key value fields).filter (p ·.1) =
      if p key then insertKey key value (fields.filter (p ·.1)) else fields.filter (p ·.1) := by
  induction fields with
  | nil => split_ifs with hp <;> simp [insertKey, hp]
  | cons first fields ih =>
    obtain ⟨hfirst, hsorted⟩ := List.pairwise_cons.mp h
    by_cases heq : key = first.1
    · subst heq
      rw [insertKey, if_pos rfl, List.filter_cons, List.filter_cons]
      split_ifs with hp
      · rw [insertKey, if_pos rfl]
      · rfl
    by_cases hlt : key < first.1
    · rw [insertKey, if_neg heq, if_pos hlt, List.filter_cons]
      split_ifs with hp
      · refine (insertKey_of_lt fun k hk => ?_).symm
        obtain ⟨field, hfield, rfl⟩ := List.mem_map.mp hk
        rcases List.mem_cons.mp (List.mem_of_mem_filter hfield) with rfl | hfield
        · exact hlt
        · exact String.lt_trans hlt (hfirst _ (List.mem_map_of_mem hfield))
      · rfl
    · rw [insertKey, if_neg heq, if_neg hlt, List.filter_cons, ih hsorted, List.filter_cons]
      split_ifs with hfield hp
      · rw [insertKey, if_neg heq, if_neg hlt]
      all_goals rfl

lemma lookup_filter (p : String → Bool) :
    (fields.filter (p ·.1)).lookup key = if p key then fields.lookup key else none := by
  induction fields with
  | nil => split_ifs <;> rfl
  | cons first fields ih =>
    obtain ⟨k, v⟩ := first
    rw [List.filter_cons]
    by_cases heq : key = k
    · subst heq
      split_ifs with hp
      · rw [List.lookup_cons_self, List.lookup_cons_self]
      · rw [ih, if_neg hp]
    · have hskip : ∀ rest : List (String × α), List.lookup key ((k, v) :: rest) = rest.lookup key :=
        fun rest => by
        rw [List.lookup_cons, beq_eq_false_iff_ne.mpr heq]
      rw [hskip, ← ih]
      split_ifs
      · exact hskip _
      · rfl

lemma sorted_foldl_insertKey (more : List (String × α)) (h : (fields.map (·.1)).Pairwise (· < ·)) :
    ((more.foldl (fun acc field => insertKey field.1 field.2 acc) fields).map (·.1)).Pairwise
      (· < ·) := by
  induction more generalizing fields with
  | nil => exact h
  | cons first more ih => exact ih (sorted_insertKey first.1 first.2 h)

lemma mem_foldl_insertKey {more : List (String × α)}
    (h : field ∈ more.foldl (fun acc field => insertKey field.1 field.2 acc) fields) :
    field ∈ more ∨ field ∈ fields := by
  induction more generalizing fields with
  | nil => exact .inr h
  | cons first more ih =>
    rcases ih h with hmore | hfields
    · exact .inl (List.mem_cons_of_mem _ hmore)
    · rcases mem_insertKey hfields with rfl | hfields
      · exact .inl (List.mem_cons_self ..)
      · exact .inr hfields

lemma lookup_foldl_insertKey (key : String) (more fields : List (String × α)) :
    (more.foldl (fun acc field => insertKey field.1 field.2 acc) fields).lookup key =
      (more.reverse ++ fields).lookup key := by
  induction more generalizing fields with
  | nil => rfl
  | cons first more ih =>
    rw [List.foldl_cons, ih, List.reverse_cons, List.append_assoc, List.singleton_append,
      List.lookup_append, List.lookup_append]
    by_cases hkey : key = first.1
    · subst hkey
      rw [lookup_insertKey_self, List.lookup_cons_self]
    · rw [lookup_insertKey_of_ne hkey, List.lookup_cons, beq_eq_false_iff_ne.mpr hkey]

lemma lookup_of_nodup (hkeys : (fields.map (·.1)).Nodup) (hfield : field ∈ fields) :
    fields.lookup field.1 = some field.2 := by
  obtain ⟨before, after, rfl⟩ := List.append_of_mem hfield
  rw [List.map_append, List.map_cons, List.nodup_middle, List.nodup_cons, ← List.map_append] at hkeys
  refine List.lookup_eq_some_iff.mpr ⟨before, after, rfl, fun other hother => ?_⟩
  have hmem : other ∈ before ++ after := List.mem_append_left _ hother
  exact bne_iff_ne.mpr fun heq => hkeys.1 (heq ▸ List.mem_map_of_mem hmem)

lemma lookup_foldl_insertKey_of_nodup (hkeys : (fields.map (·.1)).Nodup) (hfield : field ∈ fields) :
    (fields.foldl (fun acc field => insertKey field.1 field.2 acc) []).lookup field.1 =
      some field.2 := by
  rw [lookup_foldl_insertKey, List.append_nil]
  have hreverse : (fields.reverse.map (·.1)).Nodup := by rwa [List.map_reverse, List.nodup_reverse]
  exact lookup_of_nodup hreverse (List.mem_reverse.mpr hfield)

end

section
variable {r : β → β → Prop} {x y z : β} {i j k : String}

lemma lex_trans (hr : ∀ x y z, r x y → r y z → r x z) (hxy : r x y ∨ x = y ∧ i ≤ j)
    (hyz : r y z ∨ y = z ∧ j ≤ k) :
    r x z ∨ x = z ∧ i ≤ k := by
  rcases hxy with hxy | ⟨rfl, hij⟩
  · rcases hyz with hyz | ⟨rfl, _⟩
    · exact .inl (hr _ _ _ hxy hyz)
    · exact .inl hxy
  · exact hyz.imp_right fun ⟨hyz, hjk⟩ => ⟨hyz, String.le_trans hij hjk⟩

lemma lex_total (h : r x y ∨ x = y ∨ r y x) (i j : String) : (r x y ∨ x = y ∧ i ≤ j) ∨ r y x ∨
    y = x ∧ j ≤ i := by
  rcases h with h | rfl | h
  · exact .inl (.inl h)
  · exact (String.le_total i j).imp (fun h => .inr ⟨rfl, h⟩) fun h => .inr ⟨rfl, h⟩
  · exact .inr (.inl h)

end

lemma filter_mergeSort {le : α → α → Bool} (trans : ∀ a b c, le a b → le b c → le a c)
    (total : ∀ a b, (le a b || le b a) = true) (p : α → Bool) (l : List α) :
    (l.mergeSort le).filter p = (l.filter p).mergeSort le := by
  induction l with
  | nil => simp
  | cons a l ih =>
    obtain ⟨before, after, hcons, hl, hbefore⟩ := List.mergeSort_cons trans total a l
    rw [hcons, List.filter_append, List.filter_cons]
    rw [hl, List.filter_append] at ih
    split_ifs with ha
    · rw [List.filter_cons_of_pos ha]
      obtain ⟨before', after', hcons', hl', hbefore'⟩ := List.mergeSort_cons trans total a (l.filter p)
      rw [hcons']
      rw [hl'] at ih
      -- what stands before `a` is what it does not come before, in either list
      have hafter : ∀ b ∈ after.filter p, le a b := by
        intro b hb
        have hsorted := List.pairwise_mergeSort trans total (a :: l)
        rw [hcons] at hsorted
        exact List.rel_of_pairwise_cons (List.pairwise_append.mp hsorted).2.1 (List.mem_of_mem_filter hb)
      have hafter' : ∀ b ∈ after', le a b := by
        intro b hb
        have hsorted := List.pairwise_mergeSort trans total (a :: l.filter p)
        rw [hcons'] at hsorted
        exact List.rel_of_pairwise_cons (List.pairwise_append.mp hsorted).2.1 hb
      have hsplit : ∀ before after : List α, (∀ b ∈ before, (!le a b) = true) → (∀ b ∈ after, le a b) →
          (before ++ after).filter (!le a ·) = before ∧ (before ++ after).filter (le a ·) = after := by
        intro before after hb ha
        rw [List.filter_append, List.filter_append, List.filter_eq_self.mpr hb,
          List.filter_eq_self.mpr ha,
          List.filter_eq_nil_iff.mpr fun b h => by
            simp [ha b h], List.filter_eq_nil_iff.mpr fun b h => by simpa using hb b h]
        simp
      obtain ⟨h₁, h₂⟩ := hsplit _ _ (fun b hb => hbefore b (List.mem_of_mem_filter hb)) hafter
      obtain ⟨h₁', h₂'⟩ := hsplit _ _ hbefore' hafter'
      rw [ih] at h₁ h₂
      rw [← h₁, ← h₂, h₁', h₂']
    · rw [List.filter_cons_of_neg ha, ih]

end Compliance.ListFacts
