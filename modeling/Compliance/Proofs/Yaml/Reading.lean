import Mathlib.Algebra.GroupWithZero.Nat
import Compliance.Proofs.Result
import Compliance.Yaml.Value

/-! A node reads as one value and replaces so many aliases, whatever the limit is, if it is not
below that. -/

namespace Compliance.Yaml

open Result

namespace Node

def children : Node → List Node
  | sequence _ items => items
  | mapping _ entries => entries.flatMap fun entry => [entry.1, entry.2]
  | _ => []

inductive Closed : Node → Prop
  | mk {node : Node} (hown : ∀ id, node ≠ .reference id)
    (hchildren : ∀ child ∈ node.children, Closed child) : Closed node

end Node

namespace Value

/-- The computation gives the result and replaces so many aliases. -/
def Takes {α : Type} (m : Read α) (a : α) (cost : ℕ) : Prop :=
  ∀ left, m.run (left + cost) = .ok (a, left)

/-- Whatever the computation gives under some limit it gives under every limit that is not below
what it takes. -/
def Steady {α : Type} (m : Read α) : Prop :=
  ∀ limit a left, m.run limit = .ok (a, left) → ∃ cost, limit = left + cost ∧ Takes m a cost

section
variable {α β : Type} {m : Read α} {f : α → Read β} {a a' : α} {b : β} {cost cost' limit left : ℕ}

lemma Takes.unique (h : Takes m a cost) (h' : Takes m a' cost') : a = a' ∧ cost = cost' := by
  have hsame := (h cost').symm.trans (Nat.add_comm cost cost' ▸ h' cost)
  obtain ⟨ha, hcost⟩ := Prod.mk.inj (Except.ok.inj hsame)
  exact ⟨ha, hcost.symm⟩

lemma Steady.exists_run_iff (h : Steady m) : (∃ left, m.run limit = .ok (a, left)) ↔
    ∃ cost ≤ limit, Takes m a cost := by
  constructor
  · rintro ⟨left, hrun⟩
    obtain ⟨cost, rfl, htakes⟩ := h limit a left hrun
    exact ⟨cost, Nat.le_add_left .., htakes⟩
  · rintro ⟨cost, hcost, htakes⟩
    exact ⟨limit - cost, by rw [← htakes (limit - cost), Nat.sub_add_cancel hcost]⟩

lemma run_bind_eq_ok : (m >>= f).run limit = .ok (b, left) ↔
    ∃ a between, m.run limit = .ok (a, between) ∧ (f a).run between = .ok (b, left) := by
  rw [StateT.run_bind, bind_eq_ok, Prod.exists]

lemma Takes.bind (hm : Takes m a cost) (hf : Takes (f a) b cost') :
    Takes (m >>= f) b (cost + cost') := by
  intro left
  refine run_bind_eq_ok.mpr ⟨a, left + cost', ?_, hf left⟩
  rw [← hm (left + cost'), Nat.add_assoc, Nat.add_comm cost' cost]

lemma takes_bind_iff (hm : Steady m) (hf : ∀ a, Steady (f a)) : Takes (m >>= f) b cost ↔
    ∃ a c d, Takes m a c ∧ Takes (f a) b d ∧ cost = c + d := by
  constructor
  · intro h
    obtain ⟨a, between, hrun, hrest⟩ := run_bind_eq_ok.mp (h 0)
    obtain ⟨c, hc, htakes⟩ := hm _ _ _ hrun
    obtain ⟨d, rfl, htakes'⟩ := hf a _ _ _ hrest
    exact ⟨a, c, d, htakes, htakes', by omega⟩
  · rintro ⟨a, c, d, hc, hd, rfl⟩
    exact hc.bind hd

lemma Steady.bind (hm : Steady m) (hf : ∀ a, Steady (f a)) : Steady (m >>= f) := by
  intro limit b left h
  obtain ⟨a, between, hrun, hrest⟩ := run_bind_eq_ok.mp h
  obtain ⟨c, rfl, hc⟩ := hm _ _ _ hrun
  obtain ⟨d, rfl, hd⟩ := hf a _ _ _ hrest
  exact ⟨c + d, by omega, hc.bind hd⟩

lemma takes_pure_iff : Takes (pure a) a' cost ↔ a' = a ∧ cost = 0 := by
  have hpure (limit : ℕ) : (pure a : Read α).run limit = .ok (a, limit) := rfl
  constructor
  · intro h
    obtain ⟨rfl, hcost⟩ := Prod.mk.inj (Except.ok.inj ((hpure _).symm.trans (h 0)))
    exact ⟨rfl, by omega⟩
  · rintro ⟨rfl, rfl⟩
    exact hpure

lemma steady_pure (a : α) : Steady (pure a : Read α) := by
  intro limit a' left h
  obtain ⟨rfl, rfl⟩ := Prod.mk.inj (Except.ok.inj h)
  exact ⟨0, rfl, takes_pure_iff.mpr ⟨rfl, rfl⟩⟩

lemma takes_lift_iff {x : Except Fault α} : Takes (liftM x : Read α) a cost ↔ x = .ok a ∧ cost = 0 := by
  cases x with
  | error fault => exact iff_of_false (fun h => nomatch h 0) (by simp)
  | ok found =>
    rw [Except.ok.injEq, eq_comm]
    exact takes_pure_iff

lemma steady_lift (x : Except Fault α) : Steady (liftM x : Read α) := by
  cases x with
  | error fault => exact fun _ _ _ h => nomatch h
  | ok found => exact steady_pure found

lemma steady_throw (fault : Fault) : Steady (throw fault : Read α) := fun _ _ _ h => nomatch h

lemma steady_mapM {l : List α} (h : ∀ a ∈ l, Steady (f a)) : Steady (l.mapM f) := by
  induction l with
  | nil => exact steady_pure []
  | cons a l ih =>
    obtain ⟨ha, hl⟩ := List.forall_mem_cons.mp h
    rw [List.mapM_cons]
    exact ha.bind fun _ => (ih hl).bind fun _ => steady_pure _

lemma takes_mapM_iff {l : List α} (h : ∀ a ∈ l, Steady (f a)) {bs : List β} : Takes (l.mapM f) bs cost ↔
    ∃ results : List (β × ℕ), List.Forall₂ (fun a r => Takes (f a) r.1 r.2) l results ∧
      bs = results.map (·.1) ∧
      cost = (results.map (·.2)).sum := by
  induction l generalizing bs cost with
  | nil =>
    rw [List.mapM_nil, takes_pure_iff]
    simp [List.forall₂_nil_left_iff]
  | cons a l ih =>
    obtain ⟨ha, hl⟩ := List.forall_mem_cons.mp h
    rw [List.mapM_cons, takes_bind_iff ha fun _ => (steady_mapM hl).bind fun _ => steady_pure _]
    simp only [takes_bind_iff (steady_mapM hl) fun _ => steady_pure _, takes_pure_iff, ih hl]
    constructor
    · rintro ⟨b, c, _, hb, ⟨_, _, _, ⟨results, hresults, rfl, rfl⟩, ⟨rfl, rfl⟩, rfl⟩, rfl⟩
      exact ⟨(b, c) :: results, .cons hb hresults, rfl, by simp⟩
    · rintro ⟨results, hresults, rfl, rfl⟩
      obtain ⟨r, rest, hr, hrest, rfl⟩ := List.forall₂_cons_left_iff.mp hresults
      exact ⟨r.1, r.2, _, hr, ⟨_, _, _, ⟨rest, hrest, rfl, rfl⟩, ⟨rfl, rfl⟩, rfl⟩, by simp⟩

end

variable {anchors anchors' : List (ℕ × Node)} {depth depth' cost cost' : ℕ} {node target : Node}
  {value : Value}

inductive Resolves (anchors : List (ℕ × Node)) : Node → Node → ℕ → Prop
  | alias {id : ℕ} {target : Node} (h : anchors.lookup id = some target) :
  Resolves anchors (.reference id) target 1
  | own {node : Node} (h : ∀ id, node ≠ .reference id) : Resolves anchors node node 0

lemma run_resolve_reference (anchors : List (ℕ × Node)) (id limit : ℕ) :
    (resolve anchors (.reference id)).run limit =
    if limit = 0 then .error .tooManyAliases
    else match anchors.lookup id with
      | some target => .ok (target, limit - 1)
      | none => .error (.unknown "anchor" (toString id)) := by
  cases limit with
  | zero => rfl
  | succ limit =>
    change (match anchors.lookup id with
      | some node => (return node : Read Node)
      | none => throw (Fault.unknown "anchor" (toString id))).run limit = _
    cases anchors.lookup id <;> rfl

lemma takes_resolve_iff : Takes (resolve anchors node) target cost ↔
    Resolves anchors node target cost := by
  cases node with
  | reference id =>
    constructor
    · intro h
      have hrun := (run_resolve_reference anchors id (0 + cost)).symm.trans (h 0)
      split_ifs at hrun with hzero
      cases hlookup : anchors.lookup id with
      | none =>
        rw [hlookup] at hrun
        cases hrun
      | some found =>
        rw [hlookup] at hrun
        obtain ⟨rfl, hleft⟩ := Prod.mk.inj (Except.ok.inj hrun)
        obtain rfl : cost = 1 := by omega
        exact .alias hlookup
    · rintro (hlookup | hown)
      · intro left
        rw [run_resolve_reference, if_neg (Nat.succ_ne_zero left), hlookup]
        rfl
      · exact absurd rfl (hown id)
  | _ =>
    refine takes_pure_iff.trans ⟨?_, ?_⟩
    · rintro ⟨rfl, rfl⟩
      exact .own (by simp)
    · rintro (_ | _)
      exact ⟨rfl, rfl⟩

lemma steady_resolve (anchors : List (ℕ × Node)) (node : Node) : Steady (resolve anchors node) := by
  cases node with
  | reference id =>
    intro limit target left h
    rw [run_resolve_reference] at h
    split_ifs at h with hzero
    cases hlookup : anchors.lookup id with
    | none =>
      rw [hlookup] at h
      cases h
    | some found =>
      rw [hlookup] at h
      obtain ⟨rfl, rfl⟩ := Prod.mk.inj (Except.ok.inj h)
      exact ⟨1, by omega, takes_resolve_iff.mpr (.alias hlookup)⟩
  | _ => exact steady_pure _

def ofItems {α β : Type} (tag : Option String) (collect : List β → Value) (read : α → Read β)
    (items : List α) : Read Value := do
  checkTag tag
  return collect (← items.mapM read)

def ofEntry (read : Node → Read Value) (entry : Node × Node) : Read (Value × Value) := do
  return (← read entry.1, ← read entry.2)

def ofTarget (read : Node → Read Value) : Node → Read Value
  | .scalar properties style content => ofScalar properties.tag style content
  | .sequence properties items => ofItems properties.tag list read items
  | .mapping properties entries => ofItems properties.tag mapping (ofEntry read) entries
  | .reference _ => throw Fault.tooDeep

lemma ofNode_succ (anchors : List (ℕ × Node)) (depth : ℕ) (node : Node) :
    ofNode anchors (depth + 1) node = resolve anchors node >>= ofTarget (ofNode anchors depth) := by
  delta ofNode
  refine congrArg (resolve anchors node >>= ·) (funext fun target => ?_)
  cases target <;> rfl

lemma ofNode_zero (anchors : List (ℕ × Node)) (node : Node) :
    ofNode anchors 0 node = resolve anchors node >>= fun target =>
      match target with
      | .scalar properties style content => ofScalar properties.tag style content
      | _ => throw Fault.tooDeep := by
  delta ofNode
  refine congrArg (resolve anchors node >>= ·) (funext fun target => ?_)
  cases target <;> rfl

section
variable {α β : Type} {tag : Option String} {collect : List β → Value} {f f' : α → Read β} {l : List α}

lemma steady_ofItems (h : ∀ a, Steady (f a)) : Steady (ofItems tag collect f l) :=
  (steady_lift _).bind fun _ => (steady_mapM fun _ _ => h _).bind fun _ => steady_pure _

lemma takes_ofItems_iff (h : ∀ a, Steady (f a)) : Takes (ofItems tag collect f l) value cost ↔
    checkTag tag = .ok () ∧
    ∃ results : List (β × ℕ), List.Forall₂ (fun a r => Takes (f a) r.1 r.2) l results ∧
      value = collect (results.map (·.1)) ∧ cost = (results.map (·.2)).sum := by
  rw [ofItems, takes_bind_iff (steady_lift _) fun _ => (steady_mapM fun _ _ => h _).bind fun _ =>
    steady_pure _]
  simp only [takes_bind_iff (steady_mapM fun _ _ => h _) fun _ => steady_pure _,
    takes_mapM_iff fun _ _ => h _, takes_lift_iff, takes_pure_iff]
  constructor
  · rintro ⟨_, _, _, ⟨htag, rfl⟩, ⟨_, _, _, ⟨results, hresults, rfl, rfl⟩, ⟨rfl, rfl⟩, rfl⟩, rfl⟩
    exact ⟨htag, results, hresults, rfl, by omega⟩
  · rintro ⟨htag, results, hresults, rfl, rfl⟩
    exact ⟨_, _, _, ⟨htag, rfl⟩, ⟨_, _, _, ⟨results, hresults, rfl, rfl⟩, ⟨rfl, rfl⟩, rfl⟩, by omega⟩

lemma Takes.ofItems (h : Takes (ofItems tag collect f l) value cost) (hf : ∀ a, Steady (f a))
    (hf' : ∀ a, Steady (f' a)) (hsame : ∀ a ∈ l, ∀ b cost, Takes (f a) b cost →
      Takes (f' a) b cost) : Takes (ofItems tag collect f' l) value cost := by
  obtain ⟨htag, results, hresults, rfl, rfl⟩ := (takes_ofItems_iff hf).mp h
  refine (takes_ofItems_iff hf').mpr ⟨htag, results, ?_, rfl, rfl⟩
  refine ((List.forall₂_and_left _ _).mpr ⟨fun _ hmem => hmem, hresults⟩).imp ?_
  rintro a r ⟨hmem, ha⟩
  exact hsame a hmem _ _ ha

end

section
variable {read read' : Node → Read Value} {entry : Node × Node} {pair : Value × Value}

lemma steady_ofEntry (h : ∀ node, Steady (read node)) (entry : Node × Node) :
    Steady (ofEntry read entry) :=
  (h _).bind fun _ => (h _).bind fun _ => steady_pure _

lemma takes_ofEntry_iff (h : ∀ node, Steady (read node)) : Takes (ofEntry read entry) pair cost ↔
    ∃ c d, Takes (read entry.1) pair.1 c ∧ Takes (read entry.2) pair.2 d ∧ cost = c + d := by
  rw [ofEntry, takes_bind_iff (h _) fun _ => (h _).bind fun _ => steady_pure _]
  simp only [takes_bind_iff (h _) fun _ => steady_pure _, takes_pure_iff]
  constructor
  · rintro ⟨_, c, _, hkey, ⟨_, d, _, hvalue, ⟨rfl, rfl⟩, rfl⟩, rfl⟩
    exact ⟨c, _, hkey, hvalue, rfl⟩
  · rintro ⟨c, d, hkey, hvalue, rfl⟩
    exact ⟨_, c, _, hkey, ⟨_, d, _, hvalue, ⟨rfl, rfl⟩, rfl⟩, rfl⟩

lemma steady_ofTarget (h : ∀ node, Steady (read node)) (target : Node) :
    Steady (ofTarget read target) := by
  cases target with
  | scalar properties style content => exact steady_lift _
  | sequence properties items => exact steady_ofItems h
  | mapping properties entries => exact steady_ofItems (steady_ofEntry h)
  | reference id => exact steady_throw _

lemma steady_ofNode (anchors : List (ℕ × Node)) (depth : ℕ) (node : Node) :
    Steady (ofNode anchors depth node) := by
  induction depth generalizing node with
  | zero =>
    rw [ofNode_zero]
    refine (steady_resolve anchors node).bind fun target => ?_
    cases target with
    | scalar properties style content => exact steady_lift _
    | _ => exact steady_throw _
  | succ depth ih =>
    rw [ofNode_succ]
    exact (steady_resolve anchors node).bind fun target => steady_ofTarget ih target

lemma Takes.ofTarget (h : Takes (ofTarget read target) value cost) (hread : ∀ node, Steady (read node))
    (hread' : ∀ node, Steady (read' node))
    (hchildren : ∀ child ∈ target.children, ∀ value cost, Takes (read child) value cost →
      Takes (read' child) value cost) :
    Takes (ofTarget read' target) value cost := by
  cases target with
  | scalar properties style content => exact h
  | sequence properties items => exact Takes.ofItems h hread hread' hchildren
  | mapping properties entries =>
    refine Takes.ofItems h (steady_ofEntry hread)
      (steady_ofEntry hread') fun entry hentry pair cost hpair => ?_
    have hchild : ∀ child ∈ [entry.1, entry.2], child ∈ (Node.mapping properties entries).children :=
      fun child hchild => List.mem_flatMap.mpr ⟨entry, hentry, hchild⟩
    obtain ⟨c, d, hkey, hvalue, hcost⟩ := (takes_ofEntry_iff hread).mp hpair
    refine (takes_ofEntry_iff hread').mpr ⟨c, d, ?_, ?_, hcost⟩
    · exact hchildren _ (hchild _ (by simp)) _ _ hkey
    · exact hchildren _ (hchild _ (by simp)) _ _ hvalue
  | reference id => exact h

end

lemma takes_ofNode_zero_iff : Takes (ofNode anchors 0 node) value cost ↔
    ∃ properties style content, Resolves anchors node (.scalar properties style content) cost ∧
      ofScalar properties.tag style content = .ok value := by
  have hsteady (target : Node) : Steady (match target with
      | .scalar properties style content => ofScalar properties.tag style content
      | _ => throw Fault.tooDeep) := by
    cases target with
    | scalar properties style content => exact steady_lift _
    | _ => exact steady_throw _
  rw [ofNode_zero, takes_bind_iff (steady_resolve _ _) hsteady]
  simp only [takes_resolve_iff]
  constructor
  · rintro ⟨target, c, d, hresolves, htakes, rfl⟩
    cases target with
    | scalar properties style content =>
      obtain ⟨hscalar, rfl⟩ := takes_lift_iff.mp htakes
      exact ⟨properties, style, content, hresolves, hscalar⟩
    | _ => exact nomatch htakes 0
  · rintro ⟨properties, style, content, hresolves, hscalar⟩
    exact ⟨_, _, 0, hresolves, takes_lift_iff.mpr ⟨hscalar, rfl⟩, rfl⟩

lemma takes_ofNode_succ_iff : Takes (ofNode anchors (depth + 1) node) value cost ↔
    ∃ target c d, Resolves anchors node target c ∧
      Takes (ofTarget (ofNode anchors depth) target) value d ∧ cost = c + d := by
  rw [ofNode_succ, takes_bind_iff (steady_resolve _ _) (steady_ofTarget (steady_ofNode anchors depth))]
  simp only [takes_resolve_iff]

lemma takes_ofNode_own_iff (hown : ∀ id, node ≠ .reference id) :
    Takes (ofNode anchors (depth + 1) node) value cost ↔
    Takes (ofTarget (ofNode anchors depth) node) value cost := by
  rw [takes_ofNode_succ_iff]
  constructor
  · rintro ⟨target, c, d, hlookup | _, htakes, rfl⟩
    · exact absurd rfl (hown _)
    · rwa [Nat.zero_add]
  · exact fun h => ⟨node, 0, cost, .own hown, h, (Nat.zero_add cost).symm⟩

lemma Takes.deeper (h : Takes (ofNode anchors depth node) value cost) (hdepth : depth ≤ depth') :
    Takes (ofNode anchors depth' node) value cost := by
  have hstep : ∀ depth node value cost, Takes (ofNode anchors depth node) value cost →
      Takes (ofNode anchors (depth + 1) node) value cost := by
    intro depth
    induction depth with
    | zero =>
      -- At the bottom there are only scalars, which need no depth.
      intro node value cost h
      obtain ⟨properties, style, content, hresolves, hscalar⟩ := takes_ofNode_zero_iff.mp h
      exact takes_ofNode_succ_iff.mpr ⟨_, _, 0, hresolves, takes_lift_iff.mpr ⟨hscalar, rfl⟩, rfl⟩
    | succ depth ih =>
      intro node value cost h
      obtain ⟨target, c, d, hresolves, htarget, hcost⟩ := takes_ofNode_succ_iff.mp h
      exact takes_ofNode_succ_iff.mpr ⟨target, c, d, hresolves,
        htarget.ofTarget (steady_ofNode _ _) (steady_ofNode _ _) fun child _ => ih child, hcost⟩
  induction hdepth with
  | refl => exact h
  | step _ ih => exact hstep _ _ _ _ ih

lemma Takes.of_closed (h : Takes (ofNode anchors depth node) value cost) (hclosed : node.Closed) :
    Takes (ofNode anchors' depth node) value cost := by
  have hresolves : ∀ {node target : Node} {c : ℕ}, node.Closed → Resolves anchors node target c →
      target.Closed ∧ Resolves anchors' node target c := by
    rintro node target c hclosed (hlookup | hown)
    · obtain ⟨hown, _⟩ := hclosed
      exact absurd rfl (hown _)
    · exact ⟨hclosed, .own hown⟩
  induction depth generalizing node value cost with
  | zero =>
    obtain ⟨properties, style, content, hscalar, hvalue⟩ := takes_ofNode_zero_iff.mp h
    exact takes_ofNode_zero_iff.mpr ⟨properties, style, content, (hresolves hclosed hscalar).2, hvalue⟩
  | succ depth ih =>
    obtain ⟨target, c, d, htarget, hvalue, hcost⟩ := takes_ofNode_succ_iff.mp h
    obtain ⟨⟨_, hchildren⟩, htarget'⟩ := hresolves hclosed htarget
    exact takes_ofNode_succ_iff.mpr ⟨target, c, d, htarget',
      hvalue.ofTarget (steady_ofNode _ _) (steady_ofNode _ _) fun child hchild _ _ h =>
        ih h (hchildren child hchild), hcost⟩

end Value

end Compliance.Yaml
