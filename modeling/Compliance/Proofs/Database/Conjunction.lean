import Compliance.Proofs.Database.Violations
import Compliance.Proofs.Query.Building

/-! A query with several conditions: it is filtered by their conjunction, and every literal stands
in its own condition. -/

namespace Compliance.Database

open Query (Predicate Subject filterExpr)
open Result
open Rule (Literal)
open Sql (Expr Token)

def conjoined : List Term → Term
  | [] => .literal (.boolean true)
  | t :: ts => ts.foldl .and t

/-- The filter with the literals in the places of their numbers is the conjunction of the
conditions, each with its own literals. It has a value wherever all of them have one, and is true of
the rows that fulfil them all. -/
structure Conjoins (predicates : List Predicate) (binds : List Literal) (filter : Expr) : Prop where
  term : ∀ relation columns, Term.ofExpr ⟨relation, columns, binds⟩ filter =
    (predicates.mapM (ownTerm relation columns)).map fun terms => (conjoined (terms.map (·.1)), .boolean)
  value : ∀ relation columns term row, Term.ofExpr ⟨relation, columns, binds⟩ filter = .ok term →
    ((∃ w, term.1.value row = .ok w) ↔
      ∀ p ∈ predicates, ∃ own w, ownTerm relation columns p = .ok own ∧ own.1.value row = .ok w)
  fulfilled : ∀ relation columns term row w, Term.ofExpr ⟨relation, columns, binds⟩ filter = .ok term →
    List.Forall₂ (fun column v => v.Fits column.type) columns row → term.1.value row = .ok w →
    (w = .boolean true ↔ ∀ p ∈ predicates, fulfils columns row p)

variable {relation : String} {columns : List Column} {p : Predicate} {ps : List Predicate}
  {row : List Value}

section
variable (before after : List Literal)

lemma ofExpr_placeholder (literal : Literal) :
    Term.ofExpr ⟨relation, columns, before ++ literal :: after⟩ (.placeholder before.length) =
      Term.ofExpr ⟨relation, columns, [literal]⟩ (.placeholder 0) := by
  rw [Term.ofExpr, Term.ofExpr, List.getElem?_append_right le_rfl, Nat.sub_self]
  rfl

lemma ofExpr_slot (p : Predicate) :
    Term.ofExpr ⟨relation, columns, before ++ (p.binds ++ after)⟩ (p.expr before.length) =
      ownTerm relation columns p := by
  have hslot := @ofExpr_placeholder relation columns before after
  rw [ownTerm]
  cases p with
  | compare column operator literal =>
    rw [Predicate.expr, Predicate.binds, List.singleton_append, Term.ofExpr, hslot]
    rfl
  | blank column => rfl
  | daysExceed start finish days =>
    rw [Predicate.expr, Predicate.binds, List.singleton_append, Term.ofExpr, hslot, Term.ofExpr]
    rfl
  | notMatching column regex =>
    rw [Predicate.expr, Predicate.binds, List.singleton_append, Term.ofExpr, Term.ofExpr, hslot]
    rfl

end

lemma type_comparison {operator : Rule.Operator} {left right term : Term × ColumnType}
    (h : Term.comparison operator left right = .ok term) : term.2 = .boolean := by
  rw [Term.comparison] at h
  split at h
  next => cases h
  next =>
    obtain ⟨_, _, h⟩ := bind_eq_ok.mp h
    obtain ⟨_, _, h⟩ := bind_eq_ok.mp h
    obtain rfl := Except.ok.inj h
    rfl

lemma type_ownTerm {term : Term × ColumnType} (h : ownTerm relation columns p = .ok term) :
    term.2 = .boolean := by
  cases p with
  | compare | daysExceed =>
    obtain ⟨_, _, h⟩ := bind_eq_ok.mp h
    obtain ⟨_, _, h⟩ := bind_eq_ok.mp h
    exact type_comparison h
  | blank =>
    obtain ⟨_, _, h⟩ := bind_eq_ok.mp h
    obtain ⟨_, _, h⟩ := bind_eq_ok.mp h
    obtain ⟨_, _, h⟩ := bind_eq_ok.mp h
    obtain ⟨_, _, h⟩ := bind_eq_ok.mp h
    obtain rfl := Except.ok.inj h
    rfl
  | notMatching =>
    obtain ⟨_, _, h⟩ := bind_eq_ok.mp h
    obtain ⟨_, _, h⟩ := bind_eq_ok.mp h
    obtain rfl := Except.ok.inj h
    rfl

lemma ofExpr_and {scope : Scope} {left right : Expr}
    (hl : ∀ term, Term.ofExpr scope left = .ok term → term.2 = .boolean)
    (hr : ∀ term, Term.ofExpr scope right = .ok term → term.2 = .boolean) :
    Term.ofExpr scope (.and left right) = Term.ofExpr scope left >>= fun l =>
      Term.ofExpr scope right >>= fun r =>
      .ok (.and l.1 r.1, .boolean) := by
  rw [Term.ofExpr]
  cases hleft : Term.ofExpr scope left with
  | error fault => rfl
  | ok l =>
    rw [ok_bind, ok_bind, Term.condition, if_pos (hl l hleft), ok_bind]
    cases hright : Term.ofExpr scope right with
    | error fault => rfl
    | ok r =>
      rw [ok_bind, ok_bind, Term.condition, if_pos (hr r hright), ok_bind]
      rfl

lemma ofExpr_filterExpr {before : List Literal} {e : Expr}
    (he : ∀ term, Term.ofExpr ⟨relation, columns, before ++ ps.flatMap Predicate.binds⟩ e =
      .ok term → term.2 = .boolean) :
    Term.ofExpr ⟨relation, columns, before ++ ps.flatMap Predicate.binds⟩
      (filterExpr before.length e ps) =
      Term.ofExpr ⟨relation, columns, before ++ ps.flatMap Predicate.binds⟩ e >>= fun first =>
        (ps.mapM (ownTerm relation columns)).map fun terms =>
          ((terms.map (·.1)).foldl .and first.1, .boolean) := by
  -- the literals before are those of the conditions that are joined already
  induction ps generalizing before e with
  | nil =>
    rw [filterExpr]
    cases hfirst : Term.ofExpr ⟨relation, columns, before ++ [].flatMap Predicate.binds⟩ e with
    | error fault => rfl
    | ok first =>
      have htype := he first hfirst
      obtain ⟨t, type⟩ := first
      obtain rfl : type = .boolean := htype
      rfl
  | cons p ps ih =>
    have hbinds : before ++ (p :: ps).flatMap Predicate.binds =
        (before ++ p.binds) ++ ps.flatMap Predicate.binds := by
      rw [List.flatMap_cons, List.append_assoc]
    have hp : Term.ofExpr ⟨relation, columns, (before ++ p.binds) ++ ps.flatMap Predicate.binds⟩
      (p.expr before.length) = ownTerm relation columns p := by
      rw [List.append_assoc]
      exact ofExpr_slot before (ps.flatMap Predicate.binds) p
    rw [hbinds] at he ⊢
    have hand := ofExpr_and he fun term hterm => type_ownTerm (hp.symm.trans hterm)
    have htype : ∀ term,
      Term.ofExpr ⟨relation, columns, (before ++ p.binds) ++ ps.flatMap Predicate.binds⟩
        (.and e (p.expr before.length)) = .ok term → term.2 = .boolean := by
      intro term hterm
      rw [hand] at hterm
      obtain ⟨_, _, hterm⟩ := bind_eq_ok.mp hterm
      obtain ⟨_, _, hterm⟩ := bind_eq_ok.mp hterm
      exact Except.ok.inj hterm ▸ rfl
    rw [filterExpr, ← List.length_append, ih htype, hand, hp]
    cases Term.ofExpr ⟨relation, columns, (before ++ p.binds) ++ ps.flatMap Predicate.binds⟩ e with
    | error fault => rfl
    | ok first =>
      rw [List.mapM_cons, ok_bind, ok_bind]
      cases ownTerm relation columns p with
      | error fault => rfl
      | ok term =>
        rw [ok_bind, ok_bind, ok_bind]
        cases ps.mapM (ownTerm relation columns) <;> rfl

lemma ofExpr_filter : Term.ofExpr ⟨relation, columns, (p :: ps).flatMap Predicate.binds⟩
    (filterExpr p.binds.length (p.expr 0) ps) =
      ((p :: ps).mapM (ownTerm relation columns)).map fun terms =>
        (conjoined (terms.map (·.1)), .boolean) := by
  have hp : Term.ofExpr ⟨relation, columns, p.binds ++ ps.flatMap Predicate.binds⟩ (p.expr 0) =
    ownTerm relation columns p :=
    ofExpr_slot [] (ps.flatMap Predicate.binds) p
  rw [List.flatMap_cons, ofExpr_filterExpr fun term hterm => type_ownTerm (hp.symm.trans hterm), hp,
    List.mapM_cons]
  cases ownTerm relation columns p with
  | error fault => rfl
  | ok term =>
    rw [ok_bind, ok_bind]
    cases ps.mapM (ownTerm relation columns) <;> rfl

lemma conjunction_eq_true {v w : Value} : Term.conjunction v w = .boolean true ↔
    v = .boolean true ∧ w = .boolean true := by
  rw [Term.conjunction.eq_def]
  split <;> grind

lemma foldl_conjunction_eq_true {v : Value} {vs : List Value} :
    vs.foldl Term.conjunction v = .boolean true ↔ v = .boolean true ∧ ∀ w ∈ vs, w = .boolean true := by
  induction vs generalizing v with
  | nil => simp
  | cons w vs ih => rw [List.foldl_cons, ih, conjunction_eq_true, List.forall_mem_cons, and_assoc]

lemma value_foldl_and {t : Term} {ts : List Term} {w : Value} : (ts.foldl .and t).value row = .ok w ↔
    ∃ v vs, t.value row = .ok v ∧ ts.mapM (Term.value row) = .ok vs ∧
      w = vs.foldl Term.conjunction v := by
  induction ts generalizing t with
  | nil =>
    rw [List.foldl_nil, List.mapM_nil]
    constructor
    · intro h
      exact ⟨w, [], h, rfl, rfl⟩
    · rintro ⟨v, vs, hv, hvs, rfl⟩
      obtain rfl := pure_eq_ok.mp hvs
      exact hv
  | cons t' ts ih =>
    rw [List.foldl_cons, ih]
    simp only [Term.value, List.mapM_cons, bind_eq_ok, pure_eq_ok]
    constructor
    · rintro ⟨_, vs, ⟨v, hv, v', hv', rfl⟩, hvs, rfl⟩
      exact ⟨v, v' :: vs, hv, ⟨v', hv', vs, hvs, rfl⟩, rfl⟩
    · rintro ⟨v, _, hv, ⟨v', hv', vs, hvs, rfl⟩, rfl⟩
      exact ⟨_, vs, ⟨v, hv, v', hv', rfl⟩, hvs, rfl⟩

section
variable {t : Term} {ts : List Term} {w : Value}

lemma value_conjoined (h : (conjoined (t :: ts)).value row = .ok w) :
    ∃ vs, List.Forall₂ (fun t v => t.value row = .ok v) (t :: ts) vs ∧
      (w = .boolean true ↔ ∀ v ∈ vs, v = .boolean true) := by
  obtain ⟨v, vs, hv, hvs, rfl⟩ := value_foldl_and.mp h
  refine ⟨v :: vs, .cons hv (mapM_eq_ok.mp hvs), ?_⟩
  rw [foldl_conjunction_eq_true, List.forall_mem_cons]

lemma exists_value_conjoined :
    (∃ w, (conjoined (t :: ts)).value row = .ok w) ↔ ∀ t' ∈ t :: ts, ∃ w, t'.value row = .ok w := by
  constructor
  · rintro ⟨w, hw⟩ t' ht'
    obtain ⟨vs, hvs, _⟩ := value_conjoined hw
    obtain ⟨v, _, hv⟩ := ListFacts.exists_right hvs ht'
    exact ⟨v, hv⟩
  · intro h
    obtain ⟨hfirst, hrest⟩ := List.forall_mem_cons.mp h
    obtain ⟨v, hv⟩ := hfirst
    obtain ⟨vs, hvs⟩ := exists_mapM hrest
    exact ⟨_, value_foldl_and.mpr ⟨v, vs, hv, hvs, rfl⟩⟩

end

lemma fulfilled_of_values {predicates : List Predicate} {terms : List (Term × ColumnType)}
    {vs : List Value} (hrow : List.Forall₂ (fun column v => v.Fits column.type) columns row)
    (hterms : List.Forall₂ (fun p t => ownTerm relation columns p = .ok t) predicates terms)
    (hvalues : List.Forall₂ (fun t v => t.value row = .ok v) (terms.map (·.1)) vs) :
    (∀ v ∈ vs, v = .boolean true) ↔ ∀ p ∈ predicates, fulfils columns row p := by
  induction hterms generalizing vs with
  | nil =>
    obtain rfl := List.forall₂_nil_left_iff.mp hvalues
    simp
  | cons hterm _ ih =>
    obtain ⟨v, vs, hv, hvs, rfl⟩ := List.forall₂_cons_left_iff.mp hvalues
    rw [List.forall_mem_cons, List.forall_mem_cons, ih hvs, ownTerm_fulfilled hrow hv hterm]

lemma filter_eq_ok {term : Term × ColumnType}
    (h : Term.ofExpr ⟨relation, columns, (p :: ps).flatMap Predicate.binds⟩
    (filterExpr p.binds.length (p.expr 0) ps) = .ok term) :
    ∃ own owns, List.Forall₂ (fun p t => ownTerm relation columns p = .ok t) (p :: ps) (own :: owns) ∧
      term.1 = conjoined ((own :: owns).map (·.1)) := by
  rw [ofExpr_filter] at h
  obtain ⟨terms, hterms, rfl⟩ := map_eq_ok.mp h
  have hown := mapM_eq_ok.mp hterms
  obtain ⟨own, owns, _, _, rfl⟩ := List.forall₂_cons_left_iff.mp hown
  exact ⟨own, owns, hown, rfl⟩

lemma conjoins_filterExpr (p : Predicate) (ps : List Predicate) :
    Conjoins (p :: ps) ((p :: ps).flatMap Predicate.binds)
      (filterExpr p.binds.length (p.expr 0) ps) where
  term relation columns := ofExpr_filter
  value relation columns term row hterm := by
    obtain ⟨own, owns, hown, hconjoined⟩ := filter_eq_ok hterm
    rw [hconjoined, List.map_cons, exists_value_conjoined, ← List.map_cons, List.forall_mem_map]
    constructor
    · intro h p' hp'
      obtain ⟨t, ht, hterm⟩ := ListFacts.exists_right hown hp'
      obtain ⟨w, hw⟩ := h t ht
      exact ⟨t, w, hterm, hw⟩
    · intro h t ht
      obtain ⟨p', hp', hterm⟩ := ListFacts.exists_left hown ht
      obtain ⟨t', w, hterm', hw⟩ := h p' hp'
      obtain rfl := Except.ok.inj (hterm'.symm.trans hterm)
      exact ⟨w, hw⟩
  fulfilled relation columns term row w hterm hrow hw := by
    obtain ⟨own, owns, hown, hconjoined⟩ := filter_eq_ok hterm
    rw [hconjoined, List.map_cons] at hw
    obtain ⟨vs, hvs, htrue⟩ := value_conjoined hw
    rw [htrue]
    exact fulfilled_of_values hrow hown hvs

/-- With names that have no double quote in them, a query is filtered by the conjunction of the
conditions it was built with, in whatever order and number. Its text has one placeholder for each
literal, and both stand in the order of the conditions, so that each condition takes its own
literals. -/
theorem build_conjoins {subject : Subject} {predicates : List Predicate} (ht : subject.table.IsUnquoted)
    (hc : subject.table.columns ≠ []) (hne : predicates ≠ []) (hp : ∀ p ∈ predicates, p.IsUnquoted) :
    ∃ q tokens query select filter, Query.build subject predicates = .ok q ∧
      q.binds = predicates.flatMap Predicate.binds ∧ Token.read q.sql.toList = .ok tokens ∧
      tokens.countP Token.isPlaceholder = q.binds.length ∧
        tokens.filterMap Token.slot? = List.range q.binds.length ∧
      Sql.readSelect q.sql = .ok query ∧ query.body = .select select ∧ select.filter = some filter ∧
      Conjoins predicates q.binds filter := by
  obtain ⟨p, ps, rfl⟩ := List.exists_cons_of_ne_nil hne
  exact ⟨_, _, _, _, _, Query.build_eq_ok ht hc hp, rfl, Query.read_textOf ht hp,
    Query.placeholders_layout subject.table p ps, Query.slots_layout subject.table p ps,
    Query.readSelect_textOf ht hp hc, rfl, rfl, conjoins_filterExpr p ps⟩

/-! Conditions of all shapes, one without a literal between those with one -/

def mixedPredicates : List Predicate :=
  [.notMatching "mail" "^[^ ]+$", .blank "mail", .compare "age" .less (.text "'; --"),
    .daysExceed "start" "end" (-7), .compare "age" .notEqual (.integer 18)]

def mixedSubject : Subject := ⟨⟨"AND", ["mail", "age", "start", "end"]⟩, "mail"⟩

theorem build_conjoins_mixedPredicates :
    ∃ q tokens query select filter, Query.build mixedSubject mixedPredicates = .ok q ∧
      q.binds = [.text "^[^ ]+$", .text "'; --", .integer (-7), .integer 18] ∧
        Token.read q.sql.toList = .ok tokens ∧
      tokens.filterMap Token.slot? = [0, 1, 2, 3] ∧ Sql.readSelect q.sql = .ok query ∧
        query.body = .select select ∧
      select.filter = some filter ∧ Conjoins mixedPredicates q.binds filter := by
  have ht : mixedSubject.table.IsUnquoted := by
    unfold TableSchema.IsUnquoted
    decide +kernel
  have hp : ∀ p ∈ mixedPredicates, p.IsUnquoted := by
    unfold Query.Predicate.IsUnquoted
    decide +kernel
  obtain ⟨q, tokens, query, select, filter, hq, hbinds, htokens, _, hslots, hrest⟩ :=
    build_conjoins ht (by decide) (by decide) hp
  have hcount : q.binds.length = 4 := by
    rw [hbinds]
    rfl
  rw [hcount] at hslots
  exact ⟨q, tokens, query, select, filter, hq, hbinds, htokens, hslots, hrest⟩

end Compliance.Database
