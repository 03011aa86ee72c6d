import Compliance.Proofs.Yaml.Reading
import Compliance.Proofs.Rule.Import

/-! The records of a document are read each by itself, if there is a JSON value for every one of them. -/

namespace Compliance.Yaml

open Result Value

namespace Value

variable {anchors anchors' : List (ℕ × Node)} {depth depth' cost cost' : ℕ} {node : Node}
  {value : Value} {record record' : Json}

lemma itemsToJson?_eq_some {items : List Value} {records : List Json} :
    itemsToJson? items = some records ↔
      List.Forall₂ (fun value record => value.toJson? = some record) items records := by
  induction items generalizing records with
  | nil => simp [itemsToJson?, List.forall₂_nil_left_iff, eq_comm]
  | cons value items ih =>
    rw [List.forall₂_cons_left_iff]
    simp only [itemsToJson?, Option.bind_eq_bind, Option.bind_eq_some_iff, Option.pure_def,
      Option.some.injEq, ih]
    grind

lemma exists_toJson?_of_entries {entries : List (Value × Value)} {fields : List (String × Json)}
    (h : entriesToJson? entries = some fields) {entry : Value × Value} (hentry : entry ∈ entries) :
    (∃ name, entry.1 = .text name) ∧ ∃ record, entry.2.toJson? = some record := by
  induction entries generalizing fields with
  | nil => cases hentry
  | cons first entries ih =>
    obtain ⟨key, value⟩ := first
    cases key with
    | text name =>
      simp only [entriesToJson?, Option.bind_eq_bind, Option.bind_eq_some_iff] at h
      obtain ⟨record, hrecord, rest, hrest, _⟩ := h
      rcases List.mem_cons.mp hentry with rfl | hentry
      · exact ⟨⟨name, rfl⟩, record, hrecord⟩
      · exact ih hrest hentry
    | _ => cases h

def Yields (anchors : List (ℕ × Node)) (depth : ℕ) (node : Node) (record : Json) (cost : ℕ) : Prop :=
  ∃ value, Takes (ofNode anchors depth node) value cost ∧ value.toJson? = some record

lemma Yields.unique (h : Yields anchors depth node record cost)
    (h' : Yields anchors depth' node record' cost') :
    record = record' := by
  obtain ⟨value, htakes, hrecord⟩ := h
  obtain ⟨value', htakes', hrecord'⟩ := h'
  obtain ⟨rfl, _⟩ :=
    (htakes.deeper (Nat.le_max_left depth depth')).unique
      (htakes'.deeper (Nat.le_max_right depth depth'))
  exact Option.some.inj (hrecord.symm.trans hrecord')

lemma Yields.same (h : Yields anchors depth node record cost)
    (h' : Yields anchors' depth' node record' cost') (hsame : anchors' = anchors ∨ node.Closed) :
    record = record' := by
  obtain ⟨value, htakes, hrecord⟩ := h
  rcases hsame with rfl | hclosed
  · exact Yields.unique ⟨value, htakes, hrecord⟩ h'
  · exact Yields.unique ⟨value, htakes.of_closed hclosed, hrecord⟩ h'

lemma map_yields_same {nodes : List Node} {yields yields' : List (Json × ℕ)}
    (h : List.Forall₂ (fun node r => Yields anchors depth node r.1 r.2) nodes yields)
    (h' : List.Forall₂ (fun node r => Yields anchors' depth' node r.1 r.2) nodes yields')
    (hsame : anchors' = anchors ∨ ∀ node ∈ nodes, node.Closed) :
    yields.map (·.1) = yields'.map (·.1) := by
  induction h generalizing yields' with
  | nil => rw [List.forall₂_nil_left_iff.mp h']
  | @cons node r nodes yields hr _ ih =>
    obtain ⟨r', rest', hr', hrest', rfl⟩ := List.forall₂_cons_left_iff.mp h'
    have hnode : anchors' = anchors ∨ node.Closed :=
      hsame.imp_right fun h => h node (List.mem_cons_self ..)
    have hrest := ih hrest' (hsame.imp_right fun h node hmem => h node (List.mem_cons_of_mem _ hmem))
    rw [List.map_cons, List.map_cons, hr.same hr' hnode, hrest]

lemma exists_yields_iff {nodes : List Node} {records : List Json} :
    (∃ results : List (Value × ℕ),
      List.Forall₂ (fun node r => Takes (ofNode anchors depth node) r.1 r.2) nodes results ∧
      itemsToJson? (results.map (·.1)) = some records ∧ cost = (results.map (·.2)).sum) ↔
    ∃ yields : List (Json × ℕ),
      List.Forall₂ (fun node r => Yields anchors depth node r.1 r.2) nodes yields ∧
      records = yields.map (·.1) ∧ cost = (yields.map (·.2)).sum := by
  simp only [itemsToJson?_eq_some, List.forall₂_map_left_iff]
  constructor
  · rintro ⟨results, hresults, hrecords, rfl⟩
    induction hresults generalizing records with
    | nil =>
      obtain rfl := List.forall₂_nil_left_iff.mp hrecords
      exact ⟨[], .nil, rfl, rfl⟩
    | @cons node result nodes results hresult _ ih =>
      obtain ⟨record, rest, hrecord, hrest, rfl⟩ := List.forall₂_cons_left_iff.mp hrecords
      obtain ⟨yields, hyields, rfl, hcost⟩ := ih hrest
      exact ⟨(record, result.2) :: yields, .cons ⟨result.1, hresult, hrecord⟩ hyields,
        rfl, by simp [hcost]⟩
  · rintro ⟨yields, hyields, rfl, rfl⟩
    induction hyields with
    | nil => exact ⟨[], .nil, .nil, rfl⟩
    | @cons node result nodes yields hresult _ ih =>
      obtain ⟨value, htakes, hrecord⟩ := hresult
      obtain ⟨results, hresults, hrecords, hcost⟩ := ih
      exact ⟨(value, result.2) :: results, .cons htakes hresults,
        .cons hrecord hrecords, by simp [hcost]⟩

end Value

lemma Document.value_eq_ok_iff {document : Document} {node : Node} {value : Value}
    (hroot : document.root = some node) :
    document.value = .ok value ↔
      ∃ cost ≤ document.aliasLimit, Takes (ofNode document.anchors maxDepth node) value cost := by
  rw [Document.value, hroot, ← (steady_ofNode document.anchors maxDepth node).exists_run_iff]
  change ((ofNode document.anchors maxDepth node).run document.aliasLimit).map (·.1) = _ ↔ _
  rw [map_eq_ok]
  simp

end Compliance.Yaml

namespace Compliance.Rule.Document

open Result Yaml Value

variable {key value : Value} {entries : List (Value × Value)} {records found : List Json}

/-- A key that stands beside the rules: another name, or a number that is not their position. -/
def IsBeside (key : Value) : Prop :=
  (∃ name, key = .text name ∧ name ≠ "rules") ∨ ∃ n, key = .int n ∧ 0 < n

def isRules? : Value → Option Bool
  | .text name => some (name = "rules")
  | .int n => if 0 ≤ n then some (n = 0) else none
  | _ => none

lemma rulesIn_cons (found : Option (List Json)) (key value : Value) (entries : List (Value × Value)) :
    rulesIn found ((key, value) :: entries) =
      match isRules? key, found, value with
      | some false, _, _ => rulesIn found entries
      | some true, none, .list items => do rulesIn (some (← itemsToJson? items)) entries
      | _, _, _ => none := by
  delta rulesIn
  rfl

lemma isRules?_eq_some_false_iff : isRules? key = some false ↔ IsBeside key := by
  rw [IsBeside]
  cases key with
  | text name => simp [isRules?]
  | int n =>
    simp only [isRules?, Option.ite_none_right_eq_some, Option.some.injEq, decide_eq_false_iff_not,
      reduceCtorEq, false_and, exists_false, false_or, int.injEq, exists_eq_left']
    omega
  | _ => simp [isRules?]

lemma rulesIn_beside (hkey : IsBeside key) (found : Option (List Json)) (value : Value)
    (entries : List (Value × Value)) :
    rulesIn found ((key, value) :: entries) = rulesIn found entries := by
  rw [rulesIn_cons, isRules?_eq_some_false_iff.mpr hkey]

lemma rulesIn_found (hkey : ¬ IsBeside key) (value : Value) : rulesIn (some found)
    ((key, value) :: entries) = none := by
  rw [← isRules?_eq_some_false_iff] at hkey
  rw [rulesIn_cons]
  cases h : isRules? key with
  | none => rfl
  | some yes =>
    cases yes with
    | true => rfl
    | false => exact absurd h hkey

lemma rulesIn_some_iff : rulesIn (some found) entries = some records ↔
    (∀ entry ∈ entries, IsBeside entry.1) ∧ records = found := by
  induction entries with
  | nil => simp [rulesIn, eq_comm]
  | cons entry entries ih =>
    obtain ⟨key, value⟩ := entry
    rw [List.forall_mem_cons]
    by_cases hkey : IsBeside key
    · rw [rulesIn_beside hkey, ih, and_iff_right hkey]
    · rw [rulesIn_found hkey]
      exact iff_of_false (by simp) fun h => hkey h.1.1

lemma not_isBeside_rules : ¬ IsBeside (.text "rules") := by
  rw [← isRules?_eq_some_false_iff]
  simp [isRules?]

lemma rulesIn_eq_some_iff {before after : List (Value × Value)} {items : List Value} :
    rulesIn none (before ++ (.text "rules", .list items) :: after) = some records ↔
      (∀ entry ∈ before ++ after, IsBeside entry.1) ∧ itemsToJson? items = some records := by
  induction before with
  | nil =>
    rw [List.nil_append, List.nil_append, rulesIn_cons]
    simp only [isRules?, decide_true, Option.bind_eq_bind, Option.bind_eq_some_iff, rulesIn_some_iff]
    grind
  | cons entry before ih =>
    obtain ⟨key, value⟩ := entry
    rw [List.cons_append, List.cons_append, List.forall_mem_cons]
    by_cases hkey : IsBeside key
    · rw [rulesIn_beside hkey, ih, and_iff_right hkey]
    · refine iff_of_false (fun h => ?_) fun h => hkey h.1.1
      -- Two lists are not told apart, whichever key comes first.
      rw [rulesIn_cons] at h
      split at h
      · next hbeside => exact hkey (isRules?_eq_some_false_iff.mp hbeside)
      · obtain ⟨found, _, h⟩ := Option.bind_eq_some_iff.mp h
        exact not_isBeside_rules
          ((rulesIn_some_iff.mp h).1 _ (List.mem_append_right _ (List.mem_cons_self ..)))
      · cases h

lemma ofValue_list_iff {items : List Value} {read : List Entry} : ofValue (.list items) = .ok read ↔
    ∃ records, itemsToJson? items = some records ∧ read = Entry.ofRecords records := by
  rw [ofValue, records?]
  cases itemsToJson? items <;> simp [eq_comm]

lemma ofValue_mapping_iff {before after : List (Value × Value)} {items : List Value} {read : List Entry}
    (hothers : ∀ entry ∈ before ++ after, entry.1 ≠ .text "rules") :
    ofValue (.mapping (before ++ (.text "rules", .list items) :: after)) = .ok read ↔
      (∀ entry ∈ before ++ after, IsBeside entry.1) ∧
        ∃ records, itemsToJson? items = some records ∧ read = Entry.ofRecords records := by
  rw [ofValue, records?]
  cases hrules : rulesIn none (before ++ (.text "rules", .list items) :: after) with
  | some records =>
    obtain ⟨hbeside, hitems⟩ := rulesIn_eq_some_iff.mp hrules
    rw [and_iff_right hbeside, hitems]
    simp [eq_comm]
  | none =>
    -- A mapping that is one record has names for keys and JSON under them, so that its rules would
    -- have been found.
    have hnone : (Value.mapping (before ++ (.text "rules", .list items) :: after)).toJson? = none := by
      rw [toJson?, Option.map_eq_none_iff]
      by_contra hsome
      obtain ⟨fields, hfields⟩ := Option.ne_none_iff_exists'.mp hsome
      obtain ⟨_, record, hrecord⟩ :=
        exists_toJson?_of_entries hfields (List.mem_append_right _ (List.mem_cons_self ..))
      rw [toJson?, Option.map_eq_some_iff] at hrecord
      obtain ⟨records, hrecords, _⟩ := hrecord
      refine absurd hrules (Option.ne_none_iff_exists'.mpr ⟨records,
        rulesIn_eq_some_iff.mpr ⟨fun entry hentry => ?_, hrecords⟩⟩)
      have hmem : entry ∈ before ++ (.text "rules", .list items) :: after := by
        rcases List.mem_append.mp hentry with h | h
        · exact List.mem_append_left _ h
        · exact List.mem_append_right _ (List.mem_cons_of_mem _ h)
      obtain ⟨⟨name, hname⟩, _⟩ := exists_toJson?_of_entries hfields hmem
      exact .inl ⟨name, hname, fun heq => hothers entry hentry (heq ▸ hname)⟩
    rw [hnone]
    refine iff_of_false (by simp) ?_
    rintro ⟨hbeside, records, hrecords, _⟩
    cases hrules.symm.trans (rulesIn_eq_some_iff.mpr ⟨hbeside, hrecords⟩)

/-- The nodes that a document lists, how deep each may go, and all else that has to be read with
them: entries beside the list, the properties of the collections around it, and aliases. -/
structure Listing where
  nodes : List Node
  depth : ℕ
  beside : List (Node × Node)
  properties : List Properties
  aliases : ℕ

/-- A document is a list itself, or it is a mapping that has the list, or an alias for it, under the
name of the rules and under no other key of that name. -/
inductive Listing.Of (document : Yaml.Document) : Listing → Prop
  | list {properties : Properties} {nodes : List Node}
    (hroot : document.root = some (.sequence properties nodes)) :
    Of document ⟨nodes, maxDepth - 1, [], [properties], 0⟩
  | rules {outer inner : Properties} {before after : List (Node × Node)} {key listed : Node}
    {nodes : List Node} {c d : ℕ}
    (hroot : document.root = some (.mapping outer (before ++ (key, listed) :: after)))
    (hkey : Takes (ofNode document.anchors (maxDepth - 1) key) (.text "rules") c)
    (hlisted : Resolves document.anchors listed (.sequence inner nodes) d)
    (hothers : ∀ entry ∈ before ++ after, ∀ c,
      ¬ Takes (ofNode document.anchors (maxDepth - 1) entry.1) (.text "rules") c) :
    Of document ⟨nodes, maxDepth - 2, before ++ after, [outer, inner], c + d⟩

structure Listing.Readable (document : Yaml.Document) (listing : Listing)
    (yields : List (Json × ℕ)) : Prop where
  nodes : List.Forall₂ (fun node r => Yields document.anchors listing.depth node r.1 r.2)
    listing.nodes yields
  tags : ∀ properties ∈ listing.properties, checkTag properties.tag = .ok ()
  around : ∃ others : List ((Value × Value) × ℕ),
    List.Forall₂ (fun entry r =>
      Takes (ofEntry (ofNode document.anchors (maxDepth - 1)) entry) r.1 r.2) listing.beside others ∧
    (∀ r ∈ others, IsBeside r.1.1) ∧
    listing.aliases + (yields.map (·.2)).sum + (others.map (·.2)).sum ≤ document.aliasLimit

section
variable {text text' : String} {document document' : Yaml.Document} {listing listing' : Listing}
  {read read' : List Entry} {outer inner : Properties} {before after : List (Node × Node)}
    {key listed : Node} {nodes : List Node}
  {anchors : List (ℕ × Node)} {depth c d cost : ℕ}

lemma ofText_eq_ok_iff (hparse : Yaml.Document.ofText text = .ok document) :
    ofText text = .ok read ↔ ∃ value, document.value = .ok value ∧ ofValue value = .ok read := by
  rw [ofText, hparse, ok_bind, bind_eq_ok]

lemma takes_listed_iff {value : Value} (hlisted : Resolves anchors listed (.sequence inner nodes) d) :
    Takes (ofNode anchors (depth + 1) listed) value cost ↔ checkTag inner.tag = .ok () ∧
      ∃ results : List (Value × ℕ),
        List.Forall₂ (fun node r => Takes (ofNode anchors depth node) r.1 r.2) nodes results ∧
        value = .list (results.map (·.1)) ∧ cost = d + (results.map (·.2)).sum := by
  rw [takes_ofNode_succ_iff]
  constructor
  · rintro ⟨target, c, e, hresolves, htarget, rfl⟩
    obtain ⟨rfl, rfl⟩ := (takes_resolve_iff.mpr hresolves).unique (takes_resolve_iff.mpr hlisted)
    obtain ⟨htag, results, hresults, rfl, rfl⟩ := (takes_ofItems_iff (steady_ofNode _ _)).mp htarget
    exact ⟨htag, results, hresults, rfl, rfl⟩
  · rintro ⟨htag, results, hresults, rfl, rfl⟩
    exact ⟨_, d, _, hlisted, (takes_ofItems_iff (steady_ofNode _ _)).mpr ⟨htag, results, hresults,
      rfl, rfl⟩, rfl⟩

lemma takes_rules_iff {value : Value} (hkey : Takes (ofNode anchors (depth + 1) key) (.text "rules") c)
    (hlisted : Resolves anchors listed (.sequence inner nodes) d) :
    Takes (ofNode anchors (depth + 2) (.mapping outer (before ++ (key, listed) :: after))) value cost ↔
      checkTag outer.tag = .ok () ∧ checkTag inner.tag = .ok () ∧
        ∃ (r₁ r₂ : List ((Value × Value) × ℕ)) (results : List (Value × ℕ)),
          List.Forall₂ (fun entry r =>
            Takes (ofEntry (ofNode anchors (depth + 1)) entry) r.1 r.2) before r₁ ∧
          List.Forall₂ (fun entry r =>
            Takes (ofEntry (ofNode anchors (depth + 1)) entry) r.1 r.2) after r₂ ∧
          List.Forall₂ (fun node r => Takes (ofNode anchors depth node) r.1 r.2) nodes results ∧
          value = .mapping (r₁.map (·.1) ++ (.text "rules", .list (results.map (·.1))) :: r₂.map (·.1)) ∧
          cost = c + d + (results.map (·.2)).sum + ((r₁ ++ r₂).map (·.2)).sum := by
  have hsteady := steady_ofNode anchors (depth + 1)
  rw [takes_ofNode_own_iff (by simp), ofTarget, takes_ofItems_iff (steady_ofEntry hsteady)]
  refine and_congr_right fun _ => ?_
  constructor
  · rintro ⟨results, hresults, rfl, rfl⟩
    obtain ⟨r₁, ⟨⟨found, value⟩, e⟩, r₂, hbefore, hentry, hafter, rfl⟩ :=
      ListFacts.forall₂_append_cons_iff.mp hresults
    obtain ⟨c', d', hfound, hvalue, rfl⟩ := (takes_ofEntry_iff hsteady).mp hentry
    obtain ⟨rfl, rfl⟩ := hkey.unique hfound
    obtain ⟨htag, items, hitems, rfl, rfl⟩ := (takes_listed_iff hlisted).mp hvalue
    refine ⟨htag, r₁, r₂, items, hbefore, hafter, hitems, by simp, ?_⟩
    simp only [List.map_append, List.map_cons, List.sum_append, List.sum_cons]
    omega
  · rintro ⟨htag, r₁, r₂, items, hbefore, hafter, hitems, rfl, rfl⟩
    have hvalue : Takes (ofNode anchors (depth + 1) listed) _ _ :=
      (takes_listed_iff hlisted).mpr ⟨htag, items, hitems, rfl, rfl⟩
    have hentry : Takes (ofEntry (ofNode anchors (depth + 1)) (key, listed))
      (.text "rules", .list (items.map (·.1)))
        (c + (d + (items.map (·.2)).sum)) := (takes_ofEntry_iff hsteady).mpr ⟨c, _, hkey, hvalue, rfl⟩
    refine ⟨_, ListFacts.forall₂_append_cons_iff.mpr ⟨r₁, (_, _), r₂, hbefore, hentry, hafter,
      rfl⟩, by simp, ?_⟩
    simp only [List.map_append, List.map_cons, List.sum_append, List.sum_cons]
    omega

lemma ofText_list_iff {properties : Properties} (hparse : Yaml.Document.ofText text = .ok document)
    (hroot : document.root = some (.sequence properties nodes)) :
    ofText text = .ok read ↔
      ∃ yields, Listing.Readable document ⟨nodes, maxDepth - 1, [], [properties], 0⟩ yields ∧
      read = Entry.ofRecords (yields.map (·.1)) := by
  have hown : Resolves document.anchors (.sequence properties nodes)
    (.sequence properties nodes) 0 := .own (by simp)
  rw [ofText_eq_ok_iff hparse]
  constructor
  · rintro ⟨value, hvalue, hread⟩
    obtain ⟨cost, hcost, htakes⟩ := (Document.value_eq_ok_iff hroot).mp hvalue
    obtain ⟨htag, results, hresults, rfl, rfl⟩ := (takes_listed_iff hown).mp htakes
    obtain ⟨records, hrecords, rfl⟩ := ofValue_list_iff.mp hread
    obtain ⟨yields, hyields, rfl, hsum⟩ := exists_yields_iff.mp ⟨results, hresults, hrecords, rfl⟩
    exact ⟨yields, ⟨hyields, by simpa using htag, [], .nil, by simp, by simp; omega⟩, rfl⟩
  · rintro ⟨yields, ⟨hyields, htags, others, _, _, haliases⟩, rfl⟩
    obtain ⟨results, hresults, hrecords, hsum⟩ := exists_yields_iff.mpr ⟨yields, hyields, rfl, rfl⟩
    have htakes :=
      (takes_listed_iff hown).mpr ⟨htags _ (List.mem_singleton_self _), results, hresults, rfl, rfl⟩
    refine ⟨_, (Document.value_eq_ok_iff hroot).mpr ⟨_, ?_, htakes⟩,
      ofValue_list_iff.mpr ⟨_, hrecords, rfl⟩⟩
    simp only at haliases
    omega

lemma ofText_rules_iff (hparse : Yaml.Document.ofText text = .ok document)
    (hroot : document.root = some (.mapping outer (before ++ (key, listed) :: after)))
    (hkey : Takes (ofNode document.anchors (maxDepth - 1) key) (.text "rules") c)
    (hlisted : Resolves document.anchors listed (.sequence inner nodes) d)
    (hothers : ∀ entry ∈ before ++ after, ∀ c,
      ¬ Takes (ofNode document.anchors (maxDepth - 1) entry.1) (.text "rules") c) :
    ofText text = .ok read ↔
      ∃ yields, Listing.Readable document ⟨nodes, maxDepth - 2, before ++ after, [outer, inner],
        c + d⟩ yields ∧
        read = Entry.ofRecords (yields.map (·.1)) := by
  have hsteady := steady_ofNode document.anchors (maxDepth - 1)
  rw [ofText_eq_ok_iff hparse]
  constructor
  · rintro ⟨value, hvalue, hread⟩
    obtain ⟨cost, hcost, htakes⟩ := (Document.value_eq_ok_iff hroot).mp hvalue
    obtain ⟨houter, hinner, r₁, r₂, results, hbefore, hafter, hresults, rfl, rfl⟩ :=
      (takes_rules_iff hkey hlisted).mp htakes
    have hbeside : List.Forall₂ (fun entry r =>
      Takes (ofEntry (ofNode document.anchors (maxDepth - 1)) entry) r.1 r.2)
      (before ++ after) (r₁ ++ r₂) := List.rel_append hbefore hafter
    have hnames : ∀ entry ∈ r₁.map (·.1) ++ r₂.map (·.1), entry.1 ≠ .text "rules" := by
      rw [← List.map_append]
      intro entry hentry hname
      obtain ⟨r, hr, rfl⟩ := List.mem_map.mp hentry
      obtain ⟨node, hnode, htakes⟩ := ListFacts.exists_left hbeside hr
      obtain ⟨e, _, hkey', _⟩ := (takes_ofEntry_iff hsteady).mp htakes
      exact hothers node hnode e (hname ▸ hkey')
    obtain ⟨hharmless, records, hrecords, rfl⟩ := (ofValue_mapping_iff hnames).mp hread
    obtain ⟨yields, hyields, rfl, hsum⟩ := exists_yields_iff.mp ⟨results, hresults, hrecords, rfl⟩
    refine ⟨yields,
      ⟨hyields, by simp [houter, hinner], r₁ ++ r₂, hbeside, fun r hr => ?_, by simp only; omega⟩, rfl⟩
    rw [← List.map_append] at hharmless
    exact hharmless _ (List.mem_map_of_mem hr)
  · rintro ⟨yields, ⟨hyields, htags, others, hbeside, hharmless, haliases⟩, rfl⟩
    obtain ⟨results, hresults, hrecords, hsum⟩ := exists_yields_iff.mpr ⟨yields, hyields, rfl, rfl⟩
    obtain ⟨r₁, r₂, hbefore, hafter, rfl⟩ := ListFacts.forall₂_append_iff.mp hbeside
    have htakes : Takes
      (ofNode document.anchors maxDepth (.mapping outer (before ++ (key, listed) :: after))) _ _ :=
      (takes_rules_iff hkey hlisted).mpr
        ⟨htags outer (by simp), htags inner (by simp), r₁, r₂, results, hbefore, hafter, hresults,
          rfl, rfl⟩
    have hbeside' : ∀ entry ∈ r₁.map (·.1) ++ r₂.map (·.1), IsBeside entry.1 := by
      rw [← List.map_append]
      intro entry hentry
      obtain ⟨r, hr, rfl⟩ := List.mem_map.mp hentry
      exact hharmless r hr
    have hnames : ∀ entry ∈ r₁.map (·.1) ++ r₂.map (·.1), entry.1 ≠ .text "rules" :=
      fun entry hentry hname => not_isBeside_rules (hname ▸ hbeside' entry hentry)
    refine ⟨_, (Document.value_eq_ok_iff hroot).mpr ⟨_, ?_, htakes⟩,
      (ofValue_mapping_iff hnames).mpr ⟨hbeside', _, hrecords, rfl⟩⟩
    simp only at haliases
    omega

lemma ofText_eq_ok_iff_readable (hparse : Yaml.Document.ofText text = .ok document)
    (hlisting : listing.Of document) :
    ofText text = .ok read ↔ ∃ yields, listing.Readable document yields ∧
      read = Entry.ofRecords (yields.map (·.1)) := by
  cases hlisting with
  | list hroot => exact ofText_list_iff hparse hroot
  | rules hroot hkey hlisted hothers => exact ofText_rules_iff hparse hroot hkey hlisted hothers

lemma entries_of_readable {yields : List (Json × ℕ)} (h : listing.Readable document yields) :
    (Entry.ofRecords (yields.map (·.1))).map (·.index) = List.range listing.nodes.length ∧
      List.Forall₂ (fun node entry => ∃ record cost,
        Yields document.anchors listing.depth node record cost ∧
        entry.record = Proposal.ofJson record) listing.nodes (Entry.ofRecords (yields.map (·.1))) := by
  constructor
  · rw [map_index_ofRecords, List.length_map, h.nodes.length_eq]
  · rw [← List.forall₂_map_right_iff (R := fun node found => ∃ record cost,
      Yields document.anchors listing.depth node record cost ∧ found = Proposal.ofJson record)]
    rw [map_record_ofRecords, List.forall₂_map_right_iff, List.forall₂_map_right_iff]
    exact h.nodes.imp fun _ r hr => ⟨r.1, r.2, hr, rfl⟩

/-- A document that lists nodes is read if and only if every one of them has a JSON value, every
entry beside them can be read and has a name for its key, and aliases are replaced no more often
than they may be. Then there is one entry for each node, numbered from zero in the order of the
document, and what the entry says comes from its node alone: the same node gives the same in any
other document, wherever it stands there and in whichever of the two forms it is listed. -/
theorem listed_records_apart (hparse : Yaml.Document.ofText text = .ok document)
    (hlisting : listing.Of document) :
    (∀ read, ofText text = .ok read ↔
      ∃ yields, listing.Readable document yields ∧ read = Entry.ofRecords (yields.map (·.1))) ∧
    ∀ read, ofText text = .ok read →
      read.map (·.index) = List.range listing.nodes.length ∧
      List.Forall₂ (fun node entry => ∃ record cost,
        Yields document.anchors listing.depth node record cost ∧
        entry.record = Proposal.ofJson record) listing.nodes read ∧
      ∀ (text' : String) (document' : Yaml.Document) (listing' : Listing) (read' : List Entry),
        Yaml.Document.ofText text' = .ok document' → listing'.Of document' → ofText text' = .ok read' →
          (∀ (i j : ℕ) (node : Node), listing.nodes[i]? = some node → listing'.nodes[j]? = some node →
            document'.anchors = document.anchors ∨ node.Closed →
              ∃ entry entry', read[i]? = some entry ∧ read'[j]? = some entry' ∧
                entry.record = entry'.record) ∧
          (listing'.nodes = listing.nodes →
            document'.anchors = document.anchors ∨ (∀ node ∈ listing.nodes, node.Closed) →
              read' = read) := by
  refine ⟨fun read => ofText_eq_ok_iff_readable hparse hlisting, fun read hread => ?_⟩
  obtain ⟨yields, hyields, rfl⟩ := (ofText_eq_ok_iff_readable hparse hlisting).mp hread
  obtain ⟨hindices, hrecords⟩ := entries_of_readable hyields
  refine ⟨hindices, hrecords, fun text' document' listing' read' hparse' hlisting' hread' => ?_⟩
  obtain ⟨yields', hyields', rfl⟩ := (ofText_eq_ok_iff_readable hparse' hlisting').mp hread'
  constructor
  · intro i j node hi hj hsame
    obtain ⟨entry, hentry, record, cost, hyield, hof⟩ := ListFacts.exists_getElem?_right hrecords hi
    obtain ⟨entry', hentry', record', cost', hyield', hof'⟩ :=
      ListFacts.exists_getElem?_right (entries_of_readable hyields').2 hj
    exact ⟨entry, entry', hentry, hentry', by rw [hof, hof', hyield.same hyield' hsame]⟩
  · intro hnodes hsame
    rw [map_yields_same hyields.nodes (hnodes ▸ hyields'.nodes) hsame]

end

/-! The same two nodes in either form -/

def quotedNode (content : String) : Node := .scalar .none .doubleQuoted content

def bornNodes : List Node :=
  [.mapping .none [(quotedNode "rule_name", quotedNode "born")], .sequence .none [quotedNode "born"]]

def bareText : String := "- \"rule_name\": \"born\"\n- [\"born\"]\n"

def wrappedText : String :=
  "\"source\": \"audit\"\n\"rules\":\n- \"rule_name\": \"born\"\n- [\"born\"]\n"

def bareDocument : Yaml.Document := ⟨some (.sequence .none bornNodes)⟩

def wrappedDocument : Yaml.Document :=
  ⟨some (.mapping .none [(quotedNode "source", quotedNode "audit"),
    (quotedNode "rules", .sequence .none bornNodes)])⟩

lemma parse_bareText : Yaml.Document.ofText bareText = .ok bareDocument := by decide +kernel

lemma parse_wrappedText : Yaml.Document.ofText wrappedText = .ok wrappedDocument := by
  decide +kernel

lemma takes_quotedNode (anchors : List (ℕ × Node)) (content : String) :
    Takes (ofNode anchors (maxDepth - 1) (quotedNode content)) (.text content) 0 :=
  (takes_ofNode_own_iff (by simp [quotedNode])).mpr (takes_lift_iff.mpr ⟨rfl, rfl⟩)

lemma listing_bareDocument : Listing.Of bareDocument ⟨bornNodes, maxDepth - 1, [], [.none], 0⟩ :=
  .list rfl

lemma listing_wrappedDocument : Listing.Of wrappedDocument
    ⟨bornNodes, maxDepth - 2, [(quotedNode "source", quotedNode "audit")], [.none, .none], 0⟩ := by
  have hothers : ∀ entry ∈ [(quotedNode "source", quotedNode "audit")] ++ [], ∀ c,
      ¬ Takes (ofNode wrappedDocument.anchors (maxDepth - 1) entry.1) (.text "rules") c := by
    intro entry hentry c htakes
    obtain rfl := List.mem_singleton.mp hentry
    obtain ⟨hvalue, _⟩ := htakes.unique (takes_quotedNode wrappedDocument.anchors "source")
    simp at hvalue
  exact .rules rfl (takes_quotedNode _ _) (.own (by simp)) hothers

theorem listed_records_apart_bornNodes :
    ∃ read, ofText bareText = .ok read ∧ ofText wrappedText = .ok read ∧
      read.map (·.index) = [0, 1] := by
  obtain ⟨bare, hbare⟩ := exists_of_isOk (x := ofText bareText) (by decide +kernel)
  obtain ⟨wrapped, hwrapped⟩ := exists_of_isOk (x := ofText wrappedText) (by decide +kernel)
  obtain ⟨_, hread⟩ := listed_records_apart parse_bareText listing_bareDocument
  obtain ⟨hindices, _, hsame⟩ := hread bare hbare
  obtain ⟨_, hequal⟩ := hsame _ _ _ wrapped parse_wrappedText listing_wrappedDocument hwrapped
  obtain rfl := hequal rfl (.inl rfl)
  exact ⟨wrapped, hbare, hwrapped, hindices⟩

end Compliance.Rule.Document
