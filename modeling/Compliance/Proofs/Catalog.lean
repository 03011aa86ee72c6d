import Compliance.Proofs.Query.Resolution
import Compliance.Store.Rules

/-! Looking up tables and columns: names in small letters lead to the tables, and no query leads to
what is kept of the rules and violations themselves. -/

namespace Compliance

open ListFacts

lemma toLower_lt {c : Char} : c.toLower.toNat < 0x80 ↔ c.toNat < 0x80 := by
  delta Char.toLower
  split
  next h =>
    have hlow : 65 ≤ c.toNat := UInt32.le_iff_toNat_le.mp h.1
    have hhigh : c.toNat ≤ 90 := UInt32.le_iff_toNat_le.mp h.2
    have hval : (c.val + ('a'.val - 'A'.val)).toNat = c.toNat + 32 := by
      rw [UInt32.toNat_add]
      change (c.toNat + 32) % 2 ^ 32 = _
      omega
    change (c.val + ('a'.val - 'A'.val)).toNat < 128 ↔ _
    omega
  next => rfl

lemma lowercase_of_equalIgnoringCase {a b : String} (hb : ∀ c ∈ b.toList, c.toNat < 0x80)
    (h : equalIgnoringCase a b) :
    Text.lowercase a = Text.lowercase b := by
  have h : asciiLower a = asciiLower b := equalIgnoringCase_iff.mp h
  have ha : ∀ c ∈ a.toList, c.toNat < 0x80 := by
    intro c hc
    have hmem : c.toLower ∈ asciiLower b := h ▸ List.mem_map_of_mem hc
    obtain ⟨d, hd, hlower⟩ := List.mem_map.mp hmem
    exact toLower_lt.mp (hlower ▸ toLower_lt.mpr (hb d hd))
  rw [Text.lowercase_of_ascii ha, Text.lowercase_of_ascii hb]
  exact congrArg String.ofList h

lemma TableSchema.column_eq_ok {table : TableSchema} {name column : String} :
    table.column name = .ok column ↔ ∃ before after, table.columns = before ++ column :: after ∧
      equalIgnoringCase column name ∧ ∀ c ∈ before, equalIgnoringCase c name = false := by
  have hfind : table.column name = .ok column ↔
    table.columns.find? (equalIgnoringCase · name) = some column := by
    rw [TableSchema.column, column?]
    cases table.columns.find? (equalIgnoringCase · name) <;> simp
  rw [hfind, List.find?_eq_some_iff_append]
  simp only [Bool.not_eq_true']
  grind

lemma TableSchema.column_canonical {table : TableSchema} {name column : String}
    (h : table.column name = .ok column) :
    table.column column = .ok column := by
  obtain ⟨before, after, hcolumns, hname, hbefore⟩ := column_eq_ok.mp h
  refine column_eq_ok.mpr ⟨before, after, hcolumns, equalIgnoringCase_iff.mpr rfl, fun c hc => ?_⟩
  have hother := hbefore c hc
  rw [← Bool.not_eq_true, equalIgnoringCase_iff] at hother ⊢
  rwa [equalIgnoringCase_iff.mp hname]

namespace Catalog

variable {c : Catalog} {name : String} {table : TableSchema}

structure Canonical (c : Catalog) : Prop where
  keys : ∀ entry ∈ c.entries, entry.1 = Text.lowercase entry.2.name
  sorted : (c.entries.map (·.1)).Pairwise (· < ·)

inductive Step
  | ofColumns (pairs : List (String × String))
  | insert (table : TableSchema)
  | eraseAll (names : List String)

def Step.apply (c : Catalog) : Step → Catalog
  | .ofColumns pairs => Catalog.ofColumns pairs
  | .insert table => c.insert table
  | .eraseAll names => c.eraseAll names

def build (steps : List Step) : Catalog := steps.foldl Step.apply empty

def extended (c : Catalog) (table column : String) : TableSchema :=
  match c.entries.lookup (Text.lowercase table) with
  | some schema => { schema with columns := schema.columns ++ [column] }
  | none => ⟨table, [column]⟩

lemma addColumn_eq (c : Catalog) (table column : String) :
    c.addColumn table column = ⟨insertKey (Text.lowercase table)
      (c.extended table column) c.entries⟩ := by
  rw [addColumn, extended]
  cases c.entries.lookup (Text.lowercase table) <;> rfl

lemma ofColumns_concat (pairs : List (String × String)) (pair : String × String) :
    ofColumns (pairs ++ [pair]) = (ofColumns pairs).addColumn pair.1 pair.2 := by
  rw [ofColumns, List.foldl_append]
  rfl

lemma entries_eraseAll (c : Catalog) (names : List String) :
    (c.eraseAll names).entries = c.entries.filter (·.1 ∉ names.map Text.lowercase) := by
  induction names generalizing c with
  | nil => simp [eraseAll]
  | cons name names ih =>
    have hcons : c.eraseAll (name :: names) = (c.erase name).eraseAll names := rfl
    rw [hcons, ih, erase, List.filter_filter]
    refine List.filter_congr fun entry _ => ?_
    rw [List.map_cons, Bool.eq_iff_iff]
    simp only [List.mem_cons, not_or, Bool.and_eq_true, decide_eq_true_eq, ne_eq]
    exact and_comm

lemma Canonical.insertKey (h : c.Canonical) {key : String} (hkey : key = Text.lowercase table.name) :
    Canonical ⟨Compliance.insertKey key table c.entries⟩ where
  keys entry hentry := by
    rcases mem_insertKey hentry with rfl | hentry
    · exact hkey
    · exact h.keys entry hentry
  sorted := sorted_insertKey _ _ h.sorted

lemma mem_of_lookup {key : String} (h : c.entries.lookup key = some table) :
    (key, table) ∈ c.entries := by
  obtain ⟨before, after, he, _⟩ := List.lookup_eq_some_iff.mp h
  rw [he]
  simp

lemma Canonical.addColumn (h : c.Canonical) (table column : String) :
    (c.addColumn table column).Canonical := by
  rw [addColumn_eq]
  refine h.insertKey ?_
  rw [extended]
  split
  next schema hlookup => exact h.keys _ (mem_of_lookup hlookup)
  next => rfl

lemma canonical_empty : empty.Canonical := ⟨by simp [empty], .nil⟩

lemma canonical_ofColumns (pairs : List (String × String)) : (ofColumns pairs).Canonical := by
  induction pairs using List.reverseRecOn with
  | nil => exact canonical_empty
  | append_singleton pairs pair ih => exact ofColumns_concat pairs pair ▸ ih.addColumn ..

lemma Canonical.eraseAll (h : c.Canonical) (names : List String) : (c.eraseAll names).Canonical where
  keys entry hentry := by
    rw [entries_eraseAll] at hentry
    exact h.keys entry (List.mem_of_mem_filter hentry)
  sorted := by
    rw [entries_eraseAll]
    exact h.sorted.sublist (List.filter_sublist.map _)

lemma Canonical.apply (h : c.Canonical) (step : Step) : (step.apply c).Canonical := by
  cases step with
  | ofColumns pairs => exact canonical_ofColumns pairs
  | insert table => exact h.insertKey rfl
  | eraseAll names => exact h.eraseAll names

lemma canonical_build (steps : List Step) : (build steps).Canonical := by
  induction steps using List.reverseRecOn with
  | nil => exact canonical_empty
  | append_singleton steps step ih =>
    rw [build, List.foldl_append]
    exact ih.apply step

lemma table_eq_ok : c.table name = .ok table ↔ c.entries.lookup (Text.lowercase name) = some table ∧
    table.columns ≠ [] := by
  have htable : c.table name = .ok table ↔ c.table? name = some table := by
    rw [Catalog.table]
    cases c.table? name <;> simp
  rw [htable, table?, Option.filter_eq_some_iff, decide_eq_true_iff]

lemma table_eraseAll (c : Catalog) (names : List String) (name : String) :
    (c.eraseAll names).table name =
      if Text.lowercase name ∈ names.map Text.lowercase then .error (.unknownIdentifier name)
      else c.table name := by
  rw [Catalog.table, table?, entries_eraseAll, lookup_filter (· ∉ names.map Text.lowercase)]
  by_cases hname : Text.lowercase name ∈ names.map Text.lowercase
  · rw [if_neg (by simpa using hname), if_pos hname]
    rfl
  · rw [if_pos (by simpa using hname), if_neg hname]
    rfl

lemma Canonical.of_table (hc : c.Canonical) (h : c.table name = .ok table) :
    table.columns ≠ [] ∧ Text.lowercase table.name = Text.lowercase name ∧
      c.table table.name = .ok table := by
  obtain ⟨hlookup, hcolumns⟩ := table_eq_ok.mp h
  have hkey : Text.lowercase name = Text.lowercase table.name := hc.keys _ (mem_of_lookup hlookup)
  exact ⟨hcolumns, hkey.symm, table_eq_ok.mpr ⟨hkey ▸ hlookup, hcolumns⟩⟩

lemma lowercase_notMem_of_eraseAll (hc : c.Canonical) {names : List String}
    (h : (c.eraseAll names).table name = .ok table) :
    Text.lowercase table.name ∉ names.map Text.lowercase := by
  obtain ⟨_, hkey, _⟩ := (hc.eraseAll names).of_table h
  rw [table_eraseAll] at h
  split_ifs at h with hname
  rwa [hkey]

lemma target_notMem_of_eraseAll (hc : c.Canonical) {names : List String} {rule : Rule} {q : Query}
    (h : Query.compile (c.eraseAll names) rule = .ok q) :
    Text.lowercase q.table ∉ names.map Text.lowercase := by
  obtain ⟨_, subject, _, _, hfind, _, rfl, _⟩ := Query.compile_eq_ok h
  exact lowercase_notMem_of_eraseAll hc (Query.Subject.find_eq_ok hfind).1

lemma eraseAll_addColumn (hc : c.Canonical) (names : List String) (table column : String) :
    (c.addColumn table column).eraseAll names =
      if Text.lowercase table ∈ names.map Text.lowercase then c.eraseAll names
      else (c.eraseAll names).addColumn table column := by
  have hentries : ((c.addColumn table column).eraseAll names).entries =
      if Text.lowercase table ∈ names.map Text.lowercase then (c.eraseAll names).entries
      else insertKey (Text.lowercase table) (c.extended table column) (c.eraseAll names).entries := by
    rw [entries_eraseAll, entries_eraseAll, addColumn_eq,
      filter_insertKey (· ∉ names.map Text.lowercase) hc.sorted]
    simp only [decide_eq_true_eq, ite_not]
  split_ifs at hentries ⊢ with hname
  · exact congrArg Catalog.mk hentries
  · have hextended : (c.eraseAll names).extended table column = c.extended table column := by
      rw [extended, extended, entries_eraseAll, lookup_filter (· ∉ names.map Text.lowercase),
        if_pos (decide_eq_true hname)]
    rw [addColumn_eq (c.eraseAll names), hextended]
    exact congrArg Catalog.mk hentries

lemma eraseAll_ofColumns (pairs : List (String × String)) (names : List String) :
    (ofColumns pairs).eraseAll names =
      ofColumns (pairs.filter (Text.lowercase ·.1 ∉ names.map Text.lowercase)) := by
  induction pairs using List.reverseRecOn with
  | nil => exact congrArg Catalog.mk (entries_eraseAll empty names)
  | append_singleton pairs pair ih =>
    rw [ofColumns_concat, eraseAll_addColumn (canonical_ofColumns pairs), List.filter_append, ih]
    split_ifs with hname
    · rw [List.filter_cons_of_neg (by simpa using hname), List.filter_nil, List.append_nil]
    · rw [List.filter_cons_of_pos (by simpa using hname), List.filter_nil, ofColumns_concat]

end Catalog

namespace Store

open Database

def columnPairs (relations : List Relation) : List (String × String) :=
  (relations.mergeSort fun a b => a.name ≤ b.name).flatMap fun r => r.columnNames.map (r.name, ·)

lemma filter_columnPairs (p : String → Bool) (relations : List Relation) :
    (columnPairs relations).filter (p ·.1) = columnPairs (relations.filter (p ·.name)) := by
  have hpairs : ∀ relations : List Relation,
      (relations.flatMap fun r => r.columnNames.map (r.name, ·)).filter (p ·.1) =
        (relations.filter (p ·.name)).flatMap fun r => r.columnNames.map (r.name, ·) := by
    intro relations
    induction relations with
    | nil => rfl
    | cons r relations ih =>
      rw [List.flatMap_cons, List.filter_append, ih, List.filter_cons]
      split_ifs with hp
      · rw [List.flatMap_cons, List.filter_eq_self.mpr fun pair hpair => by
          obtain ⟨column, _, rfl⟩ := List.mem_map.mp hpair
          exact hp]
      · rw [List.filter_eq_nil_iff.mpr fun pair hpair => by
          obtain ⟨column, _, rfl⟩ := List.mem_map.mp hpair
          exact hp, List.nil_append]
  rw [columnPairs, hpairs, columnPairs, filter_mergeSort (fun a b c hab hbc => ?_) fun a b => ?_]
  · exact decide_eq_true (String.le_trans (of_decide_eq_true hab) (of_decide_eq_true hbc))
  · simpa using String.le_total a.name b.name

lemma catalog_eq (s : Store) :
    s.catalog =
      .ok ((Catalog.ofColumns (columnPairs s.allRelations)).eraseAll [rulesName, violationsName]) := by
  have hkept :
    (s.allRelations.filter (Text.lowercase ·.name ∉ [rulesName, violationsName].map Text.lowercase)) =
      s.relations.filter (Text.lowercase ·.name ∉ [rulesName, violationsName].map Text.lowercase) := by
    rw [allRelations, List.filter_append, List.filter_append, List.filter_eq_nil_iff.mpr fun r hr => ?_,
      List.filter_eq_nil_iff.mpr fun r hr => ?_, List.nil_append, List.nil_append]
    · obtain ⟨rows, _, rfl⟩ := Option.map_eq_some_iff.mp (Option.mem_toList.mp hr)
      simp [violationsRelation]
    · obtain ⟨table, _, rfl⟩ := Option.map_eq_some_iff.mp (Option.mem_toList.mp hr)
      simp [rulesRelation]
  change Except.ok ((Catalog.ofColumns (columnPairs s.relations)).eraseAll [rulesName,
    violationsName]) = _
  rw [Catalog.eraseAll_ofColumns, Catalog.eraseAll_ofColumns,
    filter_columnPairs (Text.lowercase · ∉ [rulesName, violationsName].map Text.lowercase),
    filter_columnPairs (Text.lowercase · ∉ [rulesName, violationsName].map Text.lowercase), hkept]

lemma ne_kept_of_compile {s : Store} {catalog : Catalog} (hcatalog : s.catalog = .ok catalog)
    {rule : Rule} {q : Query} (h : Query.compile catalog rule = .ok q) {kept : String}
    (hkept : kept ∈ [rulesName, violationsName]) :
    Text.lowercase q.table ≠ kept ∧ equalIgnoringCase q.table kept = false := by
  obtain rfl := Except.ok.inj hcatalog
  have hnames : ∀ kept ∈ [rulesName, violationsName],
      (kept.toList.all fun c => c.toNat < 0x80) ∧ Text.lowercase kept = kept := by
    decide +kernel
  obtain ⟨hall, hlower⟩ := hnames kept hkept
  have hascii : ∀ c ∈ kept.toList, c.toNat < 0x80 := by simpa using hall
  have hmem : kept ∈ [rulesName, violationsName].map Text.lowercase :=
    List.mem_map.mpr ⟨kept, hkept, hlower⟩
  have htarget := Catalog.target_notMem_of_eraseAll (Catalog.canonical_ofColumns _) h
  refine ⟨fun hname => htarget (hname ▸ hmem), Bool.eq_false_iff.mpr fun hcase => ?_⟩
  rw [lowercase_of_equalIgnoringCase hascii hcase, hlower] at htarget
  exact htarget hmem

end Store

/-- However a catalog is made, what is left out of it is found under no spelling, and all else as
before. A table that is found has columns, and is found by its own name as by the name that led to
it; so are columns, the first of their spelling. The catalog of a store is made of all its tables
but those of the rules and the violations, so no query is for these, in whatever letters a rule
names them. -/
theorem Catalog.lookup_canonical (steps : List Catalog.Step) (excluded : List String) (name : String) :
    ((Catalog.build steps).eraseAll excluded).table name =
      (if Text.lowercase name ∈ excluded.map Text.lowercase then .error (.unknownIdentifier name)
        else (Catalog.build steps).table name) ∧
    (∀ table, (Catalog.build steps).table name = .ok table →
      table.columns ≠ [] ∧ Text.lowercase table.name = Text.lowercase name ∧
        (Catalog.build steps).table table.name = .ok table) ∧
    (∀ (table : TableSchema) (spelling column : String), table.column spelling = .ok column →
      (∃ before after, table.columns = before ++ column :: after ∧ equalIgnoringCase column spelling ∧
        ∀ c ∈ before, equalIgnoringCase c spelling = false) ∧
      table.column column = .ok column) ∧
    (∀ rule q, Query.compile ((Catalog.build steps).eraseAll excluded) rule = .ok q →
      Text.lowercase q.table ∉ excluded.map Text.lowercase) ∧
    ∀ s : Store,
      s.catalog = .ok (Catalog.build
        [.ofColumns (Store.columnPairs s.allRelations),
          .eraseAll [Store.rulesName, Store.violationsName]]) ∧
      ∀ catalog rule q, s.catalog = .ok catalog → Query.compile catalog rule = .ok q →
        ∀ kept ∈ [Store.rulesName, Store.violationsName],
          Text.lowercase q.table ≠ kept ∧ equalIgnoringCase q.table kept = false :=
  ⟨Catalog.table_eraseAll .., fun _ => (Catalog.canonical_build steps).of_table,
    fun _ _ _ h => ⟨TableSchema.column_eq_ok.mp h, TableSchema.column_canonical h⟩,
    fun _ _ => Catalog.target_notMem_of_eraseAll (Catalog.canonical_build steps),
    fun s => ⟨s.catalog_eq, fun _ _ _ hcatalog h _ => Store.ne_kept_of_compile hcatalog h⟩⟩

/-! Names whose small letters differ in number from their capitals -/

def streetSteps : List Catalog.Step :=
  [.insert ⟨"Empty", []⟩, .ofColumns [("İtems", "ID"), ("İTEMS", "id"), ("orders", "order_id")],
    .insert ⟨"Orders", ["Id"]⟩, .eraseAll ["VIOLATIONS"]]

def itemsTable : TableSchema := ⟨"İtems", ["ID", "id"]⟩

def itemsRule : Rule := Query.bareRule "not_null" [("table", .text "orders"), ("column", .text "ID")]

def ordersStore : Store := ⟨some ⟨[], true⟩, some [], [⟨"Orders", [⟨"Id", .text⟩], .stored []⟩]⟩

theorem Catalog.lookup_canonical_itemsTable :
    (Catalog.build streetSteps).table "i̇tems" = .ok itemsTable ∧
      (Catalog.build streetSteps).table "İtems" = .ok itemsTable ∧
      itemsTable.column "Id" = .ok "ID" ∧ itemsTable.column "ID" = .ok "ID" ∧
      ((Catalog.build streetSteps).eraseAll ["İTEMS"]).table "i̇tems" =
        .error (.unknownIdentifier "i̇tems") ∧
      (∃ q, Query.compile ((Catalog.build streetSteps).eraseAll ["İTEMS"]) itemsRule = .ok q ∧
        Text.lowercase q.table ∉ ["İTEMS"].map Text.lowercase) ∧
      ∃ catalog q, ordersStore.catalog = .ok catalog ∧ Query.compile catalog itemsRule = .ok q ∧
        Text.lowercase q.table ≠ Store.rulesName := by
  obtain ⟨herased, htable, hcolumn, htarget, hstore⟩ :=
    Catalog.lookup_canonical streetSteps ["İTEMS"] "i̇tems"
  have hitems : (Catalog.build streetSteps).table "i̇tems" = .ok itemsTable := by decide +kernel
  have hid : itemsTable.column "Id" = .ok "ID" := by decide +kernel
  obtain ⟨q, hq⟩ :=
    Result.exists_of_isOk (x := Query.compile ((Catalog.build streetSteps).eraseAll ["İTEMS"]) itemsRule)
    (by decide +kernel)
  obtain ⟨catalog, hcatalog⟩ : ∃ catalog, ordersStore.catalog = .ok catalog := ⟨_, rfl⟩
  obtain ⟨q', hq'⟩ : ∃ q', Query.compile catalog itemsRule = .ok q' := by
    obtain rfl := Except.ok.inj hcatalog
    exact Result.exists_of_isOk (by decide +kernel)
  exact ⟨hitems, (htable _ hitems).2.2, hid, (hcolumn _ _ _ hid).2,
    herased.trans (if_pos (by decide +kernel)), ⟨q, hq, htarget _ _ hq⟩, catalog, q', hcatalog, hq',
    ((hstore ordersStore).2 _ _ _ hcatalog hq' _ (by simp)).1⟩

end Compliance
