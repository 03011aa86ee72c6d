import Compliance.Proofs.Catalog
import Mathlib.Data.Finset.Card

/-! Which tables come out of a list of columns: one for all the names that are equal in small
letters, under the first of them. -/

namespace Compliance

namespace Catalog

variable {pairs : List (String × String)} {name : String} {table : TableSchema}

def names (pairs : List (String × String)) : List String := pairs.map (·.1)

def columnsOf (pairs : List (String × String)) (name : String) : List String :=
  (pairs.filter (·.1 = name)).map (·.2)

def gathered : List (String × String) → Option TableSchema
  | [] => none
  | pair :: pairs => some ⟨pair.1, pair.2 :: pairs.map (·.2)⟩

structure KeepsApart (pairs : List (String × String)) : Prop where
  found : ∀ name ∈ names pairs, (ofColumns pairs).table name = .ok ⟨name, columnsOf pairs name⟩
  count : (ofColumns pairs).tables.length = (names pairs).dedup.length

lemma gathered_eq_some : gathered pairs = some table ↔
    ∃ column more, pairs = (table.name, column) :: more ∧ table.columns = column :: more.map (·.2) := by
  obtain ⟨name, columns⟩ := table
  cases pairs with
  | nil => simp [gathered]
  | cons pair pairs =>
    simp only [gathered, Option.some.injEq, TableSchema.mk.injEq, List.cons.injEq]
    constructor
    · rintro ⟨rfl, rfl⟩
      exact ⟨_, _, ⟨rfl, rfl⟩, rfl⟩
    · rintro ⟨column, more, ⟨rfl, rfl⟩, rfl⟩
      exact ⟨rfl, rfl⟩

lemma gathered_append (pair : String × String) : gathered (pairs ++ [pair]) = some
    (match gathered pairs with
      | some table => { table with columns := table.columns ++ [pair.2] }
      | none => ⟨pair.1, [pair.2]⟩) := by
  cases pairs with
  | nil => rfl
  | cons first pairs => simp [gathered]

lemma lookup_ofColumns (pairs : List (String × String)) (key : String) :
    (ofColumns pairs).entries.lookup key = gathered (pairs.filter (Text.lowercase ·.1 = key)) := by
  -- from the end, where the last column is added: it belongs to the table of this key or leaves it alone
  induction pairs using List.reverseRecOn with
  | nil => rfl
  | append_singleton pairs pair ih =>
    rw [ofColumns_concat, addColumn_eq, List.filter_append]
    by_cases hkey : Text.lowercase pair.1 = key
    · subst hkey
      rewrite [lookup_insertKey_self, extended, ih, List.filter_cons_of_pos (by simp),
        List.filter_nil, gathered_append]
      cases gathered (pairs.filter (Text.lowercase ·.1 = Text.lowercase pair.1)) <;> rfl
    · rw [lookup_insertKey_of_ne (Ne.symm hkey), ih, List.filter_cons_of_neg (by simpa using hkey),
        List.filter_nil, List.append_nil]

lemma table_ofColumns : (ofColumns pairs).table name = .ok table ↔
    gathered (pairs.filter (Text.lowercase ·.1 = Text.lowercase name)) = some table := by
  rw [table_eq_ok, lookup_ofColumns]
  constructor
  · exact And.left
  · intro h
    obtain ⟨column, more, _, hcolumns⟩ := gathered_eq_some.mp h
    exact ⟨h, by simp [hcolumns]⟩

lemma mem_keys_ofColumns {key : String} :
    key ∈ (ofColumns pairs).entries.map (·.1) ↔ key ∈ (names pairs).map Text.lowercase := by
  have hsome : key ∈ (ofColumns pairs).entries.map (·.1) ↔
    ((ofColumns pairs).entries.lookup key).isSome := by
    rw [← not_iff_not, Option.not_isSome_iff_eq_none, List.lookup_eq_none_iff]
    simp only [List.mem_map, not_exists, not_and, bne_iff_ne, ne_eq]
    constructor
    · intro h entry hentry hkey
      exact h entry hentry hkey.symm
    · intro h entry hentry hkey
      exact h entry hentry hkey.symm
  rw [hsome, lookup_ofColumns, names, List.map_map, List.mem_map]
  constructor
  · intro h
    obtain ⟨table, htable⟩ := Option.isSome_iff_exists.mp h
    obtain ⟨column, more, hfilter, _⟩ := gathered_eq_some.mp htable
    have hpair : (table.name, column) ∈ pairs.filter (Text.lowercase ·.1 = key) := by simp [hfilter]
    rw [List.mem_filter, decide_eq_true_iff] at hpair
    exact ⟨_, hpair.1, hpair.2⟩
  · rintro ⟨pair, hpair, rfl⟩
    have hmem : pair ∈ pairs.filter (Text.lowercase ·.1 = Text.lowercase pair.1) :=
      List.mem_filter.mpr ⟨hpair, by simp⟩
    obtain ⟨before, after, hsplit⟩ := List.append_of_mem hmem
    rw [Function.comp_apply, hsplit]
    cases before <;> rfl

lemma length_tables (pairs : List (String × String)) :
    (ofColumns pairs).tables.length = ((names pairs).map Text.lowercase).dedup.length := by
  have hkeys : ((ofColumns pairs).entries.map (·.1)).Nodup :=
    (canonical_ofColumns pairs).sorted.imp String.ne_of_lt
  have hperm : ((ofColumns pairs).entries.map (·.1)).Perm ((names pairs).map Text.lowercase).dedup := by
    apply (List.perm_ext_iff_of_nodup hkeys (List.nodup_dedup _)).mpr
    intro key
    rw [List.mem_dedup, mem_keys_ofColumns]
  rw [tables, List.length_map, ← hperm.length_eq, List.length_map]

lemma length_dedup_map {f : String → String} {l : List String} (h : Set.InjOn f {a | a ∈ l}) :
    (l.map f).dedup.length = l.dedup.length := by
  have himage : (l.map f).toFinset = l.toFinset.image f := by
    ext b
    simp
  rw [← List.card_toFinset, ← List.card_toFinset, himage]
  apply Finset.card_image_of_injOn
  simpa using h

lemma KeepsApart.injOn (h : KeepsApart pairs) :
    Set.InjOn Text.lowercase {name | name ∈ names pairs} := by
  intro a ha b hb hkey
  have hfound := table_ofColumns.mp (h.found a ha)
  rw [hkey, table_ofColumns.mp (h.found b hb)] at hfound
  exact (congrArg TableSchema.name (Option.some.inj hfound)).symm

lemma keepsApart_of_injOn (h : Set.InjOn Text.lowercase {name | name ∈ names pairs}) :
    KeepsApart pairs where
  found name hname := by
    have hfilter : pairs.filter (Text.lowercase ·.1 = Text.lowercase name) =
      pairs.filter (·.1 = name) := by
      apply List.filter_congr
      intro pair hpair
      rw [decide_eq_decide]
      exact ⟨h (List.mem_map_of_mem hpair) hname, congrArg Text.lowercase⟩
    rw [table_ofColumns, hfilter, columnsOf]
    obtain ⟨pair, hpair, rfl⟩ := List.mem_map.mp hname
    have hmem : pair ∈ pairs.filter (·.1 = pair.1) := List.mem_filter.mpr ⟨hpair, by simp⟩
    cases hgroup : pairs.filter (·.1 = pair.1) with
    | nil => simp [hgroup] at hmem
    | cons first more =>
      have hfirst : first ∈ pairs.filter (·.1 = pair.1) := by simp [hgroup]
      have hname : first.1 = pair.1 := by simpa using (List.mem_filter.mp hfirst).2
      rw [gathered, hname, List.map_cons]
  count := (length_tables pairs).trans (length_dedup_map h)

lemma injOn_of_ascii (hascii : ∀ name ∈ names pairs, ∀ c ∈ name.toList, c.toNat < 0x80)
    (happart : ∀ a ∈ names pairs, ∀ b ∈ names pairs, equalIgnoringCase a b → a = b) :
    Set.InjOn Text.lowercase {name | name ∈ names pairs} := by
  intro a ha b hb hkey
  rw [Text.lowercase_of_ascii (hascii a ha), Text.lowercase_of_ascii (hascii b hb)] at hkey
  exact happart a ha b hb (equalIgnoringCase_iff.mpr (String.ofList_injective hkey))

/-- The names that are equal in small letters lead to one table, which is spelled as the first of
them and has the columns of them all, in order. So the tables stay apart if and only if no two of
the names are equal in small letters, as they are not if all letters are ASCII and the names differ
in more than the case of these. -/
theorem keepsApart_iff_injOn (pairs : List (String × String)) :
    (∀ name table, (ofColumns pairs).table name = .ok table ↔ ∃ column more,
      pairs.filter (Text.lowercase ·.1 = Text.lowercase name) = (table.name, column) :: more ∧
        table.columns = column :: more.map (·.2)) ∧
    (ofColumns pairs).tables.length = ((names pairs).map Text.lowercase).dedup.length ∧
    (KeepsApart pairs ↔ Set.InjOn Text.lowercase {name | name ∈ names pairs}) ∧
    ((∀ name ∈ names pairs, ∀ c ∈ name.toList, c.toNat < 0x80) →
      (∀ a ∈ names pairs, ∀ b ∈ names pairs, equalIgnoringCase a b → a = b) → KeepsApart pairs) := by
  refine ⟨fun name table => ?_, length_tables pairs, ⟨KeepsApart.injOn, keepsApart_of_injOn⟩,
    fun hascii happart => ?_⟩
  · rw [table_ofColumns, gathered_eq_some]
  · exact keepsApart_of_injOn (injOn_of_ascii hascii happart)

/-! Two tables in one -/

def umlautPairs : List (String × String) := [("Ä", "a"), ("ä", "b")]

def plainPairs : List (String × String) := [("Orders", "id"), ("items", "id"), ("Orders", "total")]

theorem keepsApart_umlautPairs :
    (∀ a ∈ names umlautPairs, ∀ b ∈ names umlautPairs, equalIgnoringCase a b → a = b) ∧
      (ofColumns umlautPairs).table "ä" = .ok ⟨"Ä", ["a", "b"]⟩ ∧ ¬ KeepsApart umlautPairs ∧
        KeepsApart plainPairs := by
  obtain ⟨htable, _, happart, _⟩ := keepsApart_iff_injOn umlautPairs
  have hmerged : ¬ Set.InjOn Text.lowercase {name | name ∈ names umlautPairs} := by
    intro h
    have hequal : "Ä" = "ä" :=
      h (by simp [names, umlautPairs]) (by simp [names, umlautPairs]) (by decide +kernel)
    exact absurd hequal (by decide)
  have hplain : (names plainPairs).all fun name => name.toList.all fun c => c.toNat < 0x80 := by
    decide +kernel
  have hascii : ∀ name ∈ names plainPairs, ∀ c ∈ name.toList, c.toNat < 0x80 := by simpa using hplain
  refine ⟨by
    decide +kernel, (htable _ _).mpr ⟨"a", [("ä", "b")], by decide +kernel, rfl⟩,
      mt happart.mp hmerged, ?_⟩
  exact (keepsApart_iff_injOn plainPairs).2.2.2 hascii (by decide +kernel)

end Catalog

end Compliance
