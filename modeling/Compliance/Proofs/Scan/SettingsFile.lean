import Compliance.Scan.Settings
import Compliance.Proofs.Result

/-!
What a settings file says, setting by setting.

An entry changes the setting of its name and no other (`setEntry_eq_ok_iff`). Entries that name no
setting twice are read each by itself (`setEntries_eq_ok_iff`). So a file comes to one value for
every setting: what the entry with its name says, or else the usual value (`ofText_eq_ok_iff`).
-/

namespace Compliance.Scan.Settings

open Result Yaml

def Prevails {α γ : Type} (given : Option γ) (means : γ → α → Prop) (before value : α) : Prop :=
  match given with
  | none => value = before
  | some g => means g value

section

variable {α γ : Type} {given given' : Option γ} {means : γ → α → Prop} {before value : α} {g : γ}

@[simp] lemma prevails_none : Prevails none means before value ↔ value = before := Iff.rfl

@[simp] lemma prevails_some : Prevails (some g) means before value ↔ means g value := Iff.rfl

lemma prevails_eq_iff {before value : γ} :
    Prevails given (fun g value => value = g) before value ↔ value = given.getD before := by
  cases given <;> rfl

lemma prevails_or (h : given = none ∨ given' = none) :
    (∃ between, Prevails given means before between ∧ Prevails given' means between value) ↔
      Prevails (given.or given') means before value := by
  rcases h with rfl | rfl
  · simp
  · cases given <;> simp

end

inductive Setting
  | databasePath | maxRows | timeoutMillis | maxWorkers | dedup | persistOnCancel | reportPath
  deriving DecidableEq

namespace Setting

def name : Setting → String
  | databasePath => "database-path"
  | maxRows => "max-rows-per-rule"
  | timeoutMillis => "rule-timeout-ms"
  | maxWorkers => "max-workers"
  | dedup => "dedup"
  | persistOnCancel => "persist-on-cancel"
  | reportPath => "report-path"

abbrev Value : Setting → Type
  | databasePath => String
  | maxRows | timeoutMillis | maxWorkers => ℕ
  | dedup => Violation.DedupPolicy
  | persistOnCancel => Bool
  | reportPath => Option String

def read : (setting : Setting) → Node → Except Fault setting.Value
  | databasePath => textOf databasePath.name
  | maxRows => natOf maxRows.name
  | timeoutMillis => natOf timeoutMillis.name
  | maxWorkers => natOf maxWorkers.name
  | dedup => dedupOf dedup.name
  | persistOnCancel => boolOf persistOnCancel.name
  | reportPath => optionalTextOf reportPath.name

def Says (setting : Setting) (node : Node) (value : setting.Value) : Prop :=
  setting.read node = .ok value

end Setting

def get (settings : Settings) : (setting : Setting) → setting.Value
  | .databasePath => settings.databasePath
  | .maxRows => settings.maxRows
  | .timeoutMillis => settings.timeoutMillis
  | .maxWorkers => settings.maxWorkers
  | .dedup => settings.dedup
  | .persistOnCancel => settings.persistOnCancel
  | .reportPath => settings.reportPath

def ofValues (values : (setting : Setting) → setting.Value) : Settings where
  databasePath := values .databasePath
  maxRows := values .maxRows
  timeoutMillis := values .timeoutMillis
  maxWorkers := values .maxWorkers
  dedup := values .dedup
  persistOnCancel := values .persistOnCancel
  reportPath := values .reportPath

variable {anchors : List (ℕ × Node)} {before settings : Settings} {setting other : Setting}
  {name text : String} {node key value : Node} {listed more : List (String × Node)}
    {seen : List String} {entries : List (Node × Node)}
  {document : Yaml.Document}

@[simp] lemma get_ofValues (values : (setting : Setting) → setting.Value) :
    (ofValues values).get = values := by
  funext setting
  cases setting <;> rfl

lemma get_inj : settings.get = before.get ↔ settings = before := by
  refine ⟨fun h => ?_, fun h => h ▸ rfl⟩
  have hvalues : ofValues settings.get = ofValues before.get := by rw [h]
  exact hvalues

lemma Setting.name_inj : setting.name = other.name ↔ setting = other := by
  cases setting <;> cases other <;> decide

lemma isSetting_iff : isSetting name ↔ ∃ setting : Setting, setting.name = name := by
  constructor
  · intro h
    obtain ⟨field, hfield, hname⟩ := List.any_eq_true.mp h
    obtain rfl := of_decide_eq_true hname
    simp only [fields, List.mem_cons, List.not_mem_nil, or_false] at hfield
    rcases hfield with rfl | rfl | rfl | rfl | rfl | rfl | rfl
    exacts [⟨.databasePath, rfl⟩, ⟨.maxRows, rfl⟩, ⟨.timeoutMillis, rfl⟩, ⟨.maxWorkers, rfl⟩,
      ⟨.dedup, rfl⟩, ⟨.persistOnCancel, rfl⟩, ⟨.reportPath, rfl⟩]
  · rintro ⟨setting, rfl⟩
    cases setting <;> decide

def Sets (listed : List (String × Node)) (before settings : Settings) : Prop :=
  ∀ setting : Setting, Prevails (listed.lookup setting.name) setting.Says (before.get setting)
    (settings.get setting)

lemma lookup_eq_none (h : ∀ entry ∈ listed, entry.1 ≠ name) : listed.lookup name = none :=
  List.lookup_eq_none_iff.mpr fun entry hentry => bne_iff_ne.mpr (h entry hentry).symm

lemma sets_of_lookup_eq_none (h : ∀ setting : Setting, listed.lookup setting.name = none) :
    Sets listed before settings ↔ settings = before := by
  simp only [Sets, h, prevails_none]
  rw [← funext_iff, get_inj]

lemma sets_nil : Sets [] before settings ↔ settings = before := sets_of_lookup_eq_none fun _ => rfl

lemma sets_append (h : ∀ setting : Setting, listed.lookup setting.name = none ∨
    more.lookup setting.name = none) :
    (∃ between, Sets listed before between ∧ Sets more between settings) ↔
      Sets (listed ++ more) before settings := by
  simp only [Sets, List.lookup_append]
  constructor
  · rintro ⟨between, hlisted, hmore⟩ setting
    exact (prevails_or (h setting)).mp ⟨_, hlisted setting, hmore setting⟩
  · intro hsets
    choose between hlisted hmore using fun setting => (prevails_or (h setting)).mpr (hsets setting)
    exact ⟨ofValues between, by simpa using hlisted, by simpa using hmore⟩

lemma setEntry_name (before : Settings) (setting : Setting) (node : Node) :
    setEntry before setting.name node =
      (setting.read node).map fun value => ofValues (Function.update before.get setting value) := by
  cases setting
  all_goals rfl

lemma setEntry_of_not_isSetting (h : ¬ isSetting name) (before : Settings) (node : Node) :
    setEntry before name node = .ok before := by
  unfold setEntry
  split
  case h_8 => rfl
  all_goals exact absurd (by decide) h

lemma setEntry_eq_ok_iff : setEntry before name node = .ok settings ↔
    Sets [(name, node)] before settings := by
  by_cases h : isSetting name
  · obtain ⟨setting, rfl⟩ := isSetting_iff.mp h
    have hother {other : Setting}
      (hne : other ≠ setting) : [(setting.name, node)].lookup other.name = none :=
      lookup_eq_none <| by simpa [Setting.name_inj] using hne.symm
    rw [setEntry_name, map_eq_ok]
    constructor
    · rintro ⟨value, hvalue, rfl⟩ other
      rw [get_ofValues]
      rcases eq_or_ne other setting with rfl | hne
      · rw [List.lookup_cons_self, Function.update_self]
        exact hvalue
      · rw [hother hne, Function.update_of_ne hne]
        rfl
    · intro hsets
      refine ⟨settings.get setting, ?_, get_inj.mp ?_⟩
      · have hvalue := hsets setting
        rwa [List.lookup_cons_self] at hvalue
      · rw [get_ofValues]
        refine (Function.eq_update_iff.mpr ⟨rfl, fun other hne => ?_⟩).symm
        have hvalue := hsets other
        rwa [hother hne] at hvalue
  · have hnone (setting : Setting) : [(name, node)].lookup setting.name = none :=
      lookup_eq_none <| by
        rw [List.forall_mem_singleton]
        exact fun heq => h (isSetting_iff.mpr ⟨setting, heq.symm⟩)
    rw [setEntry_of_not_isSetting h, sets_of_lookup_eq_none hnone, Except.ok.injEq, eq_comm]

lemma setEntry_ite (before : Settings) (name : String) (node other : Node) :
    setEntry before name (if isSetting name then node else other) = setEntry before name node := by
  split_ifs with h
  · rfl
  · rw [setEntry_of_not_isSetting h, setEntry_of_not_isSetting h]

structure Lists (anchors : List (ℕ × Node)) (entry : Node × Node) (found : String × Node) : Prop where
  name : ∃ properties style, resolve anchors entry.1 = .scalar properties style found.1
  value : resolve anchors entry.2 = found.2

def Once (listed : List (String × Node)) : Prop :=
  listed.Pairwise fun entry later => isSetting entry.1 → entry.1 ≠ later.1

lemma textOf_eq_ok_iff {what : String} :
    textOf what node = .ok text ↔ ∃ properties style, node = .scalar properties style text := by
  cases node <;> simp [textOf, misplaced]

lemma setEntries_cons_eq_ok_iff : setEntries anchors seen before ((key, value) :: entries) =
    .ok settings ↔
    ∃ found, Lists anchors (key, value) found ∧ (isSetting found.1 → found.1 ∉ seen) ∧
      ∃ between, Sets [found] before between ∧
        setEntries anchors (found.1 :: seen) between entries = .ok settings := by
  rw [setEntries, bind_eq_ok]
  constructor
  · rintro ⟨name, hname, hrest⟩
    obtain ⟨properties, style, hkey⟩ := textOf_eq_ok_iff.mp hname
    dsimp only at hrest
    split at hrest
    · cases hrest
    · next hfresh =>
      obtain ⟨between, hbetween, hrest⟩ := bind_eq_ok.mp hrest
      rw [setEntry_ite] at hbetween
      exact ⟨(name, resolve anchors value), ⟨⟨properties, style, hkey⟩, rfl⟩, by
        simpa using hfresh, between, setEntry_eq_ok_iff.mp hbetween, hrest⟩
  · rintro ⟨⟨name, _⟩, ⟨⟨properties, style, hkey⟩, rfl⟩, hfresh, between, hbetween, hrest⟩
    refine ⟨name, textOf_eq_ok_iff.mpr ⟨properties, style, hkey⟩, ?_⟩
    dsimp only
    rw [if_neg (by simpa using hfresh), bind_eq_ok]
    refine ⟨between, ?_, hrest⟩
    rw [setEntry_ite]
    exact setEntry_eq_ok_iff.mpr hbetween

lemma lookup_apart {found : String × Node} (h : ∀ later ∈ listed, isSetting found.1 → found.1 ≠ later.1)
    (setting : Setting) : [found].lookup setting.name = none ∨ listed.lookup setting.name = none := by
  by_cases heq : setting.name = found.1
  · exact .inr (lookup_eq_none fun later hlater hsame =>
      h later hlater (isSetting_iff.mpr ⟨setting, heq⟩) (heq.symm.trans hsame.symm))
  · exact .inl (lookup_eq_none <| by simpa using Ne.symm heq)

lemma setEntries_eq_ok_iff : setEntries anchors seen before entries = .ok settings ↔
    ∃ listed, List.Forall₂ (Lists anchors) entries listed ∧ Once listed ∧
      (∀ entry ∈ listed, isSetting entry.1 → entry.1 ∉ seen) ∧ Sets listed before settings := by
  induction entries generalizing seen before with
  | nil =>
    rw [setEntries, Except.ok.injEq]
    constructor
    · rintro rfl
      exact ⟨[], .nil, .nil, by simp, sets_nil.mpr rfl⟩
    · rintro ⟨listed, hlisted, _, _, hsets⟩
      obtain rfl := List.forall₂_nil_left_iff.mp hlisted
      exact (sets_nil.mp hsets).symm
  | cons entry entries ih =>
    obtain ⟨key, value⟩ := entry
    simp only [setEntries_cons_eq_ok_iff, ih, List.forall₂_cons_left_iff]
    -- That the names seen do not come again is, for the first name, that no later entry has it.
    constructor
    · rintro ⟨found, hfound, hfresh, between, hbetween, listed, hlisted, honce, hseen, hsets⟩
      have hapart : ∀ later ∈ listed, isSetting found.1 →
        found.1 ≠ later.1 := fun later hlater hsetting heq =>
        hseen later hlater (heq ▸ hsetting) (heq ▸ List.mem_cons_self ..)
      refine ⟨found :: listed, ⟨found, listed, hfound, hlisted, rfl⟩,
        List.pairwise_cons.mpr ⟨hapart, honce⟩, ?_,
        (sets_append (lookup_apart hapart)).mp ⟨between, hbetween, hsets⟩⟩
      rw [List.forall_mem_cons]
      exact ⟨hfresh, fun entry hentry hsetting hmem =>
        hseen entry hentry hsetting (List.mem_cons_of_mem _ hmem)⟩
    · rintro ⟨_, ⟨found, listed, hfound, hlisted, rfl⟩, honce, hseen, hsets⟩
      obtain ⟨hapart, honce⟩ := List.pairwise_cons.mp honce
      obtain ⟨hfresh, hseen⟩ := List.forall_mem_cons.mp hseen
      obtain ⟨between, hbetween, hsets⟩ := (sets_append (lookup_apart hapart)).mpr hsets
      refine ⟨found, hfound, hfresh, between, hbetween, listed, hlisted, honce,
        fun entry hentry hsetting hmem => ?_, hsets⟩
      rcases List.mem_cons.mp hmem with heq | hmem
      · exact hapart entry hentry (heq ▸ hsetting) heq.symm
      · exact hseen entry hentry hsetting hmem

inductive Contains (document : Yaml.Document) : List (String × Node) → Prop
  | nothing (hroot : document.root.map (resolve document.anchors) = none) : Contains document []
  | blank {properties : Properties}
    (hroot : document.root.map (resolve document.anchors) = some (.scalar properties .plain "")) :
      Contains document []
  | mapping {properties : Properties} {entries : List (Node × Node)} {listed : List (String × Node)}
    (hroot : document.root.map (resolve document.anchors) = some (.mapping properties entries))
    (hentries : List.Forall₂ (Lists document.anchors) entries listed) : Contains document listed

def Gives (text : String) (settings : Settings) : Prop :=
  ∃ document listed, Yaml.Document.ofText text = .ok document ∧ Contains document listed ∧ Once listed ∧
    Sets listed usual settings

lemma ofDocument_eq_ok_iff : ofDocument document = .ok settings ↔
    ∃ listed, Contains document listed ∧ Once listed ∧ Sets listed usual settings := by
  rw [ofDocument]
  constructor
  · intro h
    split at h
    · next hroot =>
      obtain rfl := Except.ok.inj h
      exact ⟨[], .nothing hroot, .nil, sets_nil.mpr rfl⟩
    · next hroot =>
      obtain ⟨listed, hentries, honce, _, hsets⟩ := setEntries_eq_ok_iff.mp h
      exact ⟨listed, .mapping hroot hentries, honce, hsets⟩
    · next hroot =>
      split at h
      · next hblank =>
        obtain ⟨rfl, rfl⟩ := hblank
        obtain rfl := Except.ok.inj h
        exact ⟨[], .blank hroot, .nil, sets_nil.mpr rfl⟩
      · cases h
    · cases h
  · rintro ⟨listed, hcontains, honce, hsets⟩
    cases hcontains with
    | nothing hroot => rw [hroot, sets_nil.mp hsets]
    | blank hroot =>
      rw [hroot, sets_nil.mp hsets]
      rfl
    | mapping hroot hentries =>
      rw [hroot]
      exact setEntries_eq_ok_iff.mpr ⟨listed, hentries, honce, by simp, hsets⟩

lemma ofText_eq_ok_iff : ofText text = .ok settings ↔ Gives text settings := by
  rw [ofText, bind_eq_ok, Gives]
  simp only [ofDocument_eq_ok_iff, exists_and_left]

end Compliance.Scan.Settings
