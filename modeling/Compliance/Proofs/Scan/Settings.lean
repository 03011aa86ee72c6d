import Mathlib.Tactic.IntervalCases
import Compliance.Proofs.Number.Digits
import Compliance.Proofs.Scan.SettingsFile

/-!
Where the settings of a scan come from, and when there are none.

A file, the environment and the ranges have their say one after the other, and each of them has its
own ways to fail (`FileFailure`, `VariableFailure`, `OutOfRange`). `load_eq_iff` puts them together:
every setting is looked for by itself, and only what comes out in the end has to be in range. An
environment is the texts of its variables, so that one that holds no text counts as not set.
-/

namespace Compliance.Scan.Settings

open Result

variable {environment : String → Option String} {name given : String} {otherwise n : ℕ}
  {failure : Failure} {file settings : Settings} {names : List String} {fileAt : String → FileState}
    {pathOf : String → String}

def Writes (given : String) (n : ℕ) : Prop :=
  ∃ before sign digits after, given.toList = before ++ (sign ++ digits) ++ after ∧
    (∀ c ∈ before, Text.isBlank c) ∧ (∀ c ∈ after, Text.isBlank c) ∧ (sign = [] ∨ sign = ['+']) ∧
    digits ≠ [] ∧ (∀ c ∈ digits, Number.isDigit c) ∧ Number.digitsValue digits = n ∧ n ≤ Number.maxNat64

lemma isBlank_of_isDigit {c : Char} (h : Number.isDigit c) : Text.isBlank c = false := by
  obtain ⟨n, hn, rfl⟩ := Number.exists_of_isDigit h
  interval_cases n <;> rfl

lemma writes_iff : Writes given n ↔ Number.nat64? (Text.trim given).toList = some n := by
  rw [Text.trim, String.toList_ofList, Number.nat64?_eq_some_iff]
  simp only [Number.natOfDigits?_eq_some_iff]
  constructor
  · rintro ⟨before, sign, digits, after, hgiven, hbefore, hafter, hsign, hne, hdigits, hvalue, hmax⟩
    refine ⟨sign, digits, ?_, hsign, ⟨hne, hdigits, hvalue⟩, hmax⟩
    rw [hgiven, Text.trimChars_append hbefore hafter, Text.trimChars_of_not_isBlank]
    intro c hc
    rcases List.mem_append.mp hc with hc | hc
    · rcases hsign with rfl | rfl
      · cases hc
      · rw [List.mem_singleton.mp hc]
        rfl
    · exact isBlank_of_isDigit (hdigits c hc)
  · rintro ⟨sign, digits, htrim, hsign, ⟨hne, hdigits, hvalue⟩, hmax⟩
    obtain ⟨before, after, hgiven, hbefore, hafter⟩ := Text.exists_trimChars given.toList
    rw [htrim] at hgiven
    exact ⟨before, sign, digits, after, hgiven, hbefore, hafter, hsign, hne, hdigits, hvalue, hmax⟩

structure IsMisset (environment : String → Option String) (name given : String) : Prop where
  set : environment name = some given
  unreadable : ∀ n, ¬ Writes given n

lemma variableOr_eq_ok_iff :
    variableOr environment name otherwise = .ok n ↔ Prevails (environment name) Writes otherwise n := by
  rw [variableOr]
  cases environment name with
  | none => rw [prevails_none, Except.ok.injEq, eq_comm]
  | some given =>
    rw [prevails_some, writes_iff]
    dsimp only
    cases Number.nat64? (Text.trim given).toList <;> simp

lemma variableOr_eq_error_iff : variableOr environment name otherwise = .error failure ↔
    ∃ given, IsMisset environment name given ∧ failure = .settings (.notANumber name given) := by
  rw [variableOr]
  constructor
  · intro h
    split at h
    · cases h
    · next given hset =>
      split at h
      · cases h
      · next hnone =>
        refine ⟨given, ⟨hset, fun n hwrites => ?_⟩, (Except.error.inj h).symm⟩
        cases hnone.symm.trans (writes_iff.mp hwrites)
  · rintro ⟨given, ⟨hset, hunreadable⟩, rfl⟩
    rw [hset]
    dsimp only
    split
    · next n hn => exact absurd (writes_iff.mpr hn) (hunreadable n)
    · rfl

lemma exists_prevails_iff :
    (∃ n, Prevails (environment name) Writes otherwise n) ↔
      ∀ given, ¬ IsMisset environment name given := by
  simp only [← variableOr_eq_ok_iff]
  constructor
  · rintro ⟨n, hn⟩ given hmisset
    cases hn.symm.trans (variableOr_eq_error_iff.mpr ⟨given, hmisset, rfl⟩)
  · intro h
    cases hresult : variableOr environment name otherwise with
    | ok n => exact ⟨n, rfl⟩
    | error failure =>
      obtain ⟨given, hmisset, _⟩ := variableOr_eq_error_iff.mp hresult
      exact absurd hmisset (h given)

structure Overridden (environment : String → Option String) (file settings : Settings) : Prop where
  databasePath :
    Prevails (environment "VIGIL_DATABASE_PATH")
      (fun given path => path = given) file.databasePath settings.databasePath
  maxRows : Prevails (environment "VIGIL_MAX_ROWS") Writes file.maxRows settings.maxRows
  timeoutMillis : Prevails (environment "VIGIL_RULE_TIMEOUT_MS") Writes file.timeoutMillis
    settings.timeoutMillis
  maxWorkers : Prevails (environment "VIGIL_MAX_WORKERS") Writes file.maxWorkers settings.maxWorkers
  dedup : settings.dedup = file.dedup
  persistOnCancel : settings.persistOnCancel = file.persistOnCancel
  reportPath : settings.reportPath = file.reportPath

inductive VariableFailure (environment : String → Option String) : List String → Failure → Prop
  | here {name given : String} {names : List String} (h : IsMisset environment name given) :
    VariableFailure environment (name :: names) (.settings (.notANumber name given))
  | later {name : String} {names : List String} {failure : Failure}
    (h : ∀ given, ¬ IsMisset environment name given)
    (hlater : VariableFailure environment names failure) : VariableFailure environment
      (name :: names) failure

lemma variableOr_bind_eq_error_iff {α : Type} {f : ℕ → Except Failure α}
    (hf : ∀ n, f n = .error failure ↔ VariableFailure environment names failure) :
    (variableOr environment name otherwise >>= f) = .error failure ↔
      VariableFailure environment (name :: names) failure := by
  rw [bind_eq_error, variableOr_eq_error_iff]
  simp only [hf, variableOr_eq_ok_iff]
  constructor
  · rintro (⟨given, hmisset, rfl⟩ | ⟨n, hn, hlater⟩)
    · exact .here hmisset
    · exact .later (exists_prevails_iff.mp ⟨n, hn⟩) hlater
  · intro h
    cases h with
    | here hmisset => exact .inl ⟨_, hmisset, rfl⟩
    | later hfine hlater =>
      obtain ⟨n, hn⟩ := exists_prevails_iff.mpr hfine
      exact .inr ⟨n, hn, hlater⟩

lemma withEnvironment_eq_ok_iff :
    file.withEnvironment environment = .ok settings ↔ Overridden environment file settings := by
  rw [withEnvironment]
  simp only [bind_eq_ok, variableOr_eq_ok_iff, pure_eq_ok]
  constructor
  · rintro ⟨_, hmaxRows, _, htimeoutMillis, _, hmaxWorkers, rfl⟩
    exact ⟨prevails_eq_iff.mpr rfl, hmaxRows, htimeoutMillis, hmaxWorkers, rfl, rfl, rfl⟩
  · rintro ⟨hdatabasePath, hmaxRows, htimeoutMillis, hmaxWorkers, hdedup, hpersistOnCancel, hreportPath⟩
    refine ⟨_, hmaxRows, _, htimeoutMillis, _, hmaxWorkers, ?_⟩
    cases settings
    cases prevails_eq_iff.mp hdatabasePath
    cases hdedup
    cases hpersistOnCancel
    cases hreportPath
    rfl

lemma withEnvironment_eq_error_iff : file.withEnvironment environment = .error failure ↔
    VariableFailure environment ["VIGIL_MAX_ROWS", "VIGIL_RULE_TIMEOUT_MS", "VIGIL_MAX_WORKERS"]
      failure := by
  have hend {settings : Settings} :
      (pure settings : Except Failure Settings) = .error failure ↔
        VariableFailure environment [] failure := by
    constructor <;> intro h <;> cases h
  exact variableOr_bind_eq_error_iff fun _ => variableOr_bind_eq_error_iff fun _ =>
    variableOr_bind_eq_error_iff fun _ => hend

structure InRange (settings : Settings) : Prop where
  maxRows : 1 ≤ settings.maxRows
  timeoutMillis : 1 ≤ settings.timeoutMillis
  maxWorkers : 1 ≤ settings.maxWorkers ∧ settings.maxWorkers ≤ 64

inductive OutOfRange (settings : Settings) : String → Prop
  | maxRows (h : ¬ 1 ≤ settings.maxRows) : OutOfRange settings "max_rows_per_rule"
  | timeoutMillis (h : ¬ 1 ≤ settings.timeoutMillis) : OutOfRange settings "rule_timeout_ms"
  | maxWorkers (h : ¬ (1 ≤ settings.maxWorkers ∧ settings.maxWorkers ≤ 64)) : OutOfRange settings
    "max_workers"

structure IsFaultList (settings : Settings) (names : List String) : Prop where
  mem_iff : ∀ name, name ∈ names ↔ OutOfRange settings name
  sorted : names.Pairwise (· < ·)

lemma inRange_iff : settings.InRange ↔ ∀ name, ¬ OutOfRange settings name := by
  constructor
  · rintro ⟨hmaxRows, htimeoutMillis, hmaxWorkers⟩ name h
    cases h with
    | maxRows h => exact h hmaxRows
    | timeoutMillis h => exact h htimeoutMillis
    | maxWorkers h => exact h hmaxWorkers
  · intro h
    exact ⟨by_contra fun hout => h _ (.maxRows hout), by_contra fun hout => h _ (.timeoutMillis hout),
      by_contra fun hout => h _ (.maxWorkers hout)⟩

lemma mem_outOfRange_iff : name ∈ settings.outOfRange ↔ OutOfRange settings name := by
  rw [outOfRange, workersLimit, List.mem_append, List.mem_append]
  simp only [List.mem_ite_nil_right, List.mem_singleton]
  constructor
  · rintro ((⟨h, rfl⟩ | ⟨h, rfl⟩) | ⟨h, rfl⟩)
    exacts [.maxRows (by omega), .maxWorkers (by omega), .timeoutMillis (by omega)]
  · intro h
    cases h with
    | maxRows h => exact .inl (.inl ⟨by omega, rfl⟩)
    | maxWorkers h => exact .inl (.inr ⟨by omega, rfl⟩)
    | timeoutMillis h => exact .inr ⟨by omega, rfl⟩

lemma isFaultList_outOfRange (settings : Settings) : settings.IsFaultList settings.outOfRange where
  mem_iff _ := mem_outOfRange_iff
  sorted := by
    unfold outOfRange
    split_ifs <;> decide

lemma IsFaultList.eq_outOfRange (h : settings.IsFaultList names) : names = settings.outOfRange := by
  have hown := isFaultList_outOfRange settings
  have hperm : names.Perm settings.outOfRange := by
    rw [List.perm_ext_iff_of_nodup (h.sorted.imp String.ne_of_lt) (hown.sorted.imp String.ne_of_lt)]
    exact fun name => (h.mem_iff name).trans (hown.mem_iff name).symm
  exact hperm.eq_of_pairwise (fun _ _ _ _ hlt hgt => absurd hgt (String.lt_asymm hlt)) h.sorted
    hown.sorted

lemma outOfRange_eq_nil_iff : settings.outOfRange = [] ↔ settings.InRange := by
  rw [List.eq_nil_iff_forall_not_mem, inRange_iff]
  simp only [mem_outOfRange_iff]

lemma check_eq_ok_iff : file.check = .ok settings ↔ settings = file ∧ settings.InRange := by
  rw [check, ← outOfRange_eq_nil_iff]
  split_ifs with h
  · rw [Except.ok.injEq]
    exact ⟨fun heq => ⟨heq.symm, heq ▸ h⟩, fun heq => heq.1.symm⟩
  · refine iff_of_false (by simp) ?_
    rintro ⟨rfl, hnil⟩
    exact h hnil

lemma check_eq_error_iff : settings.check = .error failure ↔
    ∃ names, names ≠ [] ∧ settings.IsFaultList names ∧ failure = .outOfRange names := by
  rw [check]
  split_ifs with h
  · refine iff_of_false (by simp) ?_
    rintro ⟨names, hne, hnames, _⟩
    exact hne (hnames.eq_outOfRange.trans h)
  · rw [Except.error.injEq]
    constructor
    · rintro rfl
      exact ⟨_, h, isFaultList_outOfRange settings, rfl⟩
    · rintro ⟨names, _, hnames, rfl⟩
      rw [hnames.eq_outOfRange]

inductive IsRead (fileAt : String → FileState) : String → Prop
  | first (h : fileAt "vigil.yaml" ≠ .absent) : IsRead fileAt "vigil.yaml"
  | second (habsent : fileAt "vigil.yaml" = .absent)
    (h : fileAt "vigil.yml" ≠ .absent) : IsRead fileAt "vigil.yml"

inductive OfFiles (fileAt : String → FileState) : Settings → Prop
  | absent (hnone : ∀ name, ¬ IsRead fileAt name) : OfFiles fileAt usual
  | text {name content : String} {settings : Settings} (hread : IsRead fileAt name)
    (hcontent : fileAt name = .text content) (hgives : Gives content settings) : OfFiles fileAt settings

inductive FileFailure (fileAt : String → FileState) (pathOf : String → String) : Failure → Prop
  | unreadable {name cause : String} (hread : IsRead fileAt name)
    (hcause : fileAt name = .unreadable cause) :
    FileFailure fileAt pathOf (.settings (.unreadable (pathOf name) cause))
  | malformed {name content : String} {fault : Yaml.Fault} (hread : IsRead fileAt name)
    (hcontent : fileAt name = .text content) (hnone : ∀ settings, ¬ Gives content settings)
    (hfault : ofText content = .error fault) : FileFailure fileAt pathOf
      (.settings (.malformed (pathOf name) fault))

lemma isRead_iff : IsRead fileAt name ↔ fileNames.find? (fileAt · ≠ .absent) = some name := by
  constructor
  · intro h
    cases h with
    | first h => exact List.find?_cons_of_pos (by simpa using h)
    | second habsent h =>
      rw [fileNames, List.find?_cons_of_neg (by simpa using habsent)]
      exact List.find?_cons_of_pos (by simpa using h)
  · intro h
    by_cases hfirst : fileAt "vigil.yaml" = .absent
    · rw [fileNames, List.find?_cons_of_neg (by simpa using hfirst)] at h
      obtain rfl := List.mem_singleton.mp (List.mem_of_find?_eq_some h)
      exact .second hfirst (by simpa using List.find?_some h)
    · rw [fileNames, List.find?_cons_of_pos (by simpa using hfirst)] at h
      obtain rfl := Option.some.inj h
      exact .first hfirst

lemma IsRead.not_absent (h : IsRead fileAt name) : fileAt name ≠ .absent := by
  cases h <;> assumption

lemma ofFiles_of_isRead (h : IsRead fileAt name) (pathOf : String → String) :
    ofFiles fileAt pathOf = ofFile (pathOf name) (fileAt name) := by
  rw [ofFiles, isRead_iff.mp h]

lemma ofFiles_of_absent (h : ∀ name, ¬ IsRead fileAt name) (pathOf : String → String) :
    ofFiles fileAt pathOf = .ok usual := by
  have hnone : fileNames.find? (fileAt · ≠ .absent) = none :=
    Option.eq_none_iff_forall_ne_some.mpr fun name heq => h name (isRead_iff.mpr heq)
  rw [ofFiles, hnone]

lemma ofFiles_cases (fileAt : String → FileState) (pathOf : String → String) :
    (∃ settings, ofFiles fileAt pathOf = .ok settings ∧ OfFiles fileAt settings) ∨
      ∃ failure, ofFiles fileAt pathOf = .error failure ∧ FileFailure fileAt pathOf failure := by
  by_cases hread : ∃ name, IsRead fileAt name
  · obtain ⟨name, hread⟩ := hread
    rw [ofFiles_of_isRead hread]
    cases hstate : fileAt name with
    | absent => exact absurd hstate hread.not_absent
    | unreadable cause => exact .inr ⟨_, rfl, .unreadable hread hstate⟩
    | text content =>
      rw [ofFile]
      cases htext : ofText content with
      | ok settings => exact .inl ⟨settings, rfl, .text hread hstate (ofText_eq_ok_iff.mp htext)⟩
      | error fault =>
        refine .inr ⟨_, rfl, .malformed hread hstate (fun settings hgives => ?_) htext⟩
        cases htext.symm.trans (ofText_eq_ok_iff.mpr hgives)
  · exact .inl ⟨usual, ofFiles_of_absent (not_exists.mp hread) pathOf, .absent (not_exists.mp hread)⟩

lemma ofFiles_eq_ok_iff : ofFiles fileAt pathOf = .ok settings ↔ OfFiles fileAt settings := by
  constructor
  · intro h
    obtain ⟨loaded, hloaded, hfiles⟩ | ⟨failure, hfailure, _⟩ := ofFiles_cases fileAt pathOf
    · obtain rfl := Except.ok.inj (hloaded.symm.trans h)
      exact hfiles
    · cases hfailure.symm.trans h
  · intro h
    cases h with
    | absent hnone => exact ofFiles_of_absent hnone pathOf
    | text hread hcontent hgives =>
      rw [ofFiles_of_isRead hread, hcontent, ofFile, ofText_eq_ok_iff.mpr hgives]
      rfl

lemma ofFiles_eq_error_iff : ofFiles fileAt pathOf = .error failure ↔
    FileFailure fileAt pathOf failure := by
  constructor
  · intro h
    obtain ⟨loaded, hloaded, _⟩ | ⟨found, hfound, hfailure⟩ := ofFiles_cases fileAt pathOf
    · cases hloaded.symm.trans h
    · obtain rfl := Except.error.inj (hfound.symm.trans h)
      exact hfailure
  · intro h
    cases h with
    | unreadable hread hcause =>
      rw [ofFiles_of_isRead hread, hcause]
      rfl
    | malformed hread hcontent _ hfault =>
      rw [ofFiles_of_isRead hread, hcontent, ofFile, hfault]
      rfl

/-- Settings load as the file gives them and the environment overrides them, if that is in range;
what the file alone gives need not be. Otherwise the failure is that of the file, else that of the
first variable that is set to no number, else it lists all that is out of range. -/
theorem load_eq_iff (fileAt : String → FileState) (pathOf : String → String)
    (environment : String → Option String) :
    (∀ settings, load fileAt pathOf environment = .ok settings ↔
      settings.InRange ∧ ∃ file, OfFiles fileAt file ∧ Overridden environment file settings) ∧
    ∀ failure, load fileAt pathOf environment = .error failure ↔
      FileFailure fileAt pathOf failure ∨ ∃ file, OfFiles fileAt file ∧
        (VariableFailure environment ["VIGIL_MAX_ROWS", "VIGIL_RULE_TIMEOUT_MS",
          "VIGIL_MAX_WORKERS"] failure ∨
          ∃ settings, Overridden environment file settings ∧
            ∃ names, names ≠ [] ∧ settings.IsFaultList names ∧ failure = .outOfRange names) := by
  constructor
  · intro settings
    simp only [load, bind_eq_ok, ofFiles_eq_ok_iff, withEnvironment_eq_ok_iff, check_eq_ok_iff]
    constructor
    · rintro ⟨file, hfile, _, hoverridden, rfl, hrange⟩
      exact ⟨hrange, file, hfile, hoverridden⟩
    · rintro ⟨hrange, file, hfile, hoverridden⟩
      exact ⟨file, hfile, settings, hoverridden, rfl, hrange⟩
  · intro failure
    simp only [load, bind_eq_error, ofFiles_eq_ok_iff, ofFiles_eq_error_iff, withEnvironment_eq_ok_iff,
      withEnvironment_eq_error_iff, check_eq_error_iff]

example : (load (fun name => if name = "vigil.yml" then .text "max-workers: 0" else .absent) id
    (fun name => if name = "VIGIL_MAX_WORKERS" then some " +2 " else none)).toOption.map
      (·.maxWorkers) = some 2 := by
  decide +kernel

end Compliance.Scan.Settings
