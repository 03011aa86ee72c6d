import Compliance.Proofs.Number.Comparison
import Compliance.Proofs.Rule.Import
import Compliance.Proofs.Store.Inserting

/-! An import takes each record of a document or refuses it, without regard to the others, and
inserts all that it takes at once. -/

namespace Compliance.Rule

open ListFacts Number Result

namespace Proposal

variable {proposal : Proposal} {error : DomainError}

lemma isProbability_iff {x : Double} : isProbability x ↔ ∃ v, x.value? = some v ∧ 0 ≤ v ∧ v ≤ 1 := by
  have hzero : Double.zero.value? = some 0 := by simp [Double.zero, Double.value?]
  rw [isProbability, Bool.and_eq_true]
  cases x with
  | nan => simp [Double.value?, Operator.holds, Double.compare?, Operator.holdsOf]
  | infinite negative =>
    refine iff_of_false ?_ (by simp [Double.value?])
    cases negative <;> decide +kernel
  | finite negative m e =>
    rw [Operator.holds_iff_relates (Double.compare?_of_value? rfl hzero),
      Operator.holds_iff_relates (Double.compare?_of_value? rfl Double.value?_ofInt_one)]
    constructor
    · exact fun h => ⟨_, rfl, h⟩
    · rintro ⟨v, hv, h⟩
      obtain rfl := Option.some.inj hv
      exact h

structure IsValid (proposal : Proposal) : Prop where
  name : Text.trim proposal.name ≠ ""
  confidence : ∃ v, proposal.confidence.value? = some v ∧ 0 ≤ v ∧ v ≤ 1
  parameters : ∃ spec, Spec.read proposal.kind proposal.parameters = .ok spec

inductive Faulty (proposal : Proposal) : DomainError → Prop
  | name (h : Text.trim proposal.name = "") : Faulty proposal (.invalidRule proposal.name .blankName)
  | confidence (hname : Text.trim proposal.name ≠ "")
    (h : ¬ ∃ v, proposal.confidence.value? = some v ∧ 0 ≤ v ∧ v ≤ 1) :
    Faulty proposal (.invalidRule proposal.name (.confidence proposal.confidence))
  | parameters {cause : CompileError} (hname : Text.trim proposal.name ≠ "")
    (hconfidence : ∃ v, proposal.confidence.value? = some v ∧ 0 ≤ v ∧ v ≤ 1)
    (h : Spec.read proposal.kind proposal.parameters = .error cause) : Faulty proposal (.compile cause)

lemma validate_cases (proposal : Proposal) :
    ((∃ spec, proposal.validate = .ok spec) ∧ proposal.IsValid) ∨
      ∃ error, proposal.validate = .error error ∧ proposal.Faulty error ∧ ¬ proposal.IsValid := by
  rw [validate]
  by_cases hname : Text.trim proposal.name = ""
  · rw [if_pos hname]
    exact .inr ⟨_, rfl, .name hname, fun hvalid => hvalid.name hname⟩
  rw [if_neg hname]
  by_cases hconfidence : isProbability proposal.confidence
  · rw [if_neg (by simpa using hconfidence)]
    rw [isProbability_iff] at hconfidence
    cases hspec : Spec.read proposal.kind proposal.parameters with
    | ok spec => exact .inl ⟨⟨spec, rfl⟩, hname, hconfidence, spec, hspec⟩
    | error cause =>
      refine .inr ⟨_, rfl, .parameters hname hconfidence hspec, fun hvalid => ?_⟩
      obtain ⟨_, h⟩ := hvalid.parameters
      cases hspec.symm.trans h
  · rw [if_pos (by simpa using hconfidence)]
    rw [isProbability_iff] at hconfidence
    exact .inr ⟨_, rfl, .confidence hname hconfidence, fun hvalid => hconfidence hvalid.confidence⟩

end Proposal

variable {newId : ℕ → String} {now : Time.Timestamp} {entries : List Entry} {entry : Entry}
  {rejection : Rejection} {proposal : Proposal}

namespace Entry

def IsValid (entry : Entry) : Prop := ∃ proposal, entry.record = .ok proposal ∧ proposal.IsValid

def Gives (now : Time.Timestamp) (entry : Entry) (rule : Rule) : Prop :=
  ∃ proposal, entry.record = .ok proposal ∧ proposal.IsValid ∧ rule =
    { id := rule.id, name := proposal.name, kind := proposal.kind, description := proposal.description,
      parameters := proposal.parameters, confidence := proposal.confidence, status := proposal.status,
      createdAt := now, source := proposal.source }

inductive Fails (entry : Entry) : Rejection → Prop
  | undecoded {fault : DecodeError} (h : entry.record = .error fault) :
  Fails entry ⟨entry.index, none, fault.message⟩
  | invalid {proposal : Proposal} {error : DomainError} (h : entry.record = .ok proposal)
    (hfaulty : proposal.Faulty error) :
    Fails entry ⟨entry.index, some proposal.name, error.message⟩

def proposal? (entry : Entry) : Option Proposal := (Import.judge entry).toOption

def rejection? (entry : Entry) : Option Rejection :=
  match Import.judge entry with
  | .ok _ => none
  | .error rejection => some rejection

lemma judge_cases (entry : Entry) :
    (∃ proposal, Import.judge entry = .ok proposal ∧ entry.record = .ok proposal ∧ proposal.IsValid) ∨
      ∃ rejection, Import.judge entry = .error rejection ∧ entry.Fails rejection ∧ ¬ entry.IsValid := by
  obtain ⟨index, record⟩ := entry
  cases record with
  | error fault =>
    refine .inr ⟨_, rfl, .undecoded rfl, ?_⟩
    rintro ⟨_, h, _⟩
    cases h
  | ok proposal =>
    rcases proposal.validate_cases with ⟨hspec, hvalid⟩ | ⟨error, hvalidate, hfaulty, hinvalid⟩
    · exact .inl ⟨proposal, judge_eq_ok.mpr ⟨rfl, hspec⟩, rfl, hvalid⟩
    · refine .inr ⟨⟨index, some proposal.name, error.message⟩, ?_, .invalid rfl hfaulty, ?_⟩
      · simp only [Import.judge, hvalidate]
      · rintro ⟨_, h, hvalid⟩
        obtain rfl := Except.ok.inj h
        exact hinvalid hvalid

lemma isValid_of_proposal? (h : entry.proposal? = some proposal) : entry.record = .ok proposal ∧
    proposal.IsValid := by
  rcases entry.judge_cases with ⟨_, hjudge, hvalid⟩ | ⟨_, hjudge, _⟩ <;> rw [proposal?, hjudge] at h
  · obtain rfl := Option.some.inj h
    exact hvalid
  · cases h

lemma fails_of_rejection? (h : entry.rejection? = some rejection) : entry.Fails rejection := by
  rcases entry.judge_cases with ⟨_, hjudge, _⟩ | ⟨_, hjudge, hfails, _⟩
    <;> simp only [rejection?, hjudge] at h
  · cases h
  · obtain rfl := Option.some.inj h
    exact hfails

lemma isSome_proposal?_iff : entry.proposal?.isSome ↔ entry.IsValid := by
  rcases entry.judge_cases with ⟨proposal, hjudge, hvalid⟩ | ⟨_, hjudge, _, hinvalid⟩
    <;> rw [proposal?, hjudge]
  · exact iff_of_true rfl ⟨proposal, hvalid⟩
  · exact iff_of_false (by simp [Except.toOption]) hinvalid

lemma isSome_rejection? (entry : Entry) : entry.rejection?.isSome = !entry.proposal?.isSome := by
  rw [rejection?, proposal?]
  cases Import.judge entry <;> rfl

end Entry

structure Sorting (newId : ℕ → String) (now : Time.Timestamp) (entries : List Entry)
    (summary : ImportSummary) (taken refused : List Entry) : Prop where
  taken_sublist : taken.Sublist entries
  refused_sublist : refused.Sublist entries
  all : (taken ++ refused).Perm entries
  mem_taken_iff : ∀ entry ∈ entries, entry ∈ taken ↔ entry.IsValid
  mem_refused_iff : ∀ entry ∈ entries, entry ∈ refused ↔ ¬ entry.IsValid
  accepted : List.Forall₂ (Entry.Gives now) taken summary.accepted
  ids : summary.accepted.map (·.id) = (List.range taken.length).map newId
  rejected : List.Forall₂ Entry.Fails refused summary.rejected

lemma sortFrom_eq (newId : ℕ → String) (now : Time.Timestamp) (place : ℕ) (entries : List Entry) :
    Import.sortFrom newId now place entries =
      ⟨(entries.filterMap Entry.proposal?).mapIdx fun i proposal =>
        proposal.toRule (newId (place + i)) now,
        entries.filterMap Entry.rejection?⟩ := by
  induction entries generalizing place with
  | nil => rfl
  | cons entry entries ih =>
    rw [Import.sortFrom, List.filterMap_cons, List.filterMap_cons, Entry.proposal?, Entry.rejection?]
    cases Import.judge entry with
    | error rejection => simp only [ih, Except.toOption]
    | ok proposal =>
      -- An identity is spent on this record, so that the others begin one place later.
      simp only [ih, Except.toOption, List.mapIdx_cons, Nat.add_zero]
      congr 3
      funext i proposal
      rw [Nat.add_right_comm, Nat.add_assoc]

lemma sort_eq (newId : ℕ → String) (now : Time.Timestamp) (entries : List Entry) :
    Import.sort newId now entries =
      ⟨(entries.filterMap Entry.proposal?).mapIdx fun i proposal => proposal.toRule (newId i) now,
        entries.filterMap Entry.rejection?⟩ := by
  rw [Import.sort, sortFrom_eq]
  simp only [Nat.zero_add]

lemma sorting_sort (newId : ℕ → String) (now : Time.Timestamp) (entries : List Entry) :
    Sorting newId now entries (Import.sort newId now entries) (entries.filter (·.proposal?.isSome))
      (entries.filter (!·.proposal?.isSome)) := by
  have hproposals : List.Forall₂ (fun entry proposal => entry.proposal? = some proposal)
    (entries.filter (·.proposal?.isSome))
      (entries.filterMap Entry.proposal?) := forall₂_filterMap _ _
  have hrejections : List.Forall₂ (fun entry rejection => entry.rejection? = some rejection)
      (entries.filter (·.rejection?.isSome)) (entries.filterMap Entry.rejection?) :=
        forall₂_filterMap _ _
  simp only [Entry.isSome_rejection?] at hrejections
  rw [sort_eq]
  refine ⟨List.filter_sublist, List.filter_sublist, List.filter_append_perm _ _, fun entry hentry =>
    ?_, fun entry hentry => ?_, ?_, ?_, ?_⟩
  · rw [List.mem_filter, Entry.isSome_proposal?_iff]
    exact and_iff_right hentry
  · rw [List.mem_filter, Bool.not_eq_true', ← Bool.not_eq_true, Entry.isSome_proposal?_iff]
    exact and_iff_right hentry
  · refine forall₂_mapIdx hproposals fun i entry proposal h => ?_
    obtain ⟨hrecord, hvalid⟩ := Entry.isValid_of_proposal? h
    exact ⟨proposal, hrecord, hvalid, rfl⟩
  · rw [hproposals.length_eq]
    refine List.ext_getElem (by simp) fun i _ _ => ?_
    rw [List.getElem_map, List.getElem_mapIdx, List.getElem_map, List.getElem_range]
    rfl
  · exact hrejections.imp fun _ _ h => Entry.fails_of_rejection? h

def logged {S : Type} (insert : List Rule → ExceptT Failure (StateM S) Unit) :
    List Rule → ExceptT Failure (StateM (S × List (List Rule))) Unit := fun rules state =>
  let outcome := insert rules state.1
  (outcome.1, outcome.2, state.2 ++ [rules])

section
variable {S : Type} {insert : List Rule → ExceptT Failure (StateM S) Unit} {s : S}

lemma runOn_of_nil (h : (Import.sort newId now entries).accepted = []) :
    Import.runOn insert newId now entries s = (.ok (Import.sort newId now entries), s) := by
  rw [Import.runOn, if_pos (List.isEmpty_iff.mpr h)]
  rfl

lemma runOn_of_ne_nil (h : (Import.sort newId now entries).accepted ≠ []) :
    Import.runOn insert newId now entries s =
      ((insert (Import.sort newId now entries).accepted s).1.map fun _ => Import.sort newId now entries,
        (insert (Import.sort newId now entries).accepted s).2) := by
  rw [Import.runOn, if_neg (by simpa using h)]
  change (let r := insert (Import.sort newId now entries).accepted s
    ExceptT.bindCont (m := StateM S) (fun _ => pure (Import.sort newId now entries)) r.1 r.2) = _
  rcases insert (Import.sort newId now entries).accepted s with ⟨_ | _, _⟩ <;> rfl

end

lemma run_eq {S : Type} (insert : List Rule → S → Except Failure S) (newId : ℕ → String)
    (now : Time.Timestamp) (entries : List Entry) (s : S) :
    Import.run insert newId now entries s =
      if (Import.sort newId now entries).accepted = [] then .ok (Import.sort newId now entries, s)
      else (insert (Import.sort newId now entries).accepted s).map fun s' =>
        (Import.sort newId now entries, s') := by
  rw [Import.run]
  simp only [List.isEmpty_iff]
  split_ifs
  · rfl
  · cases insert (Import.sort newId now entries).accepted s <;> rfl

lemma runOn_insertBatch_cases (refusals : Store.Refusals) (newId : ℕ → String)
    (now : Time.Timestamp) (entries : List Entry) (s : Store) :
    (∃ failure, Import.runOn (Store.insertBatch refusals) newId now entries (.opened s) =
      (.error failure, .opened s)) ∨
      ∃ s', Import.run Store.insertRules newId now entries s = .ok (Import.sort newId now entries, s') ∧
        Import.runOn (Store.insertBatch refusals) newId now entries (.opened s) =
          (.ok (Import.sort newId now entries), .opened s') := by
  rw [run_eq]
  by_cases hnil : (Import.sort newId now entries).accepted = []
  · exact .inr ⟨s, if_pos hnil, runOn_of_nil hnil⟩
  · rw [runOn_of_ne_nil hnil, if_neg hnil]
    rcases Store.insertBatch_cases refusals (Import.sort newId now entries).accepted s
      with ⟨failure, h⟩ | ⟨s', hinsert, h⟩
    · exact .inl ⟨failure, by rw [h]; rfl⟩
    · exact .inr ⟨s', by rw [hinsert]; rfl, by rw [h]; rfl⟩

lemma runOn_willing (newId : ℕ → String) (now : Time.Timestamp) (entries : List Entry) (s : Store) :
    (Import.runOn (Store.insertBatch fun _ => none) newId now entries (.opened s)).1 =
      (Import.run Store.insertRules newId now entries s).map (·.1) := by
  rw [run_eq]
  split_ifs with hnil
  · rw [runOn_of_nil hnil]
    rfl
  · rw [runOn_of_ne_nil hnil, Store.insertBatch_willing]
    cases Store.insertRules (Import.sort newId now entries).accepted s <;> rfl

def proposed (rule : Rule) : Proposal :=
  ⟨rule.name, rule.kind, rule.description, rule.parameters, rule.confidence, rule.status, rule.source⟩

lemma map_proposed_sort (newId : ℕ → String) (now : Time.Timestamp) (entries : List Entry) :
    (Import.sort newId now entries).accepted.map proposed = entries.filterMap Entry.proposal? := by
  rw [sort_eq]
  refine List.ext_getElem (by simp) fun i _ _ => ?_
  rw [List.getElem_map, List.getElem_mapIdx]
  rfl

lemma rejected_sort (newId : ℕ → String) (now : Time.Timestamp) (entries : List Entry) :
    (Import.sort newId now entries).rejected = entries.filterMap Entry.rejection? := by
  rw [sort_eq]

lemma exists_around (before after : List Entry) :
    ∃ taken₁ taken₂ rejected₁ rejected₂, ∀ (entry : Entry) (newId : ℕ → String) (now : Time.Timestamp),
      (Import.sort newId now (before ++ entry :: after)).accepted.map proposed =
          taken₁ ++ ((Import.sort newId now [entry]).accepted.map proposed ++ taken₂) ∧
        (Import.sort newId now (before ++ entry :: after)).rejected =
          rejected₁ ++ ((Import.sort newId now [entry]).rejected ++ rejected₂) := by
  refine ⟨before.filterMap Entry.proposal?, after.filterMap Entry.proposal?,
    before.filterMap Entry.rejection?, after.filterMap Entry.rejection?, fun entry newId now => ⟨?_, ?_⟩⟩
  · rw [map_proposed_sort, map_proposed_sort, List.append_cons, List.filterMap_append,
      List.filterMap_append, List.append_assoc]
  · rw [rejected_sort, rejected_sort, List.append_cons, List.filterMap_append,
      List.filterMap_append, List.append_assoc]

lemma map_index_ofText {text : String} (h : Document.ofText text = .ok entries) :
    entries.map (·.index) = List.range entries.length := by
  obtain ⟨document, _, h⟩ := bind_eq_ok.mp h
  obtain ⟨value, _, h⟩ := bind_eq_ok.mp h
  rw [Document.ofValue] at h
  split at h
  next records _ =>
    obtain rfl := Except.ok.inj h
    rw [map_index_ofRecords]
    simp [Entry.ofRecords]
  · cases h

/-- Every record of a document is accepted or rejected, and never both: it is accepted if and only
if it is valid. The accepted rules and the rejections are in the order of the document, the rules
are as proposed, and a rejection says what is wrong with its own record. The source is asked once,
for exactly the accepted rules, and not at all if there are none. If it fails then so does the
import, and the store is as it was. Whatever stands in the place of one record, the others fare as
before. -/
theorem import_sorts_records {S : Type} (insert : List Rule → ExceptT Failure (StateM S) Unit)
    (newId : ℕ → String) (now : Time.Timestamp) (entries : List Entry) :
    (∃ summary taken refused, summary = Import.sort newId now entries ∧
      Sorting newId now entries summary taken refused ∧
      (∀ text, Document.ofText text = .ok entries →
        ((taken ++ refused).map (·.index)).Perm (List.range entries.length)) ∧
      (∀ s, ∃ result s' calls, Import.runOn insert newId now entries s = (result, s') ∧
        Import.runOn (logged insert) newId now entries (s, []) = (result, s', calls) ∧
        (summary.accepted = [] → calls = [] ∧ result = .ok summary ∧ s' = s) ∧
        (summary.accepted ≠ [] → calls = [summary.accepted] ∧
          ∃ outcome, insert summary.accepted s = (outcome, s') ∧
            result = outcome.map fun _ => summary)) ∧
      (∀ refusals s,
        (∃ failure, Import.runOn (Store.insertBatch refusals) newId now entries (.opened s) =
          (.error failure, .opened s)) ∨
          ∃ s', Import.run Store.insertRules newId now entries s = .ok (summary, s') ∧
            Import.runOn (Store.insertBatch refusals) newId now entries (.opened s) =
              (.ok summary, .opened s')) ∧
      ∀ s, (Import.runOn (Store.insertBatch fun _ => none) newId now entries (.opened s)).1 =
        (Import.run Store.insertRules newId now entries s).map (·.1)) ∧
    ∀ before after : List Entry, ∃ taken₁ taken₂ rejected₁ rejected₂,
      ∀ (entry : Entry) (newId : ℕ → String) (now : Time.Timestamp),
      (Import.sort newId now (before ++ entry :: after)).accepted.map proposed =
          taken₁ ++ ((Import.sort newId now [entry]).accepted.map proposed ++ taken₂) ∧
        (Import.sort newId now (before ++ entry :: after)).rejected =
          rejected₁ ++ ((Import.sort newId now [entry]).rejected ++ rejected₂) := by
  have hsorting := sorting_sort newId now entries
  refine ⟨⟨_, _, _, rfl, hsorting, fun text htext => ?_, fun s => ?_,
    fun refusals s => runOn_insertBatch_cases refusals newId now entries s,
    runOn_willing newId now entries⟩, exists_around⟩
  · rw [← map_index_ofText htext]
    exact hsorting.all.map _
  · by_cases hnil : (Import.sort newId now entries).accepted = []
    · exact ⟨_, _, _, runOn_of_nil hnil, runOn_of_nil hnil, fun _ => ⟨rfl, rfl, rfl⟩, fun hne =>
        absurd hnil hne⟩
    · exact ⟨_, _, _, runOn_of_ne_nil hnil, runOn_of_ne_nil hnil, fun h => absurd h hnil, fun _ =>
        ⟨rfl, _, rfl, rfl⟩⟩

/-! A record without a name, one with a blank name, and a valid one -/

def birthProposal (name : String) : Proposal where
  name := name
  kind := "not_null"
  description := "a date of birth"
  parameters := .object [("column", .text "born"), ("table", .text "people")]
  confidence := .ofDecimal false 5 (-1)
  status := .pending
  source := none

def mixedEntries : List Entry :=
  [⟨0, .error (.missingField "rule_name")⟩, ⟨1, .ok (birthProposal " ")⟩,
    ⟨2, .ok (birthProposal "born")⟩]

theorem import_sorts_records_mixedEntries :
    ∃ s rule, rule = (birthProposal "born").toRule "v" .epoch ∧
      Import.runOn (Store.insertBatch fun _ => none)
        (fun _ => "v") .epoch mixedEntries (.opened ⟨some ⟨[], true⟩, some [], []⟩) =
        (.ok ⟨[rule],
          [⟨0, none, "missing field `rule_name`"⟩,
            ⟨1, some " ", "Invalid rule record ' ': rule_name is empty"⟩]⟩,
          .opened s) := by
  obtain ⟨⟨_, _, _, rfl, _, _, _, hstored, _⟩, _⟩ :=
    import_sorts_records (Store.insertBatch fun _ => none) (fun _ => "v") .epoch mixedEntries
  have hsort : Import.sort (fun _ => "v") .epoch mixedEntries =
    ⟨[(birthProposal "born").toRule "v" .epoch],
      [⟨0, none, "missing field `rule_name`"⟩,
        ⟨1, some " ", "Invalid rule record ' ': rule_name is empty"⟩]⟩ := by
    decide +kernel
  rcases hstored (fun _ => none) ⟨some ⟨[], true⟩, some [], []⟩ with ⟨failure, h⟩ | ⟨s, _, h⟩
  · have hdone : (Import.runOn (Store.insertBatch fun _ => none) (fun _ => "v") .epoch mixedEntries
        (.opened ⟨some ⟨[], true⟩, some [], []⟩)).1.isOk := by decide +kernel
    rw [h] at hdone
    cases hdone
  · exact ⟨s, _, rfl, hsort ▸ h⟩

end Compliance.Rule
