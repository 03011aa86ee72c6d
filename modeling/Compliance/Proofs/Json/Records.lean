import Compliance.Json.Decode
import Compliance.Proofs.Result

/-! An object that gives each of its fields once, and nothing that a record does not know, is read
as that record. -/

namespace Compliance

open ListFacts Result

variable {V : Type} {fields : List (Field V)} {ignore : V → Except DecodeError Unit}
  {given seen : List (String × V)}

lemma visitFields_of_known (hkeys : ((seen ++ given).map (·.1)).Nodup)
    (hknown : ∀ p ∈ given, ∃ f, fields.find? (·.name = p.1) = some f ∧ f.check p.2 = .ok ()) :
    visitFields fields ignore seen given = .ok (seen.reverse ++ given) := by
  induction given generalizing seen with
  | nil => rw [visitFields, List.append_nil]
  | cons p given ih =>
    obtain ⟨key, value⟩ := p
    obtain ⟨f, hf, hcheck⟩ := hknown (key, value) (List.mem_cons_self ..)
    have hkeys' : (((key, value) :: (seen ++ given)).map (·.1)).Nodup :=
      (List.perm_middle.map Prod.fst).nodup_iff.mp hkeys
    have hnew : (seen.lookup key).isSome = false := by
      rw [Option.isSome_eq_false_iff, Option.isNone_iff_eq_none, List.lookup_eq_none_iff]
      intro p hp
      rw [bne_iff_ne]
      rintro rfl
      exact (List.nodup_cons.mp hkeys').1 (List.mem_map.mpr ⟨p, List.mem_append_left given hp, rfl⟩)
    rw [visitFields, hf]
    simp only [hnew, hcheck, ok_bind]
    rw [if_neg (by decide), ih hkeys' fun p hp => hknown p (List.mem_cons_of_mem _ hp),
      List.reverse_cons, List.append_assoc]
    rfl

lemma completeFields_of_all (hall : ∀ f ∈ fields, (seen.lookup f.name <|> f.inObject).isSome)
    (hnames : (fields.map (·.name)).Nodup) :
    ∃ record, completeFields fields seen = .ok record ∧
      ∀ f ∈ fields, record.lookup f.name = (seen.lookup f.name <|> f.inObject) := by
  induction fields with
  | nil => exact ⟨[], rfl, nofun⟩
  | cons f fields ih =>
    obtain ⟨hf, hall⟩ := List.forall_mem_cons.mp hall
    obtain ⟨hname, hnames⟩ := List.nodup_cons.mp hnames
    obtain ⟨value, hvalue⟩ := Option.isSome_iff_exists.mp hf
    obtain ⟨record, hrecord, hlookup⟩ := ih hall hnames
    refine ⟨(f.name, value) :: record, ?_, List.forall_mem_cons.mpr ⟨?_, fun g hg => ?_⟩⟩
    · rw [completeFields] at hrecord ⊢
      rw [List.mapM_cons, hrecord, hvalue]
      rfl
    · rw [List.lookup_cons_self, hvalue]
    · have hne : (g.name == f.name) = false := by
        rw [beq_eq_false_iff_ne]
        exact fun heq => hname (List.mem_map.mpr ⟨g, hg, heq⟩)
      rw [List.lookup_cons, hne, ← hlookup g hg]

theorem readFields_of_known (fields : List (Field V)) (ignore : V → Except DecodeError Unit)
    (given : List (String × V)) (hnames : (fields.map (·.name)).Nodup) (hkeys : (given.map (·.1)).Nodup)
    (hknown : ∀ p ∈ given, ∃ f, fields.find? (·.name = p.1) = some f ∧ f.check p.2 = .ok ())
    (hall : ∀ f ∈ fields, f.name ∈ given.map (·.1) ∨ f.inObject.isSome) :
    ∃ record, readFields fields ignore given = .ok record ∧ (∀ p ∈ given, record.lookup p.1 = some p.2) ∧
      ∀ f ∈ fields, f.name ∉ given.map (·.1) → record.lookup f.name = f.inObject := by
  have hvalue : ∀ f ∈ fields, (given.lookup f.name <|> f.inObject).isSome := by
    intro f hf
    obtain hgiven | hdefault := hall f hf
    · obtain ⟨p, hp, heq⟩ := List.mem_map.mp hgiven
      rw [← heq, lookup_of_nodup hkeys hp]
      rfl
    · cases given.lookup f.name with
      | none => exact hdefault
      | some value => rfl
  obtain ⟨record, hrecord, hlookup⟩ := completeFields_of_all hvalue hnames
  refine ⟨record, ?_, fun p hp => ?_, fun f hf habsent => ?_⟩
  · rw [readFields, visitFields_of_known (by simpa using hkeys) hknown]
    exact hrecord
  · obtain ⟨f, hf, -⟩ := hknown p hp
    have hname : f.name = p.1 := by simpa using List.find?_some hf
    rw [← hname, hlookup f (List.mem_of_find?_eq_some hf), hname, lookup_of_nodup hkeys hp]
    rfl
  · have hnone : given.lookup f.name = none := by
      rw [List.lookup_eq_none_iff]
      intro p hp
      rw [bne_iff_ne]
      exact fun heq => habsent (List.mem_map.mpr ⟨p, hp, heq.symm⟩)
    rw [hlookup f hf, hnone]
    rfl

end Compliance
