import Mathlib.Data.List.Lex
import Mathlib.Data.String.Basic
import Mathlib.Tactic.Lemma

/-! Texts are in the order of their UTF-8 bytes as they are in that of their characters. -/

namespace Compliance.Text

def charBytes (c : Char) : List ℕ := (String.utf8EncodeChar c).map UInt8.toNat

def bytes (s : String) : List ℕ := s.toByteArray.data.toList.map UInt8.toNat

lemma bytes_eq (s : String) : bytes s = s.toList.flatMap charBytes := by
  rw [bytes, ← String.utf8Encode_toList, List.utf8Encode, List.toList_data_toByteArray, List.map_flatMap]
  rfl

lemma char_toNat_lt (c : Char) : c.toNat < 0x110000 := by
  obtain h | ⟨-, h⟩ : c.toNat < 0xd800 ∨ 0xdfff < c.toNat ∧ c.toNat < 0x110000 := c.valid
  · omega
  · exact h

lemma charBytes_eq (c : Char) : charBytes c =
    if c.toNat ≤ 0x7f then [c.toNat]
    else if c.toNat ≤ 0x7ff then [c.toNat / 0x40 + 0xc0, c.toNat % 0x40 + 0x80]
    else if c.toNat ≤ 0xffff then [c.toNat / 0x1000 + 0xe0, c.toNat / 0x40 % 0x40 + 0x80,
      c.toNat % 0x40 + 0x80]
    else [c.toNat / 0x40000 + 0xf0, c.toNat / 0x1000 % 0x40 + 0x80, c.toNat / 0x40 % 0x40 + 0x80,
      c.toNat % 0x40 + 0x80] := by
  have hc := char_toNat_lt c
  rw [charBytes, String.utf8EncodeChar]
  change List.map _ (if c.toNat ≤ _ then _ else _) = _
  have hval : c.val.toNat = c.toNat := rfl
  simp only [hval]
  generalize c.toNat = n at hc
  split_ifs <;> simp only [List.map_cons, List.map_nil, UInt8.toNat_ofNat', List.cons.injEq,
    and_true] <;> omega

lemma charBytes_append_lt {c d : Char} (h : c < d) (s t : List ℕ) :
    charBytes c ++ s < charBytes d ++ t := by
  have hd := char_toNat_lt d
  have hlt : c.toNat < d.toNat := h
  rw [charBytes_eq, charBytes_eq]
  generalize c.toNat = m at hlt
  generalize d.toNat = n at hlt hd
  split_ifs <;> simp only [List.cons_append, List.nil_append, List.cons_lt_cons_iff] <;> omega

lemma charBytes_ne_nil (c : Char) : charBytes c ≠ [] := by
  rw [charBytes_eq]
  split_ifs <;> simp

lemma flatMap_charBytes_lt {s t : List Char} (h : s < t) :
    s.flatMap charBytes < t.flatMap charBytes := by
  induction s generalizing t with
  | nil =>
    cases t with
    | nil => exact absurd h (List.lt_irrefl _)
    | cons d t =>
      obtain ⟨b, l, hb⟩ := List.exists_cons_of_ne_nil (charBytes_ne_nil d)
      rw [List.flatMap_cons, hb]
      exact List.nil_lt_cons _ _
  | cons c s ih =>
    cases t with
    | nil => exact absurd h (List.not_lt_nil _)
    | cons d t =>
      rw [List.flatMap_cons, List.flatMap_cons]
      obtain hlt | ⟨rfl, hlt⟩ := List.cons_lt_cons_iff.mp h
      · exact charBytes_append_lt hlt _ _
      · exact List.append_left_lt (ih hlt)

lemma strictMono_bytes : StrictMono bytes := by
  intro s t h
  rw [bytes_eq, bytes_eq]
  exact flatMap_charBytes_lt (String.lt_iff_toList_lt.mp h)

end Compliance.Text
