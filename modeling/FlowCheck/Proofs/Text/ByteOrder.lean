import Mathlib.Data.List.Lex
import Mathlib.Data.String.Basic

/-!
# The order of texts by bytes

Texts are ordered by their characters.  That is the order of their bytes in UTF-8
(`Text.bytes_le_bytes_iff`): the bytes of a lesser character are less than those of a greater one
at the first place where they differ, and there is such a place.

A byte below 128 is a character by itself and no part of another one.  So where the bytes of a text
end in such a byte and the bytes of a second text, the text ends in that character and the second
text (`Text.cons_suffix_flatMap_charBytes_iff`).
-/

namespace FlowCheck
namespace Text

/-- The bytes of a text in UTF-8, as numbers. -/
def bytes (s : String) : List ℕ := s.toUTF8.data.toList.map UInt8.toNat

/-- The bytes of a character. -/
def charBytes (c : Char) : List ℕ := (String.utf8EncodeChar c).map UInt8.toNat

theorem bytes_eq (s : String) : bytes s = s.toList.flatMap charBytes := by
  have hchars : s.toUTF8 = (s.toList.flatMap String.utf8EncodeChar).toByteArray := by
    conv_lhs => rw [← String.ofList_toList (s := s)]
    exact String.toByteArray_ofList
  rw [bytes, hchars, List.data_toByteArray, List.toList_toArray, List.map_flatMap]
  rfl

/-- One to four bytes, by the size of the code point. -/
theorem charBytes_eq (c : Char) : charBytes c =
    if c.toNat ≤ 127 then [c.toNat]
    else if c.toNat ≤ 2047 then [c.toNat / 64 + 192, c.toNat % 64 + 128]
    else if c.toNat ≤ 65535 then
      [c.toNat / 4096 + 224, c.toNat / 64 % 64 + 128, c.toNat % 64 + 128]
    else
      [c.toNat / 262144 + 240, c.toNat / 4096 % 64 + 128, c.toNat / 64 % 64 + 128,
        c.toNat % 64 + 128] := by
  have hmax : c.toNat < 1114112 := by
    rcases c.valid with h | h
    · exact h.trans (by decide)
    · exact h.2
  unfold charBytes String.utf8EncodeChar
  simp only [← Char.toNat.eq_1]
  split_ifs
  all_goals
    simp only [List.map_cons, List.map_nil, UInt8.toNat_ofNat', List.cons.injEq, and_true]
    omega

theorem charBytes_ne_nil (c : Char) : charBytes c ≠ [] := by
  rw [charBytes_eq]
  split_ifs <;> exact List.cons_ne_nil _ _

theorem charBytes_of_lt {c : Char} (h : c.toNat < 128) : charBytes c = [c.toNat] := by
  rw [charBytes_eq, if_pos (by omega)]

theorem le_of_mem_charBytes {c : Char} (h : 128 ≤ c.toNat) : ∀ b ∈ charBytes c, 128 ≤ b := by
  rw [charBytes_eq, if_neg (by omega)]
  split_ifs <;> simp only [List.mem_cons, List.not_mem_nil, or_false] <;> omega

/-- A lesser character decides the order, whatever follows. -/
theorem charBytes_append_lt {c d : Char} (h : c < d) (front back : List ℕ) :
    charBytes c ++ front < charBytes d ++ back := by
  have hlt : c.toNat < d.toNat := h
  rw [charBytes_eq, charBytes_eq]
  -- Of two sizes the smaller one has the lesser first byte; within a size the quotients are the
  -- digits of the code point to the base 64.
  split_ifs
  all_goals
    simp only [List.cons_append, List.nil_append, List.cons_lt_cons_iff]
    omega

theorem flatMap_charBytes_lt {cs ds : List Char} (h : cs < ds) :
    cs.flatMap charBytes < ds.flatMap charBytes := by
  induction h with
  | @nil d ds =>
    obtain ⟨b, bs, hd⟩ := List.exists_cons_of_ne_nil (charBytes_ne_nil d)
    rw [List.flatMap_cons, hd]
    exact List.nil_lt_cons _ _
  | @cons c cs ds _ ih => exact List.append_left_lt ih
  | rel hcd => exact charBytes_append_lt hcd _ _

/-- Texts are in the order of their bytes. -/
theorem strictMono_bytes : StrictMono bytes := by
  intro s t h
  rw [bytes_eq, bytes_eq]
  exact flatMap_charBytes_lt h

theorem bytes_le_bytes_iff {s t : String} : bytes s ≤ bytes t ↔ s ≤ t :=
  strictMono_bytes.le_iff_le

theorem bytes_injective : Function.Injective bytes :=
  strictMono_bytes.injective

/-! ## The end of a text -/

theorem flatMap_charBytes_injective : Function.Injective (List.flatMap charBytes) := by
  intro cs ds h
  have hbytes : bytes (String.ofList cs) = bytes (String.ofList ds) := by
    rw [bytes_eq, bytes_eq, String.toList_ofList, String.toList_ofList, h]
  exact String.ofList_injective (bytes_injective hbytes)

/-- A row of bytes does not start in a part that lacks its first byte. -/
theorem cons_suffix_of_suffix_append {b : ℕ} {bs front back : List ℕ} (hb : b ∉ front)
    (h : b :: bs <:+ front ++ back) : b :: bs <:+ back := by
  induction front with
  | nil => exact h
  | cons d front ih =>
    rcases List.suffix_cons_iff.1 h with heq | h
    · exact absurd (List.cons.inj heq).1 (List.ne_of_not_mem_cons hb)
    · exact ih (List.not_mem_of_not_mem_cons hb) h

/-- The bytes of a text end in a character of one byte and another text when the text does. -/
theorem cons_suffix_flatMap_charBytes_iff {d : Char} (hd : d.toNat < 128) {cs ds : List Char} :
    d.toNat :: ds.flatMap charBytes <:+ cs.flatMap charBytes ↔ d :: ds <:+ cs := by
  constructor
  · intro h
    induction cs with
    | nil => simp at h
    | cons c cs ih =>
      rw [List.flatMap_cons] at h
      rw [List.suffix_cons_iff]
      by_cases hc : c.toNat < 128
      · rw [charBytes_of_lt hc, List.singleton_append, List.suffix_cons_iff] at h
        rcases h with heq | h
        · obtain ⟨hchar, hbytes⟩ := List.cons.inj heq
          obtain rfl : d = c := Char.toNat_inj.1 hchar
          exact .inl (congrArg (d :: ·) (flatMap_charBytes_injective hbytes))
        · exact .inr (ih h)
      · have hnot : d.toNat ∉ charBytes c := fun hmem =>
          absurd (le_of_mem_charBytes (not_lt.1 hc) _ hmem) (not_le.2 hd)
        exact .inr (ih (cons_suffix_of_suffix_append hnot h))
  · rintro ⟨front, rfl⟩
    refine ⟨front.flatMap charBytes, ?_⟩
    rw [List.flatMap_append, List.flatMap_cons, charBytes_of_lt hd, List.singleton_append]

end Text
end FlowCheck
