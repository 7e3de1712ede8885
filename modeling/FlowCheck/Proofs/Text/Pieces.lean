import FlowCheck.Text.Pieces
import Mathlib.Data.List.Basic

/-!
# Cutting and joining

`Text.splitAt` is `List.splitOn`, so that the pieces of a text, joined again, are the text, and
pieces without the separator are the pieces of what they are joined to.
-/

namespace FlowCheck
namespace Text

theorem splitAt_eq_splitOn (sep : Char) (cs : List Char) : splitAt sep cs = cs.splitOn sep := by
  induction cs with
  | nil => rfl
  | cons c cs ih =>
    obtain ⟨piece, rest, h⟩ := List.exists_cons_of_ne_nil (List.splitOn_ne_nil sep cs)
    rw [splitAt, ih, List.splitOn_cons_eq_if_modifyHead, h]
    simp

/-- The characters of a joined text are those of its pieces and the separator. -/
theorem mem_intercalate {sep c : Char} {pieces : List (List Char)}
    (h : c ∈ [sep].intercalate pieces) : c = sep ∨ ∃ piece ∈ pieces, c ∈ piece := by
  induction pieces with
  | nil => simp at h
  | cons piece rest ih =>
    cases rest with
    | nil => exact .inr ⟨piece, List.mem_cons_self, by simpa using h⟩
    | cons next rest =>
      rw [List.intercalate_cons_cons, List.append_assoc] at h
      rcases List.mem_append.1 h with h | h
      · exact .inr ⟨piece, List.mem_cons_self, h⟩
      · rcases List.mem_cons.1 h with rfl | h
        · exact .inl rfl
        · obtain hsep | ⟨p, hp, hc⟩ := ih h
          · exact .inl hsep
          · exact .inr ⟨p, List.mem_cons_of_mem _ hp, hc⟩

/-! ## Strings -/

theorem pieces_eq (sep : Char) (s : String) :
    pieces sep s = (s.toList.splitOn sep).map String.ofList := by
  rw [pieces, splitAt_eq_splitOn]

theorem pieces_ne_nil (sep : Char) (s : String) : pieces sep s ≠ [] := by
  rw [pieces_eq]
  simp

theorem pieces_of_not_mem {sep : Char} {s : String} (h : sep ∉ s.toList) :
    pieces sep s = [s] := by
  rw [pieces_eq, List.splitOn_eq_singleton h]
  simp

/-- A separator divides the pieces. -/
theorem pieces_append_cons (sep : Char) (front back : List Char) :
    pieces sep (String.ofList (front ++ sep :: back)) =
      pieces sep (String.ofList front) ++ pieces sep (String.ofList back) := by
  simp only [pieces_eq, String.toList_ofList, List.splitOn_append_cons_self, List.map_append]

theorem not_mem_of_mem_splitAt {sep : Char} {cs piece : List Char} (h : piece ∈ splitAt sep cs) :
    sep ∉ piece := by
  induction cs generalizing piece with
  | nil =>
    obtain rfl : piece = [] := by simpa [splitAt] using h
    exact List.not_mem_nil
  | cons c cs ih =>
    rw [splitAt] at h
    split at h
    · rcases List.mem_cons.1 h with rfl | h
      · exact List.not_mem_nil
      · exact ih h
    · next hc =>
      split at h
      · obtain rfl : piece = [c] := by simpa using h
        simpa [eq_comm] using hc
      · next first rest hsplit =>
        rcases List.mem_cons.1 h with rfl | h
        · have hfirst : sep ∉ first := ih (hsplit ▸ List.mem_cons_self)
          exact List.not_mem_cons_of_ne_of_not_mem (Ne.symm hc) hfirst
        · exact ih (hsplit ▸ List.mem_cons_of_mem _ h)

theorem not_mem_of_mem_pieces {sep : Char} {s piece : String} (h : piece ∈ pieces sep s) :
    sep ∉ piece.toList := by
  obtain ⟨cs, hcs, rfl⟩ := List.mem_map.1 h
  rw [String.toList_ofList]
  exact not_mem_of_mem_splitAt hcs

/-- Joined texts without the separator are the pieces again. -/
theorem pieces_join {sep : Char} {texts : List String} (h : ∀ s ∈ texts, sep ∉ s.toList)
    (hne : texts ≠ []) : pieces sep (join (String.singleton sep) texts) = texts := by
  have hchars : ∀ cs ∈ texts.map String.toList, sep ∉ cs := by simpa using h
  rw [pieces_eq, join, String.toList_intercalate, String.toList_singleton,
    List.splitOn_intercalate sep hchars (by simpa using hne), List.map_map]
  simp

/-- The pieces of a text, joined again, are the text. -/
theorem join_pieces (sep : Char) (s : String) :
    join (String.singleton sep) (pieces sep s) = s := by
  rw [← String.toList_inj, join, String.toList_intercalate, String.toList_singleton, pieces_eq,
    List.map_map]
  simp [List.intercalate_splitOn]

theorem pieces_injective (sep : Char) : Function.Injective (pieces sep) :=
  Function.LeftInverse.injective (join_pieces sep)

end Text
end FlowCheck
