import FlowCheck.Proofs.Hints.FieldPath
import FlowCheck.Proofs.Text.Pieces
import FlowCheck.Schema.Pointer

/-!
# Pointers and field paths

A pointer keeps the segments it was written from: none of them has a slash once it is escaped, and
taking the escapes back undoes them.  The field path behind a pointer therefore names the segments
themselves, as far as they are not empty (`Pointer.toFieldPath_render`).  Empty segments leave
nothing behind, so the path behind two pointers in a row is the path of the one below that of the
other (`Pointer.toFieldPath_render_and_append`).
-/

namespace FlowCheck
namespace Pointer

/-- The tilde written `~0` and every other character as it is: what is left of an escaped text
after the slashes have been taken back. -/
def escapeTilde : Char → List Char
  | '~' => ['~', '0']
  | c => [c]

theorem unescape_cons {c : Char} (hc : c ≠ '~') (mark real : Char) (cs : List Char) :
    unescape mark real (c :: cs) = c :: unescape mark real cs := by
  cases cs with
  | nil => rfl
  | cons d ds => rw [unescape, if_neg fun h => hc h.1]

theorem unescape_slashes (cs : List Char) :
    unescape '1' '/' (cs.flatMap escapeChar) = cs.flatMap escapeTilde := by
  induction cs with
  | nil => rfl
  | cons c cs ih =>
    rw [List.flatMap_cons, List.flatMap_cons]
    by_cases htilde : c = '~'
    · subst htilde
      simp [escapeChar, escapeTilde, unescape, unescape_cons, ih]
    · by_cases hslash : c = '/'
      · subst hslash
        simp [escapeChar, escapeTilde, unescape, ih]
      · simp [escapeChar, escapeTilde, unescape_cons, ih, htilde]

theorem unescape_tildes (cs : List Char) : unescape '0' '~' (cs.flatMap escapeTilde) = cs := by
  induction cs with
  | nil => rfl
  | cons c cs ih =>
    rw [List.flatMap_cons]
    by_cases htilde : c = '~'
    · subst htilde
      simp [escapeTilde, unescape, ih]
    · simp [escapeTilde, unescape_cons, ih, htilde]

/-- The escaped form of a segment. -/
def escape (segment : String) : String := String.ofList (segment.toList.flatMap escapeChar)

theorem keyOf_escape (segment : String) : keyOf (escape segment) = segment := by
  rw [keyOf, escape, String.toList_ofList, unescape_slashes, unescape_tildes, String.ofList_toList]

theorem slash_not_mem_escape (segment : String) : '/' ∉ (escape segment).toList := by
  rw [escape, String.toList_ofList, List.mem_flatMap]
  rintro ⟨c, -, hc⟩
  unfold escapeChar at hc
  split at hc
  · simp at hc
  · simp at hc
  · next hslash => exact hslash (by simpa [eq_comm] using hc)

theorem escape_eq_empty_iff {segment : String} : escape segment = "" ↔ segment = "" := by
  constructor
  · intro h
    rw [← keyOf_escape segment, h]
    rfl
  · rintro rfl
    rfl

/-- Behind a text without a slash, a pointer has its segments as further pieces. -/
theorem pieces_append_segments {front : List Char} (hfront : '/' ∉ front)
    (segments : List String) :
    Text.pieces '/' (String.ofList
      (front ++ segments.flatMap fun s => '/' :: s.toList.flatMap escapeChar)) =
      String.ofList front :: segments.map escape := by
  induction segments generalizing front with
  | nil =>
    rw [List.flatMap_nil, List.append_nil]
    exact Text.pieces_of_not_mem (by simpa using hfront)
  | cons segment rest ih =>
    have hsegment : '/' ∉ segment.toList.flatMap escapeChar := by
      simpa [escape] using slash_not_mem_escape segment
    rw [List.flatMap_cons, List.cons_append, Text.pieces_append_cons,
      Text.pieces_of_not_mem (by simpa using hfront), ih hsegment]
    rfl

/-- The field path of a pointer names the segments that are not empty. -/
theorem toFieldPath_render (segments : List String) :
    toFieldPath (render segments) = Text.join "." (segments.filter fun s => !s.isEmpty) := by
  have hpieces : Text.pieces '/' (render segments) = "" :: segments.map escape :=
    pieces_append_segments List.not_mem_nil segments
  have hfilter : ((segments.map escape).filter fun s => !s.isEmpty) =
      (segments.filter fun s => !s.isEmpty).map escape := by
    rw [List.filter_map]
    refine congrArg _ (List.filter_congr fun s _ => congrArg not ?_)
    rw [Bool.eq_iff_iff, String.isEmpty_iff, String.isEmpty_iff,
      escape_eq_empty_iff]
  have hkeys (texts : List String) : (texts.map escape).map keyOf = texts := by
    simp [Function.comp_def, keyOf_escape]
  rw [toFieldPath, hpieces, List.filter_cons_of_neg (by simp), hfilter, hkeys]

/-! ## Pointers in a row -/

/-- A pointer stands for its keys, whatever characters they have: its field path names those that
are not empty, in order, and the path of two pointers in a row is the path of the second below that
of the first. -/
theorem toFieldPath_render_and_append (keys more : List String) :
    toFieldPath (render keys) = Text.join "." (keys.filter fun key => !key.isEmpty) ∧
      FieldPath.join (toFieldPath (render keys)) (toFieldPath (render more)) =
        toFieldPath (render (keys ++ more)) := by
  have hkept (keys : List String) : ∀ key ∈ keys.filter (fun key => !key.isEmpty), key ≠ "" :=
    fun key hkey => by simpa using (List.mem_filter.1 hkey).2
  refine ⟨toFieldPath_render keys, ?_⟩
  simp only [toFieldPath_render]
  rw [FieldPath.join_join_points (hkept keys) (hkept more), List.filter_append]

/-- An escaped tilde in front of a digit is no escaped slash. -/
example : toFieldPath (render ["a~1b", "", "~0/"]) = "a~1b.~0/" := by decide

end Pointer
end FlowCheck
