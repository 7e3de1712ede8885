import FlowCheck.Hints.FieldPath
import FlowCheck.Proofs.Text.Pieces

/-!
# The names on a field path

What the tables of hints look at is the list of the named segments of a path (`FieldPath.names`).
A path below another one has the names of both, and the tests on normalized paths are tests on
names: being a known path, ending in one, the last segment, and whether there is more than one.

## Main results

* `names_join`, `names_join_points` : the names of paths put together
* `join_join_points` : a path below a path, segment by segment
* `endsIn_iff` : a path ends in another one by its segments
* `normalize_eq_iff`, `endsIn_normalize_iff`, `last_normalize`, `point_mem_normalize_iff`
-/

namespace FlowCheck
namespace FieldPath

/-- The named segments of a path. -/
def names (field : String) : List String := (Text.pieces '.' field).filter isName

theorem normalize_eq (field : String) : normalize field = Text.join "." (names field) := rfl

theorem isName_of_mem_names {field name : String} (h : name ∈ names field) :
    isName name = true :=
  (List.mem_filter.1 h).2

theorem point_not_mem_of_mem_names {field name : String} (h : name ∈ names field) :
    '.' ∉ name.toList :=
  Text.not_mem_of_mem_pieces (List.mem_filter.1 h).1

/-! ## Paths put together -/

@[simp] theorem names_empty : names "" = [] := rfl

theorem pieces_append_point (front back : String) :
    Text.pieces '.' (front ++ "." ++ back) = Text.pieces '.' front ++ Text.pieces '.' back := by
  have hchars : front ++ "." ++ back = String.ofList (front.toList ++ '.' :: back.toList) := by
    rw [← String.toList_inj]
    simp
  rw [hchars, Text.pieces_append_cons, String.ofList_toList, String.ofList_toList]

theorem names_append_point (front back : String) :
    names (front ++ "." ++ back) = names front ++ names back := by
  rw [names, pieces_append_point, List.filter_append]
  rfl

/-- A path below another one has the names of both. -/
theorem names_join (parent child : String) :
    names (join parent child) = names parent ++ names child := by
  unfold join
  split
  · next h =>
    obtain rfl : parent = "" := String.isEmpty_iff.1 h
    simp
  · split
    · next h =>
      obtain rfl : child = "" := String.isEmpty_iff.1 h
      simp
    · exact names_append_point parent child

theorem names_join_points (texts : List String) :
    names (Text.join "." texts) = texts.flatMap names := by
  induction texts with
  | nil => rfl
  | cons text texts ih =>
    cases texts with
    | nil => simp [Text.join]
    | cons next rest =>
      rw [Text.join, String.intercalate_cons_cons, names_append_point, List.flatMap_cons, ← ih]
      rfl

theorem join_points_eq_empty_iff {texts : List String} (h : ∀ s ∈ texts, s ≠ "") :
    Text.join "." texts = "" ↔ texts = [] := by
  constructor
  · intro hjoin
    cases texts with
    | nil => rfl
    | cons first rest =>
      have hfirst : first ≠ "" := h first List.mem_cons_self
      cases rest with
      | nil => exact absurd (by simpa [Text.join] using hjoin) hfirst
      | cons next rest => simp [Text.join] at hjoin
  · rintro rfl
    rfl

/-- Rows of segments, one below the other, are the path of all the segments, if none is empty. -/
theorem join_join_points {front back : List String} (hfront : ∀ s ∈ front, s ≠ "")
    (hback : ∀ s ∈ back, s ≠ "") :
    join (Text.join "." front) (Text.join "." back) = Text.join "." (front ++ back) := by
  unfold join
  simp only [String.isEmpty_iff, join_points_eq_empty_iff hfront, join_points_eq_empty_iff hback]
  split
  · next h => rw [h, List.nil_append]
  · next h =>
    split
    · next h' => rw [h', List.append_nil]
    · next h' => exact (String.intercalate_append_of_ne_nil h h').symm

theorem names_of_isName {text : String} (hpoint : '.' ∉ text.toList) (h : isName text = true) :
    names text = [text] := by
  rw [names, Text.pieces_of_not_mem hpoint, List.filter_cons_of_pos h, List.filter_nil]

theorem names_of_not_isName {text : String} (hpoint : '.' ∉ text.toList)
    (h : isName text = false) : names text = [] := by
  rw [names, Text.pieces_of_not_mem hpoint, List.filter_cons_of_neg (by simp [h]), List.filter_nil]

/-! ## Positions -/

theorem isDigit_of_mem_toString {i : Nat} {c : Char} (h : c ∈ (toString i).toList) :
    c.isDigit = true := by
  rw [show (toString i).toList = Nat.toDigits 10 i from Nat.toList_repr] at h
  exact Nat.isDigit_of_mem_toDigits (by decide) (by decide) h

theorem point_not_mem_toString (i : Nat) : '.' ∉ (toString i).toList := fun h =>
  absurd (isDigit_of_mem_toString h) (by decide)

/-- A position names nothing. -/
theorem names_toString (i : Nat) : names (toString i) = [] := by
  refine names_of_not_isName (point_not_mem_toString i) ?_
  have hdigits : (toString i).toList.all Char.isDigit = true :=
    List.all_eq_true.2 fun _ => isDigit_of_mem_toString
  rw [isName, hdigits, Bool.not_true, Bool.and_false]

/-! ## The last segment -/

theorem last_append_point (front back : String) : last (front ++ "." ++ back) = last back := by
  rw [last, pieces_append_point, List.getLast?_append_of_ne_nil _ (Text.pieces_ne_nil '.' back),
    last]

theorem last_of_point_not_mem {text : String} (h : '.' ∉ text.toList) : last text = text := by
  rw [last, Text.pieces_of_not_mem h]
  rfl

theorem last_join (parent : String) {child : String} (h : child ≠ "") :
    last (join parent child) = last child := by
  unfold join
  split
  · rfl
  · rw [if_neg (by simpa using h), last_append_point]

theorem last_join_points (texts : List String) (text : String) :
    last (Text.join "." (texts ++ [text])) = last text := by
  cases texts with
  | nil => simp [Text.join]
  | cons first rest =>
    rw [Text.join, String.intercalate_append_of_ne_nil (by simp) (by simp), last_append_point,
      String.intercalate_singleton]

/-! ## Normalized paths -/

/-- Names joined by points name themselves. -/
theorem names_join_names {texts : List String} (hpoint : ∀ s ∈ texts, '.' ∉ s.toList)
    (hname : ∀ s ∈ texts, isName s = true) : names (Text.join "." texts) = texts := by
  rw [names_join_points]
  induction texts with
  | nil => rfl
  | cons text texts ih =>
    rw [List.flatMap_cons, names_of_isName (hpoint _ List.mem_cons_self)
      (hname _ List.mem_cons_self), ih (fun s hs => hpoint s (List.mem_cons_of_mem _ hs))
      fun s hs => hname s (List.mem_cons_of_mem _ hs)]
    rfl

@[simp] theorem names_normalize (field : String) : names (normalize field) = names field :=
  names_join_names (fun _ => point_not_mem_of_mem_names) fun _ => isName_of_mem_names

/-- Normalized paths are the same when they have the same names. -/
theorem normalize_eq_iff {field key : String} (hkey : normalize key = key) :
    normalize field = key ↔ names field = names key := by
  constructor
  · intro h
    rw [← names_normalize, h]
  · intro h
    rw [normalize_eq, h, ← normalize_eq, hkey]

theorem pieces_normalize {field : String} (h : names field ≠ []) :
    Text.pieces '.' (normalize field) = names field :=
  Text.pieces_join (fun _ => point_not_mem_of_mem_names) h

/-- The last name is the last segment of the normalized path. -/
theorem last_normalize {field : String} (h : names field ≠ []) :
    (names field).getLast? = some (last (normalize field)) := by
  rw [last, pieces_normalize h]
  exact List.getLast?_eq_some_getLast h ▸ rfl

/-- A path ends in another one when its segments do. -/
theorem endsIn_iff {path key : String} :
    endsIn path key = true ↔ Text.pieces '.' key <:+ Text.pieces '.' path := by
  rw [endsIn, Bool.or_eq_true, beq_iff_eq, List.isSuffixOf_iff_suffix]
  constructor
  · rintro (rfl | ⟨front, h⟩)
    · exact List.suffix_rfl
    · have hpath : path = String.ofList front ++ "." ++ key := by
        rw [← String.toList_inj, ← h]
        simp
      rw [hpath, pieces_append_point]
      exact List.suffix_append _ _
  · rintro ⟨front, h⟩
    by_cases hfront : front = []
    · exact .inl (Text.pieces_injective '.' (by rw [← h, hfront, List.nil_append]))
    · have hjoin (text : String) : Text.join "." (Text.pieces '.' text) = text :=
        Text.join_pieces '.' text
      have hpath : path = Text.join "." front ++ "." ++ key := by
        rw [← hjoin path, ← h, Text.join,
          String.intercalate_append_of_ne_nil hfront (Text.pieces_ne_nil '.' key)]
        exact congrArg _ (hjoin key)
      refine .inr ⟨(Text.join "." front).toList, ?_⟩
      rw [hpath]
      simp

/-- A normalized path ends in a key when its names end in the segments of the key. -/
theorem endsIn_normalize_iff_pieces {field key : String} (hkey : key ≠ "") :
    endsIn (normalize field) key = true ↔ Text.pieces '.' key <:+ names field := by
  by_cases h : names field = []
  · -- The empty path has an empty segment and no name; only the empty key could tell them apart.
    have hempty : normalize field = "" := by
      rw [normalize_eq, h]
      rfl
    rw [hempty, h, List.suffix_nil]
    simp [endsIn, hkey.symm, Text.pieces_ne_nil]
  · rw [endsIn_iff, pieces_normalize h]

/-- A normalized path ends in a known one when its names do. -/
theorem endsIn_normalize_iff {field key : String} (hkey : normalize key = key)
    (hne : names key ≠ []) :
    endsIn (normalize field) key = true ↔ names key <:+ names field := by
  have hempty : key ≠ "" := by
    rintro rfl
    exact hne rfl
  have hpieces : Text.pieces '.' key = names key := by rw [← pieces_normalize hne, hkey]
  rw [endsIn_normalize_iff_pieces hempty, hpieces]

/-- There is a point in a normalized path when it has more names than one. -/
theorem point_mem_normalize_iff {field : String} :
    '.' ∈ (normalize field).toList ↔ 1 < (names field).length := by
  rw [normalize_eq]
  have hpoint : ∀ n ∈ names field, '.' ∉ n.toList := fun _ => point_not_mem_of_mem_names
  rcases h : names field with _ | ⟨first, _ | ⟨next, rest⟩⟩
  · simp [Text.join]
  · simpa [Text.join] using hpoint first (by simp [h])
  · simp [Text.join]

end FieldPath
end FlowCheck
