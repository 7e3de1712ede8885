import FlowCheck.Proofs.Hints.FieldPath
import FlowCheck.Proofs.Json.Path

/-!
# Values at a field path

A field path names a value of a document by the keys and positions on the way to it.  When no key is
empty or has a point in it, the path can be taken apart again, and what it names is the value at the
end of the way (`Json.atNames?_of_at?`, `FieldPath.segments_join_points`).
-/

namespace FlowCheck

/-- The segments of a field path; the empty path has none. -/
def FieldPath.segments (field : String) : List String :=
  if field.isEmpty then [] else Text.pieces '.' field

namespace Json

/-- The items of a list under the texts of their positions. -/
def numbered (items : List Json) : Members :=
  items.zipIdx.map fun (item, i) => (toString i, item)

/-- The value that a segment of a field path names: a member of an object by its key, or an item of
a list by its position. -/
def named? (name : String) : Json → Option Json
  | .obj members => Members.get? members name
  | .arr items => Members.get? (numbered items) name
  | _ => none

/-- The value that some segments name, one behind the other. -/
def atNames? : List String → Json → Option Json
  | [], j => some j
  | name :: names, j => (j.named? name).bind (atNames? names)

/-! ## Plain keys -/

/-- A text that can be a segment of a field path: not empty, and without a point. -/
def isPlainKey (key : String) : Bool := !key.isEmpty && !key.toList.contains '.'

mutual

/-- The objects in a value have different keys, and all of them are plain. -/
def hasPlainKeys : Json → Bool
  | .arr items => itemsHavePlainKeys items
  | .obj members => decide (members.map Prod.fst).Nodup && membersHavePlainKeys members
  | _ => true

def itemsHavePlainKeys : List Json → Bool
  | [] => true
  | item :: items => hasPlainKeys item && itemsHavePlainKeys items

def membersHavePlainKeys : List (String × Json) → Bool
  | [] => true
  | (key, value) :: members =>
    isPlainKey key && hasPlainKeys value && membersHavePlainKeys members

end

theorem itemsHavePlainKeys_iff {items : List Json} :
    itemsHavePlainKeys items = true ↔ ∀ item ∈ items, item.hasPlainKeys = true := by
  induction items with
  | nil => simp [itemsHavePlainKeys]
  | cons item items ih => simp [itemsHavePlainKeys, ih]

theorem membersHavePlainKeys_iff {members : List (String × Json)} :
    membersHavePlainKeys members = true ↔
      ∀ m ∈ members, isPlainKey m.1 = true ∧ m.2.hasPlainKeys = true := by
  induction members with
  | nil => simp [membersHavePlainKeys]
  | cons m members ih => simp [membersHavePlainKeys, ih]

theorem hasPlainKeys_arr {items : List Json} :
    (Json.arr items).hasPlainKeys = true ↔ ∀ item ∈ items, item.hasPlainKeys = true := by
  rw [hasPlainKeys, itemsHavePlainKeys_iff]

theorem hasPlainKeys_obj {members : Members} : (Json.obj members).hasPlainKeys = true ↔
    (members.map Prod.fst).Nodup ∧
      ∀ m ∈ members, isPlainKey m.1 = true ∧ m.2.hasPlainKeys = true := by
  rw [hasPlainKeys, Bool.and_eq_true, decide_eq_true_iff, membersHavePlainKeys_iff]

theorem isPlainKey_iff {key : String} : isPlainKey key = true ↔ key ≠ "" ∧ '.' ∉ key.toList := by
  simp [isPlainKey]

theorem ne_empty_of_isPlainKey {names : List String}
    (h : ∀ name ∈ names, isPlainKey name = true) : ∀ name ∈ names, name ≠ "" :=
  fun name hname => (isPlainKey_iff.1 (h name hname)).1

theorem isPlainKey_toString (i : Nat) : isPlainKey (toString i) = true :=
  isPlainKey_iff.2 ⟨Nat.repr_ne_empty, FieldPath.point_not_mem_toString i⟩

/-- With plain keys everywhere, the way to any value is by plain segments, and the value has plain
keys everywhere. -/
theorem hasPlainKeys_of_behind? {segment : Segment} {j k : Json} (hj : j.hasPlainKeys = true)
    (h : j.behind? segment = some k) : isPlainKey segment.text = true ∧ k.hasPlainKeys = true := by
  cases segment with
  | key name =>
    cases j with
    | obj members => exact (hasPlainKeys_obj.1 hj).2 _ (Members.mem_of_lookup_eq_some h)
    | _ => contradiction
  | index i =>
    cases j with
    | arr items =>
      exact ⟨isPlainKey_toString i, hasPlainKeys_arr.1 hj k (List.mem_of_getElem? h)⟩
    | _ => contradiction

theorem isPlainKey_of_at? {path : List Segment} {j v : Json} (hj : j.hasPlainKeys = true)
    (h : j.at? path = some v) : ∀ name ∈ path.map Segment.text, isPlainKey name = true := by
  induction path generalizing j with
  | nil => simp
  | cons segment path ih =>
    obtain ⟨k, hk, hv⟩ := at?_cons_eq_some_iff.1 h
    obtain ⟨hplain, hkeys⟩ := hasPlainKeys_of_behind? hj hk
    exact List.forall_mem_cons.2 ⟨hplain, ih hkeys hv⟩

/-! ## Looking up what a path leads to -/

/-- Different positions have different texts. -/
theorem toString_injective : Function.Injective (toString : Nat → String) := by
  intro i k h
  have hdigits : Nat.toDigits 10 i = Nat.toDigits 10 k := by
    rw [← Nat.toList_repr, ← Nat.toList_repr]
    exact congrArg String.toList h
  rw [← Nat.ofDigitChars_ten_toDigits (n := i), hdigits, Nat.ofDigitChars_ten_toDigits]

theorem get?_numbered {items : List Json} {i : Nat} {item : Json} (h : items[i]? = some item) :
    Members.get? (numbered items) (toString i) = some item := by
  have hkeys : ((numbered items).map Prod.fst).Nodup := by
    have hpositions : (numbered items).map Prod.fst =
        (List.range items.length).map toString := by
      rw [numbered, List.map_map, List.range_eq_range', ← List.zipIdx_map_snd, List.map_map]
      rfl
    rw [hpositions]
    exact List.nodup_range.map toString_injective
  have hmem : (toString i, item) ∈ numbered items :=
    List.mem_map.2 ⟨(item, i), List.mk_mem_zipIdx_iff_getElem?.2 h, rfl⟩
  exact Members.lookup_eq_some_of_mem hkeys hmem

/-- A segment names the value behind it. -/
theorem named?_of_behind? {segment : Segment} {j k : Json} (h : j.behind? segment = some k) :
    j.named? segment.text = some k := by
  cases segment with
  | key name =>
    cases j with
    | obj members => exact h
    | _ => contradiction
  | index i =>
    cases j with
    | arr items => exact get?_numbered h
    | _ => contradiction

theorem atNames?_of_at? {path : List Segment} {j v : Json} (h : j.at? path = some v) :
    j.atNames? (path.map Segment.text) = some v := by
  induction path generalizing j with
  | nil => exact h
  | cons segment path ih =>
    obtain ⟨k, hk, hv⟩ := at?_cons_eq_some_iff.1 h
    rw [List.map_cons, atNames?, named?_of_behind? hk]
    exact ih hv

end Json

/-! ## Taking a path apart -/

namespace FieldPath

theorem isPlainKey_of_mem_names {field name : String} (h : name ∈ names field) :
    Json.isPlainKey name = true := by
  have hname := isName_of_mem_names h
  refine Json.isPlainKey_iff.2 ⟨?_, point_not_mem_of_mem_names h⟩
  rintro rfl
  contradiction

/-- Plain names joined by points give a path of which they are the segments. -/
theorem segments_join_points {names : List String}
    (h : ∀ name ∈ names, Json.isPlainKey name = true) :
    segments (Text.join "." names) = names := by
  unfold segments
  split
  · next hempty =>
    have hnil := (join_points_eq_empty_iff (Json.ne_empty_of_isPlainKey h)).1
    exact (hnil (String.isEmpty_iff.1 hempty)).symm
  · next hempty =>
    have hne : names ≠ [] := by
      rintro rfl
      exact hempty rfl
    exact Text.pieces_join (fun s hs => (Json.isPlainKey_iff.1 (h s hs)).2) hne

end FieldPath
end FlowCheck
