import FlowCheck.Json.Basic
import Mathlib.Data.List.Nodup

/-!
# Members of an object

What a key is found to be after a member was put in its place (`Members.get?_insert`), and after a
whole list of members with different keys was brought into order (`Members.get?_ofList`).
-/

namespace FlowCheck
namespace Members

/-! ## Putting a member in its place -/

theorem get?_cons {members : Members} {key name : String} {value : Json} :
    get? ((key, value) :: members) name = if name = key then some value else members.get? name := by
  unfold get?
  rw [List.lookup_cons]
  by_cases h : name = key
  · rw [if_pos h, beq_iff_eq.2 h]
  · rw [if_neg h, beq_eq_false_iff_ne.2 h]

theorem get?_insert (members : Members) (key name : String) (value : Json) :
    (insert key value members).get? name =
      if name = key then some value else members.get? name := by
  induction members with
  | nil => exact get?_cons
  | cons m rest ih =>
    obtain ⟨k, v⟩ := m
    unfold insert
    split
    · next hkey =>
      subst hkey
      rw [get?_cons, get?_cons]
      split <;> rfl
    · split
      · exact get?_cons
      · next hkey _ =>
        rw [get?_cons, get?_cons, ih]
        by_cases h : name = k
        · rw [if_pos h, if_pos h, if_neg fun heq => hkey (heq.symm.trans h)]
        · rw [if_neg h, if_neg h]

/-! ## Looking up entries -/

theorem lookup_eq_none_iff_not_mem {α : Type} {entries : List (String × α)} {name : String} :
    entries.lookup name = none ↔ name ∉ entries.map Prod.fst := by
  rw [List.lookup_eq_none_iff, List.mem_map]
  constructor
  · rintro h ⟨e, he, rfl⟩
    simpa using h e he
  · intro h e he
    exact bne_iff_ne.2 fun heq => h ⟨e, he, heq.symm⟩

theorem mem_of_lookup_eq_some {α : Type} {entries : List (String × α)} {name : String} {a : α}
    (h : entries.lookup name = some a) : (name, a) ∈ entries := by
  obtain ⟨before, after, rfl, -⟩ := List.lookup_eq_some_iff.1 h
  exact List.mem_append_right _ List.mem_cons_self

theorem lookup_eq_map_find? {α : Type} (entries : List (String × α)) (name : String) :
    entries.lookup name = (entries.find? fun e => name == e.1).map Prod.snd := by
  induction entries with
  | nil => rfl
  | cons e rest ih =>
    rw [List.lookup_cons, List.find?_cons, ih]
    cases name == e.1 <;> rfl

/-- Of entries with different keys every one is found under its key. -/
theorem lookup_eq_some_of_mem {α : Type} {entries : List (String × α)} {name : String} {a : α}
    (hkeys : (entries.map Prod.fst).Nodup) (h : (name, a) ∈ entries) :
    entries.lookup name = some a := by
  induction entries with
  | nil => contradiction
  | cons e rest ih =>
    rw [List.map_cons, List.nodup_cons] at hkeys
    rw [List.lookup_cons]
    rcases List.mem_cons.1 h with rfl | h
    · rw [beq_self_eq_true]
    · have hne : name ≠ e.1 := by
        rintro rfl
        exact hkeys.1 (List.mem_map.2 ⟨_, h, rfl⟩)
      rw [beq_eq_false_iff_ne.2 hne]
      exact ih hkeys.2 h

/-! ## Bringing members into order -/

/-- Members put in place one after the other are found where they are, if their keys differ, and
otherwise what was there before. -/
theorem get?_foldl_insert {entries : List (String × Json)}
    (hkeys : (entries.map Prod.fst).Nodup) (members : Members) (name : String) :
    Members.get? (entries.foldl (fun acc m => insert m.1 m.2 acc) members) name =
      (entries.lookup name).or (members.get? name) := by
  induction entries generalizing members with
  | nil => rfl
  | cons e rest ih =>
    rw [List.map_cons, List.nodup_cons] at hkeys
    rw [List.foldl_cons, ih hkeys.2, get?_insert, List.lookup_cons]
    by_cases h : name = e.1
    · have hrest : rest.lookup name = none := lookup_eq_none_iff_not_mem.2 (h ▸ hkeys.1)
      rw [hrest, if_pos h, beq_iff_eq.2 h]
      rfl
    · rw [if_neg h, beq_eq_false_iff_ne.2 h]

/-- Entries with different keys are found in the object that is made of them. -/
theorem get?_ofList {entries : List (String × Json)} (hkeys : (entries.map Prod.fst).Nodup)
    (name : String) : (ofList entries).get? name = entries.lookup name := by
  rw [ofList, get?_foldl_insert hkeys]
  exact Option.or_none

end Members
end FlowCheck
