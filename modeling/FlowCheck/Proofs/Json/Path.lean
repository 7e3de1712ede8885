import FlowCheck.Proofs.Json.Members
import FlowCheck.Schema.Pointer

/-!
# Values along a path

The value that a path leads to inside a document, key by key and position by position
(`Json.at?`).  An absent value (`null`, the empty text, list or object) has nothing behind it.
-/

namespace FlowCheck
namespace Json

/-- The value behind one segment. -/
def behind? : Segment → Json → Option Json
  | .key name, j => j.get? name
  | .index i, .arr items => items[i]?
  | .index _, _ => none

/-- The value at a path. -/
def at? : List Segment → Json → Option Json
  | [], j => some j
  | segment :: path, j => (j.behind? segment).bind (at? path)

theorem at?_cons_eq_some_iff {segment : Segment} {path : List Segment} {j v : Json} :
    j.at? (segment :: path) = some v ↔ ∃ k, j.behind? segment = some k ∧ k.at? path = some v :=
  Option.bind_eq_some_iff

theorem not_isAbsent_of_behind? {segment : Segment} {j v : Json}
    (h : j.behind? segment = some v) : j.isAbsent = false := by
  cases segment with
  | key name =>
    cases j with
    | obj members =>
      cases members with
      | nil => contradiction
      | cons m rest => rfl
    | _ => contradiction
  | index i =>
    cases j with
    | arr items =>
      cases items with
      | nil => contradiction
      | cons item rest => rfl
    | _ => contradiction

/-- A path leads to a value other than an absent one only through values that are not absent. -/
theorem not_isAbsent_of_at? {path : List Segment} {j v : Json} (h : j.at? path = some v)
    (hv : v.isAbsent = false) : j.isAbsent = false := by
  cases path with
  | nil =>
    obtain rfl := Option.some.inj h
    exact hv
  | cons segment path =>
    obtain ⟨k, hk, -⟩ := at?_cons_eq_some_iff.1 h
    exact not_isAbsent_of_behind? hk

end Json
end FlowCheck
