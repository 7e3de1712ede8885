import FlowCheck.Fault
import FlowCheck.Text.Blank

/-!
# Interpolation markers

A rule's expression may be written inside double braces.  Unwrapping replaces every marked part by
its trimmed inside and trims the whole.  Parts are found from left to right: an opening marker ends
at the next closing one, and an opening marker without one is an error.
-/

namespace FlowCheck
namespace Template

/-- The text before and behind the first occurrence of the doubled character `c`. -/
def cutAt (c : Char) : List Char → Option (List Char × List Char)
  | [] => none
  | [_] => none
  | a :: b :: cs =>
    if a = c ∧ b = c then some ([], cs)
    else (cutAt c (b :: cs)).map fun r => (a :: r.1, r.2)

theorem length_of_cutAt {c : Char} {cs before behind : List Char}
    (h : cutAt c cs = some (before, behind)) :
    before.length + behind.length + 2 = cs.length := by
  induction cs generalizing before behind with
  | nil => simp [cutAt] at h
  | cons a cs ih =>
    cases cs with
    | nil => simp [cutAt] at h
    | cons b cs =>
      simp only [cutAt] at h
      split at h
      · obtain ⟨rfl, rfl⟩ := by simpa using h
        simp
      · obtain ⟨r, hr, heq⟩ := Option.map_eq_some_iff.1 h
        obtain ⟨rfl, rfl⟩ := Prod.mk.injEq .. ▸ heq
        have := ih hr
        simp only [List.length_cons] at this ⊢
        omega

theorem length_lt_of_cutAt {c : Char} {cs before behind : List Char}
    (h : cutAt c cs = some (before, behind)) : behind.length < cs.length := by
  have := length_of_cutAt h
  omega

/-- Replaces every marked part by its trimmed inside; none for a marker that is never closed. -/
def expand (cs : List Char) : Option (List Char) :=
  match hopen : cutAt '\x7b' cs with
  | none => some cs
  | some (before, behind) =>
    match hclose : cutAt '\x7d' behind with
    | none => none
    | some (inner, rest) =>
      have : rest.length < cs.length :=
        Nat.lt_trans (length_lt_of_cutAt hclose) (length_lt_of_cutAt hopen)
      (expand rest).map fun tail => before ++ Text.trim inner ++ tail
termination_by cs.length

/-- The expression inside the markers. -/
def unwrap (raw : String) : Except Fault String :=
  match expand (Text.trim raw.toList) with
  | some cs => .ok (String.ofList (Text.trim cs))
  | none => .error (.expression raw "unclosed interpolation: missing \x7d\x7d")

end Template
end FlowCheck
