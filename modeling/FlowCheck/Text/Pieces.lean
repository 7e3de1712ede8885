/-!
# Pieces of a text

Cutting a text at a separator character and joining pieces with one.
-/

namespace FlowCheck
namespace Text

/-- The pieces between the occurrences of a separator; the empty text has one empty piece. -/
def splitAt (sep : Char) : List Char → List (List Char)
  | [] => [[]]
  | c :: cs =>
    if c = sep then [] :: splitAt sep cs
    else match splitAt sep cs with
      | [] => [[c]]
      | piece :: rest => (c :: piece) :: rest

/-- The pieces of a string. -/
def pieces (sep : Char) (s : String) : List String := (splitAt sep s.toList).map String.ofList

/-- The strings with a separator between them. -/
def join (sep : String) (pieces : List String) : String := String.intercalate sep pieces

/-- What follows `front` in a text that starts with it. -/
def after? : List Char → List Char → Option (List Char)
  | [], cs => some cs
  | _ :: _, [] => none
  | f :: fs, c :: cs => if f = c then after? fs cs else none

@[simp] theorem after?_append (front rest : List Char) :
    after? front (front ++ rest) = some rest := by
  induction front with
  | nil => rfl
  | cons f fs ih => simp [after?, ih]

theorem eq_append_of_after? {front cs rest : List Char} (h : after? front cs = some rest) :
    cs = front ++ rest := by
  induction front generalizing cs with
  | nil => simpa [after?] using h
  | cons f fs ih =>
    cases cs with
    | nil => simp [after?] at h
    | cons c cs =>
      simp only [after?] at h
      split at h
      · next hf => subst hf; simp [ih h]
      · contradiction

end Text
end FlowCheck
