import FlowCheck.Text.Pieces
import FlowCheck.Unicode.Word

/-!
# Searching a text

Whether a text occurs in another one, and what stands behind its first occurrence that is followed
by something wanted.
-/

namespace FlowCheck
namespace Text

/-- The first of the texts behind the occurrences of `lead` on which `wanted` succeeds. -/
def firstBehind {α : Type} (lead : List Char) (wanted : List Char → Option α) :
    List Char → Option α
  | [] => (after? lead []).bind wanted
  | c :: cs => (after? lead (c :: cs)).bind wanted <|> firstBehind lead wanted cs

/-- Whether `needle` occurs in a text. -/
def occursIn (needle text : List Char) : Bool := (firstBehind needle some text).isSome

/-- Whether `needle` occurs in `text`. -/
def contains (text needle : String) : Bool := occursIn needle.toList text.toList

/-- The word at the start of a text. -/
def word? (cs : List Char) : Option (List Char) :=
  match cs.takeWhile Unicode.isWord with
  | [] => none
  | w => some w

/-- The digits at the start of a text. -/
def digits? (cs : List Char) : Option (List Char) :=
  match cs.takeWhile Unicode.isDigit with
  | [] => none
  | w => some w

end Text
end FlowCheck
