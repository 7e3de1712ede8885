import FlowCheck.Text.Pieces

/-!
# Pointers into documents

The place of a value is the list of the keys and array positions that lead to it.  As one text it
is a pointer: a slash before every segment, with `~` and `/` inside a segment written `~0` and `~1`.
A field path is read off a pointer by taking the escapes back, dropping the empty segments and
putting points between the others.
-/

namespace FlowCheck

/-- One step from a value into a value that it contains. -/
inductive Segment where
  | key (name : String)
  | index (position : Nat)
deriving DecidableEq

def Segment.text : Segment → String
  | key name => name
  | index position => toString position

namespace Pointer

/-- The written form of a character inside a segment. -/
def escapeChar : Char → List Char
  | '~' => ['~', '0']
  | '/' => ['~', '1']
  | c => [c]

/-- The pointer to the value behind some segments. -/
def render (segments : List String) : String :=
  String.ofList (segments.flatMap fun s => '/' :: s.toList.flatMap escapeChar)

/-- Takes back the escape `~` followed by `mark`. -/
def unescape (mark real : Char) : List Char → List Char
  | [] => []
  | [c] => [c]
  | a :: b :: cs =>
    if a = '~' ∧ b = mark then real :: unescape mark real cs
    else a :: unescape mark real (b :: cs)

/-- The key that a segment of a pointer stands for. -/
def keyOf (segment : String) : String :=
  String.ofList (unescape '0' '~' (unescape '1' '/' segment.toList))

/-- The field path that a pointer stands for. -/
def toFieldPath (pointer : String) : String :=
  Text.join "." (((Text.pieces '/' pointer).filter fun s => !s.isEmpty).map keyOf)

end Pointer
end FlowCheck
