import FlowCheck.Json.Describe
import FlowCheck.Text.Pieces

/-!
# Why a JSON value is not of a type

The causes for which a JSON value does not stand for a value of some type, and their wording.
-/

namespace FlowCheck
namespace Wire

inductive Problem where
  /-- Another kind of value stands where `expected` should. -/
  | wrongType (found : Json) (expected : String)
  /-- An integer outside the range of its type. -/
  | outOfRange (n : Int) (expected : String)
  | missing (member : String)
  /-- A member is given under its name and under its other name. -/
  | duplicate (member : String)
  | unknownVariant (name : String) (variants : List String)
  | wrongLength (length : Nat) (expected : String)
  /-- A variant written as an object has exactly one member. -/
  | notSingleMember
  /-- A run block names more than one primary action. -/
  | severalPrimaries
deriving Inhabited

namespace Problem

def ticked (s : String) : String := "`" ++ s ++ "`"

/-- How a message lists the variants. -/
def variantList : List String → String
  | [] => "there are no variants"
  | [a] => "expected " ++ ticked a
  | [a, b] => "expected " ++ ticked a ++ " or " ++ ticked b
  | names => "expected one of " ++ Text.join ", " (names.map ticked)

def severalPrimariesText : String :=
  "resource can only specify one primary execution type " ++
    "(chat, httpClient, sql, python, exec, tts)"

def message : Problem → String
  | wrongType found expected => "invalid type: " ++ found.describe ++ ", expected " ++ expected
  | outOfRange n expected =>
    "invalid value: " ++ (Json.int n).describe ++ ", expected " ++ expected
  | missing member => "missing field " ++ ticked member
  | duplicate member => "duplicate field " ++ ticked member
  | unknownVariant name variants =>
    "unknown variant " ++ ticked name ++ ", " ++ variantList variants
  | wrongLength length expected =>
    "invalid length " ++ toString length ++ ", expected " ++ expected
  | notSingleMember => "invalid value: map, expected map with a single key"
  | severalPrimaries => severalPrimariesText

end Problem

end Wire
end FlowCheck
