import FlowCheck.Text.Blank
import FlowCheck.Text.Pieces

/-!
# Email addresses

A loose shape of addresses: something, an `@`, and something with a point inside.  Blanks occur
nowhere and the `@` once.
-/

namespace FlowCheck
namespace Format

/-- A character that may stand on either side of the `@`. -/
def isAddressChar (c : Char) : Bool := !Text.isBlank c && c != '@'

/-- A point with something on both sides. -/
def hasInnerPoint (domain : List Char) : Bool := (domain.drop 1).dropLast.contains '.'

def isEmail (cs : List Char) : Bool :=
  match cs.span isAddressChar with
  | ([], _) => false
  | (_, '@' :: domain) => domain.all isAddressChar && hasInnerPoint domain
  | _ => false

end Format
end FlowCheck
