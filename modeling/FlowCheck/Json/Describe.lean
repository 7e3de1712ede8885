import FlowCheck.Json.Basic
import FlowCheck.Text.Quoted

/-!
# Describing a value

How a message about an unexpected value names it: a leaf with its text, a container by its kind.
-/

namespace FlowCheck
namespace Json

def describe : Json → String
  | .null => "null"
  | .bool b => "boolean `" ++ (if b then "true" else "false") ++ "`"
  | .num (.int n) => "integer `" ++ toString n ++ "`"
  | .num (.real x) => "floating point `" ++ DecimalForm.json.render x ++ "`"
  | .str s => "string " ++ Text.quoted s
  | .arr _ => "sequence"
  | .obj _ => "map"

end Json
end FlowCheck
