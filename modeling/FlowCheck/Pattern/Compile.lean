import FlowCheck.Pattern.Meaning
import FlowCheck.Pattern.Reader
import FlowCheck.Pattern.Size

/-!
# Patterns

From the text of a pattern to its matcher.  A text that is no pattern is refused with a report, one
whose matcher would be too large with the limit.
-/

namespace FlowCheck
namespace Pattern

/-- Why a text cannot be used as a pattern. -/
inductive Refusal where
  | invalid (problem : Problem)
  | tooLarge

def Refusal.message (text : String) : Refusal → String
  | invalid problem => problem.report text.toList
  | tooLarge =>
    "Compiled regex exceeds size limit of " ++ toString Matcher.sizeLimit ++ " bytes."

/-- The matcher of a pattern. -/
def compile (text : String) : Except Refusal Matcher := do
  let node ← (read text.toList).mapError .invalid
  let (_, matcher) ← (node.meaning {}).mapError .invalid
  if matcher.size > Matcher.sizeLimit then throw .tooLarge
  pure matcher

end Pattern
end FlowCheck
