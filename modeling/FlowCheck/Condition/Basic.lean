import FlowCheck.Json.Writer

/-!
# Conditions

A condition is a disjunction of conjunctions of clauses.  A clause compares two operands, or asks
whether one operand is true.  An operand is a literal or a path into the variables.  A condition
without disjuncts holds always.
-/

namespace FlowCheck
namespace Condition

inductive Operator where
  | eq | ne | gt | ge | lt | le
deriving DecidableEq

namespace Operator

def symbol : Operator → String
  | eq => "=="
  | ne => "!="
  | gt => ">"
  | ge => ">="
  | lt => "<"
  | le => "<="

def all : List Operator := [eq, ne, gt, ge, lt, le]

def ofSymbol? (s : String) : Option Operator := all.find? fun op => op.symbol == s

end Operator

inductive Operand where
  | literal (value : Json)
  /-- Names with points between them, looked up from the outside in. -/
  | path (names : String)

namespace Operand

def text : Operand → String
  | .literal value => value.text
  | .path names => names

end Operand

inductive Clause where
  | compare (left : Operand) (operator : Operator) (right : Operand)
  | truthy (operand : Operand) (negated : Bool)

namespace Clause

/-- The clause as messages show it, with literals as JSON text. -/
def text : Clause → String
  | compare left op right => left.text ++ " " ++ op.symbol ++ " " ++ right.text
  | truthy operand negated => (if negated then "!" else "") ++ operand.text

end Clause

/-- Clauses that have to hold together. -/
abbrev Conjunction := List Clause

end Condition

/-- Conjunctions of which one has to hold. -/
structure Condition where
  any : List Condition.Conjunction

end FlowCheck
