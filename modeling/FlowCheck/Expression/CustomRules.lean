import FlowCheck.Condition.Eval
import FlowCheck.Expression.Template
import FlowCheck.Model.FieldRule

/-!
# Custom rules

A custom rule is an expression that has to be true of the request data.  Every rule is evaluated,
and every one that is not true gives a diagnostic: one with the rule's message when it is false,
and one with the cause when it cannot be evaluated.
-/

namespace FlowCheck

/-- The evaluator in use, if one is set. -/
structure RuleChecker where
  evaluator : Option Evaluator := none

namespace CustomRule

/-- The outcome of a rule: unwrapped, then evaluated. -/
def outcome (rule : CustomRule) (evaluator : Evaluator) (env : Members) : Except Fault Bool := do
  evaluator (← Template.unwrap rule.expr) env

/-- What there is to say about a rule that is not true. -/
def finding? (rule : CustomRule) (evaluator : Evaluator) (env : Members) : Option Diagnostic :=
  match rule.outcome evaluator env with
  | .ok true => none
  | .ok false => some ⟨"", .custom, rule.message, some (.str rule.expr)⟩
  | .error fault =>
    some ⟨"", .expression, "expression evaluation failed: " ++ fault.text, some (.str rule.expr)⟩

end CustomRule

namespace RuleChecker

/-- What there is to say about some rules, evaluated with `override?`, or else with the evaluator
that is set.  Without rules no evaluator is needed. -/
def findings (checker : RuleChecker) (rules : List CustomRule) (override? : Option Evaluator)
    (env : Members) : Except Fault (List Diagnostic) :=
  if rules.isEmpty then .ok []
  else match override? <|> checker.evaluator with
    | none => .error .missingEvaluator
    | some evaluator => .ok (rules.filterMap (·.finding? evaluator env))

/-- Accepts rules about which there is nothing to say. -/
def check (checker : RuleChecker) (rules : List CustomRule) (override? : Option Evaluator)
    (env : Members) : Except Fault Unit := do
  let found ← checker.findings rules override? env
  (Diagnostics.mk found).toExcept.mapError .invalidData

end RuleChecker

end FlowCheck
