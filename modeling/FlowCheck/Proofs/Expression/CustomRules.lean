import FlowCheck.Expression.CustomRules

/-!
# What checking custom rules comes to

With an evaluator, every rule that is not true has one finding, and the findings stand in the order
of the rules (`RuleChecker.findings_of_evaluator`).  The kind of a finding says how the rule came
out: it is false, or it has no truth value (`CustomRule.kind_finding?`).
-/

namespace FlowCheck

namespace Diagnostics

/-- The kinds of the findings that a check ends with. -/
def kindsIn : Except Fault Unit → List CheckKind
  | .ok () => []
  | .error fault => fault.diagnostics.map Diagnostic.kind

/-- A report is a success exactly when there is nothing to report. -/
theorem report_eq (found : List Diagnostic) :
    (Diagnostics.mk found).toExcept.mapError Fault.invalidData =
      if found = [] then .ok () else .error (.invalidData ⟨found⟩) := by
  cases found <;> rfl

theorem kindsIn_report (found : List Diagnostic) :
    kindsIn ((Diagnostics.mk found).toExcept.mapError Fault.invalidData) =
      found.map Diagnostic.kind := by
  cases found <;> rfl

end Diagnostics

namespace CustomRule

/-- No finding is made about a rule that is true; otherwise its kind tells a rule that is false from
one that cannot be evaluated. -/
theorem kind_finding? (rule : CustomRule) (evaluator : Evaluator) (env : Members) :
    (rule.finding? evaluator env).map Diagnostic.kind =
      match rule.outcome evaluator env with
      | .ok true => none
      | .ok false => some .custom
      | .error _ => some .expression := by
  unfold finding?
  split <;> simp_all

/-- A rule comes out as its unwrapped text does. -/
theorem outcome_of_unwrap {rule : CustomRule} {text : String}
    (h : Template.unwrap rule.expr = .ok text) (evaluator : Evaluator) (env : Members) :
    rule.outcome evaluator env = evaluator text env := by
  rw [outcome, h]
  rfl

end CustomRule

namespace RuleChecker

variable {checker : RuleChecker} {rules : List CustomRule} {override? : Option Evaluator}
  {env : Members} {evaluator : Evaluator}

theorem findings_of_evaluator (h : (override? <|> checker.evaluator) = some evaluator) :
    checker.findings rules override? env =
      .ok (rules.filterMap fun rule => rule.finding? evaluator env) := by
  unfold findings
  cases rules with
  | nil => rfl
  | cons rule rest => simp [h]

theorem findings_nil : checker.findings [] override? env = .ok [] := rfl

theorem findings_of_no_evaluator (hne : rules ≠ [])
    (h : (override? <|> checker.evaluator) = none) :
    checker.findings rules override? env = .error .missingEvaluator := by
  unfold findings
  cases rules with
  | nil => contradiction
  | cons rule rest => simp [h]

/-- Custom rules are only kept from being checked by a missing evaluator. -/
theorem findings_eq_error_iff {fault : Fault} :
    checker.findings rules override? env = .error fault ↔
      fault = .missingEvaluator ∧ rules ≠ [] ∧ (override? <|> checker.evaluator) = none := by
  constructor
  · intro h
    by_cases hne : rules = []
    · rw [hne, findings_nil] at h
      contradiction
    · cases heval : (override? <|> checker.evaluator) with
      | some evaluator =>
        rw [findings_of_evaluator heval] at h
        contradiction
      | none =>
        rw [findings_of_no_evaluator hne heval] at h
        exact ⟨(Except.error.inj h).symm, hne, rfl⟩
  · rintro ⟨rfl, hne, heval⟩
    exact findings_of_no_evaluator hne heval

theorem check_of_evaluator (h : (override? <|> checker.evaluator) = some evaluator) :
    checker.check rules override? env =
      (Diagnostics.mk (rules.filterMap fun rule => rule.finding? evaluator env)).toExcept.mapError
        Fault.invalidData := by
  rw [check, findings_of_evaluator h]
  rfl

/-- A single rule ends in the kind of its finding, if it has one. -/
theorem kindsIn_check_singleton (h : (override? <|> checker.evaluator) = some evaluator)
    (rule : CustomRule) : Diagnostics.kindsIn (checker.check [rule] override? env) =
      ((rule.finding? evaluator env).map Diagnostic.kind).toList := by
  rw [check_of_evaluator h, Diagnostics.kindsIn_report]
  cases hfinding : rule.finding? evaluator env <;> simp [hfinding]

end RuleChecker
end FlowCheck
