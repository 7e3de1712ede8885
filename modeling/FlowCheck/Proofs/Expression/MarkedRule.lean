import FlowCheck.Proofs.Condition.Ending
import FlowCheck.Proofs.Expression.CustomRules
import FlowCheck.Proofs.Expression.Template

/-!
# Rules between markers

A rule may be written between an opening and a closing marker.  It comes out as the bare rule does,
under every evaluator, as long as its text has no closing marker.  The markers are found without
regard to quotes, so one that stands in a string ends the marked part: what is left over then ends
in a brace and is no condition, and the rule fails whatever the data are.
-/

namespace FlowCheck

open Text (trim)

namespace CustomRule

/-- The rule with its expression between markers. -/
def marked (rule : CustomRule) : CustomRule := { rule with expr := Template.marked rule.expr }

/-- Markers around a text without markers do not show. -/
theorem outcome_marked {rule : CustomRule} (hopen : ¬ Template.opening <:+: rule.expr.toList)
    (hclose : ¬ Template.closing <:+: rule.expr.toList) (evaluator : Evaluator) (env : Members) :
    rule.marked.outcome evaluator env = rule.outcome evaluator env := by
  have hmarked : Template.unwrap rule.marked.expr =
      .ok (String.ofList (trim rule.expr.toList)) := Template.unwrap_marked_of_no_closing hclose
  rw [outcome_of_unwrap hmarked, outcome_of_unwrap (Template.unwrap_of_no_opening hopen)]

/-- A closing marker inside leaves a text that is no condition. -/
theorem exists_outcome_marked_eq_error {rule : CustomRule}
    (hopen : ¬ Template.opening <:+: rule.expr.toList)
    (hclose : Template.closing <:+: rule.expr.toList) (env : Members) :
    ∃ fault, rule.marked.outcome .default env = .error fault := by
  obtain ⟨cs, hunwrap⟩ : ∃ cs, Template.unwrap rule.marked.expr =
      .ok (String.ofList (cs ++ ['\x7d'])) := Template.unwrap_marked_of_closing hopen hclose
  obtain ⟨problem, hparse⟩ : ∃ problem, Condition.parse (String.ofList (cs ++ ['\x7d'])) =
      .error problem := Condition.exists_parse_eq_error (by decide) (by decide)
  refine ⟨problem.toFault (String.ofList (cs ++ ['\x7d'])), ?_⟩
  rw [outcome_of_unwrap hunwrap, Evaluator.default, hparse]
  rfl

end CustomRule

namespace RuleChecker

variable {checker : RuleChecker} {override? : Option Evaluator}

/-- A rule whose text has no opening marker comes out alike with markers and without, true, false or
without a truth value, exactly when its text has no closing marker or the bare rule has no truth
value either. -/
theorem kindsIn_check_marked_iff
    (hevaluator : (override? <|> checker.evaluator) = some Evaluator.default) {rule : CustomRule}
    (hopen : ¬ Template.opening <:+: rule.expr.toList) (env : Members) :
    Diagnostics.kindsIn (checker.check [rule.marked] override? env) =
        Diagnostics.kindsIn (checker.check [rule] override? env) ↔
      ¬ Template.closing <:+: rule.expr.toList ∨
        Diagnostics.kindsIn (checker.check [rule] override? env) = [.expression] := by
  simp only [kindsIn_check_singleton hevaluator, CustomRule.kind_finding?]
  by_cases hclose : Template.closing <:+: rule.expr.toList
  · obtain ⟨fault, hfault⟩ := CustomRule.exists_outcome_marked_eq_error hopen hclose env
    simp [hfault, hclose, eq_comm]
  · simp [CustomRule.outcome_marked hopen hclose, hclose]

/-- A rule that is false between markers as well. -/
theorem kindsIn_check_marked_role :
    let rule : CustomRule := ⟨"role == 'admin'", "not allowed"⟩
    let checker : RuleChecker := ⟨some .default⟩
    let env : Members := [("role", .str "guest")]
    Diagnostics.kindsIn (checker.check [rule] none env) = [.custom] ∧
      Diagnostics.kindsIn (checker.check [rule.marked] none env) =
        Diagnostics.kindsIn (checker.check [rule] none env) := by
  intro rule checker env
  have hopen : ¬ Template.opening <:+: rule.expr.toList := by decide
  have hclose : ¬ Template.closing <:+: rule.expr.toList := by decide
  have hunwrap : Template.unwrap rule.expr = .ok "role == 'admin'" := by cbv
  have hparse : Condition.parse "role == 'admin'" =
      .ok ⟨[[.compare (.path "role") .eq (.literal (.str "admin"))]]⟩ := rfl
  have hfalse : rule.outcome .default env = .ok false := by
    rw [CustomRule.outcome_of_unwrap hunwrap, Evaluator.default, hparse]
    rfl
  refine ⟨?_, (kindsIn_check_marked_iff rfl hopen env).2 (.inl hclose)⟩
  rw [kindsIn_check_singleton rfl, CustomRule.kind_finding?, hfalse]
  rfl

/-- A string may hold a closing marker: the bare rule is true, and between markers it has no truth
value. -/
theorem check_marked_string_with_closing :
    let rule : CustomRule := ⟨"sep == '\x7d\x7d'", "wrong separator"⟩
    let checker : RuleChecker := ⟨some .default⟩
    let env : Members := [("sep", .str "\x7d\x7d")]
    (∃ c, Condition.parse rule.expr = .ok c) ∧ ¬ Template.opening <:+: rule.expr.toList ∧
      checker.check [rule] none env = .ok () ∧
      checker.check [rule.marked] none env = .error (.invalidData ⟨[⟨"", .expression,
        "expression evaluation failed: " ++
          (Fault.expression "sep == '' \x7d\x7d" "invalid operand ''' \x7d\x7d'").text,
        some (.str rule.marked.expr)⟩]⟩) := by
  intro rule checker env
  have hbare : Template.unwrap rule.expr = .ok "sep == '\x7d\x7d'" := by cbv
  have hparse : Condition.parse "sep == '\x7d\x7d'" =
      .ok ⟨[[.compare (.path "sep") .eq (.literal (.str "\x7d\x7d"))]]⟩ := rfl
  have htrue : rule.outcome .default env = .ok true := by
    rw [CustomRule.outcome_of_unwrap hbare, Evaluator.default, hparse]
    rfl
  have hmarked : Template.unwrap rule.marked.expr = .ok "sep == '' \x7d\x7d" := by
    have htrim : trim (Template.marked "sep == '\x7d\x7d'").toList = [] ++ '\x7b' :: '\x7b' ::
        (" sep == '".toList ++ '\x7d' :: '\x7d' :: "' \x7d\x7d".toList) := by decide
    have hstart : ¬ Template.opening <:+: [] ++ ['\x7b'] := by decide
    have hinner : ¬ Template.closing <:+: " sep == '".toList ++ ['\x7d'] := by decide
    have hrest : ¬ Template.opening <:+: "' \x7d\x7d".toList := by decide
    have hexpand := Template.expand_append hstart hinner "' \x7d\x7d".toList
    rw [← htrim, Template.expand_of_no_opening hrest, Option.map_some] at hexpand
    exact Template.unwrap_of_expand hexpand
  have hleftover : Condition.parse "sep == '' \x7d\x7d" =
      .error (.invalidOperand "'' \x7d\x7d") := rfl
  have hfails : rule.marked.outcome .default env =
      .error (.expression "sep == '' \x7d\x7d" "invalid operand ''' \x7d\x7d'") := by
    rw [CustomRule.outcome_of_unwrap hmarked, Evaluator.default, hleftover]
    rfl
  refine ⟨⟨_, hparse⟩, by decide, ?_, ?_⟩
  · rw [check_of_evaluator rfl]
    simp only [List.filterMap_cons, List.filterMap_nil, CustomRule.finding?, htrue]
    rfl
  · rw [check_of_evaluator rfl]
    simp only [List.filterMap_cons, List.filterMap_nil, CustomRule.finding?, hfails]
    rfl

end RuleChecker
end FlowCheck
