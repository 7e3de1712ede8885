import FlowCheck.Proofs.Condition.Variables
import FlowCheck.Proofs.Expression.CustomRules
import FlowCheck.Request.Check

/-!
# What validation rules read

Rules name fields: the required ones, those that have rules of their own, and the variables of the
custom rules (`ValidationRules.keys`).  The answer to a request is a function of these fields: two
requests that agree on them get the same answer, word for word (`ValidationRules.check_congr`).  So
nothing about another field can show in it.
-/

namespace FlowCheck

open Members (AgreeOn)

variable {data data' : Members}

/-! ## Custom rules -/

namespace CustomRule

/-- The condition that a rule states, if its text states one. -/
def condition? (rule : CustomRule) : Option Condition :=
  (Template.unwrap rule.expr).toOption.bind fun text => (Condition.parse text).toOption

/-- The variables at which the paths of a rule begin. -/
def roots (rule : CustomRule) : List String := (rule.condition?.map Condition.roots).getD []

theorem outcome_congr {rule : CustomRule} (h : AgreeOn rule.roots data data') :
    rule.outcome .default data = rule.outcome .default data' := by
  cases htext : Template.unwrap rule.expr with
  | error fault =>
    rw [outcome, outcome, htext]
    rfl
  | ok text =>
    rw [outcome_of_unwrap htext, outcome_of_unwrap htext]
    refine Evaluator.default_congr fun c hparse => ?_
    have hroots : rule.roots = c.roots := by
      rw [roots, condition?, htext, Except.toOption, Option.bind_some, hparse, Except.toOption]
      rfl
    exact hroots ▸ h

theorem finding?_congr {rule : CustomRule} (h : AgreeOn rule.roots data data') :
    rule.finding? .default data = rule.finding? .default data' := by
  rw [finding?, finding?, outcome_congr h]

end CustomRule

/-! ## All rules -/

namespace ValidationRules

/-- The fields that the rules name. -/
def keys (rules : ValidationRules) : List String :=
  rules.required ++ rules.rules.map FieldRule.field ++ rules.customRules.flatMap CustomRule.roots

theorem requiredFinding?_congr {field : String} (h : data.get? field = data'.get? field) :
    requiredFinding? data field = requiredFinding? data' field := by
  rw [requiredFinding?, requiredFinding?, h]

theorem fieldFinding?_congr {rule : FieldRule} (h : data.get? rule.field = data'.get? rule.field) :
    fieldFinding? data rule = fieldFinding? data' rule := by
  rw [fieldFinding?, fieldFinding?, h]

theorem findings_congr {rules : ValidationRules}
    (h : AgreeOn (rules.required ++ rules.rules.map FieldRule.field) data data') :
    rules.findings data = rules.findings data' := by
  have hrequired : ∀ field ∈ rules.required,
      requiredFinding? data field = requiredFinding? data' field := fun field hfield =>
    requiredFinding?_congr (h field (List.mem_append_left _ hfield))
  have hfields : ∀ rule ∈ rules.rules, fieldFinding? data rule = fieldFinding? data' rule :=
    fun rule hrule =>
      fieldFinding?_congr (h rule.field (List.mem_append_right _ (List.mem_map_of_mem hrule)))
  rw [findings, findings, List.filterMap_congr hrequired, List.filterMap_congr hfields]

/-- Requests that agree on the fields named by the rules get the same answer. -/
theorem check_congr {rules : ValidationRules} (h : AgreeOn rules.keys data data') :
    rules.check ⟨some .default⟩ data = rules.check ⟨some .default⟩ data' := by
  have hfindings := findings_congr (h.mono (List.subset_append_left _ _))
  have hcustom : ∀ rule ∈ rules.customRules,
      rule.finding? .default data = rule.finding? .default data' := fun rule hrule =>
    CustomRule.finding?_congr fun key hkey =>
      h key (List.mem_append_right _ (List.mem_flatMap.2 ⟨rule, hrule, hkey⟩))
  rw [check, check, RuleChecker.findings_of_evaluator rfl, RuleChecker.findings_of_evaluator rfl,
    List.filterMap_congr hcustom, hfindings]

/-- A request with a field that no rule names, and the same request without it. -/
theorem check_congr_unnamed_field :
    let rules : ValidationRules := ⟨["name"], [], [⟨"role == 'admin'", "not allowed"⟩]⟩
    let data : Members := [("name", .str "Ada"), ("role", .str "guest"), ("token", .str "x")]
    let data' : Members := [("name", .str "Ada"), ("role", .str "guest")]
    AgreeOn rules.keys data data' ∧
      rules.check ⟨some .default⟩ data = rules.check ⟨some .default⟩ data' := by
  intro rules data data'
  have hunwrap : Template.unwrap "role == 'admin'" = .ok "role == 'admin'" := by cbv
  have hparse : Condition.parse "role == 'admin'" =
      .ok ⟨[[.compare (.path "role") .eq (.literal (.str "admin"))]]⟩ := rfl
  have hroots : CustomRule.roots ⟨"role == 'admin'", "not allowed"⟩ = ["role"] := by
    rw [CustomRule.roots, CustomRule.condition?, hunwrap, Except.toOption, Option.bind_some, hparse]
    rfl
  have hkeys : rules.keys = ["name", "role"] := by
    simp [rules, keys, hroots]
  have hagree : AgreeOn rules.keys data data' := by
    rw [hkeys]
    intro key hkey
    obtain rfl | rfl : key = "name" ∨ key = "role" := by simpa using hkey
    · rfl
    · rfl
  exact ⟨hagree, check_congr hagree⟩

end ValidationRules
end FlowCheck
