import FlowCheck.Expression.CustomRules
import FlowCheck.Request.Field

/-!
# Checking request data

The data of a request are checked in three passes: required fields, rules for single fields, custom
rules.  Every finding of every pass is reported, in this order.
-/

namespace FlowCheck

namespace ValidationRules

/-- The finding about a required field that is not given. -/
def requiredFinding? (data : Members) (field : String) : Option Diagnostic :=
  if (data.get? field).all Json.isAbsent then
    some ⟨field, .required, "field '" ++ field ++ "' is required", none⟩
  else none

/-- The finding about a field that is given. -/
def fieldFinding? (data : Members) (rule : FieldRule) : Option Diagnostic :=
  (data.get? rule.field).bind rule.finding?

/-- The findings of the first two passes. -/
def findings (rules : ValidationRules) (data : Members) : List Diagnostic :=
  rules.required.filterMap (requiredFinding? data) ++ rules.rules.filterMap (fieldFinding? data)

/-- Accepts data about which there is nothing to say. -/
def check (rules : ValidationRules) (checker : RuleChecker) (data : Members) :
    Except Fault Unit := do
  let custom ← checker.findings rules.customRules none data
  (Diagnostics.mk (rules.findings data ++ custom)).toExcept.mapError .invalidData

end ValidationRules

end FlowCheck
