import FlowCheck.Hints.Options

/-!
# Rules and their problems

A rule looks at a typed value and finds the first problem there, or none.  Rules are put together
by `<|>`, which keeps the order in which problems count.
-/

namespace FlowCheck
namespace Rules

/-- The problem, when the condition fails. -/
def require {π : Type} (condition : Bool) (problem : π) : Option π :=
  if condition then none else some problem

@[simp] theorem require_eq_none {π : Type} (condition : Bool) (problem : π) :
    require condition problem = none ↔ condition = true := by
  cases condition <;> simp [require]

theorem require_eq_some_iff {π : Type} {condition : Bool} {problem p : π} :
    require condition problem = some p ↔ condition = false ∧ problem = p := by
  cases condition <;> simp [require]

/-- The rule for an optional part, which has to be there. -/
def needed {α π : Type} (part : Option α) (missing : π) (rule : α → Option π) : Option π :=
  match part with
  | none => some missing
  | some a => rule a

@[simp] theorem needed_eq_none {α π : Type} (part : Option α) (missing : π)
    (rule : α → Option π) :
    needed part missing rule = none ↔ ∃ a, part = some a ∧ rule a = none := by
  cases part <;> simp [needed]

theorem needed_eq_some_iff {α π : Type} {part : Option α} {missing p : π}
    {rule : α → Option π} : needed part missing rule = some p ↔
      (part = none ∧ missing = p) ∨ ∃ a, part = some a ∧ rule a = some p := by
  cases part <;> simp [needed]

/-- Wording for a name that is not in its table. -/
def unknownName (label name : String) (options : Options) : String :=
  "invalid " ++ label ++ ": " ++ name ++ ". Available options: " ++ options.render

end Rules
end FlowCheck
