import FlowCheck.Condition.Eval
import FlowCheck.Proofs.Condition.Printing

/-!
# The variables of a condition

A condition reads the variables at which its paths begin, and no others: over environments that
agree on these it has the same truth value, and it has none for the same reason, told in the same
words (`Condition.eval_congr`).  The proof goes up the condition, from an operand to a clause, a
conjunction and the whole.
-/

namespace FlowCheck
namespace Members

/-- The environments have the same value, or none, at each of the keys. -/
def AgreeOn (keys : List String) (env env' : Members) : Prop :=
  ∀ key ∈ keys, env.get? key = env'.get? key

theorem AgreeOn.mono {keys keys' : List String} {env env' : Members} (h : AgreeOn keys env env')
    (hsub : keys' ⊆ keys) : AgreeOn keys' env env' :=
  fun key hkey => h key (hsub hkey)

end Members

namespace Condition

open Members (AgreeOn)

variable {env env' : Members}

/-! ## Where paths begin -/

/-- The first segment of a path. -/
def Operand.roots : Operand → List String
  | .literal _ => []
  | .path names => (Text.pieces '.' names).take 1

def Clause.roots (clause : Clause) : List String := clause.operands.flatMap Operand.roots

def roots (c : Condition) : List String := c.any.flatten.flatMap Clause.roots

/-! ## Reading them only -/

theorem Operand.resolve_congr {x : Operand} (h : AgreeOn x.roots env env') :
    x.resolve env = x.resolve env' := by
  cases x with
  | literal value => rfl
  | path names =>
    rw [resolve, resolve, lookUp?, lookUp?]
    cases hpieces : Text.pieces '.' names with
    | nil => rfl
    | cons first rest =>
      have hfirst : env.get? first = env'.get? first := by
        refine h first ?_
        rw [roots, hpieces]
        exact List.mem_cons_self
      simp only [hfirst]

theorem Clause.eval_congr {clause : Clause} (h : AgreeOn clause.roots env env') :
    clause.eval env = clause.eval env' := by
  have hoperand : ∀ x ∈ clause.operands, x.resolve env = x.resolve env' := fun x hx =>
    Operand.resolve_congr (h.mono fun key hkey => List.mem_flatMap.2 ⟨x, hx, hkey⟩)
  cases clause with
  | compare left op right =>
    have hleft := hoperand left (by simp [operands])
    have hright := hoperand right (by simp [operands])
    simp only [eval, hleft, hright]
  | truthy x negated =>
    have hx := hoperand x (by simp [operands])
    simp only [eval, hx]

theorem evalAll_congr {conjunction : Conjunction}
    (h : AgreeOn (conjunction.flatMap Clause.roots) env env') :
    evalAll env conjunction = evalAll env' conjunction := by
  induction conjunction with
  | nil => rfl
  | cons clause rest ih =>
    rw [List.flatMap_cons] at h
    have hclause := Clause.eval_congr (h.mono (List.subset_append_left _ _))
    have hrest := ih (h.mono (List.subset_append_right _ _))
    rw [evalAll, evalAll, hclause, hrest]

theorem evalAny_congr {any : List Conjunction}
    (h : AgreeOn (any.flatten.flatMap Clause.roots) env env') :
    evalAny env any = evalAny env' any := by
  induction any with
  | nil => rfl
  | cons conjunction rest ih =>
    rw [List.flatten_cons, List.flatMap_append] at h
    have hconjunction := evalAll_congr (h.mono (List.subset_append_left _ _))
    have hrest := ih (h.mono (List.subset_append_right _ _))
    rw [evalAny, evalAny, hconjunction, hrest]

theorem eval_congr {c : Condition} (h : AgreeOn c.roots env env') :
    c.eval env = c.eval env' := by
  rw [eval, eval, evalAny_congr h]

end Condition

/-- The condition language reads the variables of the condition, and nothing where there is none. -/
theorem Evaluator.default_congr {text : String} {env env' : Members}
    (h : ∀ c, Condition.parse text = .ok c → Members.AgreeOn c.roots env env') :
    Evaluator.default text env = Evaluator.default text env' := by
  rw [Evaluator.default, Evaluator.default]
  cases hparse : Condition.parse text with
  | error problem => rfl
  | ok c =>
    have heval := Condition.eval_congr (h c hparse)
    simp only [Except.mapError, bind, Except.bind, heval]

end FlowCheck
