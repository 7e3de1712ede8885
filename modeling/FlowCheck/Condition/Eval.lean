import FlowCheck.Condition.Parser
import FlowCheck.Fault

/-!
# Evaluating conditions

Variables are the members of an object.  A path that leads nowhere is `null`.  Equality is defined
for all values, order for two numbers or two strings; numbers are compared as doubles.  Clauses are
evaluated from left to right, and only as far as the outcome needs.
-/

namespace FlowCheck
namespace Condition

/-- Why a clause has no truth value. -/
inductive EvalProblem where
  /-- The order of two values is asked that have none. -/
  | incomparable (clause : Clause) (left right : Json)
  /-- A value stands alone that is neither true nor false. -/
  | notBoolean (clause : Clause) (value : Json)

/-- The kind of a value; integers are numbers. -/
def kindName (j : Json) : String :=
  match j.kind with
  | .integer => Json.Kind.number.name
  | kind => kind.name

namespace EvalProblem

def clause : EvalProblem → Clause
  | incomparable clause _ _ => clause
  | notBoolean clause _ => clause

def message : EvalProblem → String
  | incomparable _ left right =>
    "cannot compare " ++ kindName left ++ " with " ++ kindName right
  | notBoolean _ value => "expected a boolean, got " ++ kindName value

end EvalProblem

/-! ## Looking up -/

/-- One step of a path: a member of an object, or an item of an array by its position. -/
def step? (j : Json) (segment : String) : Option Json :=
  match j with
  | .obj members => Members.get? members segment
  | .arr items => (Numeral.index? segment.toList).bind fun i => items[i]?
  | _ => none

def follow? (j : Json) (segments : List String) : Option Json := segments.foldlM step? j

/-- The value at a path, if there is one. -/
def lookUp? (env : Members) (path : String) : Option Json :=
  match Text.pieces '.' path with
  | [] => none
  | first :: rest => (env.get? first).bind fun j => follow? j rest

def Operand.resolve (env : Members) : Operand → Json
  | .literal value => value
  | .path names => (lookUp? env names).getD .null

/-! ## Comparing -/

/-- Two numbers are equal as doubles, other values when they are the same. -/
def looselyEqual : Json → Json → Bool
  | .num m, .num n => m.toBinary64.eq n.toBinary64
  | a, b => a.same b

/-- The order of two numbers, as doubles, or of two strings, by code points. -/
def order? : Json → Json → Option Ordering
  | .num m, .num n => some (m.toBinary64.compare n.toBinary64)
  | .str s, .str t => some (if s < t then .lt else if s = t then .eq else .gt)
  | _, _ => none

def Operator.holdsFor : Operator → Ordering → Bool
  | .eq, o => o == .eq
  | .ne, o => o != .eq
  | .gt, o => o == .gt
  | .ge, o => o != .lt
  | .lt, o => o == .lt
  | .le, o => o != .gt

/-! ## Truth -/

def Clause.eval (env : Members) (clause : Clause) : Except EvalProblem Bool :=
  match clause with
  | .compare left op right =>
    let a := left.resolve env
    let b := right.resolve env
    match op with
    | .eq => .ok (looselyEqual a b)
    | .ne => .ok (!looselyEqual a b)
    | op => match order? a b with
      | some o => .ok (op.holdsFor o)
      | none => .error (.incomparable clause a b)
  | .truthy operand negated =>
    match operand.resolve env with
    | .bool b => .ok (b != negated)
    | value => .error (.notBoolean clause value)

/-- Whether all clauses hold, up to the first that does not. -/
def evalAll (env : Members) : Conjunction → Except EvalProblem Bool
  | [] => .ok true
  | clause :: rest => do
    if ← clause.eval env then evalAll env rest else pure false

/-- Whether some conjunction holds, up to the first that does. -/
def evalAny (env : Members) : List Conjunction → Except EvalProblem Bool
  | [] => .ok false
  | conjunction :: rest => do
    if ← evalAll env conjunction then pure true else evalAny env rest

def eval (c : Condition) (env : Members) : Except EvalProblem Bool :=
  if c.any.isEmpty then .ok true else evalAny env c.any

/-! ## As faults -/

def SyntaxProblem.toFault (p : SyntaxProblem) (text : String) : Fault :=
  .expression text p.message

def EvalProblem.toFault (p : EvalProblem) : Fault := .expression p.clause.text p.message

end Condition

/-- Decides a condition, given as text, over some variables. -/
abbrev Evaluator := String → Members → Except Fault Bool

/-- The built-in condition language. -/
def Evaluator.default : Evaluator := fun text env => do
  let condition ← (Condition.parse text).mapError fun p => p.toFault text
  (condition.eval env).mapError fun p => p.toFault

end FlowCheck
