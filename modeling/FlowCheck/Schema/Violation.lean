import FlowCheck.Schema.Basic
import FlowCheck.Schema.Pointer

/-!
# Violations

Holding a value against a schema gives every violation in one pass: first those of the contained
values, then those of the value itself.  Each restriction looks only at values of its own kind, so
a value of a wrong kind that is also none of the options violates the schema twice.

## Main definitions

* `Violation` : where a value is, the value, and the restriction that it breaks
* `Schema.violations` : the violations of a schema, in order
-/

namespace FlowCheck

namespace Violation

/-- The restriction that a value breaks. -/
inductive Cause where
  | wrongKind (expected : Json.Kind)
  | missing (name : String)
  | notAmong (options : List Json)
  | unexpected (names : List String)
  | below (low : Int)
  | above (high : Int)
  | tooShort (length : Nat)
  /-- A text does not start with a slash. -/
  | notRooted

end Violation

/-- A value that breaks a restriction. -/
structure Violation where
  path : List Segment
  value : Json
  cause : Violation.Cause

namespace Schema

/-! ## Restrictions of single values -/

/-- The value is of the kind. -/
def kindCauses (kind : Json.Kind) (j : Json) : List Violation.Cause :=
  if isOfKind kind j then [] else [.wrongKind kind]

/-- Whether a value is an option: a number equal to it, or the same text. -/
def isOption (j : Json) (option : Json) : Bool :=
  match option, j with
  | .num (.int i), .num n => n.compareInt i == .eq
  | option, j => option.same j

/-- The value is one of the options, where there are any. -/
def optionCauses (options : List Json) (j : Json) : List Violation.Cause :=
  if options.isEmpty || options.any (isOption j) then [] else [.notAmong options]

def textCauses (rule : TextRule) (j : Json) : List Violation.Cause :=
  optionCauses (rule.options.map .str) j ++
    match j with
    | .str s =>
      (if s.length < rule.minLength then [.tooShort rule.minLength] else []) ++
        (if rule.rooted && s.toList.head? != some '/' then [.notRooted] else [])
    | _ => []

def rangeCauses (range : NumberRange) (j : Json) : List Violation.Cause :=
  match j with
  | .num n =>
    (match range.high with
      | some high => if n.compareInt high == .gt then [.above high] else []
      | none => []) ++
    (match range.low with
      | some low => if n.compareInt low == .lt then [.below low] else []
      | none => [])
  | _ => []

/-- The members of a closed record are among its properties. -/
def unexpectedCauses (properties : List (String × Schema)) (j : Json) : List Violation.Cause :=
  match j with
  | .obj members =>
    let surplus := members.filter fun m => !properties.any fun p => p.1 == m.1
    if surplus.isEmpty then [] else [.unexpected (surplus.map (·.1))]
  | _ => []

/-- The required members of a record are there. -/
def missingCauses (required : List String) (j : Json) : List Violation.Cause :=
  match j with
  | .obj members =>
    (required.filter fun name => !Members.has members name).map .missing
  | _ => []

/-! ## Whole values -/

/-- Violations by the value at a place itself. -/
def here (path : List Segment) (j : Json) (causes : List Violation.Cause) : List Violation :=
  causes.map fun cause => ⟨path, j, cause⟩

mutual

/-- The violations by the value at a place and all it contains. -/
def violations (path : List Segment) (j : Json) : Schema → List Violation
  | any => []
  | text rule => here path j (textCauses rule j ++ kindCauses .string j)
  | integer range options =>
    here path j (optionCauses (options.map .int) j ++ rangeCauses range j ++ kindCauses .integer j)
  | number range => here path j (rangeCauses range j ++ kindCauses .number j)
  | boolean => here path j (kindCauses .boolean j)
  | list items =>
    (match j with
      | .arr values => values.zipIdx.flatMap fun v =>
        items.violations (path ++ [.index v.2]) v.1
      | _ => []) ++ here path j (kindCauses .array j)
  | record closed required properties =>
    propertyViolations path j properties ++
      here path j ((if closed then unexpectedCauses properties j else []) ++
        missingCauses required j ++ kindCauses .object j)
  | table values =>
    (match j with
      | .obj members => members.flatMap fun m => values.violations (path ++ [.key m.1]) m.2
      | _ => []) ++ here path j (kindCauses .object j)

/-- The violations by the members that a record names. -/
def propertyViolations (path : List Segment) (j : Json) :
    List (String × Schema) → List Violation
  | [] => []
  | (name, schema) :: rest =>
    (match j.get? name with
      | some value => schema.violations (path ++ [.key name]) value
      | none => []) ++ propertyViolations path j rest

end

end Schema
end FlowCheck
