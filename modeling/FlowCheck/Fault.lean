import FlowCheck.Diagnostic

/-!
# Failures as they are reported

A `Fault` is what an operation on workflow documents fails with: its cause, the code of its
category, its text, and the diagnostics that it carries.  A fault of a resource or of a resource
file carries those of its own cause.
-/

namespace FlowCheck

/-- The kinds of document. -/
inductive DocumentKind where
  | workflow
  | resource
deriving DecidableEq

namespace DocumentKind

def name : DocumentKind → String
  | workflow => "workflow"
  | resource => "resource"

def ofName? : String → Option DocumentKind
  | "workflow" => some workflow
  | "resource" => some resource
  | _ => none

def codec : Wire.Codec DocumentKind :=
  .variant [("workflow", workflow), ("resource", resource)] name

end DocumentKind

/-- The categories of faults. -/
inductive FaultCode where
  | parseError | validationFailed | invalidWorkflow | invalidResource | expressionError | internal
deriving DecidableEq

namespace FaultCode

def name : FaultCode → String
  | parseError => "PARSE_ERROR"
  | validationFailed => "VALIDATION_FAILED"
  | invalidWorkflow => "INVALID_WORKFLOW"
  | invalidResource => "INVALID_RESOURCE"
  | expressionError => "EXPRESSION_ERROR"
  | internal => "INTERNAL"

def all : List FaultCode :=
  [parseError, validationFailed, invalidWorkflow, invalidResource, expressionError, internal]

def codec : Wire.Codec FaultCode := .variant (all.map fun c => (c.name, c)) name

end FaultCode

inductive Fault where
  /-- A document cannot be read as what it should be. -/
  | unreadable (path message : String)
  | resourceFile (path : String) (source : Fault)
  | schemaViolated (kind : DocumentKind) (found : Diagnostics)
  | schemaUnusable (kind : DocumentKind) (message : String)
  | invalidWorkflow (message : String)
  | invalidResource (message : String)
  | resourceFailed (actionId : String) (source : Fault)
  | invalidData (found : Diagnostics)
  | missingEvaluator
  | expression (expr message : String)
  | io (message : String)
  | json (message : String)
  | other (message : String)

namespace Fault

def code : Fault → FaultCode
  | unreadable .. | resourceFile .. => .parseError
  | schemaViolated .. => .validationFailed
  | invalidWorkflow _ => .invalidWorkflow
  | invalidResource _ | resourceFailed .. => .invalidResource
  | invalidData _ | missingEvaluator | expression .. => .expressionError
  | schemaUnusable .. | io _ | json _ | other _ => .internal

def text : Fault → String
  | unreadable path message => "failed to parse " ++ path ++ ": " ++ message
  | resourceFile path source =>
    "failed to parse resource file " ++ path ++ ": " ++ source.text
  | schemaViolated kind found => kind.name ++ " validation failed:\n" ++ found.bullets
  | schemaUnusable kind message => "failed to compile " ++ kind.name ++ " schema: " ++ message
  | invalidWorkflow message => message
  | invalidResource message => message
  | resourceFailed actionId source => "invalid resource '" ++ actionId ++ "': " ++ source.text
  | invalidData found => found.text
  | missingEvaluator => "evaluator is required to validate custom rules"
  | expression expr message => "expression '" ++ expr ++ "': " ++ message
  | io message => "IO error: " ++ message
  | json message => "JSON error: " ++ message
  | other message => message

/-- The diagnostics that a fault carries. -/
def diagnostics : Fault → List Diagnostic
  | schemaViolated _ found | invalidData found => found.errors
  | resourceFailed _ source | resourceFile _ source => source.diagnostics
  | _ => []

/-- The kind of document that a name stands for. -/
def kindOfName (name : String) : Except Fault DocumentKind :=
  match DocumentKind.ofName? name with
  | some kind => .ok kind
  | none => .error (.other ("unknown schema type: " ++ name))

end Fault
end FlowCheck
