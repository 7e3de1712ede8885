import FlowCheck.Fault
import FlowCheck.Hints.Hint
import FlowCheck.Json.Writer
import FlowCheck.Schema.ResourceDocument
import FlowCheck.Schema.Violation
import FlowCheck.Schema.WorkflowDocument

/-!
# Checking documents against their schema

Every violation becomes a diagnostic: a sentence about the field, with a hint appended.  The
resources inside a workflow document are checked one by one as resource documents, with their
position in front of the field path.
-/

namespace FlowCheck

namespace Violation

/-! ## Sentences -/

/-- The word behind the quote, if there is one. -/
def typeWord? : List Char → Option (List Char)
  | '"' :: cs => Text.word? cs
  | cs => Text.word? cs

/-- The type behind the words that announce it, in singular or plural. -/
def announcedType? : List Char → Option (List Char)
  | 's' :: ' ' :: cs => typeWord? cs
  | ' ' :: cs => typeWord? cs
  | _ => none

/-- The statement that a value is of a wrong type. -/
def typeStatement (value : Json) (expected : Json.Kind) : String :=
  value.text ++ " is not of type \"" ++ expected.name ++ "\""

/-- The type that a statement names.  It is read off the statement, where the text of the value
comes first. -/
def namedType (statement : String) : String :=
  ((Text.firstBehind "is not of type".toList announcedType? statement.toList).map
    String.ofList).getD "unknown"

/-- The category that the choice of a hint goes by. -/
def Cause.category : Cause → String
  | wrongKind _ => "type"
  | missing _ => "required"
  | notAmong _ => "enum"
  | unexpected _ => "additional_property_not_allowed"
  | below _ => "number_gte"
  | above _ => "number_lte"
  | tooShort _ => "string_gte"
  | notRooted => "pattern"

def Cause.checkKind : Cause → CheckKind
  | wrongKind _ => .type
  | missing _ => .required
  | notAmong _ => .enum
  | unexpected _ => .schema
  | below _ => .minimum
  | above _ => .maximum
  | tooShort _ => .minLength
  | notRooted => .pattern

/-- The path of the value, below `base`. -/
def place (base : String) (v : Violation) : String :=
  FieldPath.join base (Pointer.toFieldPath (Pointer.render (v.path.map Segment.text)))

/-- The path of the field that a violation is about: a missing member has a place of its own. -/
def field (base : String) (v : Violation) : String :=
  match v.cause with
  | .missing name => FieldPath.join (v.place base) name
  | _ => v.place base

/-- The name of a field in a sentence. -/
def leaf (field : String) : String :=
  let name := FieldPath.last field
  if name.isEmpty then "(root)" else name

/-- What a violation says, before any hint. -/
def sentence (base : String) (v : Violation) : String :=
  match v.cause with
  | .wrongKind expected =>
    "Invalid type. Expected: " ++ namedType (typeStatement v.value expected) ++ ", given: " ++
      v.value.kind.name
  | .missing name => name ++ " is required"
  | .notAmong options =>
    leaf (v.field base) ++ " must be one of the following: " ++
      Text.join ", " (options.map Json.text)
  | .unexpected names => "Additional property " ++ Text.join ", " names ++ " is not allowed"
  | .below low => "Must be greater than or equal to " ++ toString low
  | .above high => "Must be less than or equal to " ++ toString high
  | .tooShort length => "String length must be greater than or equal to " ++ toString length
  | .notRooted => "Does not match pattern '^/'"

/-! ## Diagnostics -/

/-- The diagnostic of a violation in a document of some kind.  A missing member has no value. -/
def diagnostic (kind : DocumentKind) (base : String) (v : Violation) : Diagnostic where
  field := v.field base
  kind := v.cause.checkKind
  message := Hint.enhance (v.field base) v.cause.category (v.sentence base) kind
  value := match v.cause with
    | .missing _ => none
    | _ => some v.value

end Violation

namespace DocumentKind

def schema : DocumentKind → Schema
  | workflow => Schema.workflow
  | resource => Schema.resource

/-- The diagnostics of a document, each field below `base`. -/
def diagnose (kind : DocumentKind) (base : String) (doc : Json) : List Diagnostic :=
  (kind.schema.violations [] doc).map (Violation.diagnostic kind base)

end DocumentKind

/-- The resources inside a workflow document, by position, as far as they are objects. -/
def inlineResources (doc : Json) : List (Json × Nat) :=
  match doc.get? "resources" with
  | some (.arr items) => items.zipIdx.filter fun r => r.1.kind = .object
  | _ => []

namespace DocumentKind

/-- Every diagnostic of a document and of the documents inside it. -/
def diagnoseAll (kind : DocumentKind) (doc : Json) : List Diagnostic :=
  kind.diagnose "" doc ++
    match kind with
    | workflow => (inlineResources doc).flatMap fun r =>
      resource.diagnose ("resources." ++ toString r.2) r.1
    | resource => []

/-- Accepts a document that violates no schema. -/
def check (kind : DocumentKind) (doc : Json) : Except Fault Unit :=
  (Diagnostics.mk (kind.diagnoseAll doc)).toExcept.mapError (.schemaViolated kind)

end DocumentKind
end FlowCheck
