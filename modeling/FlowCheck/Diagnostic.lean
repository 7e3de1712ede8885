import FlowCheck.Wire.Record

/-!
# Diagnostics

A `Diagnostic` is one finding about one field: where it is, which kind of check made it, what it
says and, where there is one, the offending value.  `Diagnostics` are the findings of one pass
in the order in which they were made.
-/

namespace FlowCheck

/-- The kinds of check. -/
inductive CheckKind where
  | required | type | minLength | maxLength | pattern | minimum | maximum | minItems | maxItems
  | enum | schema | expression | custom
deriving DecidableEq

namespace CheckKind

def name : CheckKind → String
  | required => "required"
  | type => "type"
  | minLength => "minLength"
  | maxLength => "maxLength"
  | pattern => "pattern"
  | minimum => "minimum"
  | maximum => "maximum"
  | minItems => "minItems"
  | maxItems => "maxItems"
  | enum => "enum"
  | schema => "schema"
  | expression => "expression"
  | custom => "custom"

def all : List CheckKind :=
  [required, type, minLength, maxLength, pattern, minimum, maximum, minItems, maxItems, enum,
    schema, expression, custom]

def codec : Wire.Codec CheckKind := .variant (all.map fun k => (k.name, k)) name

end CheckKind

/-- One finding. -/
structure Diagnostic where
  field : String
  kind : CheckKind
  message : String
  value : Option Json

namespace Diagnostic

def record : Wire.Record Diagnostic Diagnostic :=
  (Wire.Record.start Diagnostic.mk)
    |>.required "field" Diagnostic.field .text
    |>.required "type" Diagnostic.kind CheckKind.codec
    |>.required "message" Diagnostic.message .text
    |>.optional "value" Diagnostic.value .any

def codec : Wire.Codec Diagnostic := record.codec "ValidationError"

/-- The finding as a sentence. -/
def text (d : Diagnostic) : String :=
  if d.field.isEmpty then "validation error: " ++ d.message
  else "validation error on field '" ++ d.field ++ "': " ++ d.message

/-- The finding as a line of a list; an empty field is the whole document. -/
def bullet (d : Diagnostic) : String :=
  "  - " ++ (if d.field.isEmpty then "(root)" else d.field) ++ ": " ++ d.message ++ "\n"

end Diagnostic

/-- The findings of one pass, in order. -/
structure Diagnostics where
  errors : List Diagnostic

namespace Diagnostics

def record : Wire.Record Diagnostics Diagnostics :=
  (Wire.Record.start Diagnostics.mk)
    |>.required "errors" Diagnostics.errors Diagnostic.codec.list

def codec : Wire.Codec Diagnostics := record.codec "MultipleValidationError"

/-- No finding, the only finding, or how many there are. -/
def text (ds : Diagnostics) : String :=
  match ds.errors with
  | [] => "no validation errors"
  | [d] => d.text
  | many => toString many.length ++ " validation errors occurred"

/-- One line per finding. -/
def bullets (ds : Diagnostics) : String := String.join (ds.errors.map Diagnostic.bullet)

/-- Success when there is no finding. -/
def toExcept (ds : Diagnostics) : Except Diagnostics Unit :=
  if ds.errors.isEmpty then .ok () else .error ds

end Diagnostics

end FlowCheck
