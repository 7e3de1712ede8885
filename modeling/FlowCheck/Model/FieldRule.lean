import FlowCheck.Wire.Record

/-!
# Rules for request data

The `validation` block of a run: fields that must be given, rules for single fields, and custom
rules, which are conditions over all fields.
-/

namespace FlowCheck

/-- The types that a field rule can ask for. -/
inductive FieldType where
  | string | integer | number | boolean | array | object | email | url | uuid | date
deriving DecidableEq

namespace FieldType

def name : FieldType → String
  | string => "string"
  | integer => "integer"
  | number => "number"
  | boolean => "boolean"
  | array => "array"
  | object => "object"
  | email => "email"
  | url => "url"
  | uuid => "uuid"
  | date => "date"

def all : List FieldType :=
  [string, integer, number, boolean, array, object, email, url, uuid, date]

def codec : Wire.Codec FieldType := .variant (all.map fun t => (t.name, t)) name

end FieldType

/-- What the value of one field must satisfy.  The bounds `min` and `max` are finite: no document
gives a bound that is infinite or not a number. -/
structure FieldRule where
  field : String
  fieldType : Option FieldType
  minLength : Option UInt64
  maxLength : Option UInt64
  pattern : Option String
  min : Option Binary64
  max : Option Binary64
  minItems : Option UInt64
  maxItems : Option UInt64
  /-- The values allowed, none meaning all. -/
  allowed : List Json
  /-- The message that takes the place of the default ones. -/
  message : Option String

namespace FieldRule

def record : Wire.Record FieldRule FieldRule :=
  (Wire.Record.start FieldRule.mk)
    |>.required "field" FieldRule.field .text
    |>.optional "type" FieldRule.fieldType FieldType.codec
    |>.optional "minLength" FieldRule.minLength .count
    |>.optional "maxLength" FieldRule.maxLength .count
    |>.optionalText "pattern" FieldRule.pattern
    |>.optionalAlso "min" "minimum" FieldRule.min .real
    |>.optionalAlso "max" "maximum" FieldRule.max .real
    |>.optional "minItems" FieldRule.minItems .count
    |>.optional "maxItems" FieldRule.maxItems .count
    |>.briefList "enum" FieldRule.allowed .any
    |>.optionalText "message" FieldRule.message

def codec : Wire.Codec FieldRule := record.codec "FieldRule"

end FieldRule

/-- A condition over the request data, and what to say when it does not hold. -/
structure CustomRule where
  expr : String
  message : String

namespace CustomRule

def record : Wire.Record CustomRule CustomRule :=
  (Wire.Record.start CustomRule.mk)
    |>.required "expr" CustomRule.expr .text
    |>.text "message" CustomRule.message

def codec : Wire.Codec CustomRule := record.codec "CustomRule"

end CustomRule

/-- The `validation` block. -/
structure ValidationRules where
  required : List String := []
  rules : List FieldRule := []
  customRules : List CustomRule := []

namespace ValidationRules

def isEmpty (r : ValidationRules) : Bool :=
  r.required.isEmpty && r.rules.isEmpty && r.customRules.isEmpty

def record : Wire.Record ValidationRules ValidationRules :=
  (Wire.Record.start ValidationRules.mk)
    |>.briefList "required" ValidationRules.required .text
    |>.briefList "rules" ValidationRules.rules FieldRule.codec
    |>.briefList "customRules" ValidationRules.customRules CustomRule.codec

def codec : Wire.Codec ValidationRules := record.codec "ValidationRules"

end ValidationRules

end FlowCheck
