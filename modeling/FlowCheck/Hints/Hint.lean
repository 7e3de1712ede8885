import FlowCheck.Hints.Example
import FlowCheck.Hints.Options

/-!
# Hints

A finding of the schema check is a short sentence.  `Hint.enhance` appends what helps to mend it:
the options of an enumerated field, the expected type, an example, a format or a range.  The kind
of hint is chosen by the path of the field and by the words of the sentence, in a fixed order.
-/

namespace FlowCheck
namespace Hint

/-! ## Types -/

def builtinTypes : List String := ["string", "integer", "boolean", "object", "array"]

/-- The type that a sentence asks for: a known type behind one of the usual phrases, else the word
behind `Expected:`. -/
def expectedType? (description : String) : Option String :=
  (builtinTypes.find? fun t =>
    Text.contains description ("Expected: " ++ t) ||
      Text.contains description ("expected " ++ t) ||
      Text.contains description ("Expected " ++ t)) <|>
    (Text.firstBehind "Expected:".toList (fun cs => Text.word? (Text.trimStart cs))
      description.toList).map String.ofList

/-- The expected type, with an example when the sentence says what was given. -/
def forType (field description : String) : String :=
  match expectedType? description with
  | none => ""
  | some expected =>
    let hint := "Expected type: " ++ expected
    if Text.contains description "given" then
      match Example.ofField? field <|> Example.ofType? expected with
      | some ex => hint ++ ". Example: " ++ ex
      | none => hint
    else hint

/-! ## Required fields and formats -/

def forRequired (field : String) : String :=
  match Example.ofField? field with
  | some ex => "This field is required. Example: " ++ ex
  | none => "This field is required"

def routeHint : String := "Must start with '/'. Example: '/api/users'"

/-- The paths in which routes end. -/
def routeFields : List String :=
  ["restrictToRoutes", "settings.apiServer.routes.path", "routes.path"]

def forPattern (field : String) : String :=
  if routeFields.any (FieldPath.endsIn (FieldPath.normalize field)) then routeHint
  else "Check the format requirements for this field"

/-! ## Ranges -/

/-- The fields whose range is known. -/
def rangedFields : List (String × Int × Int) :=
  [("settings.apiServer.portNum", 1, 65535), ("apiServer.portNum", 1, 65535)]

/-- The digits behind one or more blanks. -/
def digitsBehindBlanks? (cs : List Char) : Option (List Char) :=
  match cs with
  | [] => none
  | c :: _ => if Text.isBlank c then Text.digits? (Text.trimStart cs) else none

/-- The first digits on the line. -/
def digitsOnLine? : List Char → Option (List Char)
  | [] => none
  | c :: cs =>
    if Unicode.isDigit c then Text.digits? (c :: cs)
    else if c = '\n' then none
    else digitsOnLine? cs

/-- The number behind the first occurrence of a phrase that has digits where they are looked for. -/
def numberBehind? (phrase : String) (digits? : List Char → Option (List Char))
    (description : String) : Option Int :=
  (Text.firstBehind phrase.toList digits? description.toList).bind Numeral.int64?

/-- The lower and the upper bound that a sentence gives. -/
def bounds (description : String) : Option Int × Option Int :=
  let low := numberBehind? "greater than or equal to" digitsBehindBlanks? description <|>
    numberBehind? "minimum" digitsOnLine? description
  let high := numberBehind? "less than or equal to" digitsBehindBlanks? description <|>
    numberBehind? "Must be less" digitsOnLine? description <|>
    numberBehind? "maximum" digitsOnLine? description
  (low, high)

def between (low high : Int) : String :=
  "Value must be between " ++ toString low ++ " and " ++ toString high

/-- The range of a field, as it is known or as the sentence gives it. -/
def forRange (field description : String) : String :=
  match rangedFields.lookup (FieldPath.normalize field) with
  | some (low, high) => between low high
  | none => match bounds description with
    | (some low, some high) => between low high
    | (some low, none) => "Value must be at least " ++ toString low
    | (none, some high) => "Value must be at most " ++ toString high
    | (none, none) => ""

/-- The phrases that tell a sentence about a range. -/
def rangePhrases : List String :=
  ["minimum", "maximum", "less than or equal", "greater than or equal", "Must be less",
    "Must be greater"]

/-! ## Choosing a hint -/

def append (description hint : String) : String :=
  if hint.isEmpty then description else description ++ ". " ++ hint

/-- Appends the hint for a finding.  Options come before everything; a finding about a type, which
its category or its words tell, never gets a hint of another kind. -/
def enhance (field category description : String) (kind : DocumentKind) : String :=
  match Options.ofField? field kind with
  | some options => append description ("Available options: " ++ options.render)
  | none =>
    if category = "type" || Text.contains description "Invalid type" ||
        Text.contains description "Expected:" then
      append description (forType field description)
    else if Text.contains description "required" then
      append description (forRequired field)
    else if Text.contains description "pattern" || Text.contains description "does not match" then
      append description (forPattern field)
    else if rangePhrases.any (Text.contains description) then
      append description (forRange field description)
    else description

end Hint
end FlowCheck
