import FlowCheck.Diagnostic
import FlowCheck.Format.Date
import FlowCheck.Format.Email
import FlowCheck.Format.Url
import FlowCheck.Format.Uuid
import FlowCheck.Json.Writer
import FlowCheck.Model.FieldRule
import FlowCheck.Pattern.Compile

/-!
# Rules for single fields

A field rule asks for a type first; what else it asks for depends on the kind of value: lengths, a
pattern and allowed texts of strings, a range of numbers, a length of arrays.  The first problem
counts.  Compiling a pattern is a parameter, so that it can be done with a cache.

## Main definitions

* `FieldProblem` : what can be wrong with a value
* `FieldRule.problem?` : the first problem of a value
-/

namespace FlowCheck

/-- How the matcher of a pattern is found. -/
abbrev PatternFinder := String → Except Pattern.Refusal Matcher

/-- What can be wrong with the value of a field. -/
inductive FieldProblem where
  | wrongKind (expected : FieldType) (found : Json.Kind)
  | email
  | url (problem : Url.Problem)
  | uuid
  | date
  | tooShort (least : UInt64)
  | tooLong (most : UInt64)
  | mismatch
  | badPattern (message : String)
  | notAllowed (allowed : List Json)
  | tooSmall (least : Binary64)
  | tooLarge (most : Binary64)
  | tooFew (least : UInt64)
  | tooMany (most : UInt64)

namespace FieldProblem

def kind : FieldProblem → CheckKind
  | wrongKind .. | email | url _ | uuid | date => .type
  | tooShort _ => .minLength
  | tooLong _ => .maxLength
  | mismatch | badPattern _ => .pattern
  | notAllowed _ => .enum
  | tooSmall _ => .minimum
  | tooLarge _ => .maximum
  | tooFew _ => .minItems
  | tooMany _ => .maxItems

/-- A text as it is, any other value as JSON text. -/
def plainText : Json → String
  | .str s => s
  | j => j.text

def message : FieldProblem → String
  | wrongKind expected found => "expected " ++ expected.name ++ ", got " ++ found.name
  | email => "invalid email format"
  | url problem => problem.message
  | uuid => "invalid UUID format"
  | date => "invalid date format (expected RFC3339 or YYYY-MM-DD)"
  | tooShort least => "must be at least " ++ toString least ++ " characters"
  | tooLong most => "must be at most " ++ toString most ++ " characters"
  | mismatch => "does not match required pattern"
  | badPattern message => "invalid pattern: " ++ message
  | notAllowed allowed =>
    "must be one of: [" ++ Text.join ", " (allowed.map plainText) ++ "]"
  | tooSmall least => "must be at least " ++ DecimalForm.plain.render least
  | tooLarge most => "must be at most " ++ DecimalForm.plain.render most
  | tooFew least => "must have at least " ++ toString least ++ " items"
  | tooMany most => "must have at most " ++ toString most ++ " items"

end FieldProblem

namespace FieldType

/-- The kinds of value that stand for a type. -/
def kinds : FieldType → List Json.Kind
  | string | email | url | uuid | date => [.string]
  | integer => [.integer]
  | number => [.integer, .number]
  | boolean => [.boolean]
  | array => [.array]
  | object => [.object]

/-- What a type asks of a text. -/
def textProblem? (s : String) : FieldType → Option FieldProblem
  | email => if Format.isEmail s.toList then none else some .email
  | url => (Url.problem? s).map .url
  | uuid => if Format.isUuid s.toList then none else some .uuid
  | date => if Format.isDate s.toList then none else some .date
  | _ => none

def problem? (j : Json) (t : FieldType) : Option FieldProblem :=
  if t.kinds.contains j.kind then
    match j with
    | .str s => t.textProblem? s
    | _ => none
  else some (.wrongKind t j.kind)

end FieldType

namespace FieldRule

/-! ## Texts -/

/-- The length of a text is its number of characters. -/
def lengthProblem? (r : FieldRule) (s : String) : Option FieldProblem :=
  (r.minLength.bind fun n => if s.length < n.toNat then some (.tooShort n) else none) <|>
    (r.maxLength.bind fun n => if n.toNat < s.length then some (.tooLong n) else none)

def patternProblem? (r : FieldRule) (find : PatternFinder) (s : String) :
    Option FieldProblem :=
  r.pattern.bind fun text =>
    match find text with
    | .error refusal => some (.badPattern (refusal.message text))
    | .ok matcher => if matcher.occursIn s then none else some .mismatch

/-- A text is allowed as itself, and as the JSON text of an allowed value. -/
def optionProblem? (r : FieldRule) (s : String) : Option FieldProblem :=
  if r.allowed.isEmpty || r.allowed.any fun j => FieldProblem.plainText j == s then none
  else some (.notAllowed r.allowed)

/-! ## Numbers and arrays -/

/-- Numbers are compared as doubles. -/
def rangeProblem? (r : FieldRule) (x : Binary64) : Option FieldProblem :=
  (r.min.bind fun m => if x.lt m then some (.tooSmall m) else none) <|>
    (r.max.bind fun m => if m.lt x then some (.tooLarge m) else none)

def sizeProblem? (r : FieldRule) (size : Nat) : Option FieldProblem :=
  (r.minItems.bind fun n => if size < n.toNat then some (.tooFew n) else none) <|>
    (r.maxItems.bind fun n => if n.toNat < size then some (.tooMany n) else none)

/-! ## Values -/

def typeProblem? (r : FieldRule) (j : Json) : Option FieldProblem :=
  r.fieldType.bind (FieldType.problem? j)

/-- The first problem of a value. -/
def problem? (r : FieldRule) (find : PatternFinder) (j : Json) : Option FieldProblem :=
  r.typeProblem? j <|>
    match j with
    | .str s => r.lengthProblem? s <|> r.patternProblem? find s <|> r.optionProblem? s
    | .num n => r.rangeProblem? n.toBinary64
    | .arr items => r.sizeProblem? items.length
    | _ => none

/-- The message of a problem, unless the rule has its own. -/
def messageFor (r : FieldRule) (p : FieldProblem) : String :=
  match r.message with
  | some own => if own.isEmpty then p.message else own
  | none => p.message

/-- What there is to say about a value. -/
def findingBy (find : PatternFinder) (r : FieldRule) (j : Json) : Option Diagnostic :=
  (r.problem? find j).map fun p => ⟨r.field, p.kind, r.messageFor p, some j⟩

/-- What there is to say about a value, with every pattern compiled anew. -/
def finding? (r : FieldRule) (j : Json) : Option Diagnostic := r.findingBy Pattern.compile j

end FieldRule

end FlowCheck
