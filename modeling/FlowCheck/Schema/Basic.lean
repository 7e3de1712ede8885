import FlowCheck.Json.Basic

/-!
# Schemas

A `Schema` is the shape that a JSON value should have.  Records name their members and say which
ones have to be there; a closed record allows no others.  Tables have any keys and values of one
shape.  Texts and numbers can be restricted to some values, numbers to a range.
-/

namespace FlowCheck

/-- What a text has to be. -/
structure TextRule where
  /-- The texts allowed, none meaning all. -/
  options : List String := []
  /-- The least number of characters. -/
  minLength : Nat := 0
  /-- It starts with a slash. -/
  rooted : Bool := false

/-- Bounds of a number, both allowed. -/
structure NumberRange where
  low : Option Int := none
  high : Option Int := none

inductive Schema where
  | any
  | text (rule : TextRule)
  /-- A whole number, of any spelling; the numbers allowed, none meaning all. -/
  | integer (range : NumberRange) (options : List Int)
  | number (range : NumberRange)
  | boolean
  | list (items : Schema)
  /-- The members by name, in the order of their names. -/
  | record (closed : Bool) (required : List String) (properties : List (String × Schema))
  | table (values : Schema)

namespace Schema

/-! ## Usual shapes -/

def plainText : Schema := .text {}

/-- One of some texts. -/
def oneOf (options : List String) : Schema := .text { options := options }

/-- A text that starts with a slash. -/
def rootedText : Schema := .text { rooted := true }

def atLeast (low : Int) : Schema := .integer { low := some low } []

def within (low high : Int) : Schema := .integer { low := some low, high := some high } []

def anyNumber : Schema := .number {}

def numberWithin (low high : Int) : Schema := .number { low := some low, high := some high }

def texts : Schema := .list plainText

/-- A record that allows other members and requires none. -/
def openRecord (properties : List (String × Schema)) : Schema := .record false [] properties

/-! ## Kinds of value -/

/-- The kind of value that a schema asks for. -/
def kind? : Schema → Option Json.Kind
  | any => none
  | text _ => some .string
  | integer .. => some .integer
  | number _ => some .number
  | boolean => some .boolean
  | list _ => some .array
  | record .. => some .object
  | table _ => some .object

/-- Whether a value is of a kind.  Every number is a number, and an integer is any whole one. -/
def isOfKind : Json.Kind → Json → Bool
  | .integer, .num (.int _) => true
  | .integer, .num (.real x) => x.isWhole
  | .number, .num _ => true
  | kind, j => j.kind == kind

end Schema
end FlowCheck
