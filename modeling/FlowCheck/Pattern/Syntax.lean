import FlowCheck.Pattern.Position

/-!
# The parts of a pattern

A pattern as it is written: alternations of concatenations of repeated items.  Parts that a problem
may be about carry their span.  Whether a repetition is greedy and what a group is called make no
difference to which texts match, and are left out.
-/

namespace FlowCheck
namespace Pattern

/-- A single character. -/
structure Literal where
  span : Span
  char : Char
  /-- Written as `\x` with two digits. -/
  asByte : Bool := false

/-- The classes `\d`, `\s` and `\w`. -/
inductive Shorthand where
  | digit | space | word
deriving DecidableEq

structure ShorthandClass where
  span : Span
  kind : Shorthand
  negated : Bool

/-- The name of a property: alone, or with a value. -/
inductive Query where
  | name (s : String)
  | value (property value : String)
deriving DecidableEq

/-- A class `\p` or `\P`. -/
structure PropertyClass where
  span : Span
  query : Query
  negated : Bool

/-- The classes `[:name:]`. -/
inductive Posix where
  | alnum | alpha | ascii | blank | cntrl | digit | graph | lower | print | punct | space | upper
  | word | xdigit
deriving DecidableEq

namespace Posix

def names : List (String × Posix) :=
  [("alnum", alnum), ("alpha", alpha), ("ascii", ascii), ("blank", blank), ("cntrl", cntrl),
    ("digit", digit), ("graph", graph), ("lower", lower), ("print", print), ("punct", punct),
    ("space", space), ("upper", upper), ("word", word), ("xdigit", xdigit)]

end Posix

inductive SetOperator where
  | intersection | difference | symmetricDifference
deriving DecidableEq

/-- What stands between brackets. -/
inductive ClassItem where
  | nothing (span : Span)
  | literal (l : Literal)
  | range (span : Span) (low high : Literal)
  | posix (span : Span) (kind : Posix) (negated : Bool)
  | shorthand (c : ShorthandClass)
  | property (c : PropertyClass)
  | bracketed (span : Span) (negated : Bool) (content : ClassItem)
  | union (span : Span) (items : List ClassItem)
  | combined (span : Span) (operator : SetOperator) (left right : ClassItem)

/-- Conditions on a place in the text. -/
inductive Assertion where
  | startLine | endLine | startText | endText
  | boundary | notBoundary | wordStart | wordEnd | wordStartHalf | wordEndHalf
deriving DecidableEq

inductive Flag where
  | caseInsensitive | multiLine | dotAll | swapGreed | unicode | crlf | verbose
deriving DecidableEq

namespace Flag

def ofLetter? : Char → Option Flag
  | 'i' => some caseInsensitive
  | 'm' => some multiLine
  | 's' => some dotAll
  | 'U' => some swapGreed
  | 'u' => some unicode
  | 'R' => some crlf
  | 'x' => some verbose
  | _ => none

end Flag

/-- A flag letter, or the sign that switches the flags behind it off. -/
inductive FlagMark where
  | negation
  | flag (f : Flag)
deriving DecidableEq

/-- The marks of a flag group, each with its span. -/
abbrev FlagMarks := List (FlagMark × Span)

namespace FlagMarks

/-- Whether the marks switch a flag on or off. -/
def setting? (f : Flag) : Bool → FlagMarks → Option Bool
  | _, [] => none
  | _, (.negation, _) :: rest => setting? f false rest
  | on, (.flag g, _) :: rest => if g = f then some on else setting? f on rest

end FlagMarks

/-- The part of a pattern that a quantifier repeats: `none` is no upper bound. -/
structure Quantifier where
  least : Nat
  most : Option Nat
deriving DecidableEq

/-- A pattern. -/
inductive Node where
  | empty (span : Span)
  /-- Flags for the rest of the group. -/
  | flags (span : Span) (marks : FlagMarks)
  | literal (l : Literal)
  | dot (span : Span)
  | assertion (span : Span) (kind : Assertion)
  | shorthand (c : ShorthandClass)
  | property (c : PropertyClass)
  | bracketed (span : Span) (negated : Bool) (content : ClassItem)
  | repetition (span : Span) (quantifier : Quantifier) (node : Node)
  /-- A group that captures when it has no flags. -/
  | group (span : Span) (marks : Option FlagMarks) (node : Node)
  | alternation (span : Span) (nodes : List Node)
  | concatenation (span : Span) (nodes : List Node)

namespace ClassItem

def span : ClassItem → Span
  | nothing s => s
  | literal l => l.span
  | range s .. => s
  | posix s .. => s
  | shorthand c => c.span
  | property c => c.span
  | bracketed s .. => s
  | union s _ => s
  | combined s .. => s

end ClassItem

namespace Node

def span : Node → Span
  | empty s => s
  | flags s _ => s
  | literal l => l.span
  | dot s => s
  | assertion s _ => s
  | shorthand c => c.span
  | property c => c.span
  | bracketed s .. => s
  | repetition s .. => s
  | group s .. => s
  | alternation s _ => s
  | concatenation s _ => s

end Node

end Pattern
end FlowCheck
