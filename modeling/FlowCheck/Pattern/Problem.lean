import FlowCheck.Pattern.Syntax
import FlowCheck.Text.Pieces

/-!
# Problems in a pattern

Why a text is no pattern, and the report about it: the pattern with carets under the place, and
under the earlier place when the problem is a repetition of something.
-/

namespace FlowCheck
namespace Pattern

inductive ProblemKind where
  | classEscapeInvalid | classRangeInvalid | classRangeLiteral | classUnclosed
  | decimalInvalid
  | escapeHexEmpty | escapeHexInvalid | escapeHexInvalidDigit | escapeUnexpectedEnd
  | escapeUnrecognized
  | flagDanglingNegation | flagDuplicate | flagRepeatedNegation | flagUnexpectedEnd
  | flagUnrecognized
  | groupNameDuplicate | groupNameEmpty | groupNameInvalid | groupNameUnexpectedEnd
  | groupUnclosed | groupUnopened
  | nestLimitExceeded (limit : Nat)
  | countInvalid | countDecimalEmpty | countUnclosed | repetitionMissing
  | wordBoundaryUnclosed | wordBoundaryUnrecognized | wordBoundaryUnexpectedEnd
  | propertyClassInvalid | unsupportedBackreference | unsupportedLookAround
  | unicodeNotAllowed | invalidText | propertyNotFound | propertyValueNotFound
deriving DecidableEq

def ProblemKind.message : ProblemKind → String
  | classEscapeInvalid => "invalid escape sequence found in character class"
  | classRangeInvalid => "invalid character class range, the start must be <= the end"
  | classRangeLiteral => "invalid range boundary, must be a literal"
  | classUnclosed => "unclosed character class"
  | decimalInvalid => "decimal literal invalid"
  | escapeHexEmpty => "hexadecimal literal empty"
  | escapeHexInvalid => "hexadecimal literal is not a Unicode scalar value"
  | escapeHexInvalidDigit => "invalid hexadecimal digit"
  | escapeUnexpectedEnd =>
    "incomplete escape sequence, reached end of pattern prematurely"
  | escapeUnrecognized => "unrecognized escape sequence"
  | flagDanglingNegation => "dangling flag negation operator"
  | flagDuplicate => "duplicate flag"
  | flagRepeatedNegation => "flag negation operator repeated"
  | flagUnexpectedEnd => "expected flag but got end of regex"
  | flagUnrecognized => "unrecognized flag"
  | groupNameDuplicate => "duplicate capture group name"
  | groupNameEmpty => "empty capture group name"
  | groupNameInvalid => "invalid capture group character"
  | groupNameUnexpectedEnd => "unclosed capture group name"
  | groupUnclosed => "unclosed group"
  | groupUnopened => "unopened group"
  | nestLimitExceeded limit =>
    "exceed the maximum number of nested parentheses/brackets (" ++ toString limit ++ ")"
  | countInvalid => "invalid repetition count range, the start must be <= the end"
  | countDecimalEmpty => "repetition quantifier expects a valid decimal"
  | countUnclosed => "unclosed counted repetition"
  | repetitionMissing => "repetition operator missing expression"
  | wordBoundaryUnclosed =>
    "special word boundary assertion is either unclosed or contains an invalid character"
  | wordBoundaryUnrecognized => "unrecognized special word boundary assertion, " ++
    "valid choices are: start, end, start-half or end-half"
  | wordBoundaryUnexpectedEnd => "found either the beginning of a special word boundary or a " ++
    "bounded repetition on a \\b with an opening brace, but no closing brace"
  | propertyClassInvalid => "invalid Unicode character class"
  | unsupportedBackreference => "backreferences are not supported"
  | unsupportedLookAround =>
    "look-around, including look-ahead and look-behind, is not supported"
  | unicodeNotAllowed => "Unicode not allowed here"
  | invalidText => "pattern can match invalid UTF-8"
  | propertyNotFound => "Unicode property not found"
  | propertyValueNotFound => "Unicode property value not found"

/-- A problem and where it is. -/
structure Problem where
  kind : ProblemKind
  span : Span
  /-- The earlier place that the problem repeats. -/
  earlier : Option Span := none

namespace Problem

/-! ## The report -/

/-- The lines of a pattern, the way they are shown: without their ends, and without an empty last
line. -/
def shownLines (pattern : List Char) : List (List Char) :=
  let lines := Text.splitAt '\n' pattern
  let lines := if lines.getLast? = some [] then lines.dropLast else lines
  lines.map fun l => if l.getLast? = some '\r' then l.dropLast else l

/-- How many lines a place can be on; behind a final line end there is one more. -/
def lineCount (pattern : List Char) : Nat :=
  (shownLines pattern).length + if pattern.getLast? = some '\n' then 1 else 0

/-- The width of line numbers, zero when there is one line only. -/
def numberWidth (pattern : List Char) : Nat :=
  let n := lineCount pattern
  if n ≤ 1 then 0 else (toString n).length

/-- The places in their order. -/
def spans (p : Problem) : List Span :=
  match p.earlier with
  | none => [p.span]
  | some e => if p.span.start.isBefore e.start then [p.span, e] else [e, p.span]

/-- Carets under the spans of one line, from column `column + 1` on. -/
def carets (column : Nat) : List Span → List Char
  | [] => []
  | s :: rest =>
    let gap := s.start.column - 1 - column
    let width := max 1 (s.stop.column - s.start.column)
    List.replicate gap ' ' ++ List.replicate width '^' ++ carets (column + gap + width) rest

/-- A line of the pattern, with carets under it where there is something to show. -/
def showLine (p : Problem) (width : Nat) (number : Nat) (line : List Char) : List Char :=
  let n := (toString number).toList
  let front := if width = 0 then [' ', ' ', ' ', ' ']
    else List.replicate (width - n.length) ' ' ++ n ++ [':', ' ']
  let here := p.spans.filter fun s => s.isOneLine && s.start.line == number
  let notes := if here.isEmpty then []
    else List.replicate front.length ' ' ++ carets 0 here ++ ['\n']
  front ++ line ++ '\n' :: notes

def showLines (p : Problem) (pattern : List Char) : List Char :=
  (shownLines pattern).zipIdx.flatMap fun l => p.showLine (numberWidth pattern) (l.2 + 1) l.1

/-- A place that runs over several lines is told in words. -/
def showLongSpan (s : Span) : String :=
  "on line " ++ toString s.start.line ++ " (column " ++ toString s.start.column ++
    ") through line " ++ toString s.stop.line ++
    " (column " ++ toString (s.stop.column - 1) ++ ")\n"

def divider : String := String.ofList (List.replicate 79 '~') ++ "\n"

/-- The whole report. -/
def report (p : Problem) (pattern : List Char) : String :=
  let body := String.ofList (p.showLines pattern)
  let shown := if pattern.contains '\n' then
      let long := p.spans.filter fun s => !s.isOneLine
      divider ++ body ++ divider ++ String.join (long.map showLongSpan)
    else body
  "regex parse error:\n" ++ shown ++ "error: " ++ p.kind.message

end Problem

end Pattern
end FlowCheck
