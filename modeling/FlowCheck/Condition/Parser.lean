import FlowCheck.Condition.Basic
import FlowCheck.Number.Numeral
import FlowCheck.Text.Blank
import FlowCheck.Text.Pieces
import FlowCheck.Unicode.Letter

/-!
# Reading conditions

The text of a condition is cut at `||`, each part at `&&`, and each clause at its first comparison
operator; quoted regions hide all of these.  A quote opens a region that runs to the next quote of
the same kind, or to the end of the text.

## Main definitions

* `split` : the parts of a text between doubled separators outside quotes
* `findOperator` : the first comparison operator outside quotes
* `parseOperand` : a quoted string, a word, a number or a path
* `Condition.parse` : the condition a text stands for
-/

namespace FlowCheck
namespace Condition

/-- Why a text is no condition. -/
inductive SyntaxProblem where
  | emptyClause
  | missingOperand
  /-- A single `=`. -/
  | singleEquals
  | invalidOperand (text : String)
deriving DecidableEq

def SyntaxProblem.message : SyntaxProblem → String
  | .emptyClause => "empty clause"
  | .missingOperand => "missing operand"
  | .singleEquals => "use '==' for equality"
  | .invalidOperand text => "invalid operand '" ++ text ++ "'"

/-! ## Quoted regions -/

def isQuote (c : Char) : Bool := c == '"' || c == '\''

/-- The open quote behind a character, given the one before it. -/
def nextQuote (quote : Option Char) (c : Char) : Option Char :=
  match quote with
  | some q => if c = q then none else some q
  | none => if isQuote c then some c else none

/-- Puts a character in front of the first part. -/
def pushFirst (c : Char) : List (List Char) → List (List Char)
  | [] => [[c]]
  | part :: rest => (c :: part) :: rest

/-- The parts of a text between the doubled separator `sep sep` outside quotes. -/
def split (sep : Char) : Option Char → List Char → List (List Char)
  | _, [] => [[]]
  | some q, c :: cs => pushFirst c (split sep (nextQuote (some q) c) cs)
  | none, [c] => [[c]]
  | none, c :: d :: cs =>
    if isQuote c then pushFirst c (split sep (some c) (d :: cs))
    else if c = sep ∧ d = sep then [] :: split sep none cs
    else pushFirst c (split sep none (d :: cs))

/-! ## Clauses -/

/-- The operator at the start of a text, and what follows it. -/
def operatorAt? : List Char → Option (Operator × List Char)
  | '=' :: '=' :: cs => some (.eq, cs)
  | '!' :: '=' :: cs => some (.ne, cs)
  | '>' :: '=' :: cs => some (.ge, cs)
  | '>' :: cs => some (.gt, cs)
  | '<' :: '=' :: cs => some (.le, cs)
  | '<' :: cs => some (.lt, cs)
  | _ => none

/-- A comparison split at its operator. -/
structure Comparison where
  left : List Char
  operator : Operator
  right : List Char

/-- The first operator outside quotes.  A single `=` in front of it is an error. -/
def findOperator : Option Char → List Char → Except SyntaxProblem (Option Comparison)
  | _, [] => .ok none
  | quote, c :: cs =>
    if quote.isNone && !isQuote c then
      match operatorAt? (c :: cs) with
      | some (op, right) => .ok (some ⟨[], op, right⟩)
      | none =>
        if c = '=' then .error .singleEquals
        else (findOperator none cs).map (·.map (grow c))
    else (findOperator (nextQuote quote c) cs).map (·.map (grow c))
where
  grow (c : Char) (found : Comparison) : Comparison := { found with left := c :: found.left }

/-! ## Operands -/

/-- The text between two quotes of one kind at the ends. -/
def unquoted? : List Char → Option (List Char)
  | [] => none
  | q :: cs => if isQuote q && cs.getLast? == some q then some cs.dropLast else none

/-- The literals that are words. -/
def word? (s : String) : Option Json :=
  if s = "true" then some (.bool true)
  else if s = "false" then some (.bool false)
  else if s = "null" ∨ s = "nil" then some .null
  else none

/-- An integer of 64 bits, else a finite double. -/
def number? (cs : List Char) : Option Json :=
  match Numeral.int64? cs with
  | some n => some (.int n)
  | none => (Numeral.real? cs).map fun x => .num (.real x)

def isNameChar (c : Char) : Bool := Unicode.isAlphanumeric c || c == '_'

/-- A nonempty name of letters, digits and underscores. -/
def isSegment (cs : List Char) : Bool := !cs.isEmpty && cs.all isNameChar

/-- Segments with points between them, of which the first does not start with a digit. -/
def isPath (cs : List Char) : Bool :=
  (Text.splitAt '.' cs).all isSegment && !cs.head?.any Char.isDigit

def parseOperand (raw : List Char) : Except SyntaxProblem Operand :=
  let cs := Text.trim raw
  if cs.isEmpty then .error .missingOperand
  else match unquoted? cs with
    | some inner => .ok (.literal (.str (String.ofList inner)))
    | none =>
      match word? (String.ofList cs) <|> number? cs with
      | some value => .ok (.literal value)
      | none =>
        if isPath cs then .ok (.path (String.ofList cs))
        else .error (.invalidOperand (String.ofList cs))

def parseClause (raw : List Char) : Except SyntaxProblem Clause :=
  let cs := Text.trim raw
  if cs.isEmpty then .error .emptyClause
  else do
    match ← findOperator none cs with
    | some found =>
      let left ← parseOperand found.left
      let right ← parseOperand found.right
      pure (.compare left found.operator right)
    | none =>
      match cs with
      | '!' :: cs => pure (.truthy (← parseOperand cs) true)
      | cs => pure (.truthy (← parseOperand cs) false)

def parseConjunction (raw : List Char) : Except SyntaxProblem Conjunction :=
  (split '&' none raw).mapM parseClause

/-- The condition a text stands for; a blank text is the condition that always holds. -/
def parse (text : String) : Except SyntaxProblem Condition :=
  let cs := Text.trim text.toList
  if cs.isEmpty then .ok ⟨[]⟩
  else ((split '|' none cs).mapM parseConjunction).map Condition.mk

end Condition
end FlowCheck
