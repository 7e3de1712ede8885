import FlowCheck.Pattern.Escape

/-!
# Bracketed classes

What stands between `[` and `]`: characters, ranges, classes, other bracketed classes, and operators
between sets.  Operators bind to the left.
-/

namespace FlowCheck
namespace Pattern

open Reader

/-- Items that stand side by side, with the span from the first to the last. -/
structure Row where
  span : Span
  items : List ClassItem := []

namespace Row

def push (row : Row) (item : ClassItem) : Row where
  span := ⟨if row.items.isEmpty then item.span.start else row.span.start, item.span.stop⟩
  items := row.items ++ [item]

def toItem (row : Row) : ClassItem :=
  match row.items with
  | [] => .nothing row.span
  | [item] => item
  | items => .union row.span items

end Row

/-- An operator that waits for its right side. -/
structure Pending where
  left : ClassItem
  operator : SetOperator

/-- The item with the operator in front of it, if one waits. -/
def combine (pending : Option Pending) (item : ClassItem) : ClassItem :=
  match pending with
  | none => item
  | some p => .combined ⟨p.left.span.start, item.span.stop⟩ p.operator p.left item

/-- A class whose bracket is not closed yet: the span is that of its opening. -/
structure OpenClass where
  span : Span
  negated : Bool

/-! ## Items -/

def simpleItem : Reader Simple := do
  match ← peek? with
  | some '\\' => escape
  | some c => do
    let span ← charSpan
    bump
    pure (.literal ⟨span, c, false⟩)
  | none => do fail .classUnclosed (.point (← position))

def Simple.toItem : Simple → Reader ClassItem
  | literal l => pure (.literal l)
  | shorthand c => pure (.shorthand c)
  | property c => pure (.property c)
  | s => fail .classEscapeInvalid s.span

def Simple.toBound : Simple → Reader Literal
  | literal l => pure l
  | s => fail .classRangeLiteral s.span

/-- A single item or a range.  A hyphen in front of the closing bracket or of another hyphen is no
sign of a range. -/
def rangeItem (unclosed : Span) : Reader ClassItem := do
  let first ← simpleItem
  skip
  let c ← get
  if c.isEnd then fail .classUnclosed unclosed
  else if c.peek? != some '-' || c.secondPart? == some ']' || c.secondPart? == some '-' then
    first.toItem
  else do
    next
    if ← isEnd then fail .classUnclosed unclosed
    else do
      let last ← simpleItem
      let span : Span := ⟨first.span.start, last.span.stop⟩
      let low ← first.toBound
      let high ← last.toBound
      if high.char < low.char then fail .classRangeInvalid span
      else pure (.range span low high)

/-- The class `[:name:]` at the start of a text: whether it is negated, its kind, and its length. -/
def posixAt? (cs : List Char) : Option (Bool × Posix × Nat) :=
  match cs with
  | '[' :: ':' :: rest =>
    let negated := rest.head? == some '^'
    let named := if negated then rest.tail else rest
    let name := named.takeWhile (· != ':')
    match named.drop name.length with
    | ':' :: ']' :: _ => (Posix.names.lookup (String.ofList name)).map fun kind =>
      (negated, kind, name.length + if negated then 5 else 4)
    | _ => none
  | _ => none

/-! ## Classes -/

/-- Hyphens at the start of a class, which stand for themselves. -/
def leadingHyphens (start : Position) : Nat → Row → Reader Row
  | 0, row => pure row
  | n + 1, row => do
    if (← peek?) != some '-' then pure row
    else do
      let row := row.push (.literal ⟨← charSpan, '-', false⟩)
      next
      if ← isEnd then fail .classUnclosed (.point start)
      else leadingHyphens start n row

/-- The opening of a class: the bracket, the sign of negation, and the characters that stand for
themselves because they come first. -/
def openClass : Reader (OpenClass × Row) := do
  let start ← position
  next
  if ← isEnd then fail .classUnclosed (← since start)
  else do
    let negated := (← peek?) == some '^'
    if negated then next
    if ← isEnd then fail .classUnclosed (← since start)
    else do
      let row ← leadingHyphens start (← get).rest.length ⟨.point (← position), []⟩
      if row.items.isEmpty && (← peek?) == some ']' then do
        let row := row.push (.literal ⟨← charSpan, ']', false⟩)
        next
        if ← isEnd then fail .classUnclosed (← since start)
        else pure (⟨← since start, negated⟩, row)
      else pure (⟨← since start, negated⟩, row)

/-- The doubled characters between sets. -/
def operatorSigns : List (Char × SetOperator) :=
  [('&', .intersection), ('-', .difference), ('~', .symmetricDifference)]

/-- The operator here: its sign written twice. -/
def operatorAt? (c : Cursor) : Option SetOperator :=
  match c.rest with
  | a :: b :: _ => if a = b then operatorSigns.lookup a else none
  | _ => none

/-- The rest of a class, up to its closing bracket.  Every step passes over a character, so as many
steps as there are characters are enough. -/
def classBody : Nat → OpenClass → Option Pending → Row → Reader ClassItem
  | 0, opened, _, _ => fail .classUnclosed opened.span
  | n + 1, opened, pending, row => do
    skip
    let c ← get
    if let some (negated, kind, length) := posixAt? c.rest then do
      set (c.bumpAll length)
      classBody n opened pending (row.push (.posix (← since c.position) kind negated))
    else match c.peek?, operatorAt? c with
      | none, _ => fail .classUnclosed opened.span
      | some '[', _ => do
        let (inner, innerRow) ← openClass
        let item ← classBody n inner none innerRow
        classBody n opened pending (row.push item)
      | some ']', _ => do
        bump
        pure (.bracketed (← since opened.span.start) opened.negated
          (combine pending row.toItem))
      | some _, some operator => do
        bump
        bump
        classBody n opened (some ⟨combine pending row.toItem, operator⟩)
          ⟨.point (← position), []⟩
      | some _, none => do
        let item ← rangeItem opened.span
        classBody n opened pending (row.push item)

/-- The class whose opening bracket is here. -/
def bracketClass : Reader ClassItem := do
  let fuel := (← get).rest.length
  let (opened, row) ← openClass
  classBody fuel opened none row

end Pattern
end FlowCheck
