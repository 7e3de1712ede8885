import FlowCheck.Format.Uuid
import FlowCheck.Number.Numeral
import FlowCheck.Pattern.Cursor

/-!
# Escape sequences

What a backslash begins: a character that would otherwise mean something, a character given by its
number, a class, or an assertion.
-/

namespace FlowCheck
namespace Pattern

open Reader

/-- A part without structure, inside brackets or outside. -/
inductive Simple where
  | literal (l : Literal)
  | dot (span : Span)
  | assertion (span : Span) (kind : Assertion)
  | shorthand (c : ShorthandClass)
  | property (c : PropertyClass)

namespace Simple

def span : Simple → Span
  | literal l => l.span
  | dot s => s
  | assertion s _ => s
  | shorthand c => c.span
  | property c => c.span

def toNode : Simple → Node
  | literal l => .literal l
  | dot s => .dot s
  | assertion s kind => .assertion s kind
  | shorthand c => .shorthand c
  | property c => .property c

end Simple

/-! ## Numbers -/

/-- The value of hexadecimal digits. -/
def hexValue (digits : List Char) : Nat :=
  digits.foldl (fun n d => n * 16 + (
    if d.isDigit then d.toNat - '0'.toNat
    else if 'a' ≤ d then d.toNat - 'a'.toNat + 10
    else d.toNat - 'A'.toNat + 10)) 0

/-- The character with a number, given by hexadecimal digits. -/
def hexChar? (digits : List Char) : Option Char :=
  let n := hexValue digits
  if n.isValidChar then some (Char.ofNat n) else none

/-- Up to `n` more digits of a fixed number. -/
def fixedDigits : Nat → Reader (List Char)
  | 0 => pure []
  | n + 1 => do
    next
    match ← peek? with
    | none => fail .escapeUnexpectedEnd (.point (← position))
    | some c =>
      if Format.isHexDigit c then pure (c :: (← fixedDigits n))
      else fail .escapeHexInvalidDigit (← charSpan)

/-- The character of some digits. -/
def hexLiteral (digits : List Char) (span : Span) (asByte : Bool) : Reader Literal :=
  match hexChar? digits with
  | some c => pure ⟨span, c, asByte⟩
  | none => fail .escapeHexInvalid span

/-- A number of so many digits. -/
def fixedHex (count : Nat) : Reader Literal := do
  let start ← position
  match ← peek? with
  | none => fail .escapeUnexpectedEnd (.point start)
  | some c =>
    if !Format.isHexDigit c then fail .escapeHexInvalidDigit (← charSpan)
    else do
      let digits := c :: (← fixedDigits (count - 1))
      next
      hexLiteral digits (← since start) (count == 2)

/-- A number between braces. -/
def bracedHex : Reader Literal := do
  let brace ← position
  let start := (← charSpan).stop
  next
  let digits ← collect Format.isHexDigit
  match ← peek? with
  | none => fail .escapeUnexpectedEnd (← since brace)
  | some '\x7d' => do
    let stop ← position
    next
    if digits.isEmpty then fail .escapeHexEmpty (← since brace)
    else hexLiteral digits ⟨start, stop⟩ false
  | some _ => fail .escapeHexInvalidDigit (← charSpan)

/-- The number behind `\x`, `\u` or `\U`, whose fixed form has so many digits. -/
def hex (count : Nat) : Reader Literal := do
  next
  match ← peek? with
  | none => fail .escapeUnexpectedEnd (.point (← position))
  | some '\x7b' => bracedHex
  | some _ => fixedHex count

/-- A count, blanks allowed on both sides.  The digits are passed over even if they are none. -/
def decimal : Reader (Except Problem Nat) := do
  let _ ← collect Text.isBlank
  let start ← position
  let digits ← collect Char.isDigit
  let span ← since start
  let _ ← collect Text.isBlank
  let n := Numeral.valueOf digits
  pure (if digits.isEmpty then .error ⟨.countDecimalEmpty, span, none⟩
    else if n < Word.count 32 then .ok n
    else .error ⟨.decimalInvalid, span, none⟩)

/-! ## Properties -/

/-- The text before and behind the first occurrence of a mark. -/
def cutAt? (mark : List Char) : List Char → Option (List Char × List Char)
  | [] => none
  | c :: cs =>
    match Text.after? mark (c :: cs) with
    | some behind => some ([], behind)
    | none => (cutAt? mark cs).map fun r => (c :: r.1, r.2)

/-- The property named between braces: alone, or with a value behind one of three signs. -/
def queryOf (name : List Char) : Query :=
  let cut := cutAt? ['!', '='] name <|> cutAt? [':'] name <|> cutAt? ['='] name
  match cut with
  | some (property, value) => .value (String.ofList property) (String.ofList value)
  | none => .name (String.ofList name)

/-- The property behind `\p` or `\P`. -/
def propertyClass (start : Position) (negated : Bool) : Reader PropertyClass := do
  next
  match ← peek? with
  | none => fail .escapeUnexpectedEnd (.point (← position))
  | some '\x7b' => do
    next
    let name ← collect (· != '\x7d')
    if ← isEnd then fail .escapeUnexpectedEnd (.point (← position))
    else do
      bump
      pure ⟨← since start, queryOf name, negated⟩
  | some '\\' => do fail .propertyClassInvalid (← charSpan)
  | some c => do
    next
    pure ⟨← since start, .name (String.singleton c), negated⟩

/-! ## Word boundaries -/

def isBoundaryNameChar (c : Char) : Bool := c.isAlpha || c == '-'

def boundaryNames : List (String × Assertion) :=
  [("start", .wordStart), ("end", .wordEnd), ("start-half", .wordStartHalf),
    ("end-half", .wordEndHalf)]

/-- The kind of boundary behind `\b`, where braces that name none are left to be a count. -/
def boundaryKind (start : Position) : Reader Assertion := do
  if (← peek?) != some '\x7b' then pure .boundary
  else do
    let before ← get
    let brace ← position
    next
    match ← peek? with
    | none => fail .wordBoundaryUnexpectedEnd (← since start)
    | some c =>
      if !isBoundaryNameChar c then do
        set before
        pure .boundary
      else do
        let contents ← position
        let name ← collect isBoundaryNameChar
        if (← peek?) != some '\x7d' then fail .wordBoundaryUnclosed (← since brace)
        else do
          let span ← since contents
          bump
          match boundaryNames.lookup (String.ofList name) with
          | some kind => pure kind
          | none => fail .wordBoundaryUnrecognized span

/-! ## Escapes -/

/-- The characters with a meaning of their own. -/
def isMeta (c : Char) : Bool := "\\.+*?()|[]\x7b\x7d^$#&-~".toList.contains c

/-- ASCII characters may be escaped without need, except letters, digits and angles. -/
def isEscapable (c : Char) : Bool :=
  isMeta c || (c.toNat < 128 && !c.isAlphanum && c != '<' && c != '>')

/-- The characters that letters stand for. -/
def letterEscapes : List (Char × Char) :=
  [('a', '\x07'), ('f', '\x0c'), ('t', '\t'), ('n', '\n'), ('r', '\r'), ('v', '\x0b')]

/-- The assertions that letters and angles stand for. -/
def assertionEscapes : List (Char × Assertion) :=
  [('A', .startText), ('z', .endText), ('B', .notBoundary), ('<', .wordStart), ('>', .wordEnd)]

def shorthandEscapes : List (Char × Shorthand × Bool) :=
  [('d', .digit, false), ('s', .space, false), ('w', .word, false), ('D', .digit, true),
    ('S', .space, true), ('W', .word, true)]

/-- The number of digits in the fixed forms of hexadecimal numbers. -/
def hexEscapes : List (Char × Nat) := [('x', 2), ('u', 4), ('U', 8)]

def escapeOf (start : Position) (c : Char) : Reader Simple := do
  if c.isDigit then fail .unsupportedBackreference ⟨start, (← charSpan).stop⟩
  else if let some count := hexEscapes.lookup c then do
    let l ← hex count
    pure (.literal { l with span := ⟨start, l.span.stop⟩ })
  else if c == 'p' || c == 'P' then do pure (.property (← propertyClass start (c == 'P')))
  else do
    bump
    let span ← since start
    if let some (kind, negated) := shorthandEscapes.lookup c then
      pure (.shorthand ⟨span, kind, negated⟩)
    else if isEscapable c then pure (.literal ⟨span, c, false⟩)
    else if let some l := letterEscapes.lookup c then pure (.literal ⟨span, l, false⟩)
    else if let some kind := assertionEscapes.lookup c then pure (.assertion span kind)
    else if c = 'b' then do
      let kind ← boundaryKind start
      pure (.assertion (← since start) kind)
    else fail .escapeUnrecognized span

/-- The escape sequence here. -/
def escape : Reader Simple := do
  let start ← position
  bump
  match ← peek? with
  | none => fail .escapeUnexpectedEnd (← since start)
  | some c => escapeOf start c

end Pattern
end FlowCheck
