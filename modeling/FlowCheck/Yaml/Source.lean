import FlowCheck.Yaml.Problem

/-!
# The text of a YAML document

A text is read line by line.  A `Cursor` is a place in it: what is left of its line, and the lines
below, each with the line break in front of it.  A line ends at a line feed, a carriage return,
both together, or a next-line character, which all count as a line feed, and at the line and
paragraph separators, which stand for themselves.

Control characters are refused, wherever they stand.  A byte order mark in front of the text is
passed over.
-/

namespace FlowCheck
namespace Yaml

/-! ## Characters -/

/-- A character that a text may have. -/
def isPermitted (c : Char) : Bool :=
  let n := c.toNat
  n == 0x09 || n == 0x0A || n == 0x0D || (0x20 ≤ n && n ≤ 0x7E) || n == 0x85 ||
    (0xA0 ≤ n && n ≤ 0xD7FF) || (0xE000 ≤ n && n ≤ 0xFFFD) || 0x10000 ≤ n

def byteOrderMark : Char := '\ufeff'

/-- A space or a tab. -/
def isBlank (c : Char) : Bool := c == ' ' || c == '\t'

/-- A character of the name of an anchor or a directive. -/
def isWordChar (c : Char) : Bool := c.isAlphanum || c == '_' || c == '-'

/-- The offset in bytes of the first character that is not permitted. -/
def forbiddenOffset? (offset : Nat) : List Char → Option Nat
  | [] => none
  | c :: cs => if isPermitted c then forbiddenOffset? (offset + c.utf8Size) cs else some offset

/-! ## Lines -/

/-- A line behind the break that it follows. -/
structure Line where
  lineBreak : Char
  text : List Char

/-- The text with every line break as one character. -/
def unifyBreaks : List Char → List Char
  | [] => []
  | '\r' :: '\n' :: cs => '\n' :: unifyBreaks cs
  | c :: cs => (if c = '\r' ∨ c = '\u0085' then '\n' else c) :: unifyBreaks cs

/-- A line break, once they are unified. -/
def isBreak (c : Char) : Bool := c == '\n' || c == '\u2028' || c == '\u2029'

/-- The first line of a text, and the lines below. -/
def splitLines : List Char → List Char × List Line
  | [] => ([], [])
  | c :: cs =>
    let (first, below) := splitLines cs
    if isBreak c then ([], ⟨c, first⟩ :: below) else (c :: first, below)

/-! ## Places -/

/-- What is left of a text, and where. -/
structure Cursor where
  here : List Char
  below : List Line
  mark : Mark := {}

namespace Cursor

/-- At the end of the text. -/
def isEnd (c : Cursor) : Bool := c.here.isEmpty && c.below.isEmpty

def peek? (c : Cursor) : Option Char := c.here.head?

/-- A blank, or the end of the line, stands `n` characters further. -/
def blankAt (c : Cursor) (n : Nat) : Bool := (c.here[n]?).all isBlank

/-- Passes over `n` characters of the line. -/
def advance (c : Cursor) (n : Nat) : Cursor :=
  { c with here := c.here.drop n, mark := c.mark.right n }

/-- The characters of the line that satisfy `p`, up to the first that does not. -/
def span (p : Char → Bool) (c : Cursor) : List Char × Cursor :=
  let cs := c.here.takeWhile p
  (cs, c.advance cs.length)

/-- Passes over the characters of the line that satisfy `p`. -/
def skip (p : Char → Bool) (c : Cursor) : Cursor := (c.span p).2

/-- The beginning of the next line. -/
def nextLine? (c : Cursor) : Option Cursor :=
  match c.below with
  | [] => none
  | l :: ls => some { here := l.text, below := ls, mark := c.mark.down }

/-- Passes over the rest of a line that says nothing: blanks, and perhaps a comment. -/
def skipComment (c : Cursor) : Cursor :=
  let c := c.skip isBlank
  if c.peek? = some '#' then c.skip fun _ => true else c

/-- The beginning of a text; a second byte order mark is a character that says nothing. -/
def start (text : String) : Except Problem Cursor :=
  let (offset, cs) := match text.toList with
    | c :: cs => if c = byteOrderMark then (c.utf8Size, cs) else (0, c :: cs)
    | [] => (0, [])
  match forbiddenOffset? offset cs with
  | some offset => .error (.forbiddenCharacter offset)
  | none =>
    let (here, below) := splitLines (unifyBreaks cs)
    let c : Cursor := { here, below }
    .ok (if c.peek? = some byteOrderMark then c.advance 1 else c)

/-- The line is one that separates documents: the three given characters, then a blank or the end
of the line. -/
def isMarkerOf (dashOrDot : Char) (c : Cursor) : Bool :=
  c.mark.column == 0 && c.here.take 3 == [dashOrDot, dashOrDot, dashOrDot] && c.blankAt 3

def isMarker (c : Cursor) : Bool := c.isMarkerOf '-' || c.isMarkerOf '.'

/-- The number of characters that are left, each line break counting as one. -/
def size (c : Cursor) : Nat := c.below.foldl (fun n l => n + l.text.length + 1) c.here.length

end Cursor

/-! ## Reading at a cursor -/

/-- Reads something at a cursor, or fails with a problem. -/
abbrev Reader := StateT Cursor (Except Problem)

namespace Reader

/-- Fails here, within a larger piece of text that begins at `start`. -/
def fail {α : Type} (cause : Cause) (context : Context) (start : Mark) : Reader α := do
  throw (.malformed cause (← get).mark (some (context, start)))

def peek? : Reader (Option Char) := do pure (← get).peek?

def advance (n : Nat) : Reader Unit := modify (·.advance n)

def skip (p : Char → Bool) : Reader Unit := modify (·.skip p)

def span (p : Char → Bool) : Reader (List Char) := modifyGet (·.span p)

end Reader

end Yaml
end FlowCheck
