import FlowCheck.Yaml.Source

/-!
# Plain scalars

A plain scalar is text without quotes.  On its line it goes on to a comment, to a colon with a
blank behind it, or, inside brackets, to a character of the flow style; blanks at its end do not
belong to it.  It continues on the lines below as long as these are indented deeply enough, and the
line breaks between its parts are folded.
-/

namespace FlowCheck
namespace Yaml
namespace Scalar

/-- What line breaks between two parts of a scalar stand for: a single line feed for a space, a
line feed with more breaks behind it for these, other breaks for themselves. -/
def foldBreaks : List Char → List Char
  | ['\n'] => [' ']
  | '\n' :: more => more
  | breaks => breaks

/-- One of the brackets and the comma of the flow style. -/
def isFlowChar (c : Char) : Bool :=
  c == ',' || c == '[' || c == ']' || c == '\x7b' || c == '\x7d'

/-- Inside brackets, a colon with a character of the flow style or a question mark behind it. -/
def isBadColon (flow : Bool) : List Char → Bool
  | ':' :: c :: _ => flow && (isFlowChar c || c == '?')
  | _ => false

/-- The text ends a plain scalar. -/
def endsPlain (flow : Bool) : List Char → Bool
  | [] => true
  | c :: cs =>
    (c == ':' && cs.head?.all isBlank) || (flow && isFlowChar c) || isBadColon flow (c :: cs)

/-- The part of a plain scalar on one line, without the blanks at its end, and what is left of the
line.  A number sign behind a blank begins a comment. -/
def plainPart (flow afterBlank : Bool) : List Char → List Char × List Char
  | [] => ([], [])
  | c :: cs =>
    if isBlank c then
      let (part, rest) := plainPart flow true cs
      (if part.isEmpty then [] else c :: part, rest)
    else if (afterBlank && c == '#') || endsPlain flow (c :: cs) then ([], c :: cs)
    else
      let (part, rest) := plainPart flow false cs
      (c :: part, rest)

/-- A part at a cursor, and the cursor behind it. -/
def plainPartAt (flow : Bool) (start : Mark) (c : Cursor) :
    Except Problem (List Char × Cursor) :=
  let (part, rest) := plainPart flow false c.here
  let c := c.advance (c.here.length - rest.length)
  if isBadColon flow rest then
    .error (.malformed .unexpectedColon c.mark (some (.plainScalar, start)))
  else .ok (part, c)

/-- Passes over the blanks in front of a line, none of which may be a tab left of `indent`. -/
def skipIndent (indent : Nat) (start : Mark) (c : Cursor) : Except Problem Cursor :=
  match (c.here.takeWhile isBlank).idxOf? '\t' with
  | some n =>
    if n < indent then
      .error (.malformed .tabInIndent (c.mark.right n) (some (.plainScalar, start)))
    else .ok (c.skip isBlank)
  | none => .ok (c.skip isBlank)

/-- A text, the cursor behind it, and whether line breaks lie between the two. -/
structure Plain where
  text : List Char
  next : Cursor
  crossed : Bool

/-- The parts on the lines below, behind the line breaks `breaks`. -/
def plainBelow (flow : Bool) (indent : Nat) (start : Mark) (breaks : List Char) (m : Mark) :
    List Line → Except Problem Plain
  | [] => .ok ⟨[], { here := [], below := [], mark := m }, !breaks.isEmpty⟩
  | l :: ls => do
    let breaks := breaks ++ [l.lineBreak]
    let c ← skipIndent indent start { here := l.text, below := ls, mark := m.down }
    if c.here.isEmpty then plainBelow flow indent start breaks c.mark ls
    else if (!flow && c.mark.column < indent) || c.isMarker || c.peek? = some '#' then
      pure ⟨[], c, true⟩
    else
      let (part, c) ← plainPartAt flow start c
      if part.isEmpty then pure ⟨[], c, true⟩
      else if c.here.isEmpty then
        let more ← plainBelow flow indent start [] c.mark ls
        pure { more with text := foldBreaks breaks ++ part ++ more.text }
      else pure ⟨foldBreaks breaks ++ part, c, false⟩

/-- A plain scalar, whose further lines are indented by `indent` at least, and whether line breaks
were passed behind it. -/
def plain (flow : Bool) (indent : Nat) : Reader (String × Bool) := do
  let start := (← get).mark
  let (part, c) ← plainPartAt flow start (← get)
  if c.here.isEmpty then
    let more ← plainBelow flow indent start [] c.mark c.below
    set more.next
    pure (String.ofList (part ++ more.text), more.crossed)
  else
    set c
    pure (String.ofList part, false)

end Scalar
end Yaml
end FlowCheck
