import FlowCheck.Json.Reader
import FlowCheck.Yaml.Scalar.Plain

/-!
# Quoted scalars

Between single quotes a quote is written twice; between double quotes a backslash begins an escape,
and a backslash at the end of a line takes the line break away.  Blanks around a line break do not
count, and line breaks are folded.
-/

namespace FlowCheck
namespace Yaml
namespace Scalar

/-- How the part of a quoted scalar on one line ends. -/
inductive PartEnd where
  | closed (rest : List Char)
  /-- At the end of the line, perhaps with a backslash in front of the line break. -/
  | lineEnd (escaped : Bool)

/-! ## Single quotes -/

/-- The part of a single-quoted scalar on one line, behind blanks that may belong to it. -/
def singlePart (blanks : List Char) : List Char → List Char × PartEnd
  | [] => ([], .lineEnd false)
  | '\'' :: '\'' :: cs =>
    let (part, close) := singlePart [] cs
    (blanks ++ '\'' :: part, close)
  | '\'' :: cs => (blanks, .closed cs)
  | c :: cs =>
    if isBlank c then singlePart (blanks ++ [c]) cs
    else
      let (part, close) := singlePart [] cs
      (blanks ++ c :: part, close)

/-! ## Double quotes -/

/-- What an escape stands for: a character, or the code point of so many hexadecimal digits. -/
inductive Escape where
  | char (c : Char)
  | code (digits : Nat)

def escape? : Char → Option Escape
  | '0' => some (.char '\x00')
  | 'a' => some (.char '\x07')
  | 'b' => some (.char '\x08')
  | 't' | '\t' => some (.char '\t')
  | 'n' => some (.char '\n')
  | 'v' => some (.char '\x0b')
  | 'f' => some (.char '\x0c')
  | 'r' => some (.char '\r')
  | 'e' => some (.char '\x1b')
  | ' ' => some (.char ' ')
  | '"' => some (.char '"')
  | '/' => some (.char '/')
  | '\\' => some (.char '\\')
  | 'N' => some (.char '\u0085')
  | '_' => some (.char '\u00a0')
  | 'L' => some (.char '\u2028')
  | 'P' => some (.char '\u2029')
  | 'x' => some (.code 2)
  | 'u' => some (.code 4)
  | 'U' => some (.code 8)
  | _ => none

/-- The number that `n` hexadecimal digits at the beginning of a text stand for. -/
def hex? (n : Nat) (cs : List Char) : Option Nat := do
  let digits ← (cs.take n).mapM Json.hexValue?
  if digits.length = n then some (digits.foldl (fun v d => v * 16 + d) 0) else none

/-- The character with `n` hexadecimal digits as its code point. -/
def codePoint (start m : Mark) (n : Nat) (cs : List Char) : Except Problem Char :=
  match hex? n cs with
  | none => .error (.malformed .missingHex m (some (.escape, start)))
  | some v =>
    if v.isValidChar then .ok (Char.ofNat v)
    else .error (.malformed .badCodePoint m (some (.escape, start)))

/-- The part of a double-quoted scalar on one line, behind blanks that may belong to it.  The last
line of a text has no line break that a backslash could take away. -/
def doublePart (isLast : Bool) (start m : Mark) (blanks : List Char) :
    (cs : List Char) → Except Problem (List Char × PartEnd)
  | [] => .ok ([], .lineEnd false)
  | '"' :: cs => .ok (blanks, .closed cs)
  | ['\\'] =>
    if isLast then .error (.malformed .unknownEscape m (some (.escape, start)))
    else .ok (blanks, .lineEnd true)
  | '\\' :: e :: cs =>
    match escape? e with
    | none => .error (.malformed .unknownEscape m (some (.escape, start)))
    | some (.char c) => do
      let (part, close) ← doublePart isLast start (m.right 2) [] cs
      pure (blanks ++ c :: part, close)
    | some (.code n) => do
      let c ← codePoint start (m.right 2) n cs
      let (part, close) ← doublePart isLast start (m.right (2 + n)) [] (cs.drop n)
      pure (blanks ++ c :: part, close)
  | c :: cs =>
    if isBlank c then doublePart isLast start (m.right 1) (blanks ++ [c]) cs
    else do
      let (part, close) ← doublePart isLast start (m.right 1) [] cs
      pure (blanks ++ c :: part, close)
termination_by cs => cs.length
decreasing_by all_goals simp <;> omega

/-! ## Lines -/

/-- The part at a cursor, and how it ends. -/
def quotedPart (single : Bool) (start : Mark) (c : Cursor) :
    Except Problem (List Char × PartEnd) :=
  if single then .ok (singlePart [] c.here)
  else doublePart c.below.isEmpty start c.mark [] c.here

/-- The text between two parts: the line breaks folded, or the first of them taken away. -/
def betweenParts (escaped : Bool) (breaks : List Char) : List Char :=
  if escaped then breaks.drop 1 else foldBreaks breaks

/-- The parts on the lines below, behind the line breaks `breaks`. -/
def quotedBelow (single : Bool) (start : Mark) (escaped : Bool) (breaks : List Char) (m : Mark) :
    List Line → Except Problem (List Char × Cursor)
  | [] => .error (.malformed .endOfText m (some (.quotedScalar, start)))
  | l :: ls => do
    let breaks := breaks ++ [l.lineBreak]
    let c := Cursor.skip isBlank { here := l.text, below := ls, mark := m.down }
    if c.here.isEmpty then quotedBelow single start escaped breaks c.mark ls
    else if c.isMarker then
      .error (.malformed .documentMarker c.mark (some (.quotedScalar, start)))
    else
      let (part, close) ← quotedPart single start c
      let text := betweenParts escaped breaks ++ part
      match close with
      | .closed rest => pure (text, c.advance (c.here.length - rest.length))
      | .lineEnd escaped =>
        let (more, c) ← quotedBelow single start escaped [] (c.advance c.here.length).mark ls
        pure (text ++ more, c)

/-- A quoted scalar from its opening quote on. -/
def quoted (single : Bool) : Reader String := do
  let start := (← get).mark
  Reader.advance 1
  let c ← get
  let (part, close) ← quotedPart single start c
  match close with
  | .closed rest =>
    set (c.advance (c.here.length - rest.length))
    pure (String.ofList part)
  | .lineEnd escaped =>
    let (more, c) ← quotedBelow single start escaped [] (c.advance c.here.length).mark c.below
    set c
    pure (String.ofList (part ++ more))

end Scalar
end Yaml
end FlowCheck
