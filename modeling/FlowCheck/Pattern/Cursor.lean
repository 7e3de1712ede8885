import FlowCheck.Pattern.Problem
import FlowCheck.Text.Blank

/-!
# Reading a pattern

A `Cursor` is a place in a pattern together with what follows it.  In verbose mode blanks and
comments between the parts of a pattern mean nothing, and `skip` passes over them.
-/

namespace FlowCheck
namespace Pattern

structure Cursor where
  rest : List Char
  position : Position := {}
  /-- Blanks and comments mean nothing. -/
  verbose : Bool := false
  /-- The names of groups so far. -/
  names : List (String × Span) := []

/-- Reads something at the cursor, or fails with a problem. -/
abbrev Reader := StateT Cursor (Except Problem)

namespace Cursor

def isEnd (c : Cursor) : Bool := c.rest.isEmpty

def peek? (c : Cursor) : Option Char := c.rest.head?

/-- Passes over one character. -/
def bump (c : Cursor) : Cursor :=
  match c.rest with
  | [] => c
  | ch :: rest => { c with rest := rest, position := c.position.after ch }

def bumpAll (c : Cursor) (n : Nat) : Cursor := n.repeat bump c

/-- What is left behind blanks and comments, and where. -/
def skipFrom (inComment : Bool) (p : Position) : List Char → List Char × Position
  | [] => ([], p)
  | c :: cs =>
    if inComment then skipFrom (c != '\n') (p.after c) cs
    else if Text.isBlank c then skipFrom false (p.after c) cs
    else if c = '#' then skipFrom true (p.after c) cs
    else (c :: cs, p)

/-- Passes over blanks and comments in verbose mode. -/
def skip (c : Cursor) : Cursor :=
  if c.verbose then
    let (rest, p) := skipFrom false c.position c.rest
    { c with rest := rest, position := p }
  else c

/-- Passes over one character and what means nothing behind it. -/
def next (c : Cursor) : Cursor := c.bump.skip

/-- The character behind the present one. -/
def second? (c : Cursor) : Option Char := c.rest[1]?

/-- What is left behind blanks and behind the sign of a comment. -/
def secondFrom (inComment : Bool) : List Char → Option (List Char)
  | [] => none
  | c :: cs =>
    if Text.isBlank c then secondFrom inComment cs
    else if !inComment && c == '#' then secondFrom true cs
    else some (c :: cs)

/-- The character behind the present one, blanks passed over in verbose mode. -/
def secondPart? (c : Cursor) : Option Char :=
  if c.verbose then ((secondFrom false c.rest.tail).getD c.rest.tail).head? else c.second?

/-- The span of the present character. -/
def charSpan (c : Cursor) : Span := ⟨c.position, c.bump.position⟩

/-- Characters that satisfy `p`, `n` at most, each with what means nothing behind it. -/
def collectUpTo (p : Char → Bool) : Nat → Cursor → List Char × Cursor
  | 0, c => ([], c)
  | n + 1, c =>
    match c.peek? with
    | some ch =>
      if p ch then
        let (cs, c) := collectUpTo p n c.next
        (ch :: cs, c)
      else ([], c)
    | none => ([], c)

/-- The characters from here on that satisfy `p`. -/
def collect (p : Char → Bool) (c : Cursor) : List Char × Cursor :=
  collectUpTo p c.rest.length c

end Cursor

namespace Reader

def fail {α : Type} (kind : ProblemKind) (span : Span) : Reader α :=
  throw ⟨kind, span, none⟩

def position : Reader Position := do pure (← get).position

def isEnd : Reader Bool := do pure (← get).isEnd

def peek? : Reader (Option Char) := do pure (← get).peek?

/-- The span from a position to here. -/
def since (start : Position) : Reader Span := do pure ⟨start, ← position⟩

def bump : Reader Unit := modify Cursor.bump

def skip : Reader Unit := modify Cursor.skip

def next : Reader Unit := modify Cursor.next

def charSpan : Reader Span := do pure (← get).charSpan

/-- Passes over a text if it stands here. -/
def accept (text : String) : Reader Bool := do
  let c ← get
  match Text.after? text.toList c.rest with
  | some _ =>
    set (c.bumpAll text.length)
    pure true
  | none => pure false

def collect (p : Char → Bool) : Reader (List Char) := do
  let (cs, c) := (← get).collect p
  set c
  pure cs

end Reader
end Pattern
end FlowCheck
