import FlowCheck.Yaml.Source

/-!
# Block scalars

A block scalar is a header and the lines below it that are indented.  Its text is that of the lines
without their indentation; a literal scalar keeps the line breaks, a folded one folds those between
two lines that begin with no blank.  The header says what becomes of the line breaks at the end,
and may say how deep the indentation is; otherwise the first line that is not empty shows it.
-/

namespace FlowCheck
namespace Yaml
namespace Scalar

/-- What becomes of the line breaks at the end: one is kept, none, or all. -/
inductive Chomp where
  | clip
  | strip
  | keep

/-! ## The header -/

/-- The sign for the line breaks at the end. -/
def chomp? : Char → Option Chomp
  | '+' => some .keep
  | '-' => some .strip
  | _ => none

def readChomp : Reader (Option Chomp) := do
  match (← Reader.peek?).bind chomp? with
  | some chomp =>
    Reader.advance 1
    pure (some chomp)
  | none => pure none

/-- A digit that says how deep the lines are indented. -/
def readDepth (start : Mark) : Reader (Option Nat) := do
  match ← Reader.peek? with
  | some '0' => Reader.fail .zeroIndent .blockScalar start
  | some c =>
    if c.isDigit then
      Reader.advance 1
      pure (some (c.toNat - '0'.toNat))
    else pure none
  | none => pure none

/-- The two signs of a header in either order, and the end of its line. -/
def readHeader (start : Mark) : Reader (Chomp × Option Nat) := do
  let first ← readChomp
  let depth ← readDepth start
  let second ← if first.isNone && depth.isSome then readChomp else pure none
  modify (·.skipComment)
  unless (← get).here.isEmpty do Reader.fail .missingCommentOrBreak .blockScalar start
  pure ((first <|> second).getD .clip, depth)

/-! ## The lines -/

/-- The number of spaces in front of a line. -/
def spaces (cs : List Char) : Nat := (cs.takeWhile (· == ' ')).length

/-- The indentation that the empty lines at the beginning, and the first other line, show. -/
def shownDepth (start : Mark) (most : Nat) (m : Mark) : List Line → Except Problem Nat
  | [] => .ok most
  | l :: ls =>
    let n := spaces l.text
    match l.text.drop n with
    | [] => shownDepth start (max most n) m.down ls
    | '\t' :: _ => .error (.malformed .tabForSpace (m.down.right n) (some (.blockScalar, start)))
    | _ => .ok (max most n)

/-- The text between two lines that are not empty; `breaks` are the line breaks between them, the
first of which is that of the header unless a line of text came before. -/
def betweenLines (folds afterText : Bool) (breaks : List Char) : List Char :=
  if !afterText then breaks.drop 1
  else if folds && breaks.head? == some '\n' then
    if breaks.length = 1 then [' '] else breaks.drop 1
  else breaks

/-- What is kept of the line breaks at the end. -/
def tail (chomp : Chomp) (afterText : Bool) (breaks : List Char) : List Char :=
  match chomp with
  | .strip => []
  | .clip => if afterText then breaks.take 1 else []
  | .keep => if afterText then breaks else breaks.drop 1

/-- How a block scalar is read: folded or not, its end, and its indentation. -/
structure BlockStyle where
  folded : Bool
  chomp : Chomp
  depth : Nat

/-- The lines below behind the line breaks `breaks`: their text, and the cursor behind them.  The
last line of text, if there was one, began with a blank or not. -/
def blockBelow (style : BlockStyle) (start : Mark) (afterText lastBlank : Bool)
    (breaks : List Char) (m : Mark) : List Line → Except Problem (List Char × Cursor)
  | [] => .ok (tail style.chomp afterText breaks, { here := [], below := [], mark := m })
  | l :: ls => do
    let breaks := breaks ++ [l.lineBreak]
    let n := min style.depth (spaces l.text)
    let c : Cursor := { here := l.text.drop n, below := ls, mark := m.down.right n }
    match c.here with
    | [] => blockBelow style start afterText lastBlank breaks c.mark ls
    | ch :: _ =>
      if n = style.depth then
        let blank := isBlank ch
        let between := betweenLines (style.folded && !lastBlank && !blank) afterText breaks
        let (more, next) ←
          blockBelow style start true blank [] (c.advance c.here.length).mark ls
        pure (between ++ c.here ++ more, next)
      else if ch = '\t' then
        .error (.malformed .tabForSpace c.mark (some (.blockScalar, start)))
      else pure (tail style.chomp afterText breaks, c)

/-- A block scalar from its sign on, in a block that is indented by `indent`, if there is one. -/
def block (folded : Bool) (indent : Option Nat) : Reader String := do
  let start := (← get).mark
  Reader.advance 1
  let (chomp, given) ← readHeader start
  let c ← get
  let depth ← match given with
    | some n => pure (indent.getD 0 + n)
    | none => do
      let least := (indent.map (· + 1)).getD 0
      pure (max (← shownDepth start 0 c.mark c.below) (max least 1))
  let (text, c) ← blockBelow ⟨folded, chomp, depth⟩ start false false [] c.mark c.below
  set c
  pure (String.ofList text)

end Scalar
end Yaml
end FlowCheck
