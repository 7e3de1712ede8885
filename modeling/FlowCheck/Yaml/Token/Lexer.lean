import FlowCheck.Yaml.Scalar.Block
import FlowCheck.Yaml.Scalar.QuotedScalar
import FlowCheck.Yaml.Token.Directive

/-!
# The tokens of a text

Outside brackets, the column of a token decides where blocks begin and end.  A key needs no sign in
front of it; that something was a key is known only at the colon behind it, which must stand on the
same line and not too far away.  So a token that may turn out to begin a key is held back until the
question is settled, and its key token, perhaps with the beginning of a block, is put in front of
it.

Where a text breaks the rules, the tokens that are no longer held back are kept: what they say may
be a problem of its own, met earlier.
-/

namespace FlowCheck
namespace Yaml

/-- A place where a key may begin, in front of the token of number `index`. -/
structure PossibleKey where
  index : Nat
  mark : Mark
  /-- Nothing but a key can stand here. -/
  required : Bool

namespace PossibleKey

/-- The farthest that the colon may be behind the beginning of its key. -/
def reach : Nat := 1024

/-- No colon from `m` on can make this a key. -/
def isStale (k : PossibleKey) (m : Mark) : Bool :=
  k.mark.line < m.line || k.mark.column + reach < m.column

end PossibleKey

structure Lexer where
  cursor : Cursor
  /-- The settled tokens, the last one first, and their number. -/
  settled : List Token := []
  settledCount : Nat := 0
  /-- The tokens that are held back. -/
  held : List Token := []
  /-- The possible key inside the innermost brackets. -/
  key : Option PossibleKey := none
  /-- The possible keys outside of them, a place for each pair of brackets. -/
  outerKeys : List (Option PossibleKey) := []
  /-- The columns of the blocks that are open, the innermost first. -/
  indents : List Nat := []
  /-- A key, or an entry of a block, may begin here. -/
  keyAllowed : Bool := true

/-- Does something to a lexer, or fails with a problem. -/
abbrev Lexing := StateT Lexer (Except Problem)

namespace Lexer

/-- Inside brackets. -/
def inFlow (s : Lexer) : Bool := !s.outerKeys.isEmpty

/-- The number of the next token. -/
def count (s : Lexer) : Nat := s.settledCount + s.held.length

def mark (s : Lexer) : Mark := s.cursor.mark

/-- The column in which the innermost block may not begin again. -/
def depth (s : Lexer) : Nat := (s.indents.head?.map (· + 1)).getD 0

/-- Reads something at the cursor. -/
def reading {α : Type} (r : Reader α) : Lexing α := do
  let (x, c) ← r (← get).cursor
  modify fun s => { s with cursor := c }
  pure x

def fail {α : Type} (cause : Cause) (context : Option (Context × Mark)) : Lexing α := do
  throw (.malformed cause (← get).mark context)

/-- Adds a token at the end. -/
def emit (kind : Token.Kind) (mark : Mark) : Lexing Unit :=
  modify fun s => { s with held := s.held ++ [⟨kind, mark⟩] }

/-- Puts a token in front of the one of number `index`. -/
def insert (index : Nat) (kind : Token.Kind) (mark : Mark) : Lexing Unit :=
  modify fun s => { s with held := s.held.insertIdx (index - s.settledCount) ⟨kind, mark⟩ }

def allowKey (allowed : Bool) : Lexing Unit := modify fun s => { s with keyAllowed := allowed }

/-! ## Possible keys -/

/-- The key that had to be there is not. -/
def failKey {α : Type} (k : PossibleKey) : Lexing α :=
  fail .missingColon (some (.simpleKey, k.mark))

/-- Gives up a possible key. -/
def dropKey : Lexing Unit := do
  match (← get).key with
  | some k =>
    if k.required then failKey k
    modify fun s => { s with key := none }
  | none => pure ()

/-- A key may begin here, if keys are allowed. -/
def saveKey : Lexing Unit := do
  let s ← get
  if s.keyAllowed then
    dropKey
    let required := !s.inFlow && s.indents.head? = some s.mark.column
    modify fun s => { s with key := some ⟨s.count, s.mark, required⟩ }

/-- Gives up the possible keys that are out of reach. -/
def dropStale : Lexing Unit := do
  let s ← get
  let isStale (k : Option PossibleKey) : Bool := k.any (·.isStale s.mark)
  match (s.key :: s.outerKeys).find? fun k => isStale k && k.any (·.required) with
  | some (some k) => failKey k
  | _ =>
    let keep (k : Option PossibleKey) := if isStale k then none else k
    set { s with key := keep s.key, outerKeys := s.outerKeys.map keep }

/-- The token of number `index` may turn out to begin a key. -/
def isPossibleKey (s : Lexer) (index : Nat) : Bool :=
  (s.key :: s.outerKeys).any fun k => k.any (·.index == index)

/-- Settles the tokens in front, up to the first that may begin a key. -/
def settle (s : Lexer) : Lexer :=
  let front := settledFrom s s.settledCount s.held
  { s with
    settled := front.reverse ++ s.settled
    settledCount := s.settledCount + front.length
    held := s.held.drop front.length }
where
  settledFrom (s : Lexer) (index : Nat) : List Token → List Token
    | [] => []
    | t :: ts => if s.isPossibleKey index then [] else t :: settledFrom s (index + 1) ts

/-! ## Blocks -/

/-- A block begins in a column, unless one has begun there; its token is put in front of the token
of number `index`. -/
def openBlock (kind : Token.Kind) (index : Nat) (mark : Mark) : Lexing Unit := do
  let s ← get
  if !s.inFlow && s.depth ≤ mark.column then
    set { s with indents := mark.column :: s.indents }
    insert index kind mark

/-- The blocks that begin in `column` or to the right of it end. -/
def closeBlocks (column : Nat) : Lexing Unit := do
  let s ← get
  unless s.inFlow do
    let ends := (s.indents.takeWhile (column ≤ ·)).map fun _ => (⟨.blockEnd, s.mark⟩ : Token)
    set { s with held := s.held ++ ends, indents := s.indents.drop ends.length }

/-- The blocks that are to the right of a token end in front of it. -/
def closeDeeper : Lexing Unit := do closeBlocks ((← get).mark.column + 1)

/-! ## Tokens -/

/-- Passes over `n` characters, which are a token. -/
def take (kind : Token.Kind) (n : Nat) : Lexing Unit := do
  emit kind (← get).mark
  modify fun s => { s with cursor := s.cursor.advance n }

/-- The end of the text, as if it had a line break behind it. -/
def takeEnd : Lexing Unit := do
  modify fun s =>
    if s.mark.column = 0 then s else { s with cursor := { s.cursor with mark := s.mark.down } }
  closeBlocks 0
  dropKey
  allowKey false
  take .textEnd 0

def takeDirective : Lexing Unit := do
  closeBlocks 0
  dropKey
  allowKey false
  let m := (← get).mark
  emit (← reading Directive.read) m

/-- A line that separates documents. -/
def takeMarker (kind : Token.Kind) : Lexing Unit := do
  closeBlocks 0
  dropKey
  allowKey false
  take kind 3

def openFlow (kind : Token.Kind) : Lexing Unit := do
  saveKey
  modify fun s => { s with outerKeys := s.key :: s.outerKeys, key := none }
  allowKey true
  take kind 1

def closeFlow (kind : Token.Kind) : Lexing Unit := do
  dropKey
  modify fun s => match s.outerKeys with
    | [] => s
    | k :: ks => { s with key := k, outerKeys := ks }
  allowKey false
  take kind 1

def takeComma : Lexing Unit := do
  dropKey
  allowKey true
  take .comma 1

/-- Something that, outside brackets, only stands where a key may stand. -/
def needKey (cause : Cause) : Lexing Unit := do
  let s ← get
  unless s.inFlow || s.keyAllowed do fail cause none

def takeDash : Lexing Unit := do
  needKey .entryNotAllowed
  let s ← get
  openBlock .blockSequence s.count s.mark
  dropKey
  allowKey true
  take .dash 1

/-- A key behind a question mark. -/
def takeKey : Lexing Unit := do
  needKey .keyNotAllowed
  let s ← get
  openBlock .blockMapping s.count s.mark
  dropKey
  allowKey !s.inFlow
  take .key 1

/-- The value of a possible key, which is one now, or of a key behind a question mark. -/
def takeValue : Lexing Unit := do
  let s ← get
  match s.key with
  | some k =>
    insert k.index .key k.mark
    openBlock .blockMapping k.index k.mark
    modify fun s => { s with key := none }
    allowKey false
  | none =>
    needKey .valueNotAllowed
    openBlock .blockMapping s.count s.mark
    allowKey !s.inFlow
  take .value 1

/-- A name behind its sign. -/
def readName (context : Context) : Reader String := do
  let start := (← get).mark
  Reader.advance 1
  let name ← Reader.span isWordChar
  let c ← get
  if name.isEmpty || !(c.blankAt 0 || c.peek?.any fun ch => "?:,]\x7d%@`".toList.contains ch) then
    Reader.fail .missingName context start
  else pure (String.ofList name)

/-- A token that may begin a key. -/
def takeNode (r : Reader Token.Kind) : Lexing Unit := do
  saveKey
  allowKey false
  let m := (← get).mark
  emit (← reading r) m

def takeBlockScalar (folded : Bool) : Lexing Unit := do
  dropKey
  allowKey true
  let s ← get
  emit (.scalar false (← reading (Scalar.block folded s.indents.head?))) s.mark

def takePlain : Lexing Unit := do
  saveKey
  let s ← get
  let (text, crossed) ← reading (Scalar.plain s.inFlow s.depth)
  allowKey crossed
  emit (.scalar true text) s.mark

/-- A character that begins no plain scalar. -/
def isIndicator (c : Char) : Bool :=
  isBlank c || "-?:,[]\x7b\x7d#&*!|>'\"%@`".toList.contains c

/-- A plain scalar begins here; a dash, a question mark or a colon begins one only with no blank
behind it, and inside brackets only the dash. -/
def startsPlain (s : Lexer) : Bool :=
  s.cursor.peek?.any fun c =>
    !isIndicator c || (!s.cursor.blankAt 1 && (c == '-' || (!s.inFlow && (c == '?' || c == ':'))))

/-- The next token.  A text ends, a directive and a line between documents are told, by the
beginning of the line; other tokens by their first character and perhaps the blank behind it. -/
def takeToken : Lexing Unit := do
  let s ← get
  let alone := s.cursor.blankAt 1
  if s.cursor.isMarkerOf '-' then takeMarker .documentStart
  else if s.cursor.isMarkerOf '.' then takeMarker .documentEnd
  else match s.cursor.peek? with
    | none => takeEnd
    | some c =>
      if c = '%' && s.mark.column = 0 then takeDirective
      else if c = '[' then openFlow .flowSequence
      else if c = '\x7b' then openFlow .flowMapping
      else if c = ']' then closeFlow .flowSequenceEnd
      else if c = '\x7d' then closeFlow .flowMappingEnd
      else if c = ',' then takeComma
      else if c = '-' && alone then takeDash
      else if c = '?' && (s.inFlow || alone) then takeKey
      else if c = ':' && (s.inFlow || alone) then takeValue
      else if c = '*' then takeNode (.reference <$> readName .reference)
      else if c = '&' then takeNode (.anchor <$> readName .anchor)
      else if c = '!' then takeNode (.tag <$> Tag.name s.inFlow)
      else if c = '|' && !s.inFlow then takeBlockScalar false
      else if c = '>' && !s.inFlow then takeBlockScalar true
      else if c = '\'' then takeNode (.scalar false <$> Scalar.quoted true)
      else if c = '"' then takeNode (.scalar false <$> Scalar.quoted false)
      else if s.startsPlain then takePlain
      else fail .noToken (some (.nextToken, s.mark))

/-! ## The whole text -/

/-- Passes over what may stand in front of a token on its line.  Tabs count only inside brackets
and where no key may begin. -/
def skipOnLine (flow keyAllowed : Bool) (c : Cursor) : Cursor :=
  let c := c.skip fun ch => ch == ' ' || ((flow || !keyAllowed) && ch == '\t')
  if c.peek? = some '#' then c.skip fun _ => true else c

/-- The cursor at the next token, and whether a key may begin there.  Outside brackets a new line
allows keys. -/
def skipToToken (flow : Bool) :
    (keyAllowed : Bool) → (here : List Char) → Mark → (below : List Line) → Cursor × Bool
  | keyAllowed, here, mark, [] => (skipOnLine flow keyAllowed ⟨here, [], mark⟩, keyAllowed)
  | keyAllowed, here, mark, l :: ls =>
    let c := skipOnLine flow keyAllowed ⟨here, l :: ls, mark⟩
    if c.here.isEmpty then skipToToken flow (keyAllowed || !flow) l.text c.mark.down ls
    else (c, keyAllowed)

/-- One token, and whether it is the last one. -/
def step : Lexing Bool := do
  modify fun s =>
    let (c, allowed) :=
      skipToToken s.inFlow s.keyAllowed s.cursor.here s.cursor.mark s.cursor.below
    { s with cursor := c, keyAllowed := allowed }
  dropStale
  closeDeeper
  let isLast := (← get).cursor.isEnd
  takeToken
  dropStale
  modify settle
  pure isLast

end Lexer

/-- The tokens of a text up to its end, or up to a problem. -/
structure Tokens where
  tokens : List Token
  problem? : Option Problem

/-- The tokens from the state of a lexer on.  Every token but the last takes a character, so that
`fuel` may be the number of characters. -/
def Lexer.run (s : Lexer) : (fuel : Nat) → Tokens
  | 0 => ⟨s.settled.reverse, none⟩
  | fuel + 1 =>
    match Lexer.step s with
    | .error p => ⟨s.settled.reverse, some p⟩
    | .ok (isLast, next) => if isLast then ⟨next.settled.reverse, none⟩ else next.run fuel

/-- The tokens from a place in a text on. -/
def Cursor.tokens (c : Cursor) : Tokens := Lexer.run { cursor := c } (c.size + 1)

end Yaml
end FlowCheck
