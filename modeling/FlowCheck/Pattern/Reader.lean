import FlowCheck.Pattern.Bracket
import FlowCheck.Unicode.Letter

/-!
# Reading whole patterns

Groups, alternatives and repetitions.  A group is read by the same steps as the whole pattern; its
flags about blanks hold up to its end.

## Main definitions

* `Pattern.body` : the alternatives up to the end of a group or of the pattern
* `Pattern.read` : the pattern of a text
-/

namespace FlowCheck
namespace Pattern

open Reader

/-! ## Groups -/

/-- What a group begins with. -/
inductive GroupHead where
  /-- Flags without a body. -/
  | flags (span : Span) (marks : FlagMarks)
  /-- A body follows; its parenthesis is at `span`. -/
  | body (span : Span) (marks : Option FlagMarks)

def isNameStart (c : Char) : Bool := c == '_' || Unicode.isAlphabetic c

def isNameChar (c : Char) : Bool :=
  c == '_' || c == '.' || c == '[' || c == ']' || Unicode.isAlphanumeric c

/-- The first character that no name has at its place. -/
def nameLength (first : Bool) : List Char → Nat
  | [] => 0
  | c :: cs =>
    if c = '>' then 0
    else if (if first then isNameStart c else isNameChar c) then nameLength false cs + 1
    else 0

/-- The name of a group, behind the opening angle. -/
def groupName : Reader Unit := do
  let start ← position
  let c ← get
  let name := c.rest.take (nameLength true c.rest)
  set (c.bumpAll name.length)
  match ← peek? with
  | none => fail .groupNameUnexpectedEnd (.point (← position))
  | some '>' => do
    let span ← since start
    bump
    if name.isEmpty then fail .groupNameEmpty span
    else do
      let key := String.ofList name
      let c ← get
      match c.names.lookup key with
      | some earlier => throw ⟨.groupNameDuplicate, span, some earlier⟩
      | none => set { c with names := (key, span) :: c.names }
  | some _ => fail .groupNameInvalid (← charSpan)

/-- Flag marks up to a colon or a closing parenthesis. -/
def flagMarks : Nat → FlagMarks → Reader FlagMarks
  | 0, marks => pure marks
  | n + 1, marks => do
    match ← peek? with
    | none => pure marks
    | some c =>
      if c = ':' ∨ c = ')' then
        match marks.getLast? with
        | some (.negation, span) => fail .flagDanglingNegation span
        | _ => pure marks
      else do
        let span ← charSpan
        let (mark, repeated) ← if c = '-' then pure (.negation, .flagRepeatedNegation)
          else match Flag.ofLetter? c with
            | some f => pure (FlagMark.flag f, ProblemKind.flagDuplicate)
            | none => fail .flagUnrecognized span
        match marks.lookup mark with
        | some earlier => throw ⟨repeated, span, some earlier⟩
        | none => do
          bump
          if ← isEnd then fail .flagUnexpectedEnd (.point (← position))
          else flagMarks n (marks ++ [(mark, span)])

def lookAroundSigns : List String := ["?=", "?!", "?<=", "?<!"]

/-- Passes over the first of some texts that stands here. -/
def acceptAny : List String → Reader Bool
  | [] => pure false
  | s :: rest => do if ← accept s then pure true else acceptAny rest

/-- The parenthesis here and what belongs to it. -/
def groupHead : Reader GroupHead := do
  let opening ← charSpan
  bump
  skip
  if ← acceptAny lookAroundSigns then
    fail .unsupportedLookAround (← since opening.start)
  else do
    let inner ← position
    if ← acceptAny ["?P<", "?<"] then do
      groupName
      pure (.body opening none)
    else if ← accept "?" then do
      if ← isEnd then fail .groupUnclosed opening
      else do
        let marks ← flagMarks (← get).rest.length []
        let stop ← peek?
        bump
        if stop = some ')' then
          if marks.isEmpty then fail .repetitionMissing (.point inner)
          else pure (.flags (← since opening.start) marks)
        else pure (.body opening (some marks))
    else pure (.body opening none)

/-! ## Repetitions -/

/-- The items without the last one, which a quantifier can repeat. -/
def lastItem (items : List Node) : Reader (List Node × Node) := do
  match items.getLast? with
  | none => fail .repetitionMissing (.point (← position))
  | some (.flags ..) => fail .repetitionMissing (.point (← position))
  | some node => pure (items.dropLast, node)

def signs : List (Char × Quantifier) := [('?', ⟨0, some 1⟩), ('*', ⟨0, none⟩), ('+', ⟨1, none⟩)]

/-- Repeats the last item; a question mark behind the quantifier is passed over. -/
def repeated (items : List Node) (quantifier : Quantifier) : Reader (List Node) := do
  let (items, node) ← lastItem items
  bump
  if (← peek?) == some '?' then bump
  pure (items ++ [.repetition (← since node.span.start) quantifier node])

/-- The counts between braces, behind the opening one. -/
def counts (opening : Position) : Reader Quantifier := do
  let least ← decimal
  match ← peek? with
  | none => fail .countUnclosed (← since opening)
  | some ',' => do
    next
    match ← peek? with
    | none => fail .countUnclosed (← since opening)
    | some '\x7d' => pure ⟨← least, none⟩
    | some _ => do
      let low ← least
      let high ← decimal
      pure ⟨low, some (← high)⟩
  | some _ => do
    let low ← least
    pure ⟨low, some low⟩

/-- Repeats the last item as often as the braces here say. -/
def counted (items : List Node) : Reader (List Node) := do
  let (items, node) ← lastItem items
  let opening ← position
  next
  if ← isEnd then fail .countUnclosed (← since opening)
  else do
    let quantifier ← counts opening
    if (← peek?) != some '\x7d' then fail .countUnclosed (← since opening)
    else do
      next
      if (← peek?) == some '?' then bump
      if quantifier.most.any (· < quantifier.least) then fail .countInvalid (← since opening)
      else pure (items ++ [.repetition (← since node.span.start) quantifier node])

/-! ## Bodies -/

/-- Alternatives that are complete, and the items of the present one with its start. -/
structure Draft where
  start : Position
  alternatives : List Node
  itemsStart : Position
  items : List Node

namespace Draft

def fresh (p : Position) : Draft := ⟨p, [], p, []⟩

/-- The items so far as one node. -/
def present (d : Draft) (stop : Position) : Node :=
  match d.items with
  | [] => .empty ⟨d.itemsStart, stop⟩
  | [node] => node
  | nodes => .concatenation ⟨d.itemsStart, stop⟩ nodes

/-- Completes the present alternative in front of a bar. -/
def nextAlternative (d : Draft) (stop : Position) (next : Position) : Draft :=
  { d with alternatives := d.alternatives ++ [d.present stop], itemsStart := next, items := [] }

def toNode (d : Draft) (stop : Position) : Node :=
  match d.alternatives with
  | [] => d.present stop
  | nodes => .alternation ⟨d.start, stop⟩ (nodes ++ [d.present stop])

end Draft

def ClassItem.toNode : ClassItem → Node
  | bracketed span negated content => .bracketed span negated content
  | item => .bracketed item.span false item

/-- A part without structure. -/
def simple : Reader Node := do
  match ← peek? with
  | some '\\' => do pure (← escape).toNode
  | some c => do
    let span ← charSpan
    bump
    pure (match c with
      | '.' => .dot span
      | '^' => .assertion span .startLine
      | '$' => .assertion span .endLine
      | c => .literal ⟨span, c, false⟩)
  | none => do pure (.empty (.point (← position)))

/-- The alternatives up to the closing parenthesis of the group opened at `opening`, or up to the
end of the pattern.  Every step passes over a character, so as many steps as there are characters
are enough, and one more for the end. -/
def body : Nat → Option Span → Draft → Reader Node
  | 0, _, draft => do pure (draft.toNode (← position))
  | n + 1, opening, draft => do
    skip
    match ← peek? with
    | none =>
      match opening with
      | some span => fail .groupUnclosed span
      | none => do pure (draft.toNode (← position))
    | some ')' =>
      match opening with
      | none => do fail .groupUnopened (← charSpan)
      | some _ => do
        let stop ← position
        bump
        pure (draft.toNode stop)
    | some '(' => do
      match ← groupHead with
      | .flags span marks => do
        modify fun c => { c with verbose := (marks.setting? .verbose true).getD c.verbose }
        body n opening { draft with items := draft.items ++ [.flags span marks] }
      | .body span marks => do
        let outer := (← get).verbose
        let inner := ((marks.getD []).setting? .verbose true).getD outer
        modify fun c => { c with verbose := inner }
        let node ← body n (some span) (.fresh (← position))
        modify fun c => { c with verbose := outer }
        let group := Node.group (← since span.start) marks node
        body n opening { draft with items := draft.items ++ [group] }
    | some '|' => do
      let stop ← position
      bump
      body n opening (draft.nextAlternative stop (← position))
    | some '[' => do
      let item ← bracketClass
      body n opening { draft with items := draft.items ++ [item.toNode] }
    | some '\x7b' => do
      body n opening { draft with items := ← counted draft.items }
    | some c =>
      match signs.lookup c with
      | some quantifier => do
        body n opening { draft with items := ← repeated draft.items quantifier }
      | none => do
        let node ← simple
        body n opening { draft with items := draft.items ++ [node] }

/-! ## Nesting -/

/-- How deep parts may be nested. -/
def nestLimit : Nat := 250

mutual

/-- The first part of a class that is nested too deep, `depth` levels being left. -/
def ClassItem.tooDeep? (depth : Nat) : ClassItem → Option Span
  | .bracketed span _ content =>
    if depth = 0 then some span else content.tooDeep? (depth - 1)
  | .union span items => if depth = 0 then some span else tooDeepItems? (depth - 1) items
  | .combined span _ left right =>
    if depth = 0 then some span else left.tooDeep? (depth - 1) <|> right.tooDeep? (depth - 1)
  | _ => none

def tooDeepItems? (depth : Nat) : List ClassItem → Option Span
  | [] => none
  | item :: rest => item.tooDeep? depth <|> tooDeepItems? depth rest

end

mutual

/-- The first part that is nested too deep, `depth` levels being left. -/
def Node.tooDeep? (depth : Nat) : Node → Option Span
  | .bracketed span _ content =>
    if depth = 0 then some span else content.tooDeep? (depth - 1)
  | .repetition span _ node => if depth = 0 then some span else node.tooDeep? (depth - 1)
  | .group span _ node => if depth = 0 then some span else node.tooDeep? (depth - 1)
  | .alternation span nodes =>
    if depth = 0 then some span else tooDeepNodes? (depth - 1) nodes
  | .concatenation span nodes =>
    if depth = 0 then some span else tooDeepNodes? (depth - 1) nodes
  | _ => none

def tooDeepNodes? (depth : Nat) : List Node → Option Span
  | [] => none
  | node :: rest => node.tooDeep? depth <|> tooDeepNodes? depth rest

end

/-- The pattern that a text stands for. -/
def read (text : List Char) : Except Problem Node := do
  let (node, _) ← (body (text.length + 1) none (.fresh {})).run { rest := text }
  match node.tooDeep? nestLimit with
  | some span => throw ⟨.nestLimitExceeded nestLimit, span, none⟩
  | none => pure node

end Pattern
end FlowCheck
