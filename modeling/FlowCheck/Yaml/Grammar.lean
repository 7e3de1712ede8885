import FlowCheck.Yaml.Event
import FlowCheck.Yaml.Token.Lexer

/-!
# The grammar of a document

The first document of a text is read from its tokens.  Nodes that are not written, such as the value
of a key at the end of a block, are empty plain scalars.  Whatever was said in front of a problem is
kept.

An anchor gets the number of names that were in use before it, so that a name that is used again
may share its new number with the next name.
-/

namespace FlowCheck
namespace Yaml

/-- The tokens that are left, and what is known and said so far. -/
structure Grammar where
  tokens : List Token
  problem? : Option Problem
  /-- The handles of tags, with what they stand for. -/
  handles : List (String × Octets) := [("!", octets "!"), ("!!", octets "tag:yaml.org,2002:")]
  /-- The anchors with their numbers, each name once. -/
  anchors : List (String × Nat) := []
  /-- What was said, the last first. -/
  events : List Event := []

/-- Reads a part of a document; a problem leaves what was said so far. -/
abbrev Parsing := ExceptT Problem (StateM Grammar)

namespace Grammar

open Token (Kind)

/-- The next token. -/
def peek : Parsing Token := do
  let s ← get
  match s.tokens, s.problem? with
  | t :: _, _ => pure t
  | [], some p => throw p
  | [], none => pure ⟨.textEnd, {}⟩

def peekKind : Parsing Kind := do pure (← peek).kind

/-- Passes over a token. -/
def shift : Parsing Unit := modify fun s => { s with tokens := s.tokens.tail }

def emit (e : Event) : Parsing Unit := modify fun s => { s with events := e :: s.events }

/-- Fails at the next token, within a larger piece of text that begins at `start`. -/
def fail {α : Type} (cause : Cause) (context : Option (Context × Mark)) : Parsing α := do
  throw (.malformed cause (← peek).mark context)

/-- A node that is not written. -/
def empty : Parsing Unit := do emit (.scalar { mark := (← peek).mark } true "")

/-- A node, unless a token stands here that ends the place for it. -/
def nodeUnless (stops : Kind → Bool) (node : Parsing Unit) : Parsing Unit := do
  if stops (← peekKind) then empty else node

/-! ## Anchors, references and tags -/

/-- Gives the next number to an anchor. -/
def setAnchor (name : String) : Parsing Nat := do
  let s ← get
  let number := s.anchors.length
  set { s with anchors := (name, number) :: s.anchors.filter fun a => a.1 != name }
  pure number

/-- A reference to an anchored node. -/
def reference (name : String) (mark : Mark) : Parsing Unit := do
  match (← get).anchors.lookup name with
  | some number => emit (.reference number mark)
  | none => throw (.unknownAnchor mark)

/-- An anchor and a tag in front of a node, in either order. -/
def readProperties : Parsing (Option String × Option (TagName × Mark)) := do
  let t ← peek
  match t.kind with
  | .anchor name => do
    shift
    let u ← peek
    match u.kind with
    | .tag tag =>
      shift
      pure (some name, some (tag, u.mark))
    | _ => pure (some name, none)
  | .tag tag => do
    shift
    match ← peekKind with
    | .anchor name =>
      shift
      pure (some name, some (tag, t.mark))
    | _ => pure (none, some (tag, t.mark))
  | _ => pure (none, none)

/-- The tag that a tag as written stands for. -/
def resolve (start : Mark) (tag : TagName) (mark : Mark) : Parsing Octets := do
  if tag.handle = "" then pure tag.rest
  else match (← get).handles.lookup tag.handle with
    | some stem => pure (stem ++ tag.rest)
    | none => throw (.malformed .unknownHandle mark (some (.node, start)))

/-- What stands in front of a node. -/
def properties : Parsing Properties := do
  let mark := (← peek).mark
  let (anchor, tag) ← readProperties
  let _ ← peek
  let tag ← tag.mapM fun t => resolve mark t.1 t.2
  let anchor ← anchor.mapM setAnchor
  pure { mark, tag, anchor }

/-! ## Tokens that end the place of a node -/

def endsEntry (k : Kind) : Bool := k == .dash || k == .blockEnd

def endsPair (k : Kind) : Bool := k == .key || k == .value || k == .blockEnd

def endsIndentless (k : Kind) : Bool := k == .dash || endsPair k

def endsItem (k : Kind) : Bool := k == .comma || k == .flowSequenceEnd

def endsMember (k : Kind) : Bool := k == .comma || k == .flowMappingEnd

/-! ## Nodes -/

/-- The tag of a scalar; a single exclamation mark says nothing about one. -/
def scalarProperties (p : Properties) : Properties :=
  if p.tag = some (octets "!") then { p with tag := none } else p

mutual

/-- A node.  `inBlock` says that a block may begin here, `indentless` that the entries of a sequence
may stand here without being indented.

Of the functions that follow no two call each other without passing over a token more than twice in
a row, so that `fuel` may be three times the number of the tokens. -/
def node (inBlock indentless : Bool) : (fuel : Nat) → Parsing Unit
  | 0 => pure ()
  | fuel + 1 => do
    let first ← peek
    if let .reference name := first.kind then
      reference name first.mark
      shift
    else
      let p ← properties
      let t ← peek
      match t.kind with
      | .scalar isPlain text =>
        emit (.scalar (scalarProperties p) isPlain text)
        shift
      | .flowSequence =>
        emit (.sequence p)
        shift
        flowItems t.mark true fuel
      | .flowMapping =>
        emit (.mapping p)
        shift
        flowMembers t.mark true fuel
      | kind =>
        if indentless && kind == .dash then
          emit (.sequence p)
          indentlessEntries fuel
        else if inBlock && kind == .blockSequence then
          emit (.sequence p)
          shift
          blockEntries t.mark fuel
        else if inBlock && kind == .blockMapping then
          emit (.mapping p)
          shift
          blockPairs t.mark fuel
        else if p.anchor.isSome || p.tag.isSome then emit (.scalar p true "")
        else fail .missingContent (some (if inBlock then .blockNode else .flowNode, p.mark))

/-- The entries of a sequence that is a block, each behind a dash. -/
def blockEntries (start : Mark) : (fuel : Nat) → Parsing Unit
  | 0 => pure ()
  | fuel + 1 => do
    match ← peekKind with
    | .dash =>
      shift
      nodeUnless endsEntry (node true false fuel)
      blockEntries start fuel
    | .blockEnd =>
      emit .close
      shift
    | _ => fail .missingDash (some (.blockSequence, start))

/-- The entries of a sequence in the column of the mapping around it. -/
def indentlessEntries : (fuel : Nat) → Parsing Unit
  | 0 => pure ()
  | fuel + 1 => do
    match ← peekKind with
    | .dash =>
      shift
      nodeUnless endsIndentless (node true false fuel)
      indentlessEntries fuel
    | _ => emit .close

/-- The keys of a mapping that is a block, each with its value. -/
def blockPairs (start : Mark) : (fuel : Nat) → Parsing Unit
  | 0 => pure ()
  | fuel + 1 => do
    match ← peekKind with
    | .key =>
      shift
      nodeUnless endsPair (node true true fuel)
      match ← peekKind with
      | .value =>
        shift
        nodeUnless endsPair (node true true fuel)
      | _ => empty
      blockPairs start fuel
    | .blockEnd =>
      emit .close
      shift
    | _ => fail .missingKey (some (.blockMapping, start))

/-- The items of a sequence between brackets, with commas between them. -/
def flowItems (start : Mark) (isFirst : Bool) : (fuel : Nat) → Parsing Unit
  | 0 => pure ()
  | fuel + 1 => do
    unless isFirst || (← peekKind) == .flowSequenceEnd do
      if (← peekKind) == .comma then shift
      else fail .missingCommaOrBracket (some (.flowSequence, start))
    let t ← peek
    match t.kind with
    | .flowSequenceEnd =>
      emit .close
      shift
    | .key =>
      emit (.mapping { mark := t.mark })
      shift
      pair fuel
      flowItems start false fuel
    | _ =>
      node false false fuel
      flowItems start false fuel

/-- A key and its value as an item of a sequence.  The token that stands in place of a missing key
is passed over. -/
def pair : (fuel : Nat) → Parsing Unit
  | 0 => pure ()
  | fuel + 1 => do
    let kind ← peekKind
    if kind == .value || endsItem kind then
      empty
      shift
    else node false false fuel
    flowValue endsItem fuel
    let _ ← peek
    emit .close

/-- The value of a key between brackets. -/
def flowValue (stops : Kind → Bool) : (fuel : Nat) → Parsing Unit
  | 0 => pure ()
  | fuel + 1 => do
    match ← peekKind with
    | .value =>
      shift
      nodeUnless stops (node false false fuel)
    | _ => empty

/-- The members of a mapping between braces, with commas between them. -/
def flowMembers (start : Mark) (isFirst : Bool) : (fuel : Nat) → Parsing Unit
  | 0 => pure ()
  | fuel + 1 => do
    unless isFirst || (← peekKind) == .flowMappingEnd do
      if (← peekKind) == .comma then shift
      else fail .missingCommaOrBrace (some (.flowMapping, start))
    match ← peekKind with
    | .flowMappingEnd =>
      emit .close
      shift
    | .key =>
      shift
      nodeUnless (fun k => k == .value || endsMember k) (node false false fuel)
      flowValue endsMember fuel
      flowMembers start false fuel
    | _ =>
      node false false fuel
      empty
      flowMembers start false fuel

end

/-! ## Documents -/

/-- Directives in front of a document, of which so many handles are declared already. -/
def directives (hasVersion : Bool) (declared : List (String × Octets)) :
    (fuel : Nat) → Parsing Unit
  | 0 => pure ()
  | fuel + 1 => do
    match ← peekKind with
    | .version major minor =>
      if hasVersion then fail .repeatedVersion none
      unless major = 1 && (minor = 1 || minor = 2) do fail .foreignVersion none
      shift
      directives true declared fuel
    | .handle name stem =>
      if (declared.lookup name).isSome then fail .repeatedHandle none
      shift
      directives hasVersion (declared ++ [(name, stem)]) fuel
    | _ => modify fun s => { s with handles := declared ++ s.handles }

def beginsDocument : Kind → Bool
  | .version .. | .handle .. | .documentStart => true
  | _ => false

/-- A node without a line in front of it, or, behind directives and such a line, a node that need
not be written.  A text without a document says nothing. -/
def content (fuel : Nat) : Parsing Unit := do
  let first ← peekKind
  if beginsDocument first then
    directives false [] fuel
    unless (← peekKind) == .documentStart do fail .missingDocumentStart none
    shift
    nodeUnless (fun k => beginsDocument k || k == .documentEnd || k == .textEnd)
      (node true false fuel)
  else unless first == .textEnd do node true false fuel

/-- A document and the token behind it. -/
def document (fuel : Nat) : Parsing Unit := do
  content fuel
  let _ ← peek

/-- Nothing but the ends of documents is left. -/
def isFinished (s : Grammar) : Bool :=
  match (s.tokens.dropWhile fun t => t.kind == .documentEnd) with
  | t :: _ => t.kind == .textEnd
  | [] => s.problem?.isNone

end Grammar

/-- The first document of a text. -/
def Tokens.document (ts : Tokens) : Document :=
  let s : Grammar := { tokens := ts.tokens, problem? := ts.problem? }
  let (result, s) := (Grammar.document (3 * ts.tokens.length + 3)).run.run s
  { events := s.events.reverse
    problem? := match result with
      | .error p => some p
      | .ok () => none
    hasMore := !s.isFinished }

end Yaml
end FlowCheck
