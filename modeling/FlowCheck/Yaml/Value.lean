import FlowCheck.Yaml.Grammar
import FlowCheck.Yaml.Node
import FlowCheck.Yaml.PlainValue

/-!
# The JSON value of a document

Nodes are read in the order of the text, and the first problem counts; one in the text itself comes
after those of the nodes in front of it.  A reference stands for the node that it refers to.

Nodes may be nested to a depth of 128, and a document may follow so many references as it has
events, a hundred times over.  A node without a value is reported with the path to it and with its
place.
-/

namespace FlowCheck
namespace Yaml

/-! ## Paths -/

/-- Where a node stands in its document. -/
inductive Path where
  | root
  | item (parent : Path) (index : Nat)
  | member (parent : Path) (key : String)
  /-- The value of a key that has no text of its own. -/
  | unknown (parent : Path)
  | referred (parent : Path)

namespace Path

mutual

def text : Path → String
  | root => "."
  | item parent index => parent.text ++ "[" ++ toString index ++ "]"
  | member parent key => parent.stem ++ key
  | unknown parent => parent.stem ++ "?"
  | referred parent => parent.text

/-- What stands in front of a key. -/
def stem : Path → String
  | root => ""
  | item parent index => parent.text ++ "[" ++ toString index ++ "]" ++ "."
  | member parent key => parent.stem ++ key ++ "."
  | unknown parent => parent.stem ++ "?" ++ "."
  | referred parent => parent.text ++ "."

end

end Path

/-! ## Reading nodes -/

/-- What is known about a document while its nodes are read. -/
structure Surroundings where
  anchored : List (Nat × Node)
  /-- How many references may be followed. -/
  references : Nat
  /-- What an unfinished node is due to. -/
  problem : Problem

/-- Reads a value, counting the references that were followed. -/
abbrev Reading := StateT Nat (Except Problem)

namespace Node

/-- Gives the place to a node without a value, if none nearer to it is known. -/
def placed {α : Type} (path : Path) (mark : Mark) (r : Reading α) : Reading α :=
  fun n => (r n).mapError (·.placedAt path.text mark)

/-- The node behind a reference. -/
def follow (env : Surroundings) (anchor : Nat) : Reading Node := do
  modify (· + 1)
  if env.references < (← get) then throw .tooManyRepetitions
  pure ((env.anchored.lookup anchor).getD .unfinished)

/-- A tag that is none of the standard ones. -/
def isCustomTag : Option Octets → Bool
  | some (mark :: rest) => mark == 0x21 && (String.fromUTF8? ⟨rest.toArray⟩).isSome
  | _ => false

/-- There is no value for a node with a tag of its own. -/
def refuseCustomTag (p : Properties) : Reading Unit :=
  if isCustomTag p.tag then throw (.unfit .customTag none) else pure ()

/-- The text of a key.  The first key of a mapping is asked for in other words than the others. -/
def keyText (env : Surroundings) (isFirst : Bool) (path : Path) : Node → Reading String
  | .scalar _ _ text => pure text
  | .sequence p _ => placed path p.mark (throw (.unfit (.keyNotText false isFirst) none))
  | .mapping p _ => placed path p.mark (throw (.unfit (.keyNotText true isFirst) none))
  | .reference .. | .unfinished => throw env.problem

/-- The text of a key, and the path to its value. -/
def readKey (env : Surroundings) (isFirst : Bool) (path : Path) : Node → Reading (String × Path)
  | .reference anchor mark => placed path mark do
    let target ← follow env anchor
    pure (← target.keyText env isFirst (.referred path), .unknown path)
  | n => do
    let key ← n.keyText env isFirst path
    pure (key, .member path key)

/-- How the items of a node are read. -/
abbrev ItemReader := Path → Node → Reading Json

/-- The items of a sequence from number `index` on. -/
def readItems (item : ItemReader) (path : Path) :
    (index : Nat) → List Node → Reading (List Json)
  | _, [] => pure []
  | index, n :: ns => do
    let j ← item (.item path index) n
    pure (j :: (← readItems item path (index + 1) ns))

/-- The members of a mapping. -/
def readMembers (env : Surroundings) (item : ItemReader) (path : Path) :
    (isFirst : Bool) → List Node → Reading (List (String × Json))
  | isFirst, k :: v :: ns => do
    let (key, below) ← k.readKey env isFirst path
    let j ← item below v
    pure ((key, j) :: (← readMembers env item path false ns))
  | isFirst, [k] => do
    let _ ← k.readKey env isFirst path
    throw env.problem
  | _, [] => pure []

/-- A node that is no reference.  Without a reader for its items it is nested too deeply. -/
def readContent (env : Surroundings) (item : Option ItemReader) (path : Path) :
    Node → Reading Json
  | .scalar p isPlain text => placed path p.mark do
    refuseCustomTag p
    liftM ((PlainValue.ofScalar p.tag isPlain text).mapError (Problem.unfit · none))
  | .sequence p items => placed path p.mark do
    refuseCustomTag p
    match item with
    | none => throw (.tooDeep p.mark)
    | some item => pure (.arr (← readItems item path 0 items))
  | .mapping p items => placed path p.mark do
    refuseCustomTag p
    match item with
    | none => throw (.tooDeep p.mark)
    | some item => pure (.object (← readMembers env item path true items))
  | .reference .. | .unfinished => throw env.problem

/-- A node, or the node that it refers to. -/
def read (env : Surroundings) (item : Option ItemReader) (path : Path) : Node → Reading Json
  | .reference anchor mark => placed path mark do
    (← follow env anchor).readContent env item (.referred path)
  | n => n.readContent env item path

/-- A node, with room for `depth` further levels. -/
def value (env : Surroundings) : (depth : Nat) → ItemReader
  | 0 => read env none
  | depth + 1 => read env (some (value env depth))

end Node

/-! ## Whole texts -/

def depthLimit : Nat := 128

/-- How often a document may follow a reference for each of its events. -/
def referencesPerEvent : Nat := 100

namespace Document

/-- The value of the first node; nothing at all stands for null. -/
def firstValue (d : Document) : Except Problem Json := do
  let env : Surroundings := {
    anchored := d.anchored
    references := d.events.length * referencesPerEvent
    problem := d.problem?.getD .severalDocuments }
  if d.events.isEmpty && d.problem?.isNone then pure .null
  else (Node.value env depthLimit .root (.ofEvents d.events)).run' 0

/-- The value of a document, which must be the only one. -/
def value (d : Document) : Except Problem Json := do
  let j ← d.firstValue
  match d.problem? with
  | some p => throw p
  | none => if d.hasMore then throw .severalDocuments else pure j

end Document

/-- The value of a text. -/
def read (text : String) : Except Problem Json := do
  let c ← Cursor.start text
  c.tokens.document.value

end Yaml
end FlowCheck
