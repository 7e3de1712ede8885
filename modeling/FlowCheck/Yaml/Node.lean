import FlowCheck.Yaml.Event

/-!
# Nodes

The tree that the events of a document make.  Where the events break off, the tree has an unfinished
node, and nothing behind it.
-/

namespace FlowCheck
namespace Yaml

inductive Node where
  | scalar (properties : Properties) (isPlain : Bool) (text : String)
  | reference (anchor : Nat) (mark : Mark)
  | sequence (properties : Properties) (items : List Node)
  /-- Keys and values in turn. -/
  | mapping (properties : Properties) (items : List Node)
  | unfinished

namespace Node

/-- A sequence or a mapping that has not ended, with its items so far, the last first. -/
structure Opened where
  properties : Properties
  isMapping : Bool
  items : List Node

/-- The node with one more item at its end. -/
def Opened.closeWith (o : Opened) (last : List Node) : Node :=
  let items := o.items.reverse ++ last
  if o.isMapping then .mapping o.properties items else .sequence o.properties items

/-- The first node of a row of events, inside the nodes that have not ended, the innermost first. -/
def ofEventsIn : (opened : List Opened) → List Event → Node
  | opened, [] => opened.foldl (fun n o => o.closeWith [n]) .unfinished
  | [], .scalar p isPlain text :: _ => .scalar p isPlain text
  | [], .reference anchor mark :: _ => .reference anchor mark
  | [], .close :: _ => .unfinished
  | o :: os, .scalar p isPlain text :: es =>
    ofEventsIn ({ o with items := .scalar p isPlain text :: o.items } :: os) es
  | o :: os, .reference anchor mark :: es =>
    ofEventsIn ({ o with items := .reference anchor mark :: o.items } :: os) es
  | opened, .sequence p :: es => ofEventsIn (⟨p, false, []⟩ :: opened) es
  | opened, .mapping p :: es => ofEventsIn (⟨p, true, []⟩ :: opened) es
  | [o], .close :: _ => o.closeWith []
  | o :: outer :: os, .close :: es =>
    ofEventsIn ({ outer with items := o.closeWith [] :: outer.items } :: os) es

/-- The first node of a row of events. -/
def ofEvents (events : List Event) : Node := ofEventsIn [] events

end Node

/-- The number of the anchor in front of a node. -/
def Event.anchor? : Event → Option Nat
  | .scalar p _ _ | .sequence p | .mapping p => p.anchor
  | .reference .. | .close => none

/-- The anchored nodes with their numbers, the last first. -/
def Document.anchored (d : Document) : List (Nat × Node) :=
  go [] d.events
where
  go (found : List (Nat × Node)) : List Event → List (Nat × Node)
    | [] => found
    | e :: es => match e.anchor? with
      | some number => go ((number, .ofEvents (e :: es)) :: found) es
      | none => go found es

end Yaml
end FlowCheck
