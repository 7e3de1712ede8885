import FlowCheck.Yaml.Token

/-!
# Events

What a document says, in the order of its text: scalars, references to anchored nodes, and the
beginning and the end of sequences and mappings.  Anchors are numbered; in a mapping keys and values
take turns.
-/

namespace FlowCheck
namespace Yaml

/-- Where a node begins, and what stands in front of it. -/
structure Properties where
  mark : Mark
  tag : Option Octets := none
  anchor : Option Nat := none
deriving DecidableEq

inductive Event where
  | scalar (properties : Properties) (isPlain : Bool) (text : String)
  | reference (anchor : Nat) (mark : Mark)
  | sequence (properties : Properties)
  | mapping (properties : Properties)
  /-- The innermost sequence or mapping ends. -/
  | close
deriving DecidableEq

/-- The first document of a text: what it says up to its end or up to a problem, and whether there
is anything behind it. -/
structure Document where
  events : List Event
  problem? : Option Problem
  hasMore : Bool

end Yaml
end FlowCheck
