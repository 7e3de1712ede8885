import FlowCheck.Yaml.Source

/-!
# Tokens

The tokens of a YAML text.  Indentation is a matter of tokens too: the beginning and the end of
every block is a token of its own, and so is the beginning of a key, even where nothing is written
for it.
-/

namespace FlowCheck
namespace Yaml

/-- The octets of a tag, some of which may be written as escapes. -/
abbrev Octets := List UInt8

/-- The octets of an ASCII text. -/
def octets (s : String) : Octets := s.toList.map fun c => c.toNat.toUInt8

/-- A tag as it is written: a handle, which stands for the beginning of tags, and the rest. -/
structure TagName where
  handle : String
  rest : Octets
deriving DecidableEq

namespace Token

inductive Kind where
  | textEnd
  | version (major minor : Nat)
  | handle (name : String) (stem : Octets)
  | documentStart
  | documentEnd
  | blockSequence
  | blockMapping
  | blockEnd
  | flowSequence
  | flowSequenceEnd
  | flowMapping
  | flowMappingEnd
  | dash
  | comma
  | key
  | value
  | reference (name : String)
  | anchor (name : String)
  | tag (name : TagName)
  | scalar (isPlain : Bool) (text : String)
deriving DecidableEq

end Token

/-- What a token is, and where it begins. -/
structure Token where
  kind : Token.Kind
  mark : Mark

end Yaml
end FlowCheck
