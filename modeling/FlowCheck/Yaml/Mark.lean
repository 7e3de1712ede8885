/-!
# Places in a YAML text

Lines and columns are counted from zero, a column per character, and shown counted from one.
-/

namespace FlowCheck
namespace Yaml

structure Mark where
  line : Nat := 0
  column : Nat := 0
deriving DecidableEq

namespace Mark

/-- The very beginning of a text, which no message names. -/
def isStart (m : Mark) : Bool := m.line == 0 && m.column == 0

/-- The place as a message names it. -/
def text (m : Mark) : String :=
  "line " ++ toString (m.line + 1) ++ " column " ++ toString (m.column + 1)

/-- The place behind `n` characters on the same line. -/
def right (m : Mark) (n : Nat) : Mark := ⟨m.line, m.column + n⟩

/-- The beginning of the next line. -/
def down (m : Mark) : Mark := ⟨m.line + 1, 0⟩

end Mark

end Yaml
end FlowCheck
