import FlowCheck.Text.Blank
import FlowCheck.Unicode.Category
import FlowCheck.Unicode.Letter

/-!
# Word characters and digits

The character classes of words: letters, marks, decimal digits, connectors and the two joiners.
-/

namespace FlowCheck
namespace Unicode

def isDigit (c : Char) : Bool :=
  if c.toNat < 128 then c.isDigit else Category.rangeNd.has c.toNat

/-- The code points of word characters outside the alphabetic ones. -/
def wordRanges : List Ranges :=
  [Category.rangeMn, Category.rangeMc, Category.rangeMe, Category.rangeNd, Category.rangePc,
    [(0x200C, 0x200D)]]

def isWord (c : Char) : Bool :=
  if c.toNat < 128 then c.isAlphanum || c == '_'
  else alphabetic.has c.toNat || wordRanges.any fun r => r.has c.toNat

end Unicode
end FlowCheck
