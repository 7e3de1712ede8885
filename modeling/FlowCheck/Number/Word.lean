/-!
# Words of a fixed width

An integer fits a word of so many bits, with or without a sign.  The limits are shifts of one, so
that a width is read off the definition and no limit is spelled out in digits.

## Main definitions

* `Word.count` : the number of words of a width
* `Word.fitsSigned`, `Word.fitsUnsigned` : the integers that a word of a width holds
-/

namespace FlowCheck
namespace Word

/-- How many words of so many bits there are. -/
def count (bits : Nat) : Nat := 1 <<< bits

/-- The integers from zero up that a word of so many bits holds. -/
def fitsUnsigned (bits : Nat) (n : Int) : Bool := 0 ≤ n && n < count bits

/-- The integers that a word holds whose first bit is its sign. -/
def fitsSigned (bits : Nat) (n : Int) : Bool :=
  -(count (bits - 1) : Int) ≤ n && n < count (bits - 1)

end Word
end FlowCheck
