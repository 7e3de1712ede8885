/-!
# Sets of code points

A set of code points is a list of inclusive ranges in ascending order.  A table is kept as lines
of text: hexadecimal ranges such as `41-5A` and single code points such as `AA`, with a space
between two of them.
-/

namespace FlowCheck
namespace Unicode

/-- Inclusive ranges of code points. -/
abbrev Ranges := List (Nat × Nat)

namespace Ranges

def hexValue (c : Char) : Nat :=
  if c.toNat < 65 then c.toNat - 48 else c.toNat - 55

/-- Reads a line: `low` is the start of a range whose end is being read, `n` the number so far. -/
def read (low : Option Nat) (n : Nat) : List Char → Ranges
  | [] => [(low.getD n, n)]
  | c :: cs =>
    if c = ' ' then (low.getD n, n) :: read none 0 cs
    else if c = '-' then read (some n) 0 cs
    else read low (n * 16 + hexValue c) cs

def ofTable (lines : List String) : Ranges := lines.flatMap fun line => read none 0 line.toList

def has (ranges : Ranges) (n : Nat) : Bool := ranges.any fun r => r.1 ≤ n && n ≤ r.2

/-! ## Sets -/

/-- Adds a range behind those read so far, the last one first, joining what touches. -/
def joinOnto (done : Ranges) (r : Nat × Nat) : Ranges :=
  match done with
  | [] => [r]
  | last :: before =>
    if r.1 ≤ last.2 + 1 then (last.1, max last.2 r.2) :: before else r :: last :: before

/-- The same set in ascending ranges that do not touch. -/
def normal (ranges : Ranges) : Ranges :=
  ((ranges.mergeSort fun a b => a.1 ≤ b.1).foldl joinOnto []).reverse

/-- The code points from `low` on that are in none of some ascending ranges. -/
def gaps (low : Nat) : Ranges → Ranges
  | [] => if low ≤ 0x10FFFF then [(low, 0x10FFFF)] else []
  | r :: rest => (if low < r.1 then [(low, r.1 - 1)] else []) ++ gaps (r.2 + 1) rest

/-- The code points that are no characters: one half of a pair in another encoding. -/
def surrogates : Ranges := [(0xD800, 0xDFFF)]

/-- The characters that are not in the set. -/
def complement (ranges : Ranges) : Ranges := gaps 0 (normal (ranges ++ surrogates))

def union (a b : Ranges) : Ranges := normal (a ++ b)

def inter (a b : Ranges) : Ranges := complement (complement a ++ complement b)

def diff (a b : Ranges) : Ranges := complement (complement a ++ b)

end Ranges

end Unicode
end FlowCheck
