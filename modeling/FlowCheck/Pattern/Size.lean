import FlowCheck.Pattern.Matcher

/-!
# The size of a pattern

A pattern is refused when the automaton for it would be too large.  Its size is counted in bytes: a
state for every byte of a character, two for a capture, and the states that join the parts of
alternatives and repetitions.  A repetition holds a copy of its inside for every count.

A set of characters beyond ASCII is an automaton on the bytes of its characters.  Ranges are cut
into sequences of byte ranges, and sequences share the states of their common beginnings.

## Main definitions

* `Matcher.size` : the size of a matcher
* `Matcher.sizeLimit` : the largest size allowed
-/

namespace FlowCheck
namespace Matcher

/-- The bytes that a state takes. -/
def stateSize : Nat := 32

/-- The bytes that an edge out of a joining state takes. -/
def edgeSize : Nat := 4

/-- The bytes that one of several byte ranges in a state takes. -/
def rangeSize : Nat := 8

/-- The largest size allowed. -/
def sizeLimit : Nat := 10 * 1024 * 1024

/-! ## Sets of characters -/

/-- The bytes of a character. -/
def bytes (n : Nat) : List Nat :=
  if n < 0x80 then [n]
  else if n < 0x800 then [0xC0 + n / 64, 0x80 + n % 64]
  else if n < 0x10000 then [0xE0 + n / 4096, 0x80 + n / 64 % 64, 0x80 + n % 64]
  else [0xF0 + n / 262144, 0x80 + n / 4096 % 64, 0x80 + n / 64 % 64, 0x80 + n % 64]

/-- Where a range has to be cut so that the bytes of both parts vary independently: behind the last
character of some length, or where the trailing bytes do not run through all their values. -/
def cut? (low high : Nat) : Option Nat :=
  let atLength := [0x7F, 0x7FF, 0xFFFF].find? fun m => low ≤ m && m < high
  let atBlock := [64, 4096, 262144].findSome? fun block =>
    if low / block = high / block then none
    else if low % block ≠ 0 then some (low / block * block + block - 1)
    else if high % block ≠ block - 1 then some (high / block * block - 1)
    else none
  atLength <|> if high < 0x80 then none else atBlock

/-- The byte sequences of a range.  Every length and every block is cut at most at both ends, so a
few rounds of cutting are enough. -/
def sequences : Nat → Nat → Nat → List (List (Nat × Nat))
  | 0, low, high => [(bytes low).zip (bytes high)]
  | n + 1, low, high =>
    match cut? low high with
    | some m => sequences n low m ++ sequences n (m + 1) high
    | none => [(bytes low).zip (bytes high)]

def commonLength : List (Nat × Nat) → List (Nat × Nat) → Nat
  | a :: as, b :: bs => if a = b then commonLength as bs + 1 else 0
  | _, _ => 0

/-- The number of byte ranges in some sequences, those at a common beginning of neighbours counted
once. -/
def sharedStates (last : List (Nat × Nat)) : List (List (Nat × Nat)) → Nat
  | [] => 0
  | s :: rest => (s.length - commonLength last s) + sharedStates s rest

def sizeOfSet (ranges : Unicode.Ranges) : Nat :=
  match ranges.normal with
  | [] => stateSize
  | [(low, high)] =>
    if low = high then (bytes low).length * stateSize
    else if high < 0x80 then 2 * stateSize
    else wide [(low, high)]
  | many =>
    if many.all fun r => r.2 < 0x80 then 2 * stateSize + many.length * rangeSize else wide many
where
  wide (ranges : Unicode.Ranges) : Nat :=
    let ss := ranges.flatMap fun r => sequences 16 r.1 r.2
    (2 + sharedStates [] ss) * stateSize + ss.length * edgeSize

/-! ## Matchers -/

mutual

/-- Matches the empty stretch only. -/
def isEmptyWidth : Matcher → Bool
  | .empty => true
  | .set _ => false
  | .look _ => true
  | .capture inner => inner.isEmptyWidth
  | .concat parts => areEmptyWidth parts
  | .either parts => areEmptyWidth parts
  | .repeated _ most inner => most == some 0 || inner.isEmptyWidth

def areEmptyWidth : List Matcher → Bool
  | [] => true
  | part :: rest => part.isEmptyWidth && areEmptyWidth rest

end

/-- The size of a repetition of something of a size. -/
def sizeOfRepetition (least : Nat) (most : Option Nat) (inner : Nat) : Nat :=
  match most with
  | none => (max least 1) * inner + stateSize + 2 * edgeSize
  | some m =>
    if m = least then max (least * inner) stateSize
    else max (least * inner) stateSize + stateSize +
      (m - least) * (inner + stateSize + 2 * edgeSize)

mutual

/-- The size of a matcher.  Repeating what has no width is doing it once. -/
def size : Matcher → Nat
  | .empty => 0
  | .set ranges => sizeOfSet ranges
  | .look _ => stateSize
  | .capture inner => inner.size + 2 * stateSize
  | .concat parts => sizeOfAll parts
  | .either parts => sizeOfAll parts + 2 * stateSize + parts.length * edgeSize
  | .repeated least most inner =>
    if inner.isEmptyWidth then sizeOfRepetition (min least 1) (some 1) inner.size
    else sizeOfRepetition least most inner.size

def sizeOfAll : List Matcher → Nat
  | [] => 0
  | part :: rest => part.size + sizeOfAll rest

end

end Matcher
end FlowCheck
