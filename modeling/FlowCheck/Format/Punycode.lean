import FlowCheck.Number.Word

/-!
# Punycode

Reading a label that spells characters of all scripts in ASCII.  The characters are given in
ascending order, each by how far a counter over (code point, place) has moved since the last one.
The distance is a number of variable length whose digits have thresholds that follow the distances
seen so far.
-/

namespace FlowCheck
namespace Punycode

/-- Letters are the digits from 0, decimal digits those from 26. -/
def digit? (c : Char) : Option Nat :=
  if 'a' ≤ c && c ≤ 'z' then some (c.toNat - 'a'.toNat)
  else if 'A' ≤ c && c ≤ 'Z' then some (c.toNat - 'A'.toNat)
  else if c.isDigit then some (c.toNat - '0'.toNat + 26)
  else none

/-- The least digit at place `k` that is not the last one of a number, as 1, 26 or in between. -/
def threshold (k bias : Nat) : Nat := min 26 (max 1 (k - bias))

/-- Divides a distance until it is small: the number of divisions in steps of 36, and the rest. -/
def damp : Nat → Nat → Nat → Nat × Nat
  | 0, k, delta => (k, delta)
  | n + 1, k, delta => if delta > 455 then damp n (k + 36) (delta / 35) else (k, delta)

/-- The bias after a distance, with `count` characters read. -/
def adapt (delta count : Nat) (first : Bool) : Nat :=
  let delta := if first then delta / 700 else delta / 2
  let (k, delta) := damp delta 0 (delta + delta / count)
  k + 36 * delta / (delta + 38)

/-- Where reading stands: the characters so far, the counter, and the number being read. -/
structure State where
  chars : List Char
  code : Nat := 128
  index : Nat := 0
  bias : Nat := 72
  /-- The value of the number so far, the weight of its next digit and that digit's place. -/
  distance : Nat := 0
  weight : Nat := 1
  place : Nat := 36

namespace State

/-- Moves the counter by a distance and puts the character there. -/
def insert? (s : State) (distance : Nat) : Option State :=
  let count := s.chars.length + 1
  let total := s.index + distance
  let code := s.code + total / count
  let index := total % count
  if code.isValidChar then
    some { chars := s.chars.take index ++ Char.ofNat code :: s.chars.drop index
           code := code
           index := index + 1
           bias := adapt distance count (s.index == 0) }
  else none

/-- Reads one digit. -/
def step? (s : State) (c : Char) : Option State := do
  let d ← digit? c
  let distance := s.distance + d * s.weight
  if distance ≥ Word.count 32 then none
  else
    let t := threshold s.place s.bias
    if d < t then s.insert? distance
    else some { s with
      distance := distance, weight := s.weight * (36 - t), place := s.place + 36 }

end State

/-- The ASCII characters in front of the last hyphen, and the digits behind it. -/
def parts (cs : List Char) : List Char × List Char :=
  match cs.reverse.span (· != '-') with
  | (_, []) => ([], cs)
  | (_, [_]) => ([], cs)
  | (digits, _ :: base) => (base.reverse, digits.reverse)

/-- The characters that a text spells. -/
def decode? (cs : List Char) : Option (List Char) := do
  let (base, digits) := parts cs
  let s ← digits.foldlM State.step? { chars := base }
  if s.place = 36 then some s.chars else none

end Punycode
end FlowCheck
