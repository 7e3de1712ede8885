import FlowCheck.Number.Binary64

/-!
# Shortest decimal digits of a double

Among the decimals that read back as a given double, the shortest one is written, and of two
equally short ones the nearer.  The search runs down the decimal grids `10 ^ k, 10 ^ (k - 1), …`;
on each grid only the two neighbours of the value can lie in the interval of reals that round
to it, so two comparisons in exact integer arithmetic settle a grid.

A written form (`DecimalForm`) says which values are written positionally, whether a whole
number ends in `.0`, and which of two equally near neighbours is taken.
-/

namespace FlowCheck

/-- The number `digits · 10 ^ exponent`. -/
structure Decimal where
  digits : Nat
  exponent : Int
deriving DecidableEq

/-- Which of two equally near neighbours on a grid is taken. -/
inductive Tie where
  | even
  | up
deriving DecidableEq

namespace Binary64

/-- The reals that round to a double, scaled by four to make the ends whole. -/
structure Interval where
  low : Nat
  value : Nat
  high : Nat
  den : Nat
  closed : Bool

/-- The ends are half way to the neighbouring doubles and belong to `x` iff its significand is
even; below a power of two the neighbour is half as far. -/
def interval (x : Binary64) : Interval :=
  let below := if x.significand = 1 <<< 52 ∧ x.exponent ≠ 0 then 1 else 2
  { low := (4 * x.significand - below) <<< x.exponent
    value := (4 * x.significand) <<< x.exponent
    high := (4 * x.significand + 2) <<< x.exponent
    den := 4 * unitsPerOne
    closed := x.significand % 2 == 0 }

namespace Interval

/-- Whether `num / den` lies in the interval. -/
def contains (i : Interval) (num den : Nat) : Bool :=
  let n := num * i.den
  if i.closed then i.low * den ≤ n && n ≤ i.high * den
  else i.low * den < n && n < i.high * den

/-- The point of the grid of step `10 ^ k` that lies in the interval, the nearer one of two. -/
def onGrid (i : Interval) (tie : Tie) (k : Int) : Option Nat :=
  let num := Nat.pow 10 k.toNat
  let den := Nat.pow 10 (-k).toNat
  let q := i.value * den / (i.den * num)
  let r := i.value * den % (i.den * num)
  let lower := i.contains (q * num) den
  let upper := i.contains ((q + 1) * num) den
  let preferUpper :=
    if 2 * r = i.den * num then tie == .up || q % 2 == 1 else i.den * num < 2 * r
  if lower && upper then some (if preferUpper then q + 1 else q)
  else if lower then some q
  else if upper then some (q + 1)
  else none

/-- The first of `n` grids from `10 ^ k` downwards that has a point in the interval. -/
def firstGrid (i : Interval) (tie : Tie) : Nat → Int → Decimal
  | 0, k => ⟨i.value / i.den, k⟩
  | n + 1, k =>
    match i.onGrid tie k with
    | some d => ⟨d, k⟩
    | none => i.firstGrid tie n (k - 1)

end Interval

/-- An upper bound for the decimal exponent of the first digit. -/
def topExponent (x : Binary64) : Int :=
  ((x.significand.log2 + x.exponent + 1 : Int) - 1074) * 30103 / 100000 + 1

/-- The shortest decimal that reads back as the absolute value of `x`.  Seventeen digits always
suffice, and the top grid is at most two above the first digit. -/
def shortest (x : Binary64) (tie : Tie) : Decimal :=
  if x.isZero then ⟨0, 0⟩ else x.interval.firstGrid tie 21 x.topExponent

end Binary64

/-! ## Written forms -/

/-- How a decimal is laid out as text. -/
structure DecimalForm where
  tie : Tie
  /-- The exponents of the first digit at which the value is written without an exponent. -/
  positional : Int → Bool
  /-- A whole number written positionally ends in `.0`. -/
  pointZero : Bool

namespace DecimalForm

/-- JSON text: an exponent below `10 ^ -5` and from `10 ^ 16` on, and never a bare integer. -/
def json : DecimalForm := ⟨.even, fun e => -5 ≤ e && e < 16, true⟩

/-- Plain text in messages: never an exponent, and whole numbers without a point. -/
def plain : DecimalForm := ⟨.up, fun _ => true, false⟩

def zeros (n : Nat) : List Char := List.replicate n '0'

/-- Positional notation of `ds · 10 ^ exponent`. -/
def layPositional (form : DecimalForm) (ds : List Char) (exponent : Int) : List Char :=
  if exponent ≥ 0 then
    ds ++ zeros exponent.toNat ++ (if form.pointZero then ['.', '0'] else [])
  else
    let places := (-exponent).toNat
    if places < ds.length then
      ds.take (ds.length - places) ++ '.' :: ds.drop (ds.length - places)
    else '0' :: '.' :: zeros (places - ds.length) ++ ds

/-- Scientific notation: one digit before the point, and a signed exponent. -/
def layScientific (ds : List Char) (first : Int) : List Char :=
  let mantissa := match ds with
    | d :: d' :: rest => d :: '.' :: d' :: rest
    | ds => ds
  let sign := if first < 0 then '-' else '+'
  mantissa ++ 'e' :: sign :: Nat.toDigits 10 first.natAbs

/-- The text of a double. -/
def render (form : DecimalForm) (x : Binary64) : String :=
  let d := x.shortest form.tie
  let ds := Nat.toDigits 10 d.digits
  let first := d.exponent + ds.length - 1
  let body := if x.isZero || form.positional first then form.layPositional ds d.exponent
    else layScientific ds first
  String.ofList (if x.negative then '-' :: body else body)

end DecimalForm

end FlowCheck
