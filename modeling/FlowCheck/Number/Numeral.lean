import FlowCheck.Number.Binary64
import FlowCheck.Number.Word

/-!
# Numerals in plain text

Reading integers and decimal fractions as they are written in conditions and in plain scalars: an
optional sign, digits, an optional fraction and an optional exponent.  Digits may stand on one
side of the point only.
-/

namespace FlowCheck
namespace Numeral

/-- The value of a row of ASCII digits. -/
def valueOf (digits : List Char) : Nat :=
  digits.foldl (fun n d => n * 10 + (d.toNat - '0'.toNat)) 0

/-- At least one digit, and nothing else. -/
def natural? (cs : List Char) : Option Nat :=
  if cs.isEmpty || !cs.all Char.isDigit then none else some (valueOf cs)

/-- Splits off a sign: whether it is a minus, and the rest. -/
def splitSign : List Char → Bool × List Char
  | '+' :: cs => (false, cs)
  | '-' :: cs => (true, cs)
  | cs => (false, cs)

/-- An optional sign and digits. -/
def integer? (cs : List Char) : Option Int :=
  let (negative, digits) := splitSign cs
  (natural? digits).map fun n => if negative then -(n : Int) else n

/-- An integer of 64 bits. -/
def int64? (cs : List Char) : Option Int :=
  (integer? cs).filter (Word.fitsSigned 64)

/-- A position in a list: digits behind an optional plus. -/
def index? (cs : List Char) : Option Nat :=
  let digits := match cs with
    | '+' :: cs => cs
    | cs => cs
  (natural? digits).filter (· < Word.count 64)

/-- The exponent behind a mantissa: nothing, or a letter and an integer. -/
def exponent? : List Char → Option Int
  | [] => some 0
  | c :: cs => if c = 'e' ∨ c = 'E' then integer? cs else none

/-- The double nearest to a decimal numeral; none for other texts and beyond the largest double. -/
def real? (cs : List Char) : Option Binary64 :=
  let (negative, cs) := splitSign cs
  let whole := cs.takeWhile Char.isDigit
  let rest := cs.dropWhile Char.isDigit
  let (fraction, rest) := match rest with
    | '.' :: cs => (cs.takeWhile Char.isDigit, cs.dropWhile Char.isDigit)
    | cs => ([], cs)
  if whole.isEmpty && fraction.isEmpty then none
  else
    (exponent? rest).bind fun e =>
      Binary64.ofDecimal? negative (valueOf (whole ++ fraction)) (e - fraction.length)

end Numeral
end FlowCheck
