import FlowCheck.Json.Reader
import FlowCheck.Number.Numeral
import FlowCheck.Yaml.Event

/-!
# What a scalar stands for

A plain scalar without a tag stands for null, a boolean or a number if it is written like one, and
for its text otherwise.  Integers are decimal, or hexadecimal, octal or binary behind `0x`, `0o` or
`0b`; a row of digits that begins with a superfluous zero is a text.  Infinities and not-a-number
have no JSON value and become null.  A tag of the standard types asks for a text of that type,
however the scalar is written; with any other tag, and between quotes, a scalar is its text.
-/

namespace FlowCheck
namespace Yaml
namespace PlainValue

def isNull (s : String) : Bool := ["null", "Null", "NULL", "~"].contains s

def boolean? (s : String) : Option Bool :=
  if ["true", "True", "TRUE"].contains s then some true
  else if ["false", "False", "FALSE"].contains s then some false
  else none

/-! ## Numbers -/

/-- The value of digits in a base up to sixteen. -/
def digits? (base : Nat) (cs : List Char) : Option Nat := do
  if cs.isEmpty then none
  let ds ← cs.mapM fun c => (Json.hexValue? c).filter (· < base)
  pure (ds.foldl (fun n d => n * base + d) 0)

/-- A row of digits that begins with a superfluous zero. -/
def isPadded : List Char → Bool
  | '0' :: c :: cs => (c :: cs).all Char.isDigit
  | _ => false

/-- A natural number in one of the four bases. -/
def natural? : List Char → Option Nat
  | '0' :: 'x' :: cs => digits? 16 cs
  | '0' :: 'o' :: cs => digits? 8 cs
  | '0' :: 'b' :: cs => digits? 2 cs
  | cs => if isPadded cs then none else digits? 10 cs

def integer? (cs : List Char) : Option Int :=
  let (negative, cs) := Numeral.splitSign cs
  (natural? cs).map fun n => if negative then -(n : Int) else n

/-- A number that may be no JSON number; beyond 64 bits an integer is out of range, and beyond 128
bits it is none. -/
def ofInteger? (n : Int) : Option (Except Misfit Json) :=
  if Word.fitsSigned 64 n || Word.fitsUnsigned 64 n then some (.ok (.int n))
  else if Word.fitsSigned 128 n || Word.fitsUnsigned 128 n then
    some (.error .numberOutOfRange)
  else none

def readInteger? (cs : List Char) : Option (Except Misfit Json) := (integer? cs).bind ofInteger?

/-- An infinity or not-a-number. -/
def isSpecial (s : String) : Bool :=
  [".inf", ".Inf", ".INF", "+.inf", "+.Inf", "+.INF", "-.inf", "-.Inf", "-.INF",
    ".nan", ".NaN", ".NAN"].contains s

/-- A decimal fraction. -/
def readReal? (s : String) : Option Json :=
  if isSpecial s then some .null
  else (Numeral.real? s.toList).map fun x => .num (.real x)

/-! ## Scalars -/

/-- The value of a plain scalar without a tag. -/
def plain (s : String) : Except Misfit Json :=
  if s.isEmpty || isNull s then .ok .null
  else match boolean? s with
    | some b => .ok (.bool b)
    | none => match readInteger? s.toList with
      | some result => result
      | none =>
        if isPadded (Numeral.splitSign s.toList).2 then .ok (.str s)
        else .ok ((readReal? s).getD (.str s))

/-- The text of a scalar, which must be of a type. -/
def require (s expected : String) : Option Json → Except Misfit Json
  | some j => .ok j
  | none => .error (.wrongText s expected)

def standardTag (name : String) : Octets := octets ("tag:yaml.org,2002:" ++ name)

/-- The value of a scalar with a tag. -/
def tagged (tag : Octets) (s : String) : Except Misfit Json :=
  if tag = standardTag "bool" then require s "a boolean" ((boolean? s).map .bool)
  else if tag = standardTag "int" then
    (readInteger? s.toList).getD (.error (.wrongText s "an integer"))
  else if tag = standardTag "float" then require s "a float" (readReal? s)
  else if tag = standardTag "null" then
    require s "null" (if isNull s then some .null else none)
  else .ok (.str s)

/-- The value of a scalar. -/
def ofScalar (tag : Option Octets) (isPlain : Bool) (s : String) : Except Misfit Json :=
  match tag with
  | some tag => tagged tag s
  | none => if isPlain then plain s else .ok (.str s)

end PlainValue
end Yaml
end FlowCheck
