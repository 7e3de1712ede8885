import FlowCheck.Json.Describe
import FlowCheck.Number.Word

/-!
# Reading JSON text

A strict reader of JSON text.  Every step takes the characters that are left and returns those
behind what it read; a failure names its cause and how many bytes were left behind the point of
failure, from which the line and the column (counted in bytes) follow.

Nesting is limited to 127 levels.  A number without fraction and exponent that fits in 64 bits
is an integer; every other number is a double.  Its digits are gathered into a 64-bit word, the
digits that no longer fit are dropped, and the word, rounded to a double, is multiplied or
divided by a power of ten.
-/

namespace FlowCheck
namespace Json

/-- Why a text is not JSON. -/
inductive Malformed where
  | endInValue
  | endInString
  | endInArray
  | endInObject
  | expectedWord
  | expectedValue
  | expectedColon
  | expectedCommaOrBracket
  | expectedCommaOrBrace
  | keyNotString
  | trailingComma
  | trailingText
  | badEscape
  | cutSurrogatePair
  | loneSurrogate
  | controlCharacter
  | badNumber
  | numberTooLarge
  | tooDeep
  | notAnObject (found : Json)

def Malformed.message : Malformed → String
  | .endInValue => "EOF while parsing a value"
  | .endInString => "EOF while parsing a string"
  | .endInArray => "EOF while parsing a list"
  | .endInObject => "EOF while parsing an object"
  | .expectedWord => "expected ident"
  | .expectedValue => "expected value"
  | .expectedColon => "expected `:`"
  | .expectedCommaOrBracket => "expected `,` or `]`"
  | .expectedCommaOrBrace => "expected `,` or `\x7d`"
  | .keyNotString => "key must be a string"
  | .trailingComma => "trailing comma"
  | .trailingText => "trailing characters"
  | .badEscape => "invalid escape"
  | .cutSurrogatePair => "unexpected end of hex escape"
  | .loneSurrogate => "lone leading surrogate in hex escape"
  | .controlCharacter => "control character (\\u0000-\\u001F) found while parsing a string"
  | .badNumber => "invalid number"
  | .numberTooLarge => "number out of range"
  | .tooDeep => "recursion limit exceeded"
  | .notAnObject found => "invalid type: " ++ found.describe ++ ", expected a map"

/-- A cause, and the number of bytes left behind the point of failure. -/
structure Failure where
  cause : Malformed
  bytesLeft : Nat

def byteSize (cs : List Char) : Nat := cs.foldl (fun n c => n + c.utf8Size) 0

/-- A failure in front of `cs`. -/
def failAt {α : Type} (cause : Malformed) (cs : List Char) : Except Failure α :=
  .error ⟨cause, byteSize cs⟩

/-- A failure one byte into `cs`. -/
def failPast {α : Type} (cause : Malformed) (cs : List Char) : Except Failure α :=
  .error ⟨cause, byteSize cs - 1⟩

def isBlank (c : Char) : Bool := c == ' ' || c == '\n' || c == '\t' || c == '\r'

def skipBlanks (cs : List Char) : List Char := cs.dropWhile isBlank

/-! ## Words and strings -/

/-- The rest of a word such as `true`. -/
def readWord : List Char → List Char → Except Failure (Unit × List Char)
  | [], cs => .ok ((), cs)
  | _ :: _, [] => failAt .endInValue []
  | w :: ws, c :: cs => if c = w then readWord ws cs else failPast .expectedWord (c :: cs)

def hexValue? (c : Char) : Option Nat :=
  if '0' ≤ c ∧ c ≤ '9' then some (c.toNat - '0'.toNat)
  else if 'a' ≤ c ∧ c ≤ 'f' then some (c.toNat - 'a'.toNat + 10)
  else if 'A' ≤ c ∧ c ≤ 'F' then some (c.toNat - 'A'.toNat + 10)
  else none

def fourHex? : List Char → Option Nat
  | [a, b, c, d] => do
    let a ← hexValue? a
    let b ← hexValue? b
    let c ← hexValue? c
    let d ← hexValue? d
    pure (((a * 16 + b) * 16 + c) * 16 + d)
  | _ => none

/-- Four hexadecimal digits; when they are missing, four bytes are skipped. -/
def readHex (cs : List Char) : Except Failure (Nat × List Char) :=
  match fourHex? (cs.take 4) with
  | some n => .ok (n, cs.drop 4)
  | none =>
    if 4 ≤ byteSize cs then .error ⟨.badEscape, byteSize cs - 4⟩ else failAt .endInString []

/-- The character of a `\u` escape; a leading surrogate needs a trailing one behind it. -/
def readUnicode (cs : List Char) : Except Failure (Char × List Char) := do
  let (n, cs) ← readHex cs
  if 0xDC00 ≤ n ∧ n ≤ 0xDFFF then failAt .loneSurrogate cs
  else if n < 0xD800 ∨ 0xDBFF < n then pure (Char.ofNat n, cs)
  else
    match cs with
    | '\\' :: 'u' :: cs =>
      let (m, cs) ← readHex cs
      if m < 0xDC00 ∨ 0xDFFF < m then failAt .loneSurrogate cs
      else pure (Char.ofNat (0x10000 + (n - 0xD800) * 0x400 + (m - 0xDC00)), cs)
    | ['\\'] => failAt .endInString []
    | '\\' :: cs => failPast .cutSurrogatePair cs
    | [] => failAt .endInString []
    | cs => failPast .cutSurrogatePair cs

/-- The character of an escape sequence behind its backslash. -/
def readEscape : List Char → Except Failure (Char × List Char)
  | [] => failAt .endInString []
  | '"' :: cs => .ok ('"', cs)
  | '\\' :: cs => .ok ('\\', cs)
  | '/' :: cs => .ok ('/', cs)
  | 'b' :: cs => .ok ('\x08', cs)
  | 'f' :: cs => .ok ('\x0c', cs)
  | 'n' :: cs => .ok ('\n', cs)
  | 'r' :: cs => .ok ('\r', cs)
  | 't' :: cs => .ok ('\t', cs)
  | 'u' :: cs => readUnicode cs
  | cs => failPast .badEscape cs

/-- The characters of a string behind its opening quote, in reverse; every round takes at least
one character, so that `fuel` may be the number of characters. -/
def readStringChars : Nat → List Char → List Char → Except Failure (List Char × List Char)
  | 0, _, cs => failAt .endInString cs
  | fuel + 1, acc, cs =>
    match cs with
    | [] => failAt .endInString []
    | '"' :: cs => .ok (acc, cs)
    | '\\' :: cs => do
      let (c, cs) ← readEscape cs
      readStringChars fuel (c :: acc) cs
    | c :: rest =>
      if c.toNat < 32 then failPast .controlCharacter (c :: rest)
      else readStringChars fuel (c :: acc) rest

/-- A string behind its opening quote. -/
def readString (cs : List Char) : Except Failure (String × List Char) := do
  let (acc, cs) ← readStringChars (cs.length + 1) [] cs
  pure (String.ofList acc.reverse, cs)

/-! ## Numbers -/

/-- Appends digits to a word as long as it fits 64 bits: the word, the number of digits that fitted
and the number of digits that did not. -/
def gather (word : Nat) : List Char → Nat × Nat × Nat
  | [] => (word, 0, 0)
  | d :: ds =>
    let next := word * 10 + (d.toNat - '0'.toNat)
    if next < Word.count 64 then
      let (w, taken, left) := gather next ds
      (w, taken + 1, left)
    else (word, 0, ds.length + 1)

/-- `x · 10 ^ exponent`, computed in doubles in steps of at most `10 ^ 308`; none on overflow.  No
word survives two divisions by `10 ^ 308`. -/
def scaleByTen (x : Binary64) (exponent : Int) : Option Binary64 :=
  let size := exponent.natAbs
  if 0 ≤ exponent then
    if size ≤ 308 then x.mul? (.powerOfTen size) else if x.isZero then some x else none
  else if size ≤ 308 then x.div? (.powerOfTen size)
  else if size ≤ 616 then (x.div? (.powerOfTen 308)).bind (·.div? (.powerOfTen (size - 308)))
  else some (.zero false)

/-- The double `± word · 10 ^ exponent`. -/
def doubleOf (negative : Bool) (word : Nat) (exponent : Int) : Option Binary64 :=
  (scaleByTen (.ofInt word) exponent).map fun x => { x with negative := negative }

/-- The exponents beyond which only zero is in range, and below which everything is zero. -/
def exponentLimit : Nat := Word.count 31

/-- The decimal exponent behind the letter `e`.  An exponent that does not fit in 31 bits is an
overflow, found at the digit that no longer fits, unless the number is zero or the exponent
negative; then the number is zero and the exponent `none`. -/
def readExponent (zero : Bool) (cs : List Char) : Except Failure (Option Int × List Char) :=
  let (negative, ds) : Bool × List Char :=
    match cs with
    | '+' :: cs => (false, cs)
    | '-' :: cs => (true, cs)
    | cs => (false, cs)
  let digits := ds.takeWhile Char.isDigit
  let rest := ds.dropWhile Char.isDigit
  match digits with
  | [] => match ds with
    | [] => failAt .endInValue []
    | ds => failPast .badNumber ds
  | digits =>
    match fits 0 digits with
    | .ok n => .ok (some (if negative then -(n : Int) else n), rest)
    | .error unread =>
      if zero || negative then .ok (none, rest)
      else .error ⟨.numberTooLarge, unread + byteSize rest⟩
where
  /-- The value of the digits, or how many digits are left behind the first that is too much. -/
  fits (n : Nat) : List Char → Except Nat Nat
    | [] => .ok n
    | d :: ds =>
      let next := n * 10 + (d.toNat - '0'.toNat)
      if next < exponentLimit then fits next ds else .error ds.length

/-- The fraction behind the point: at least one digit. -/
def readFraction (cs : List Char) : Except Failure (List Char × List Char) :=
  match cs.takeWhile Char.isDigit, cs.dropWhile Char.isDigit with
  | [], [] => failPast .endInValue []
  | [], rest => failPast .badNumber rest
  | digits, rest => .ok (digits, rest)

/-- The digits before the point: a zero alone, or digits that do not start with one. -/
def readWhole (cs : List Char) : Except Failure (List Char × List Char) :=
  match cs with
  | [] => failAt .endInValue []
  | '0' :: cs =>
    match cs with
    | [] => .ok (['0'], [])
    | c :: rest => if c.isDigit then failPast .badNumber (c :: rest) else .ok (['0'], c :: rest)
  | c :: cs =>
    if c.isDigit then .ok (c :: cs.takeWhile Char.isDigit, cs.dropWhile Char.isDigit)
    else failPast .badNumber (c :: cs)

/-- An integer in the range of 64 bits, else a double. -/
def wholeNumber (negative : Bool) (n : Nat) : Number :=
  if negative then
    if n = 0 ∨ Word.count 63 < n then .real { Binary64.ofInt n with negative := true } else .int (-n)
  else .int n

/-- A number behind its sign. -/
def readNumber (negative : Bool) (cs : List Char) : Except Failure (Number × List Char) := do
  let (whole, cs) ← readWhole cs
  let (word, _, dropped) := gather 0 whole
  match cs with
  | '.' :: cs =>
    let (fraction, cs) ← readFraction cs
    let (word, taken, _) := gather word fraction
    scaled word ((dropped : Int) - taken) cs
  | cs =>
    if dropped = 0 && !startsExponent cs then pure (wholeNumber negative word, cs)
    else scaled word dropped cs
where
  startsExponent : List Char → Bool
    | 'e' :: _ | 'E' :: _ => true
    | _ => false
  /-- The double, once an exponent that may follow has been read. -/
  scaled (word : Nat) (exponent : Int) (cs : List Char) : Except Failure (Number × List Char) := do
    let (more, cs) ←
      if startsExponent cs then readExponent (word == 0) cs.tail else pure (some 0, cs)
    match more with
    | none => pure (.real (.zero negative), cs)
    | some more =>
      match doubleOf negative word (exponent + more) with
      | some x => pure (.real x, cs)
      | none => failAt .numberTooLarge cs

/-! ## Values -/

/-- How the values inside an array or an object are read. -/
abbrev ItemReader := List Char → Except Failure (Json × List Char)

/-- The items of an array behind its first, each behind a comma, and the closing bracket.  Each
round takes at least one character, so that `fuel` may be the number of characters. -/
def readItems (item : ItemReader) :
    Nat → List Json → List Char → Except Failure (List Json × List Char)
  | 0, _, cs => failAt .endInArray cs
  | fuel + 1, acc, cs =>
    match skipBlanks cs with
    | [] => failPast .endInArray []
    | ']' :: cs => .ok (acc.reverse, cs)
    | ',' :: cs =>
      match skipBlanks cs with
      | [] => failPast .endInValue []
      | ']' :: cs => failPast .trailingComma (']' :: cs)
      | cs => do
        let (x, cs) ← item cs
        readItems item fuel (x :: acc) cs
    | cs => failPast .expectedCommaOrBracket cs

/-- An array behind its opening bracket. -/
def readArray (item : ItemReader) (cs : List Char) : Except Failure (Json × List Char) :=
  match skipBlanks cs with
  | [] => failPast .endInArray []
  | ']' :: cs => .ok (.arr [], cs)
  | cs => do
    let (x, cs) ← item cs
    let (xs, cs) ← readItems item (cs.length + 1) [x] cs
    pure (.arr xs, cs)

/-- A member behind the opening quote of its key. -/
def readMember (item : ItemReader) (cs : List Char) :
    Except Failure ((String × Json) × List Char) := do
  let (key, cs) ← readString cs
  match skipBlanks cs with
  | ':' :: cs =>
    let (x, cs) ← item cs
    pure ((key, x), cs)
  | [] => failPast .endInObject []
  | cs => failPast .expectedColon cs

/-- The members of an object behind its first, and the closing brace. -/
def readMembers (item : ItemReader) :
    Nat → Members → List Char → Except Failure (Members × List Char)
  | 0, _, cs => failAt .endInObject cs
  | fuel + 1, acc, cs =>
    match skipBlanks cs with
    | [] => failPast .endInObject []
    | '\x7d' :: cs => .ok (acc.reverse, cs)
    | ',' :: cs =>
      match skipBlanks cs with
      | [] => failPast .endInValue []
      | '"' :: cs => do
        let (m, cs) ← readMember item cs
        readMembers item fuel (m :: acc) cs
      | '\x7d' :: cs => failPast .trailingComma ('\x7d' :: cs)
      | cs => failPast .keyNotString cs
    | cs => failPast .expectedCommaOrBrace cs

/-- An object behind its opening brace. -/
def readObject (item : ItemReader) (cs : List Char) : Except Failure (Json × List Char) :=
  match skipBlanks cs with
  | [] => failPast .endInObject []
  | '\x7d' :: cs => .ok (.obj [], cs)
  | '"' :: cs => do
    let (m, cs) ← readMember item cs
    let (ms, cs) ← readMembers item (cs.length + 1) [m] cs
    pure (object ms, cs)
  | cs => failPast .keyNotString cs

/-- A value, with room for `depth` further levels. -/
def readValue : Nat → List Char → Except Failure (Json × List Char)
  | depth, cs =>
    match skipBlanks cs with
    | [] => failPast .endInValue []
    | 'n' :: cs => (readWord ['u', 'l', 'l'] cs).map fun r => (.null, r.2)
    | 't' :: cs => (readWord ['r', 'u', 'e'] cs).map fun r => (.bool true, r.2)
    | 'f' :: cs => (readWord ['a', 'l', 's', 'e'] cs).map fun r => (.bool false, r.2)
    | '-' :: cs => (readNumber true cs).map fun r => (.num r.1, r.2)
    | '"' :: cs => (readString cs).map fun r => (.str r.1, r.2)
    | '[' :: cs =>
      match depth with
      | 0 => failPast .tooDeep ('[' :: cs)
      | depth + 1 => readArray (readValue depth) cs
    | '\x7b' :: cs =>
      match depth with
      | 0 => failPast .tooDeep ('\x7b' :: cs)
      | depth + 1 => readObject (readValue depth) cs
    | c :: cs =>
      if c.isDigit then (readNumber false (c :: cs)).map fun r => (.num r.1, r.2)
      else failPast .expectedValue (c :: cs)

def depthLimit : Nat := 127

/-! ## Whole texts -/

/-- A place in a text: the line from 1, and the bytes before it on its line. -/
structure Place where
  line : Nat
  column : Nat

/-- The place `bytes` bytes into the text. -/
def placeAt (line column : Nat) : Nat → List Char → Place
  | _, [] => ⟨line, column⟩
  | bytes, c :: cs =>
    if bytes < c.utf8Size then ⟨line, column + bytes⟩
    else if c = '\n' then placeAt (line + 1) 0 (bytes - 1) cs
    else placeAt line (column + c.utf8Size) (bytes - c.utf8Size) cs

/-- A text that is not JSON: the cause and its place. -/
structure ReadError where
  cause : Malformed
  place : Place

def ReadError.message (e : ReadError) : String :=
  e.cause.message ++ " at line " ++ toString e.place.line ++
    " column " ++ toString e.place.column

def Failure.locate (f : Failure) (text : List Char) : ReadError :=
  ⟨f.cause, placeAt 1 0 (byteSize text - f.bytesLeft) text⟩

/-- Nothing but blanks may follow a value. -/
def finish {α : Type} : α × List Char → Except Failure α
  | (x, cs) =>
    match skipBlanks cs with
    | [] => .ok x
    | cs => failPast .trailingText cs

/-- The members of the object a text stands for.  Of an array or an object only the first bracket
is looked at before the kind of the value is refused. -/
def readMembersOf (text : String) : Except ReadError Members :=
  let cs := text.toList
  let step : Except Failure (Members × List Char) := do
    match skipBlanks cs with
    | '[' :: rest => failAt (.notAnObject (.arr [])) ('[' :: rest)
    | cs =>
      match ← readValue depthLimit cs with
      | (.obj members, cs) => pure (members, cs)
      | (j, cs) => failAt (.notAnObject j) cs
  match step >>= finish with
  | .ok ms => .ok ms
  | .error f => .error (f.locate cs)

/-- The value a text stands for. -/
def read (text : String) : Except ReadError Json :=
  match readValue depthLimit text.toList >>= finish with
  | .ok j => .ok j
  | .error f => .error (f.locate text.toList)

end Json
end FlowCheck
