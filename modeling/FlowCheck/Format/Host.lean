import FlowCheck.Format.DomainName
import FlowCheck.Format.Uuid
import FlowCheck.Number.Numeral
import FlowCheck.Pattern.Escape

/-!
# Hosts

The host of a URL: an address of the sixth version between brackets, an address of the fourth
version when the last label is a number, or a domain name.  Escaped bytes are read first, and the
bytes have to be text.  Schemes without rules of their own take nearly anything.
-/

namespace FlowCheck
namespace Host

/-! ## Addresses of the fourth version -/

/-- A number in an address: hexadecimal, octal or decimal by its beginning. -/
def number? (cs : List Char) : Option Nat :=
  match cs with
  | [] => none
  | '0' :: 'x' :: ds | '0' :: 'X' :: ds =>
    if ds.all Format.isHexDigit then some (Pattern.hexValue ds) else none
  | '0' :: d :: ds =>
    if (d :: ds).all fun c => '0' ≤ c && c ≤ '7' then
      some ((d :: ds).foldl (fun n c => n * 8 + (c.toNat - '0'.toNat)) 0)
    else none
  | ds => Numeral.natural? ds

/-- The labels without an empty one at the end. -/
def significant (labels : List (List Char)) : List (List Char) :=
  if labels.getLast? = some [] then labels.dropLast else labels

/-- The last label makes the name an address. -/
def endsInNumber (labels : List (List Char)) : Bool :=
  match (significant labels).getLast? with
  | none => false
  | some last => (!last.isEmpty && last.all Char.isDigit) || (number? last).isSome

/-- Up to four numbers, of which the last one fills what the others leave. -/
def isAddress4 (labels : List (List Char)) : Bool :=
  let labels := significant labels
  match labels.mapM number? with
  | none => false
  | some numbers =>
    labels.length ≤ 4 && numbers.dropLast.all (· ≤ 255) &&
      (numbers.getLast?.any fun n => n < Word.count (8 * (5 - numbers.length)))

/-! ## Addresses of the sixth version -/

/-- A decimal number up to 255 without a leading zero. -/
def isByte (cs : List Char) : Bool :=
  (Numeral.natural? cs).any (· ≤ 255) && (cs.length = 1 || cs.head? != some '0')

/-- Four bytes with points between them. -/
def isDottedQuad (cs : List Char) : Bool :=
  let parts := Text.splitAt '.' cs
  parts.length == 4 && parts.all isByte

/-- Up to four hexadecimal digits. -/
def isPiece (cs : List Char) : Bool := !cs.isEmpty && cs.length ≤ 4 && cs.all Format.isHexDigit

/-- The number of pieces of 16 bits in a row of them; a dotted quad at the end counts as two. -/
def pieces? (quadAllowed : Bool) (cs : List Char) : Option Nat :=
  if cs.isEmpty then some 0
  else
    let parts := Text.splitAt ':' cs
    let last := (parts.getLast?).getD []
    if parts.dropLast.all isPiece then
      if isPiece last then some parts.length
      else if quadAllowed && isDottedQuad last then some (parts.length + 1)
      else none
    else none

/-- Eight pieces, or fewer with one gap of at least one piece. -/
def isAddress6 (cs : List Char) : Bool :=
  match Pattern.cutAt? [':', ':'] cs with
  | none => pieces? true cs == some 8
  | some (front, back) =>
    match pieces? false front, pieces? true back with
    | some m, some n => m + n ≤ 7
    | _, _ => false

/-! ## Escaped bytes -/

/-- The bytes of a text, with escaped bytes read. -/
def bytes (cs : List Char) : List UInt8 :=
  match cs with
  | [] => []
  | '%' :: a :: b :: rest =>
    if Format.isHexDigit a && Format.isHexDigit b then
      UInt8.ofNat (Pattern.hexValue [a, b]) :: bytes rest
    else 37 :: bytes (a :: b :: rest)
  | c :: rest => (String.singleton c).toUTF8.toList ++ bytes rest

/-- The text behind the escapes. -/
def unescape? (cs : List Char) : Option (List Char) :=
  (String.fromUTF8? ⟨(bytes cs).toArray⟩).map String.toList

/-! ## Hosts -/

/-- The text between brackets, which hold a whole host or none of it. -/
def bracketed? (cs : List Char) : Option (Option (List Char)) :=
  match cs with
  | '[' :: rest => some (if rest.getLast? = some ']' then some rest.dropLast else none)
  | _ => none

/-- A host of the schemes that have rules for hosts. -/
def isValid (cs : List Char) : Bool :=
  match bracketed? cs with
  | some inside => inside.any isAddress6
  | none =>
    match (unescape? cs).bind DomainName.labels? with
    | none => false
    | some labels =>
      labels != [[]] && (if endsInNumber labels then isAddress4 labels else true)

/-- What a host of another scheme cannot hold. -/
def isForbidden (c : Char) : Bool := "\x00\t\n\r #/:<>?@[\\]^|".toList.contains c

/-- A host of a scheme without rules. -/
def isOpaque (cs : List Char) : Bool :=
  match bracketed? cs with
  | some inside => inside.any isAddress6
  | none => !cs.any isForbidden

end Host
end FlowCheck
