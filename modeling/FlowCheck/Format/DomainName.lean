import FlowCheck.Format.Punycode
import FlowCheck.Text.Pieces
import FlowCheck.Unicode.Category
import FlowCheck.Unicode.Direction
import FlowCheck.Unicode.Domain
import FlowCheck.Unicode.Joining

/-!
# Domain names

A domain name may be written in any script.  Its characters are replaced as the tables say and cut
into labels at points; labels in Punycode are decoded.  A label must not begin with a mark, joiners
need something to join, and once a label runs from right to left all labels have to keep to one
direction each.

## Main definitions

* `DomainName.labels?` : the labels of a name, if it is valid
-/

namespace FlowCheck
namespace DomainName

open Unicode

/-- The ASCII characters that no domain name holds. -/
def isForbidden (c : Char) : Bool :=
  c.toNat ≤ 32 || c.toNat = 127 || "%#/:<>?@[\\]^|".toList.contains c

/-! ## Replacing characters -/

/-- What becomes of a character: ASCII is only brought to lower case. -/
def mapChar? (c : Char) : Option (List Char) :=
  if c.toNat < 128 then some [c.toLower]
  else match Domain.place c with
    | .kept => some [c]
    | .replaced text => some text
    | .refused => none

/-- The name after replacing; none when it holds something forbidden. -/
def map? (cs : List Char) : Option (List Char) := do
  let mapped := (← cs.mapM mapChar?).flatten
  if mapped.any isForbidden then none else some mapped

/-! ## Single labels -/

def isMark (c : Char) : Bool :=
  c.toNat ≥ 128 && (Category.rangeMn.has c.toNat || Category.rangeMc.has c.toNat ||
    Category.rangeMe.has c.toNat)

/-- The first character that joining does not look through. -/
def firstOpaque? (cs : List Char) : Option Char :=
  cs.find? fun c => !Joining.transparent.has c.toNat

/-- Whether a joiner makes sense between what stands before it, the nearest first, and behind. -/
def joinerFits (joiner : Char) (before behind : List Char) : Bool :=
  before.head?.any (fun c => Joining.viramas.has c.toNat) ||
    (joiner == '\u200c' &&
      (firstOpaque? before).any (fun c => Joining.left.has c.toNat || Joining.both.has c.toNat) &&
      (firstOpaque? behind).any (fun c => Joining.right.has c.toNat || Joining.both.has c.toNat))

/-- Every joiner makes sense where it is. -/
def joinersFit (before : List Char) : List Char → Bool
  | [] => true
  | c :: cs =>
    ((c != '\u200c' && c != '\u200d') || joinerFits c before cs) && joinersFit (c :: before) cs

/-- A label that begins with no mark and whose joiners make sense. -/
def isLabel (cs : List Char) : Bool := !cs.head?.any isMark && joinersFit [] cs

/-- A decoded label has something beyond ASCII, and nothing that would be replaced. -/
def isDecoded (cs : List Char) : Bool :=
  cs.any (fun c => c.toNat ≥ 128) &&
    cs.all fun c => if c.toNat < 128 then !isForbidden c && !c.isUpper else Domain.kept.has c.toNat

/-- The sign of Punycode. -/
def punycodeSign : List Char := ['x', 'n', '-', '-']

/-- The characters of a label, decoded; none when it is invalid. -/
def label? (cs : List Char) : Option (List Char) :=
  match Text.after? punycodeSign cs with
  | some spelled =>
    if cs.any fun c => c.toNat ≥ 128 then none
    else (Punycode.decode? spelled).filter fun decoded => isDecoded decoded && isLabel decoded
  | none => if isLabel cs then some cs else none

/-! ## Directions -/

/-- A name is bidirectional when it holds anything that runs from right to left. -/
def isBidirectional (labels : List (List Char)) : Bool :=
  labels.any fun l => l.any fun c =>
    match Direction.of c with
    | .rightToLeft | .arabicLetter | .arabicNumber => true
    | _ => false

/-- What may stand in a label of either direction. -/
def isCommon : Direction → Bool
  | .number | .separator | .commonSeparator | .terminator | .neutral | .boundaryNeutral
  | .mark => true
  | _ => false

/-- The last direction that is no mark's. -/
def lastProper? (ds : List Direction) : Option Direction := ds.reverse.find? (· != .mark)

/-- A label of a bidirectional name keeps to the direction of its first letter. -/
def keepsDirection (label : List Char) : Bool :=
  let ds := label.map Direction.of
  match ds.head? with
  | none => true
  | some .leftToRight =>
    ds.all (fun d => isCommon d || d == .leftToRight) &&
      (lastProper? ds).any fun d => d == .leftToRight || d == .number
  | some .rightToLeft | some .arabicLetter =>
    ds.all (fun d => isCommon d || d == .rightToLeft || d == .arabicLetter ||
        d == .arabicNumber) &&
      (lastProper? ds).any (fun d => d == .rightToLeft || d == .arabicLetter || d == .number ||
        d == .arabicNumber) &&
      !(ds.contains .number && ds.contains .arabicNumber)
  | some _ => false

/-! ## Names -/

/-- The labels of a name as they are written after replacing; none when the name is invalid. -/
def labels? (cs : List Char) : Option (List (List Char)) := do
  let labels := Text.splitAt '.' (← map? cs)
  let decoded ← labels.mapM label?
  if isBidirectional decoded && !decoded.all keepsDirection then none else some labels

end DomainName
end FlowCheck
