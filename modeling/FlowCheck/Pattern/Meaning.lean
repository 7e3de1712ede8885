import FlowCheck.Pattern.Matcher
import FlowCheck.Pattern.Problem
import FlowCheck.Pattern.Property
import FlowCheck.Unicode.CaseFold

/-!
# What a pattern means

A pattern with its flags becomes a `Matcher`.  Flags hold from where they stand to the end of their
group, across alternatives.  Without the Unicode flag a class is a set of ASCII characters, and what
would reach beyond them is refused.

## Main definitions

* `ClassItem.ranges` : the characters of a class
* `Node.meaning` : the matcher of a pattern
-/

namespace FlowCheck
namespace Pattern

open Unicode (Ranges)

/-- The flags in force. -/
structure Flags where
  caseInsensitive : Bool := false
  multiLine : Bool := false
  dotAll : Bool := false
  unicode : Bool := true
  crlf : Bool := false

namespace Flags

/-- The flags behind some marks. -/
def apply (f : Flags) (marks : FlagMarks) : Flags where
  caseInsensitive := (marks.setting? .caseInsensitive true).getD f.caseInsensitive
  multiLine := (marks.setting? .multiLine true).getD f.multiLine
  dotAll := (marks.setting? .dotAll true).getD f.dotAll
  unicode := (marks.setting? .unicode true).getD f.unicode
  crlf := (marks.setting? .crlf true).getD f.crlf

end Flags

/-! ## Sets of characters -/

def asciiLetters : Ranges := [(65, 90), (97, 122)]

def asciiDigits : Ranges := [(48, 57)]

def asciiBlanks : Ranges := [(9, 13), (32, 32)]

def asciiWord : Ranges := asciiDigits ++ asciiLetters ++ [(95, 95)]

def Posix.ranges : Posix → Ranges
  | alnum => asciiDigits ++ asciiLetters
  | alpha => asciiLetters
  | ascii => [(0, 127)]
  | blank => [(9, 9), (32, 32)]
  | cntrl => [(0, 31), (127, 127)]
  | digit => asciiDigits
  | graph => [(33, 126)]
  | lower => [(97, 122)]
  | print => [(32, 126)]
  | punct => [(33, 47), (58, 64), (91, 96), (123, 126)]
  | space => asciiBlanks
  | upper => [(65, 90)]
  | word => asciiWord
  | xdigit => [(48, 57), (65, 70), (97, 102)]

def Shorthand.ranges (unicode : Bool) : Shorthand → Ranges
  | digit => if unicode then Unicode.Category.rangeNd else asciiDigits
  | space => if unicode then Unicode.Property.blanks else asciiBlanks
  | word => if unicode then Unicode.alphabetic ++ Unicode.wordRanges.flatten else asciiWord

/-- The pairs of letters that differ in case only, without other scripts. -/
def asciiFoldPairs : List (Nat × Nat) := (List.range 26).map fun i => (65 + i, 97 + i)

/-- The set with every character that folds to the same one as a character of the set. -/
def closeUnderCase (pairs : List (Nat × Nat)) (ranges : Ranges) : Ranges :=
  let folded := pairs.filterMap fun p => if ranges.has p.1 then some (p.2, p.2) else none
  let heads := ranges ++ folded
  let others := pairs.filterMap fun p => if heads.has p.2 then some (p.1, p.1) else none
  Ranges.normal (heads ++ others)

def Flags.fold (f : Flags) (ranges : Ranges) : Ranges :=
  if f.caseInsensitive then
    closeUnderCase (if f.unicode then Unicode.foldPairs else asciiFoldPairs) ranges
  else ranges

def single (c : Char) : Ranges := [(c.toNat, c.toNat)]

/-! ## Classes -/

def refuse {α : Type} (kind : ProblemKind) (span : Span) : Except Problem α :=
  .error ⟨kind, span, none⟩

/-- Negation reaches beyond ASCII. -/
def Flags.negate (f : Flags) (negated : Bool) (span : Span) (ranges : Ranges) :
    Except Problem Ranges :=
  if !negated then .ok ranges
  else if f.unicode then .ok ranges.complement
  else refuse .invalidText span

/-- A byte beyond ASCII is no text. -/
def Flags.checkByte (f : Flags) (l : Literal) : Except Problem Unit :=
  if !f.unicode && l.asByte && l.char.toNat > 127 then refuse .invalidText l.span else .ok ()

/-- A character inside a class. -/
def Flags.member (f : Flags) (l : Literal) : Except Problem Nat := do
  f.checkByte l
  if !f.unicode && l.char.toNat > 127 then refuse .unicodeNotAllowed l.span
  else pure l.char.toNat

def ShorthandClass.ranges (f : Flags) (c : ShorthandClass) : Except Problem Ranges :=
  f.negate c.negated c.span (c.kind.ranges f.unicode)

def PropertyClass.ranges (f : Flags) (c : PropertyClass) : Except Problem Ranges :=
  if !f.unicode then refuse .unicodeNotAllowed c.span
  else match c.query.ranges with
    | .error .property => refuse .propertyNotFound c.span
    | .error .value => refuse .propertyValueNotFound c.span
    | .ok ranges => f.negate c.negated c.span (f.fold ranges)

def SetOperator.combine (left right : Ranges) : SetOperator → Ranges
  | intersection => left.inter right
  | difference => left.diff right
  | symmetricDifference => (left.diff right) ++ (right.diff left)

mutual

/-- The characters of a class.  Folding comes before negation. -/
def ClassItem.ranges (f : Flags) : ClassItem → Except Problem Ranges
  | .nothing _ => .ok []
  | .literal l => do
    let n ← f.member l
    pure [(n, n)]
  | .range _ low high => do
    let a ← f.member low
    let b ← f.member high
    pure [(a, b)]
  | .posix span kind negated => f.negate negated span (f.fold kind.ranges)
  | .shorthand c => c.ranges f
  | .property c => c.ranges f
  | .bracketed span negated content => do
    let ranges ← content.ranges f
    f.negate negated span (f.fold ranges)
  | .union _ items => rangesOfItems f items
  | .combined _ operator left right => do
    let l ← left.ranges f
    let r ← right.ranges f
    pure (operator.combine (f.fold l) (f.fold r))

def rangesOfItems (f : Flags) : List ClassItem → Except Problem Ranges
  | [] => .ok []
  | item :: rest => do
    let first ← item.ranges f
    let others ← rangesOfItems f rest
    pure (first ++ others)

end

/-! ## Patterns -/

def Assertion.look (f : Flags) : Assertion → Matcher.Look
  | startLine => if f.multiLine then .lineStart f.crlf else .textStart
  | endLine => if f.multiLine then .lineEnd f.crlf else .textEnd
  | startText => .textStart
  | endText => .textEnd
  | boundary => .word .boundary f.unicode
  | notBoundary => .word .notBoundary f.unicode
  | wordStart => .word .start f.unicode
  | wordEnd => .word .stop f.unicode
  | wordStartHalf => .word .startHalf f.unicode
  | wordEndHalf => .word .stopHalf f.unicode

/-- What a point matches: every character, or all but line ends. -/
def Flags.dot (f : Flags) (span : Span) : Except Problem Ranges :=
  if !f.unicode then refuse .invalidText span
  else if f.dotAll then .ok (Ranges.complement [])
  else if f.crlf then .ok (Ranges.complement [(10, 10), (13, 13)])
  else .ok (Ranges.complement [(10, 10)])

mutual

/-- The matcher of a pattern, and the flags in force behind it. -/
def Node.meaning (f : Flags) : Node → Except Problem (Flags × Matcher)
  | .empty _ => .ok (f, .empty)
  | .flags _ marks => .ok (f.apply marks, .empty)
  | .literal l => do
    f.checkByte l
    pure (f, .set (f.fold (single l.char)))
  | .dot span => do pure (f, .set (← f.dot span))
  | .assertion _ kind => .ok (f, .look (kind.look f))
  | .shorthand c => do pure (f, .set (← c.ranges f))
  | .property c => do pure (f, .set (← c.ranges f))
  | .bracketed span negated content => do
    let ranges ← content.ranges f
    pure (f, .set (← f.negate negated span (f.fold ranges)))
  | .repetition _ q node => do
    let (_, m) ← node.meaning f
    pure (f, .repeated q.least q.most m)
  | .group _ none node => do
    let (_, m) ← node.meaning f
    pure (f, .capture m)
  | .group _ (some marks) node => do
    let (_, m) ← node.meaning (f.apply marks)
    pure (f, m)
  | .alternation _ nodes => do
    let (f, ms) ← meanings f nodes
    pure (f, .either ms)
  | .concatenation _ nodes => do
    let (f, ms) ← meanings f nodes
    pure (f, .concat ms)

def meanings (f : Flags) : List Node → Except Problem (Flags × List Matcher)
  | [] => .ok (f, [])
  | node :: rest => do
    let (f, m) ← node.meaning f
    let (f, ms) ← meanings f rest
    pure (f, m :: ms)

end

end Pattern
end FlowCheck
