import FlowCheck.Unicode.Ranges
import FlowCheck.Unicode.Word

/-!
# Matching

A `Matcher` says which stretches of a text match.  It is run on sets of places: `ends` gives every
place at which a match that begins at one of some places can end.  A text of `n` characters has
`n + 1` places, so repeating a step changes nothing any more after `n + 1` rounds, and repetitions
are cut short there.

## Main definitions

* `Matcher.ends` : where matches end
* `Matcher.occursIn` : some stretch of the text matches
-/

namespace FlowCheck

namespace Matcher

/-- The edges of words. -/
inductive Edge where
  | boundary | notBoundary | start | stop | startHalf | stopHalf
deriving DecidableEq

/-- A condition on a place: what stands before and behind it. -/
inductive Look where
  | textStart
  | textEnd
  /-- Behind a line end; a pair of carriage return and line feed may count as one. -/
  | lineStart (crlf : Bool)
  | lineEnd (crlf : Bool)
  /-- At an edge of a word, with letters of all scripts or ASCII only. -/
  | word (edge : Edge) (unicode : Bool)
deriving DecidableEq

end Matcher

/-- What a pattern matches. -/
inductive Matcher where
  | empty
  /-- One character out of a set. -/
  | set (ranges : Unicode.Ranges)
  | look (condition : Matcher.Look)
  | capture (inner : Matcher)
  | concat (parts : List Matcher)
  | either (parts : List Matcher)
  | repeated (least : Nat) (most : Option Nat) (inner : Matcher)

namespace Matcher

/-! ## Conditions -/

def isAsciiWord (c : Char) : Bool := c.isAlphanum || c == '_'

def Edge.holds (before after : Bool) : Edge → Bool
  | boundary => before != after
  | notBoundary => before == after
  | start => !before && after
  | stop => before && !after
  | startHalf => !before
  | stopHalf => !after

/-- Whether a condition holds between two characters, of which either may be missing. -/
def Look.holds (before after : Option Char) : Look → Bool
  | textStart => before.isNone
  | textEnd => after.isNone
  | lineStart false => before.all (· == '\n')
  | lineStart true => before.all fun c => c == '\n' || (c == '\r' && after != some '\n')
  | lineEnd false => after.all (· == '\n')
  | lineEnd true => after.all fun c => c == '\r' || (c == '\n' && before != some '\r')
  | word edge unicode =>
    let isWord := if unicode then Unicode.isWord else isAsciiWord
    edge.holds (before.any isWord) (after.any isWord)

/-! ## Sets of places -/

/-- Places in a text, in no order. -/
abbrev Places := List Nat

namespace Places

def insert (ps : Places) (p : Nat) : Places := if ps.contains p then ps else p :: ps

def union (ps qs : Places) : Places := qs.foldl insert ps

/-- Takes a step `n` times, or until no place is left. -/
def times (step : Places → Places) : Nat → Places → Places
  | 0, ps => ps
  | n + 1, ps => if ps.isEmpty then [] else times step n (step ps)

/-- Everything that at most `n` steps from the newest places lead to, added to what is known. -/
def spread (step : Places → Places) : Nat → Places → Places → Places
  | 0, known, _ => known
  | n + 1, known, newest =>
    let found := (step newest).filter fun p => !known.contains p
    if found.isEmpty then known else spread step n (known.union found) found

end Places

/-! ## Running -/

mutual

/-- The places at which a match that begins at one of some places can end. -/
def ends (text : Array Char) (starts : Places) : Matcher → Places
  | .empty => starts
  | .set ranges => starts.filterMap fun i =>
    if text[i]?.any fun c => ranges.has c.toNat then some (i + 1) else none
  | .look condition => starts.filter fun i =>
    condition.holds (if i = 0 then none else text[i - 1]?) text[i]?
  | .capture inner => inner.ends text starts
  | .concat parts => endsOfAll text starts parts
  | .either parts => endsOfAny text starts parts
  | .repeated least most inner =>
    let rounds := text.size + 1
    let step := fun ps => inner.ends text ps
    let first := Places.times step (min least rounds) starts
    let more := match most with
      | none => rounds
      | some m => min (m - least) rounds
    Places.spread step more first first

/-- One part behind the other. -/
def endsOfAll (text : Array Char) (starts : Places) : List Matcher → Places
  | [] => starts
  | part :: rest => endsOfAll text (part.ends text starts) rest

/-- Any one of the parts. -/
def endsOfAny (text : Array Char) (starts : Places) : List Matcher → Places
  | [] => []
  | part :: rest => (part.ends text starts).union (endsOfAny text starts rest)

end

/-- Some stretch of the text matches. -/
def occursIn (m : Matcher) (text : String) : Bool :=
  let cs := text.toList.toArray
  !(m.ends cs (List.range (cs.size + 1))).isEmpty

end Matcher
end FlowCheck
