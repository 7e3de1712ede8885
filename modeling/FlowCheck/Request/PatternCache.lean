import FlowCheck.Request.Field

/-!
# Keeping compiled patterns

Patterns that compile are kept by their text, so that each is compiled once.  A pattern that does
not compile is never kept.
-/

namespace FlowCheck

/-- Compiled patterns by their text. -/
abbrev PatternCache := List (String × Matcher)

namespace PatternCache

/-- The kept matcher of a pattern, else a new one. -/
def find (cache : PatternCache) : PatternFinder := fun text =>
  match cache.lookup text with
  | some matcher => .ok matcher
  | none => Pattern.compile text

/-- Keeps the matcher of a pattern, if it has one. -/
def learn (cache : PatternCache) (text : String) : PatternCache :=
  match cache.find text with
  | .ok matcher => if (cache.lookup text).isSome then cache else (text, matcher) :: cache
  | .error _ => cache

end PatternCache

namespace FieldRule

/-- The pattern that checking a value comes to: nothing that is checked before it fails. -/
def patternReached? (r : FieldRule) (j : Json) : Option String :=
  match j with
  | .str s =>
    if (r.typeProblem? j).isNone && (r.lengthProblem? s).isNone then r.pattern else none
  | _ => none

/-- `finding?` with kept patterns, and the patterns kept afterwards. -/
def findingWith (cache : PatternCache) (r : FieldRule) (j : Json) :
    Option Diagnostic × PatternCache :=
  (r.findingBy cache.find j,
    match r.patternReached? j with
    | some text => cache.learn text
    | none => cache)

/-- The findings of several values under one rule, one after the other. -/
def findingsWith (r : FieldRule) : PatternCache → List Json →
    List (Option Diagnostic) × PatternCache
  | cache, [] => ([], cache)
  | cache, j :: rest =>
    let (found, cache) := r.findingWith cache j
    let (others, cache) := r.findingsWith cache rest
    (found :: others, cache)

end FieldRule

end FlowCheck
