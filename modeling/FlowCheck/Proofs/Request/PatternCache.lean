import FlowCheck.Proofs.Json.Members
import FlowCheck.Request.PatternCache

/-!
# Kept patterns do not show

Checks that share their patterns are done one after the other; every check may find a pattern that
an earlier one left, under whatever rule and for whatever value, and may leave one itself.  What is
kept is the compilation of the text that it is kept under (`PatternCache.Sound`).  A check that
starts from such patterns ends with such patterns and finds what it would find without any, so both
hold of every row of checks (`PatternCache.run_of_nothing_kept`).

What is kept after some checks is also told exactly: the patterns that one of them came to, as far
as they compile.
-/

namespace FlowCheck

/-! ## One check -/

namespace FieldRule

/-- A check asks for one pattern at most: the one that it comes to. -/
theorem findingBy_congr {r : FieldRule} {j : Json} {find find' : PatternFinder}
    (h : ∀ text, r.patternReached? j = some text → find text = find' text) :
    r.findingBy find j = r.findingBy find' j := by
  cases j with
  | str s =>
    have hwhole (f : PatternFinder) : r.problem? f (.str s) = (r.typeProblem? (.str s) <|>
        r.lengthProblem? s <|> r.patternProblem? f s <|> r.optionProblem? s) := rfl
    rw [findingBy, findingBy, hwhole, hwhole]
    cases htype : r.typeProblem? (.str s) with
    | some p => rfl
    | none =>
      cases hlength : r.lengthProblem? s with
      | some p => rfl
      | none =>
        have hreached : r.patternReached? (.str s) = r.pattern := by
          simp [patternReached?, htype, hlength]
        have hpattern : r.patternProblem? find s = r.patternProblem? find' s :=
          Option.bind_congr fun text htext => by rw [h text (hreached.trans htext)]
        rw [hpattern]
  | null | bool _ | num _ | arr _ | obj _ => rfl

end FieldRule

namespace PatternCache

variable {cache : PatternCache} {text : String} {matcher : Matcher}

/-- Every pattern is kept once, with the matcher that it compiles to. -/
structure Sound (cache : PatternCache) : Prop where
  keys : (cache.map Prod.fst).Nodup
  compiled : ∀ {text matcher}, (text, matcher) ∈ cache → Pattern.compile text = .ok matcher

theorem sound_nil : Sound [] := ⟨List.nodup_nil, nofun⟩

/-- It makes no difference whether a matcher was kept. -/
theorem Sound.find (h : cache.Sound) (text : String) : cache.find text = Pattern.compile text := by
  unfold PatternCache.find
  cases hlookup : cache.lookup text with
  | none => rfl
  | some matcher => exact (h.compiled (Members.mem_of_lookup_eq_some hlookup)).symm

/-- A pattern is learnt unless it is known or does not compile. -/
theorem Sound.learn_cases (h : cache.Sound) (text : String) :
    (cache.learn text = cache ∧
        ∀ matcher, Pattern.compile text = .ok matcher → (text, matcher) ∈ cache) ∨
      text ∉ cache.map Prod.fst ∧
        ∃ matcher, Pattern.compile text = .ok matcher ∧
          cache.learn text = (text, matcher) :: cache := by
  unfold learn
  rw [h.find text]
  cases hcompile : Pattern.compile text with
  | error refusal => exact .inl ⟨rfl, nofun⟩
  | ok matcher =>
    cases hlookup : cache.lookup text with
    | none => exact .inr ⟨Members.lookup_eq_none_iff_not_mem.1 hlookup, matcher, rfl, rfl⟩
    | some kept =>
      have hmem := Members.mem_of_lookup_eq_some hlookup
      have hkept : kept = matcher := Except.ok.inj ((h.compiled hmem).symm.trans hcompile)
      refine .inl ⟨rfl, fun other hother => ?_⟩
      rw [← Except.ok.inj hother, ← hkept]
      exact hmem

theorem Sound.mem_learn_iff (h : cache.Sound) {wanted : String} :
    (text, matcher) ∈ cache.learn wanted ↔
      (text, matcher) ∈ cache ∨ wanted = text ∧ Pattern.compile text = .ok matcher := by
  rcases h.learn_cases wanted with ⟨hsame, hknown⟩ | ⟨-, new, hcompile, hnew⟩
  · rw [hsame]
    refine ⟨.inl, ?_⟩
    rintro (hmem | ⟨rfl, hcompile⟩)
    · exact hmem
    · exact hknown matcher hcompile
  · rw [hnew, List.mem_cons, Prod.mk.injEq, or_comm]
    refine or_congr_right ⟨?_, ?_⟩
    · rintro ⟨rfl, rfl⟩
      exact ⟨rfl, hcompile⟩
    · rintro ⟨rfl, hother⟩
      exact ⟨rfl, Except.ok.inj (hother.symm.trans hcompile)⟩

theorem Sound.learn (h : cache.Sound) (wanted : String) : (cache.learn wanted).Sound where
  keys := by
    rcases h.learn_cases wanted with ⟨hsame, -⟩ | ⟨hfresh, new, -, hnew⟩
    · rw [hsame]
      exact h.keys
    · rw [hnew]
      exact List.nodup_cons.2 ⟨hfresh, h.keys⟩
  compiled hmem := by
    rcases h.mem_learn_iff.1 hmem with hold | ⟨-, hcompile⟩
    · exact h.compiled hold
    · exact hcompile

/-! ## A row of checks -/

/-- The findings of several checks done one after the other, and the patterns kept at the end. -/
def run : PatternCache → List (FieldRule × Json) → List (Option Diagnostic) × PatternCache
  | cache, [] => ([], cache)
  | cache, (r, j) :: rest =>
    let (found, cache) := r.findingWith cache j
    let (others, cache) := run cache rest
    (found :: others, cache)

/-- Checking several values under one rule is such a row. -/
theorem findingsWith_eq_run (r : FieldRule) (cache : PatternCache) (values : List Json) :
    r.findingsWith cache values = run cache (values.map fun j => (r, j)) := by
  induction values generalizing cache with
  | nil => rfl
  | cons j rest ih => simp only [FieldRule.findingsWith, List.map_cons, run, ih]

/-- A check finds what it would find with nothing kept. -/
theorem Sound.findingWith_fst (h : cache.Sound) (r : FieldRule) (j : Json) :
    (r.findingWith cache j).1 = r.finding? j :=
  FieldRule.findingBy_congr fun text _ => h.find text

/-- A check leaves the pattern that it comes to, if it compiles. -/
theorem Sound.mem_findingWith_iff (h : cache.Sound) {r : FieldRule} {j : Json} :
    (text, matcher) ∈ (r.findingWith cache j).2 ↔ (text, matcher) ∈ cache ∨
      r.patternReached? j = some text ∧ Pattern.compile text = .ok matcher := by
  unfold FieldRule.findingWith
  cases hreached : r.patternReached? j with
  | none => simp
  | some wanted => simpa using h.mem_learn_iff

theorem Sound.findingWith_snd (h : cache.Sound) (r : FieldRule) (j : Json) :
    (r.findingWith cache j).2.Sound := by
  unfold FieldRule.findingWith
  cases r.patternReached? j with
  | none => exact h
  | some wanted => exact h.learn wanted

theorem Sound.run (h : cache.Sound) (checks : List (FieldRule × Json)) :
    (run cache checks).2.Sound := by
  induction checks generalizing cache with
  | nil => exact h
  | cons c rest ih => exact ih (h.findingWith_snd c.1 c.2)

theorem Sound.run_fst (h : cache.Sound) (checks : List (FieldRule × Json)) :
    (PatternCache.run cache checks).1 = checks.map fun c => c.1.finding? c.2 := by
  induction checks generalizing cache with
  | nil => rfl
  | cons c rest ih =>
    have hfirst := h.findingWith_fst c.1 c.2
    have hothers := ih (h.findingWith_snd c.1 c.2)
    rw [List.map_cons, ← hfirst, ← hothers]
    rfl

theorem Sound.mem_run_iff (h : cache.Sound) (checks : List (FieldRule × Json)) :
    (text, matcher) ∈ (PatternCache.run cache checks).2 ↔ (text, matcher) ∈ cache ∨
      (∃ c ∈ checks, c.1.patternReached? c.2 = some text) ∧ Pattern.compile text = .ok matcher := by
  induction checks generalizing cache with
  | nil => simp [PatternCache.run]
  | cons c rest ih =>
    have hstep := ih (h.findingWith_snd c.1 c.2)
    rw [h.mem_findingWith_iff] at hstep
    rw [List.exists_mem_cons_iff, or_and_right, ← or_assoc]
    exact hstep

/-- Where nothing was kept at first, each of several checks finds what it would find as the first,
and after any number of them the patterns kept, each once, are those that a check came to and that
compile, with the matcher that the text compiles to. -/
theorem run_of_nothing_kept (checks : List (FieldRule × Json)) :
    (run [] checks).1 = checks.map (fun c => (c.1.findingWith [] c.2).1) ∧
      ∀ n, ((run [] (checks.take n)).2.map Prod.fst).Nodup ∧
        ∀ text matcher, (text, matcher) ∈ (run [] (checks.take n)).2 ↔
          (∃ c ∈ checks.take n, c.1.patternReached? c.2 = some text) ∧
            Pattern.compile text = .ok matcher := by
  constructor
  · rw [sound_nil.run_fst]
    exact List.map_congr_left fun c _ => (sound_nil.findingWith_fst c.1 c.2).symm
  · intro n
    refine ⟨(sound_nil.run _).keys, fun text matcher => ?_⟩
    rw [sound_nil.mem_run_iff]
    simp only [List.not_mem_nil, false_or]

end PatternCache
end FlowCheck
