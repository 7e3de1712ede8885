import FlowCheck.Pattern.Matcher
import Mathlib.Data.Nat.Basic

/-!
# What a matcher finds

`Matcher.Spans` says which stretches of a text match: it follows the matcher part by part, and a
repetition is a row of as many steps as its bounds allow, whatever their number.  Running a matcher
on sets of places gives exactly the ends of such stretches (`Matcher.mem_ends_iff`), although it
cuts every repetition short.

Cutting short is right because steps only go forward.  A row of more steps than the text has
characters stands still somewhere, and where it can stand still once it can do so any number of
times (`Times.of_lt`); so neither the lower nor the upper bound of a repetition matters beyond the
number of places.
-/

namespace FlowCheck

namespace Matcher

/-! ## Rows of steps -/

/-- Some number of steps in a row. -/
def Times (R : Nat → Nat → Prop) : Nat → Nat → Nat → Prop
  | 0, i, j => j = i
  | n + 1, i, j => ∃ k, R i k ∧ Times R n k j

/-- Steps go forward, and not beyond the end of a text. -/
def Advances (size : Nat) (R : Nat → Nat → Prop) : Prop :=
  ∀ ⦃i j⦄, R i j → i ≤ j ∧ (j = i ∨ j ≤ size)

section
variable {R : Nat → Nat → Prop} {size m n i j : Nat}

theorem times_add_iff : Times R (m + n) i j ↔ ∃ k, Times R m i k ∧ Times R n k j := by
  induction m generalizing i with
  | zero => simp [Times]
  | succ m ih =>
    rw [Nat.succ_add]
    constructor
    · rintro ⟨k, hstep, hrest⟩
      obtain ⟨l, hfirst, hsecond⟩ := ih.1 hrest
      exact ⟨l, ⟨k, hstep, hfirst⟩, hsecond⟩
    · rintro ⟨l, ⟨k, hstep, hfirst⟩, hsecond⟩
      exact ⟨k, hstep, ih.2 ⟨l, hfirst, hsecond⟩⟩

/-- Whoever can stand still can do so any number of times. -/
theorem times_self (h : R i i) : Times R n i i := by
  induction n with
  | zero => rfl
  | succ n ih => exact ⟨i, h, ih⟩

theorem Advances.times (hR : Advances size R) : Advances size (Times R n) := by
  intro i j h
  induction n generalizing i with
  | zero =>
    obtain rfl : j = i := h
    exact ⟨le_rfl, .inl rfl⟩
  | succ n ih =>
    obtain ⟨k, hstep, hrest⟩ := h
    have hfirst := hR hstep
    have hthen := ih hrest
    omega

/-- No row of steps leaves a set that no step leaves. -/
theorem Times.mem {places : Places} (hclosed : ∀ k ∈ places, ∀ l, R k l → l ∈ places)
    (h : Times R n i j) (hi : i ∈ places) : j ∈ places := by
  induction n generalizing i with
  | zero =>
    obtain rfl : j = i := h
    exact hi
  | succ n ih =>
    obtain ⟨k, hstep, hrest⟩ := h
    exact ih hrest (hclosed i hi k hstep)

/-- More steps than there is way contain one that stands still, so there are rows of every length
that is enough for the way. -/
theorem Times.of_lt (hR : Advances size R) (h : Times R n i j) (hn : j - i < n) (hm : j - i ≤ m) :
    Times R m i j := by
  induction n generalizing i m with
  | zero => omega
  | succ n ih =>
    obtain ⟨k, hstep, hrest⟩ := h
    have hforward := (hR hstep).1
    have hway := (hR.times hrest).1
    rcases Nat.eq_or_lt_of_le hforward with rfl | hlt
    -- it stands still right here
    · rcases Nat.lt_or_ge (j - i) n with hlong | hshort
      · exact ih hrest hlong hm
      · obtain ⟨extra, rfl⟩ := Nat.exists_eq_add_of_le (Nat.le_trans hshort hm)
        rw [Nat.add_comm, times_add_iff]
        exact ⟨i, times_self hstep, hrest⟩
    · obtain ⟨m, rfl⟩ : ∃ l, m = l + 1 := Nat.exists_eq_add_one.2 (by omega)
      exact ⟨k, hstep, ih hrest (by omega) (by omega)⟩

/-- Beyond the length of the text the number of steps does not matter. -/
theorem times_min_iff (hR : Advances size R) {rounds : Nat} (hrounds : size < rounds) :
    Times R (min n rounds) i j ↔ Times R n i j := by
  rcases Nat.le_total n rounds with hle | hle
  · rw [Nat.min_eq_left hle]
  · rw [Nat.min_eq_right hle]
    constructor
    · intro h
      have hway := hR.times h
      exact h.of_lt hR (by omega) (by omega)
    · intro h
      have hway := hR.times h
      exact h.of_lt hR (by omega) (by omega)

/-- Both bounds of a repetition may be cut: it leads where rows of `min least rounds` steps and a
few more lead. -/
theorem exists_times_min_iff (hR : Advances size R) {least rounds more : Nat} {most : Option Nat}
    (hrounds : size < rounds)
    (hmore : ∀ n, n ≤ more ↔ n ≤ rounds ∧ ∀ m ∈ most, n ≤ m - least) :
    (∃ k, Times R (min least rounds) i k ∧ ∃ n ≤ more, Times R n k j) ↔
      ∃ n, least ≤ n ∧ (∀ m ∈ most, n ≤ max least m) ∧ Times R n i j := by
  constructor
  · rintro ⟨k, hfirst, n, hn, hthen⟩
    have hmost := ((hmore n).1 hn).2
    refine ⟨least + n, Nat.le_add_right _ _, fun m hm => ?_, ?_⟩
    · have := hmost m hm
      omega
    · exact times_add_iff.2 ⟨k, (times_min_iff hR hrounds).1 hfirst, hthen⟩
  · rintro ⟨n, hleast, hmost, hrow⟩
    obtain ⟨extra, rfl⟩ := Nat.exists_eq_add_of_le hleast
    obtain ⟨k, hfirst, hthen⟩ := times_add_iff.1 hrow
    refine ⟨k, (times_min_iff hR hrounds).2 hfirst, min extra rounds, ?_,
      (times_min_iff hR hrounds).2 hthen⟩
    refine (hmore _).2 ⟨Nat.min_le_right _ _, fun m hm => ?_⟩
    have := hmost m hm
    omega

end

/-! ## Sets of places -/

namespace Places

@[simp] theorem mem_insert {ps : Places} {p q : Nat} : q ∈ ps.insert p ↔ q ∈ ps ∨ q = p := by
  unfold insert
  split
  · next h =>
    have hp : p ∈ ps := by simpa using h
    exact ⟨.inl, fun hq => hq.elim id fun heq => heq ▸ hp⟩
  · simp [or_comm]

@[simp] theorem mem_union {ps qs : Places} {q : Nat} : q ∈ ps.union qs ↔ q ∈ ps ∨ q ∈ qs := by
  unfold union
  induction qs generalizing ps with
  | nil => simp
  | cons p qs ih => rw [List.foldl_cons, ih, mem_insert, List.mem_cons, or_assoc]

/-- A step on sets of places that takes a relation's steps from every place of the set. -/
def Takes (step : Places → Places) (R : Nat → Nat → Prop) : Prop :=
  ∀ ps j, j ∈ step ps ↔ ∃ i ∈ ps, R i j

variable {step : Places → Places} {R : Nat → Nat → Prop}

theorem mem_times_iff (hstep : Takes step R) {n : Nat} {ps : Places} {j : Nat} :
    j ∈ times step n ps ↔ ∃ i ∈ ps, Times R n i j := by
  induction n generalizing ps with
  | zero => simp [times, Times]
  | succ n ih =>
    rw [times]
    split
    · next h => simp [List.isEmpty_iff.1 h]
    · rw [ih]
      constructor
      · rintro ⟨k, hk, hrest⟩
        obtain ⟨i, hi, hfirst⟩ := (hstep ps k).1 hk
        exact ⟨i, hi, k, hfirst, hrest⟩
      · rintro ⟨i, hi, k, hfirst, hrest⟩
        exact ⟨k, (hstep ps k).2 ⟨i, hi, hfirst⟩, hrest⟩

/-- Spreading from the newest places is enough when all steps from the others are known. -/
theorem mem_spread_iff (hstep : Takes step R) {n : Nat} {known newest : Places} {j : Nat}
    (hnewest : ∀ i ∈ newest, i ∈ known)
    (hknown : ∀ i ∈ known, i ∉ newest → ∀ k, R i k → k ∈ known) :
    j ∈ spread step n known newest ↔ ∃ i ∈ known, ∃ k ≤ n, Times R k i j := by
  induction n generalizing known newest with
  | zero => simp [spread, Times]
  | succ n ih =>
    simp only [spread]
    generalize hfound : (step newest).filter (fun p => !known.contains p) = found
    have hmem : ∀ k, k ∈ found ↔ k ∈ step newest ∧ k ∉ known := by simp [← hfound]
    have hclosed : ∀ i ∈ known, ∀ k, R i k → k ∈ known ∨ k ∈ found := by
      intro i hi k hk
      by_cases hold : k ∈ known
      · exact .inl hold
      · have hin : i ∈ newest := by
          by_contra hin
          exact hold (hknown i hi hin k hk)
        exact .inr ((hmem k).2 ⟨(hstep newest k).2 ⟨i, hin, hk⟩, hold⟩)
    split
    · next hempty =>
      obtain rfl : found = [] := List.isEmpty_iff.1 hempty
      refine ⟨fun hj => ⟨j, hj, 0, Nat.zero_le _, rfl⟩, ?_⟩
      rintro ⟨i, hi, k, -, hrow⟩
      exact hrow.mem (fun l hl m hm => (hclosed l hl m hm).resolve_right List.not_mem_nil) hi
    · rw [ih (fun i hi => mem_union.2 (.inr hi)) fun i hi hin k hk =>
        mem_union.2 (hclosed i ((mem_union.1 hi).resolve_right hin) k hk)]
      constructor
      · rintro ⟨i, hi, k, hk, hrow⟩
        rcases mem_union.1 hi with hi | hi
        · exact ⟨i, hi, k, Nat.le_trans hk n.le_succ, hrow⟩
        · obtain ⟨l, hl, hfirst⟩ := (hstep newest i).1 ((hmem i).1 hi).1
          exact ⟨l, hnewest l hl, k + 1, Nat.succ_le_succ hk, i, hfirst, hrow⟩
      · rintro ⟨i, hi, k, hk, hrow⟩
        cases k with
        | zero => exact ⟨i, mem_union.2 (.inl hi), 0, Nat.zero_le _, hrow⟩
        | succ k =>
          obtain ⟨l, hfirst, hrest⟩ := hrow
          exact ⟨l, mem_union.2 (hclosed i hi l hfirst), k, Nat.le_of_succ_le_succ hk, hrest⟩

end Places

/-! ## Stretches that match -/

mutual

/-- The stretch of the text from one place up to another matches. -/
def Spans (text : Array Char) : Matcher → Nat → Nat → Prop
  | .empty, i, j => j = i
  | .set ranges, i, j => j = i + 1 ∧ text[i]?.any (fun c => ranges.has c.toNat) = true
  | .look condition, i, j =>
    j = i ∧ condition.holds (if i = 0 then none else text[i - 1]?) text[i]? = true
  | .capture inner, i, j => inner.Spans text i j
  | .concat parts, i, j => SpansAll text parts i j
  | .either parts, i, j => SpansAny text parts i j
  -- an upper bound below the lower one counts as the lower one
  | .repeated least most inner, i, j =>
    ∃ n, least ≤ n ∧ (∀ m ∈ most, n ≤ max least m) ∧ Times (inner.Spans text) n i j

/-- The parts match one behind the other. -/
def SpansAll (text : Array Char) : List Matcher → Nat → Nat → Prop
  | [], i, j => j = i
  | part :: rest, i, j => ∃ k, part.Spans text i k ∧ SpansAll text rest k j

/-- One of the parts matches. -/
def SpansAny (text : Array Char) : List Matcher → Nat → Nat → Prop
  | [], _, _ => False
  | part :: rest, i, j => part.Spans text i j ∨ SpansAny text rest i j

end

mutual

theorem advances_spans (text : Array Char) : ∀ m : Matcher, Advances text.size (m.Spans text)
  | .empty, i, j, h => by
    obtain rfl : j = i := h
    exact ⟨le_rfl, .inl rfl⟩
  | .set ranges, i, j, h => by
    obtain ⟨rfl, hany⟩ := h
    obtain ⟨c, hc, -⟩ := Option.any_eq_true .. |>.1 hany
    obtain ⟨hlt, -⟩ := Array.getElem?_eq_some_iff.1 hc
    omega
  | .look condition, i, j, h => by
    obtain ⟨rfl, -⟩ := h
    exact ⟨le_rfl, .inl rfl⟩
  | .capture inner, _, _, h => advances_spans text inner h
  | .concat parts, _, _, h => advances_spansAll text parts h
  | .either parts, _, _, h => advances_spansAny text parts h
  | .repeated _ _ inner, _, _, ⟨_, _, _, h⟩ => (advances_spans text inner).times h

theorem advances_spansAll (text : Array Char) :
    ∀ parts : List Matcher, Advances text.size (SpansAll text parts)
  | [], i, j, h => by
    obtain rfl : j = i := h
    exact ⟨le_rfl, .inl rfl⟩
  | part :: rest, i, j, h => by
    obtain ⟨k, hpart, hrest⟩ := h
    have hfirst := advances_spans text part hpart
    have hthen := advances_spansAll text rest hrest
    omega

theorem advances_spansAny (text : Array Char) :
    ∀ parts : List Matcher, Advances text.size (SpansAny text parts)
  | [], _, _, h => h.elim
  | part :: _, _, _, .inl h => advances_spans text part h
  | _ :: rest, _, _, .inr h => advances_spansAny text rest h

end

/-! ## Running a matcher -/

mutual

/-- A matcher finds the places to which a matching stretch leads, and no others. -/
theorem mem_ends_iff (text : Array Char) : ∀ (m : Matcher) (starts : Places) (j : Nat),
    j ∈ m.ends text starts ↔ ∃ i ∈ starts, m.Spans text i j
  | .empty, starts, j => by simp [ends, Spans]
  | .set ranges, starts, j => by
    simp only [ends, Spans, List.mem_filterMap, Option.ite_none_right_eq_some, Option.some.injEq]
    refine exists_congr fun i => and_congr_right fun _ => ?_
    rw [and_comm, eq_comm]
  | .look condition, starts, j => by
    simp only [ends, Spans, List.mem_filter]
    constructor
    · rintro ⟨hj, hlook⟩
      exact ⟨j, hj, rfl, hlook⟩
    · rintro ⟨i, hi, rfl, hlook⟩
      exact ⟨hi, hlook⟩
  | .capture inner, starts, j => mem_ends_iff text inner starts j
  | .concat parts, starts, j => mem_endsOfAll_iff text parts starts j
  | .either parts, starts, j => mem_endsOfAny_iff text parts starts j
  | .repeated least most inner, starts, j => by
    have hstep : Places.Takes (fun ps => inner.ends text ps) (inner.Spans text) :=
      mem_ends_iff text inner
    have hmore : ∀ n, n ≤ (match most with
        | none => text.size + 1
        | some m => min (m - least) (text.size + 1)) ↔
        n ≤ text.size + 1 ∧ ∀ m ∈ most, n ≤ m - least := by
      intro n
      cases most with
      | none => simp
      | some m =>
        rw [Nat.le_min, and_comm]
        simp
    simp only [ends, Spans]
    rw [Places.mem_spread_iff hstep (fun _ hi => hi) fun i hi hin => absurd hi hin]
    simp only [Places.mem_times_iff hstep]
    constructor
    · rintro ⟨k, ⟨i, hi, hfirst⟩, hthen⟩
      exact ⟨i, hi, (exists_times_min_iff (advances_spans text inner) (Nat.lt_succ_self _)
        hmore).1 ⟨k, hfirst, hthen⟩⟩
    · rintro ⟨i, hi, hrow⟩
      obtain ⟨k, hfirst, hthen⟩ := (exists_times_min_iff (advances_spans text inner)
        (Nat.lt_succ_self _) hmore).2 hrow
      exact ⟨k, ⟨i, hi, hfirst⟩, hthen⟩

theorem mem_endsOfAll_iff (text : Array Char) :
    ∀ (parts : List Matcher) (starts : Places) (j : Nat),
      j ∈ endsOfAll text starts parts ↔ ∃ i ∈ starts, SpansAll text parts i j
  | [], starts, j => by simp [endsOfAll, SpansAll]
  | part :: rest, starts, j => by
    rw [endsOfAll, mem_endsOfAll_iff text rest]
    simp only [SpansAll, mem_ends_iff text part]
    constructor
    · rintro ⟨k, ⟨i, hi, hpart⟩, hrest⟩
      exact ⟨i, hi, k, hpart, hrest⟩
    · rintro ⟨i, hi, k, hpart, hrest⟩
      exact ⟨k, ⟨i, hi, hpart⟩, hrest⟩

theorem mem_endsOfAny_iff (text : Array Char) :
    ∀ (parts : List Matcher) (starts : Places) (j : Nat),
      j ∈ endsOfAny text starts parts ↔ ∃ i ∈ starts, SpansAny text parts i j
  | [], starts, j => by simp [endsOfAny, SpansAny]
  | part :: rest, starts, j => by
    rw [endsOfAny, Places.mem_union, mem_ends_iff text part, mem_endsOfAny_iff text rest,
      ← exists_or]
    simp only [SpansAny, and_or_left]

end

/-- A matcher occurs in a text in which some stretch matches. -/
theorem occursIn_iff {m : Matcher} {text : String} : m.occursIn text = true ↔
    ∃ i j, i ≤ text.toList.length ∧ m.Spans text.toList.toArray i j := by
  simp only [occursIn, Bool.not_eq_true', List.isEmpty_eq_false_iff_exists_mem, mem_ends_iff,
    List.mem_range, List.size_toArray, Nat.lt_succ_iff]
  constructor
  · rintro ⟨j, i, hi, hspan⟩
    exact ⟨i, j, hi, hspan⟩
  · rintro ⟨i, j, hi, hspan⟩
    exact ⟨j, i, hi, hspan⟩

/-! ## Rows of characters -/

/-- Some characters stand between two places. -/
def Reads (cs : List Char) (i : Nat) (run : List Char) (j : Nat) : Prop :=
  cs.drop i = run ++ cs.drop j ∧ j = i + run.length

section
variable {cs run : List Char} {ranges : Unicode.Ranges} {i j k : Nat}

theorem reads_append_iff {more : List Char} :
    Reads cs i (run ++ more) k ↔ ∃ j, Reads cs i run j ∧ Reads cs j more k := by
  constructor
  · rintro ⟨hrun, rfl⟩
    rw [List.length_append, ← Nat.add_assoc, List.append_assoc] at *
    have hbehind : cs.drop (i + run.length) = more ++ cs.drop (i + run.length + more.length) := by
      rw [← List.drop_drop, hrun, List.drop_left]
    exact ⟨i + run.length, ⟨by rw [hrun, hbehind], rfl⟩, hbehind, rfl⟩
  · rintro ⟨j, ⟨hrun, rfl⟩, hmore, rfl⟩
    exact ⟨by rw [hrun, hmore, List.append_assoc], by rw [List.length_append, Nat.add_assoc]⟩

theorem reads_cons_iff {c : Char} :
    Reads cs i (c :: run) k ↔ ∃ j, Reads cs i [c] j ∧ Reads cs j run k := by
  rw [← List.singleton_append]
  exact reads_append_iff

theorem reads_nil_iff : Reads cs i [] j ↔ j = i :=
  ⟨And.right, fun h => ⟨by rw [h]; rfl, h⟩⟩

/-- The whole text stands between its first place and its last one. -/
theorem reads_all_iff : Reads cs 0 run j ∧ cs.drop j = [] ↔ cs = run ∧ j = run.length := by
  constructor
  · rintro ⟨⟨hrun, hj⟩, hnil⟩
    rw [List.drop_zero, hnil, List.append_nil] at hrun
    exact ⟨hrun, by rw [hj, Nat.zero_add]⟩
  · rintro ⟨rfl, rfl⟩
    exact ⟨⟨by simp, by simp⟩, List.drop_length⟩

/-! ### The matchers of characters and of the ends of a text -/

theorem spans_concat_nil_iff {text : Array Char} : (concat []).Spans text i j ↔ j = i := Iff.rfl

theorem spans_concat_cons_iff {text : Array Char} {part : Matcher} {rest : List Matcher} :
    (concat (part :: rest)).Spans text i j ↔
      ∃ k, part.Spans text i k ∧ (concat rest).Spans text k j := Iff.rfl

theorem spans_set_iff : (Matcher.set ranges).Spans cs.toArray i j ↔
    ∃ c, ranges.has c.toNat = true ∧ Reads cs i [c] j := by
  simp only [Spans, Reads, List.getElem?_toArray, Option.any_eq_true, List.length_singleton]
  constructor
  · rintro ⟨rfl, c, hc, hhas⟩
    obtain ⟨hlt, rfl⟩ := List.getElem?_eq_some_iff.1 hc
    exact ⟨_, hhas, List.drop_eq_getElem_cons hlt, rfl⟩
  · rintro ⟨c, hhas, hdrop, rfl⟩
    refine ⟨rfl, c, ?_, hhas⟩
    rw [← List.head?_drop, hdrop]
    rfl

theorem times_set_iff {n : Nat} : Times ((Matcher.set ranges).Spans cs.toArray) n i j ↔
    ∃ run, run.length = n ∧ (∀ c ∈ run, ranges.has c.toNat = true) ∧ Reads cs i run j := by
  induction n generalizing i with
  | zero =>
    constructor
    · intro h
      exact ⟨[], rfl, by simp, reads_nil_iff.2 h⟩
    · rintro ⟨run, hlength, -, hreads⟩
      obtain rfl := List.length_eq_zero_iff.1 hlength
      exact reads_nil_iff.1 hreads
  | succ n ih =>
    simp only [Times, spans_set_iff, ih]
    constructor
    · rintro ⟨k, ⟨c, hc, hfirst⟩, run, rfl, hrun, hrest⟩
      exact ⟨c :: run, rfl, List.forall_mem_cons.2 ⟨hc, hrun⟩,
        reads_cons_iff.2 ⟨k, hfirst, hrest⟩⟩
    · rintro ⟨run, hlength, hrun, hreads⟩
      obtain ⟨c, run, rfl⟩ := List.exists_cons_of_length_eq_add_one hlength
      obtain ⟨hc, hrun⟩ := List.forall_mem_cons.1 hrun
      obtain ⟨k, hfirst, hrest⟩ := reads_cons_iff.1 hreads
      exact ⟨k, ⟨c, hc, hfirst⟩, run, Nat.succ.inj hlength, hrun, hrest⟩

/-- A set repeated at least once matches the nonempty rows of its characters. -/
theorem spans_repeated_set_iff : (Matcher.repeated 1 none (.set ranges)).Spans cs.toArray i j ↔
    ∃ run, run ≠ [] ∧ (∀ c ∈ run, ranges.has c.toNat = true) ∧ Reads cs i run j := by
  constructor
  · rintro ⟨n, hleast, -, htimes⟩
    obtain ⟨run, rfl, hrun, hreads⟩ := times_set_iff.1 htimes
    exact ⟨run, List.length_pos_iff.1 hleast, hrun, hreads⟩
  · rintro ⟨run, hne, hrun, hreads⟩
    exact ⟨run.length, List.length_pos_iff.2 hne, by simp,
      times_set_iff.2 ⟨run, rfl, hrun, hreads⟩⟩

theorem spans_textStart_iff (hi : i ≤ cs.length) :
    (Matcher.look .textStart).Spans cs.toArray i j ↔ j = i ∧ i = 0 := by
  simp only [Spans, Look.holds, Option.isNone_iff_eq_none, ite_eq_left_iff,
    List.getElem?_toArray, List.getElem?_eq_none_iff]
  refine and_congr_right fun _ => ⟨fun h => ?_, fun h hne => absurd h hne⟩
  by_contra hne
  have := h hne
  omega

theorem spans_textEnd_iff :
    (Matcher.look .textEnd).Spans cs.toArray i j ↔ j = i ∧ cs.drop i = [] := by
  simp only [Spans, Look.holds, Option.isNone_iff_eq_none, List.getElem?_toArray,
    List.getElem?_eq_none_iff, List.drop_eq_nil_iff]

end

end Matcher
end FlowCheck
