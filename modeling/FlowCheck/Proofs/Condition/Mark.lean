import FlowCheck.Condition.Parser
import FlowCheck.Proofs.Text.Search
import FlowCheck.Proofs.Text.Trim

/-!
# What stands where in a condition

`marks` reads a text from left to right and keeps, in order, one mark for each quoted string and
one for each character outside quotes, which says whether a separator or a comparison operator
starts there.  It is the lexical view against which the cutting at separators, the search for an
operator and the reading of an operand are compared.

`Tidy` says of a row of marks that every quote is closed, that no two operators stand between
neighbouring separators, and that no two quoted strings stand between neighbouring separators and
operators.

The scanning lemmas are stated for any open quote, since the scan enters the middle of a string
as it recurses.
-/

namespace FlowCheck
namespace Condition

open Text (AllBlank infix_or_infix_of_infix_append_cons isBlank)

/-- What stands at a place of a text. -/
inductive Mark where
  /-- A string, from its quote to the same quote again. -/
  | quoted
  /-- A quote that is not closed. -/
  | unclosed
  /-- The first of two equal characters `|` or `&`. -/
  | separator (c : Char)
  /-- The start of a comparison operator. -/
  | operator
  /-- One of `|`, `&`, `=` and `!` at which nothing of this starts. -/
  | stray
  | plain
deriving DecidableEq

/-- The mark of a character outside quotes, given the one behind it. -/
def markAt (c : Char) (next : Option Char) : Mark :=
  if c = '|' ∨ c = '&' then if next = some c then .separator c else .stray
  else if c = '<' ∨ c = '>' then .operator
  else if c = '=' ∨ c = '!' then if next = some '=' then .operator else .stray
  else .plain

/-- The marks that one character gives; a string is marked at its last quote. -/
def marksAt (quote : Option Char) (c : Char) (next : Option Char) : List Mark :=
  match quote with
  | some q => if c = q then [.quoted] else []
  | none => if isQuote c then [] else [markAt c next]

/-- The marks of a text that starts behind an open quote, or outside quotes. -/
def marks (quote : Option Char) : List Char → List Mark
  | [] => if quote.isSome then [.unclosed] else []
  | c :: cs => marksAt quote c cs.head? ++ marks (nextQuote quote c) cs

/-- Every quote is closed, and between separators stands one operator at most, and between
separators and operators one quoted string at most. -/
structure Tidy (ms : List Mark) : Prop where
  closed : .unclosed ∉ ms
  one_operator : ∀ run, run <:+: ms → (∀ c, .separator c ∉ run) → run.count .operator ≤ 1
  one_string : ∀ run, run <:+: ms → (∀ c, .separator c ∉ run) → .operator ∉ run →
    run.count .quoted ≤ 1

/-! ## Scanning -/

@[simp] theorem marks_none_nil : marks none [] = [] := rfl

@[simp] theorem marks_some_nil (q : Char) : marks (some q) [] = [.unclosed] := rfl

theorem marks_cons (quote : Option Char) (c : Char) (cs : List Char) :
    marks quote (c :: cs) = marksAt quote c cs.head? ++ marks (nextQuote quote c) cs := rfl

theorem marks_none_cons {c : Char} (hc : isQuote c = false) (cs : List Char) :
    marks none (c :: cs) = markAt c cs.head? :: marks none cs := by
  simp [marks_cons, marksAt, nextQuote, hc]

/-- No single character leaves a quote open. -/
theorem unclosed_not_mem_marksAt (quote : Option Char) (c : Char) (next : Option Char) :
    .unclosed ∉ marksAt quote c next := by
  unfold marksAt markAt
  grind

theorem isQuote_of_mem_nextQuote {quote : Option Char} (h : ∀ q ∈ quote, isQuote q = true)
    (c : Char) : ∀ q ∈ nextQuote quote c, isQuote q = true := by
  unfold nextQuote
  grind

/-- Only what ends outside quotes is closed. -/
theorem eq_none_of_closed_nil {quote : Option Char} (h : .unclosed ∉ marks quote []) :
    quote = none := by
  cases quote with
  | none => rfl
  | some q => simp at h

theorem closed_tail {quote : Option Char} {c : Char} {cs : List Char}
    (h : .unclosed ∉ marks quote (c :: cs)) : .unclosed ∉ marks (nextQuote quote c) cs := by
  rw [marks_cons] at h
  exact fun hmem => h (List.mem_append_right _ hmem)

theorem mem_getLast?_cons {c d : Char} {cs : List Char} (h : d ∈ cs.getLast?) :
    d ∈ (c :: cs).getLast? := by
  cases cs with
  | nil => simp at h
  | cons e cs => rwa [List.getLast?_cons_cons]

/-- The marks of two texts in a row, when the first closes its quotes and its last character does
not start anything together with the second text. -/
theorem marks_append {quote : Option Char} {p rest : List Char}
    (hclosed : .unclosed ∉ marks quote p)
    (happart : ∀ c ∈ p.getLast?, markAt c rest.head? = markAt c none) :
    marks quote (p ++ rest) = marks quote p ++ marks none rest := by
  induction p generalizing quote with
  | nil =>
    rw [eq_none_of_closed_nil hclosed]
    rfl
  | cons c p ih =>
    have htail := closed_tail hclosed
    rw [List.cons_append, marks_cons, marks_cons]
    cases p with
    | nil =>
      have hlead : marksAt quote c rest.head? = marksAt quote c none := by
        cases quote with
        | none => simp [marksAt, happart c rfl]
        | some q => rfl
      rw [eq_none_of_closed_nil htail]
      simp [hlead]
    | cons d p =>
      rw [ih htail fun e he => happart e (mem_getLast?_cons he), List.append_assoc]
      rfl

/-- What a text without quotes follows stays open. -/
theorem unclosed_mem_marks_append {quote : Option Char} {p rest : List Char}
    (hquote : ∀ q ∈ quote, isQuote q = true) (hrest : ∀ c ∈ rest, isQuote c = false)
    (h : .unclosed ∈ marks quote p) : .unclosed ∈ marks quote (p ++ rest) := by
  induction p generalizing quote with
  | nil =>
    cases quote with
    | none => simp at h
    | some q =>
      have hq := hquote q rfl
      clear h
      induction rest with
      | nil => simp
      | cons c rest ih =>
        have hc : c ≠ q := fun heq => by simp_all
        have ih := ih fun d hd => hrest d (List.mem_cons_of_mem _ hd)
        simpa [marks_cons, marksAt, nextQuote, hc] using ih
  | cons c p ih =>
    rw [marks_cons] at h
    rw [List.cons_append, marks_cons]
    rcases List.mem_append.1 h with h | h
    · exact absurd h (unclosed_not_mem_marksAt quote c p.head?)
    · exact List.mem_append_right _ (ih (isQuote_of_mem_nextQuote hquote c) h)

/-- A quote outside quotes opens a string, closed or not. -/
theorem quoted_or_unclosed_mem_marks {quote : Option Char} {cs : List Char}
    (h : quote ≠ none ∨ ∃ q ∈ cs, isQuote q = true) :
    .quoted ∈ marks quote cs ∨ .unclosed ∈ marks quote cs := by
  induction cs generalizing quote with
  | nil =>
    cases quote with
    | none => simp at h
    | some q => exact .inr (by simp)
  | cons c cs ih =>
    have hstep : .quoted ∈ marksAt quote c cs.head? ∨ nextQuote quote c ≠ none ∨
        ∃ q ∈ cs, isQuote q = true := by
      cases quote with
      | none => by_cases hc : isQuote c = true <;> simp_all [nextQuote]
      | some q => by_cases hc : c = q <;> simp [marksAt, nextQuote, hc]
    rw [marks_cons, List.mem_append, List.mem_append]
    rcases hstep with hstep | hstep
    · exact .inl (.inl hstep)
    · rcases ih hstep with hmem | hmem
      · exact .inl (.inr hmem)
      · exact .inr (.inr hmem)

/-! ## Characters that mean nothing outside quotes -/

/-- The character opens no string and starts no separator, operator or negation. -/
def isInert (c : Char) : Bool := !isQuote c && !(['|', '&', '<', '>', '=', '!'].contains c)

/-- A class of characters is inert when it has none of the eight that mean something. -/
theorem isInert_of_class {p : Char → Bool}
    (h : (['"', '\'', '|', '&', '<', '>', '=', '!'].all fun c => !p c) = true) {c : Char}
    (hc : p c = true) : isInert c = true := by
  by_contra hcon
  have hmem : c ∈ ['"', '\'', '|', '&', '<', '>', '=', '!'] := by
    simp only [isInert, isQuote, Bool.and_eq_true, Bool.not_eq_true', Bool.or_eq_false_iff,
      beq_eq_false_iff_ne, List.contains_eq_mem, decide_eq_false_iff_not] at hcon
    by_contra hnot
    simp only [List.mem_cons, not_or] at hnot hcon
    exact hcon ⟨⟨hnot.1, hnot.2.1⟩, hnot.2.2⟩
  have hnone := List.all_eq_true.1 h c hmem
  rw [hc] at hnone
  contradiction

theorem isInert_of_isBlank {c : Char} (h : isBlank c = true) : isInert c = true :=
  isInert_of_class (p := isBlank) (by decide) h

theorem isQuote_eq_false_of_isInert {c : Char} (h : isInert c = true) : isQuote c = false := by
  simp only [isInert, Bool.and_eq_true, Bool.not_eq_true'] at h
  exact h.1

theorem markAt_of_isInert {c : Char} (h : isInert c = true) (next : Option Char) :
    markAt c next = .plain := by
  simp only [isInert, Bool.and_eq_true, Bool.not_eq_true', List.contains_eq_mem,
    decide_eq_false_iff_not, List.mem_cons, not_or] at h
  simp [markAt, h]

/-- An inert text has plain marks only. -/
theorem marks_of_inert {cs : List Char} (h : ∀ c ∈ cs, isInert c = true) :
    marks none cs = List.replicate cs.length .plain := by
  induction cs with
  | nil => rfl
  | cons c cs ih =>
    have hc := h c List.mem_cons_self
    rw [marks_none_cons (isQuote_eq_false_of_isInert hc), markAt_of_isInert hc,
      ih fun d hd => h d (List.mem_cons_of_mem _ hd)]
    rfl

theorem marks_of_allBlank {cs : List Char} (h : AllBlank cs) :
    marks none cs = List.replicate cs.length .plain :=
  marks_of_inert fun c hc => isInert_of_isBlank (h c hc)

/-! ## Quoted strings -/

theorem marks_some_append {q : Char} {body : List Char} (h : q ∉ body) (rest : List Char) :
    marks (some q) (body ++ q :: rest) = .quoted :: marks none rest := by
  induction body with
  | nil => simp [marks_cons, marksAt, nextQuote]
  | cons c body ih =>
    obtain ⟨hc, hbody⟩ := not_or.1 (mt List.mem_cons.2 h)
    simpa [marks_cons, marksAt, nextQuote, Ne.symm hc] using ih hbody

/-- A quoted string without its own quote inside is one mark. -/
theorem marks_quoted {q : Char} (hq : isQuote q = true) {body : List Char} (h : q ∉ body)
    (rest : List Char) : marks none (q :: (body ++ q :: rest)) = .quoted :: marks none rest := by
  rw [marks_cons, nextQuote, if_pos hq, marks_some_append h]
  simp [marksAt, hq]

example : marks none "a=='|'||!b".toList =
    [.plain, .operator, .stray, .quoted, .separator '|', .stray, .stray, .plain] := by decide

/-! ## Tidy rows of marks -/

theorem Tidy.of_isInfix {ms run : List Mark} (h : Tidy ms) (hrun : run <:+: ms) : Tidy run where
  closed := fun hmem => h.closed (hrun.subset hmem)
  one_operator := fun r hr => h.one_operator r (hr.trans hrun)
  one_string := fun r hr => h.one_string r (hr.trans hrun)

/-- A separator divides what has to be tidy. -/
theorem Tidy.append_separator {a b : List Mark} (ha : Tidy a) (hb : Tidy b) (c : Char) :
    Tidy (a ++ .separator c :: b) where
  closed := by simp [ha.closed, hb.closed]
  one_operator := by
    intro run hrun hsep
    rcases infix_or_infix_of_infix_append_cons (hsep c) hrun with h | h
    · exact ha.one_operator run h hsep
    · exact hb.one_operator run h hsep
  one_string := by
    intro run hrun hsep hop
    rcases infix_or_infix_of_infix_append_cons (hsep c) hrun with h | h
    · exact ha.one_string run h hsep hop
    · exact hb.one_string run h hsep hop

/-- Operands of one string at most, with an operator between them, are tidy. -/
theorem tidy_append_operator {a b : List Mark} (ha : Tidy a) (hb : Tidy b)
    (hoa : .operator ∉ a) (hob : .operator ∉ b) : Tidy (a ++ .operator :: b) where
  closed := by simp [ha.closed, hb.closed]
  one_operator := by
    intro run hrun _
    have hcount : (a ++ .operator :: b).count .operator = 1 := by
      rw [List.count_append, List.count_cons_self, List.count_eq_zero.2 hoa,
        List.count_eq_zero.2 hob]
    exact hcount ▸ hrun.sublist.count_le _
  one_string := by
    intro run hrun hsep hop
    rcases infix_or_infix_of_infix_append_cons hop hrun with h | h
    · exact ha.one_string run h hsep hop
    · exact hb.one_string run h hsep hop

theorem tidy_of_no_operator {ms : List Mark} (hclosed : .unclosed ∉ ms) (hop : .operator ∉ ms)
    (hcount : ms.count .quoted ≤ 1) : Tidy ms where
  closed := hclosed
  one_operator := by
    intro run hrun _
    have hzero := List.count_eq_zero.2 fun h => hop (hrun.subset h)
    omega
  one_string := fun run hrun _ _ => (hrun.sublist.count_le _).trans hcount

theorem tidy_nil : Tidy [] := tidy_of_no_operator (by simp) (by simp) (by simp)

/-- A stray character in front changes nothing. -/
theorem Tidy.cons_stray {ms : List Mark} (h : Tidy ms) : Tidy (.stray :: ms) where
  closed := by simpa using h.closed
  one_operator := by
    intro run hrun hsep
    rcases List.infix_cons_iff.1 hrun with hrun | hrun
    · rcases List.prefix_cons_iff.1 hrun with rfl | ⟨t, rfl, ht⟩
      · simp
      · rw [List.count_cons_of_ne (by decide)]
        exact h.one_operator t ht.isInfix fun c hc => hsep c (List.mem_cons_of_mem _ hc)
    · exact h.one_operator run hrun hsep
  one_string := by
    intro run hrun hsep hop
    rcases List.infix_cons_iff.1 hrun with hrun | hrun
    · rcases List.prefix_cons_iff.1 hrun with rfl | ⟨t, rfl, ht⟩
      · simp
      · rw [List.count_cons_of_ne (by decide)]
        exact h.one_string t ht.isInfix (fun c hc => hsep c (List.mem_cons_of_mem _ hc))
          fun hmem => hop (List.mem_cons_of_mem _ hmem)
    · exact h.one_string run hrun hsep hop

/-! ## Calm texts

The text of one operand, with the blanks around it, keeps its marks wherever it stands. -/

/-- Outside one quoted string at most nothing means anything, and the last character starts nothing
together with what follows. -/
structure Calm (cs : List Char) : Prop where
  mark_mem : ∀ m ∈ marks none cs, m = .quoted ∨ m = .plain
  one_string : (marks none cs).count .quoted ≤ 1
  last : ∀ c ∈ cs.getLast?, ∀ next, markAt c next = .plain

theorem calm_of_inert {cs : List Char} (h : ∀ c ∈ cs, isInert c = true) : Calm cs where
  mark_mem := by
    rw [marks_of_inert h]
    exact fun m hm => .inr (List.eq_of_mem_replicate hm)
  one_string := by
    rw [marks_of_inert h, List.count_replicate]
    simp
  last := fun c hc next => markAt_of_isInert (h c (List.mem_of_getLast? hc)) next

theorem calm_of_allBlank {cs : List Char} (h : AllBlank cs) : Calm cs :=
  calm_of_inert fun c hc => isInert_of_isBlank (h c hc)

theorem calm_quoted {q : Char} (hq : isQuote q = true) {body : List Char} (h : q ∉ body) :
    Calm (q :: (body ++ [q])) := by
  have hmarks : marks none (q :: (body ++ [q])) = [.quoted] := marks_quoted hq h []
  refine ⟨by simp [hmarks], by simp [hmarks], fun c hc next => ?_⟩
  rw [← List.cons_append, List.getLast?_concat] at hc
  obtain rfl : q = c := by simpa using hc
  unfold isQuote at hq
  unfold markAt
  grind

theorem Calm.closed {cs : List Char} (h : Calm cs) : .unclosed ∉ marks none cs :=
  fun hmem => by simpa using h.mark_mem _ hmem

theorem Calm.no_operator {cs : List Char} (h : Calm cs) : .operator ∉ marks none cs :=
  fun hmem => by simpa using h.mark_mem _ hmem

theorem Calm.no_separator {cs : List Char} (h : Calm cs) (c : Char) :
    .separator c ∉ marks none cs :=
  fun hmem => by simpa using h.mark_mem _ hmem

theorem Calm.tidy {cs : List Char} (h : Calm cs) : Tidy (marks none cs) :=
  tidy_of_no_operator h.closed h.no_operator h.one_string

theorem Calm.marks_append {p : List Char} (h : Calm p) (rest : List Char) :
    marks none (p ++ rest) = marks none p ++ marks none rest :=
  Condition.marks_append h.closed fun c hc => by rw [h.last c hc, h.last c hc]

theorem Calm.append {a b : List Char} (ha : Calm a) (hb : Calm b)
    (hcount : (marks none a).count .quoted + (marks none b).count .quoted ≤ 1) :
    Calm (a ++ b) where
  mark_mem := by
    intro m hm
    rw [ha.marks_append] at hm
    exact (List.mem_append.1 hm).elim (ha.mark_mem m) (hb.mark_mem m)
  one_string := by
    rw [ha.marks_append, List.count_append]
    exact hcount
  last := by
    intro c hc
    rw [List.getLast?_append] at hc
    cases hlast : b.getLast? with
    | none => exact ha.last c (by simpa [hlast] using hc)
    | some d => exact hb.last c (by simpa [hlast] using hc)

theorem count_quoted_of_allBlank {cs : List Char} (h : AllBlank cs) :
    (marks none cs).count .quoted = 0 := by
  rw [marks_of_allBlank h, List.count_replicate]
  rfl

/-- Blanks around a text disturb nothing. -/
theorem Calm.spaced {before core after : List Char} (hb : AllBlank before) (ha : AllBlank after)
    (h : Calm core) : Calm (before ++ core ++ after) := by
  have hfront : Calm (before ++ core) :=
    (calm_of_allBlank hb).append h (by rw [count_quoted_of_allBlank hb]; simpa using h.one_string)
  refine hfront.append (calm_of_allBlank ha) ?_
  rw [count_quoted_of_allBlank ha]
  exact hfront.one_string

end Condition
end FlowCheck
