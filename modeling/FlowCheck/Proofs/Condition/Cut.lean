import FlowCheck.Proofs.Condition.Mark

/-!
# Where the reader cuts

The reader cuts a text at separators and a clause at its first operator, each time with a scan of
its own.  `Cut` says what cutting at a separator means: every part but the last closes its quotes,
and no part contains the separator outside quotes.  `split` finds the one such cut there is
(`split_eq_iff_cut`).  `Found` says the same of an operator.
-/

namespace FlowCheck
namespace Condition

/-! ## At separators -/

/-- The parts of a text between separators outside quotes, where the text starts behind an open
quote or outside quotes. -/
inductive Cut (sep : Char) : Option Char → List Char → List (List Char) → Prop
  | last {quote : Option Char} {cs : List Char} (h : .separator sep ∉ marks quote cs) :
      Cut sep quote cs [cs]
  | part {quote : Option Char} {p cs : List Char} {parts : List (List Char)}
      (hsep : .separator sep ∉ marks quote p) (hclosed : .unclosed ∉ marks quote p)
      (hlast : p.getLast? ≠ some sep) (hcs : Cut sep none cs parts) :
      Cut sep quote (p ++ sep :: sep :: cs) (p :: parts)

/-- The characters that separate when they are doubled. -/
def IsSeparator (sep : Char) : Prop := sep = '|' ∨ sep = '&'

theorem IsSeparator.isQuote_eq_false {sep : Char} (h : IsSeparator sep) : isQuote sep = false := by
  rcases h with rfl | rfl <;> decide

theorem separator_mem_marksAt_iff {sep c : Char} (hsep : IsSeparator sep) {quote : Option Char}
    {next : Option Char} :
    .separator sep ∈ marksAt quote c next ↔ quote = none ∧ c = sep ∧ next = some sep := by
  have hq := hsep.isQuote_eq_false
  rcases hsep with rfl | rfl <;> unfold marksAt markAt <;> grind

/-- Only two characters separate. -/
theorem isSeparator_of_mem_marks {quote : Option Char} {cs : List Char} {c : Char}
    (h : .separator c ∈ marks quote cs) : IsSeparator c := by
  induction cs generalizing quote with
  | nil => cases quote <;> simp at h
  | cons d cs ih =>
    rcases List.mem_append.1 h with h | h
    · unfold marksAt markAt at h
      unfold IsSeparator
      grind
    · exact ih h

variable {sep : Char}

/-- The marks of a part, of the separator behind it and of the rest. -/
theorem marks_append_separator (hsep : IsSeparator sep) {quote : Option Char} {p : List Char}
    (hclosed : .unclosed ∉ marks quote p) (hlast : p.getLast? ≠ some sep) (cs : List Char) :
    marks quote (p ++ sep :: sep :: cs) =
      marks quote p ++ .separator sep :: markAt sep cs.head? :: marks none cs := by
  have happart : ∀ c ∈ p.getLast?, markAt c (some sep) = markAt c none := by
    intro c hc
    have hne : c ≠ sep := fun heq => hlast (heq ▸ hc)
    unfold markAt IsSeparator at *
    grind
  have hpair : markAt sep (some sep) = .separator sep := by
    rcases hsep with rfl | rfl <;> rfl
  have happend : marks quote (p ++ sep :: sep :: cs) =
      marks quote p ++ marks none (sep :: sep :: cs) := marks_append hclosed happart
  rw [happend, marks_none_cons hsep.isQuote_eq_false, marks_none_cons hsep.isQuote_eq_false,
    List.head?_cons, hpair]

/-- One step of cutting: a doubled separator outside quotes ends a part, and any other character
joins the first part of what follows. -/
theorem split_cons (hsep : IsSeparator sep) (quote : Option Char) (c : Char) (cs : List Char) :
    split sep quote (c :: cs) =
      if quote = none ∧ c = sep ∧ cs.head? = some sep then [] :: split sep none cs.tail
      else pushFirst c (split sep (nextQuote quote c) cs) := by
  have hq := hsep.isQuote_eq_false
  cases quote with
  | some q => simp [split]
  | none =>
    cases cs with
    | nil => by_cases hc : isQuote c = true <;> simp [split, pushFirst]
    | cons d cs =>
      by_cases hc : isQuote c = true
      · have hne : c ≠ sep := fun heq => by simp_all
        simp [split, nextQuote, hc, hne]
      · simp [split, nextQuote, hc]

/-- A character in front of a text goes to its first part. -/
theorem Cut.push (hsep : IsSeparator sep) {quote : Option Char} {c : Char} {cs : List Char}
    {parts : List (List Char)} (hquote : ∀ q ∈ quote, isQuote q = true)
    (hc : ¬ (quote = none ∧ c = sep ∧ cs.head? = some sep))
    (h : Cut sep (nextQuote quote c) cs parts) : Cut sep quote (c :: cs) (pushFirst c parts) := by
  cases h with
  | last h =>
    refine .last fun hmem => ?_
    rcases List.mem_append.1 hmem with hmem | hmem
    · exact hc ((separator_mem_marksAt_iff hsep).1 hmem)
    · exact h hmem
  | @part _ p cs parts hpart hclosed hlast hcs =>
    refine Cut.part (p := c :: p) (fun hmem => ?_) (fun hmem => ?_) ?_ hcs
    · rcases List.mem_append.1 hmem with hmem | hmem
      · obtain ⟨hnone, rfl, hnext⟩ := (separator_mem_marksAt_iff hsep).1 hmem
        exact hc ⟨hnone, rfl, by simp [hnext]⟩
      · exact hpart hmem
    · rcases List.mem_append.1 hmem with hmem | hmem
      · exact unclosed_not_mem_marksAt quote c p.head? hmem
      · exact hclosed hmem
    · cases p with
      | cons d p => rwa [List.getLast?_cons_cons]
      | nil =>
        -- a lone separator closes no quote, so it would stand outside quotes and cut
        intro heq
        obtain rfl : c = sep := by simpa using heq
        have hnext := eq_none_of_closed_nil hclosed
        cases quote with
        | none => exact hc ⟨rfl, rfl, rfl⟩
        | some q =>
          have hq := hquote q rfl
          have hne : c ≠ q := fun hcq => by simp [← hcq, hsep.isQuote_eq_false] at hq
          simp [nextQuote, hne] at hnext

theorem cut_split (hsep : IsSeparator sep) {quote : Option Char}
    (hquote : ∀ q ∈ quote, isQuote q = true) (cs : List Char) :
    Cut sep quote cs (split sep quote cs) := by
  induction hn : cs.length using Nat.strong_induction_on generalizing quote cs with
  | _ n ih =>
    subst hn
    cases cs with
    | nil =>
      have hnil : split sep quote [] = [[]] := by simp [split]
      rw [hnil]
      refine .last ?_
      cases quote <;> simp
    | cons c cs =>
      rw [split_cons hsep]
      split
      · next h =>
        obtain ⟨rfl, rfl, hhead⟩ := h
        obtain ⟨tail, rfl⟩ := List.head?_eq_some_iff.1 hhead
        exact Cut.part (p := []) (by simp) (by simp) (by simp)
          (ih tail.length (by simp only [List.length_cons]; omega) (by simp) tail rfl)
      · next h =>
        exact Cut.push hsep hquote h
          (ih cs.length (by simp) (isQuote_of_mem_nextQuote hquote c) cs rfl)

theorem split_eq_singleton (hsep : IsSeparator sep) {quote : Option Char} {cs : List Char}
    (h : .separator sep ∉ marks quote cs) : split sep quote cs = [cs] := by
  induction cs generalizing quote with
  | nil => simp [split]
  | cons c cs ih =>
    obtain ⟨hc, hcs⟩ := not_or.1 (mt List.mem_append.2 h)
    rw [split_cons hsep, if_neg fun hcut => hc ((separator_mem_marksAt_iff hsep).2 hcut), ih hcs]
    rfl

theorem split_append (hsep : IsSeparator sep) {quote : Option Char} {p : List Char}
    (hpart : .separator sep ∉ marks quote p) (hclosed : .unclosed ∉ marks quote p)
    (hlast : p.getLast? ≠ some sep) (cs : List Char) :
    split sep quote (p ++ sep :: sep :: cs) = p :: split sep none cs := by
  induction p generalizing quote with
  | nil =>
    rw [eq_none_of_closed_nil hclosed, List.nil_append, split_cons hsep, if_pos ⟨rfl, rfl, rfl⟩]
    rfl
  | cons c p ih =>
    obtain ⟨hc, hp⟩ := not_or.1 (mt List.mem_append.2 hpart)
    have hnot : ¬ (quote = none ∧ c = sep ∧ (p ++ sep :: sep :: cs).head? = some sep) := by
      rintro ⟨hnone, rfl, hhead⟩
      cases p with
      | nil => exact hlast rfl
      | cons d p => exact hc ((separator_mem_marksAt_iff hsep).2 ⟨hnone, rfl, hhead⟩)
    rw [List.cons_append, split_cons hsep, if_neg hnot,
      ih hp (closed_tail hclosed) fun h => hlast (mem_getLast?_cons h)]
    rfl

/-- `split` finds the parts between separators outside quotes, and there is no other cut. -/
theorem split_eq_iff_cut (hsep : IsSeparator sep) {cs : List Char} {parts : List (List Char)} :
    split sep none cs = parts ↔ Cut sep none cs parts := by
  constructor
  · rintro rfl
    exact cut_split hsep (by simp) cs
  · intro h
    generalize none = quote at h
    induction h with
    | last h => exact split_eq_singleton hsep h
    | part hpart hclosed hlast _ ih => rw [split_append hsep hpart hclosed hlast, ih]

/-! ## At an operator -/

/-- A text cut at the first operator outside quotes, where the text starts behind an open quote or
outside quotes. -/
structure Found (quote : Option Char) (cs : List Char) (found : Comparison) : Prop where
  text : cs = found.left ++ found.operator.symbol.toList ++ found.right
  first : .operator ∉ marks quote found.left
  rest : ∃ tail, marks quote cs = marks quote found.left ++ .operator :: tail ∧
    marks none found.right <:+ tail

/-- The first character of an operator is marked, and the second one is a stray unless a further
`=` follows it. -/
theorem marks_symbol_append (op : Operator) (cs : List Char) :
    ∃ second, marks none (op.symbol.toList ++ cs) = .operator :: (second ++ marks none cs) ∧
      (cs.head? ≠ some '=' → ∀ m ∈ second, m = .stray) := by
  have htwo : ∀ c, isQuote c = false → markAt c (some '=') = .operator →
      ∃ second, marks none (c :: '=' :: cs) = .operator :: (second ++ marks none cs) ∧
        (cs.head? ≠ some '=' → ∀ m ∈ second, m = .stray) := by
    intro c hc hmark
    refine ⟨[markAt '=' cs.head?], ?_, fun hcs => by simp [markAt, hcs]⟩
    rw [marks_none_cons hc, List.head?_cons, hmark, marks_none_cons (by decide)]
    rfl
  have hone : ∀ c, isQuote c = false → markAt c cs.head? = .operator →
      ∃ second, marks none (c :: cs) = .operator :: (second ++ marks none cs) ∧
        (cs.head? ≠ some '=' → ∀ m ∈ second, m = .stray) := by
    intro c hc hmark
    refine ⟨[], ?_, by simp⟩
    rw [marks_none_cons hc, hmark]
    rfl
  cases op with
  | eq => exact htwo '=' (by decide) (by decide)
  | ne => exact htwo '!' (by decide) (by decide)
  | gt => exact hone '>' (by decide) (by simp [markAt])
  | ge => exact htwo '>' (by decide) (by decide)
  | lt => exact hone '<' (by decide) (by simp [markAt])
  | le => exact htwo '<' (by decide) (by decide)

theorem eq_of_operatorAt? {cs right : List Char} {op : Operator}
    (h : operatorAt? cs = some (op, right)) : cs = op.symbol.toList ++ right := by
  unfold operatorAt? at h
  split at h <;> simp only [Option.some.injEq, Prod.mk.injEq, reduceCtorEq] at h
  all_goals
    obtain ⟨rfl, rfl⟩ := h
    rfl

/-- An operator of one character is not read where a longer one stands. -/
theorem operatorAt?_symbol_append (op : Operator) {cs : List Char} (h : cs.head? ≠ some '=') :
    operatorAt? (op.symbol.toList ++ cs) = some (op, cs) := by
  cases op with
  | gt | lt =>
    cases cs with
    | nil => rfl
    | cons c cs =>
      have hc : c ≠ '=' := by simpa using h
      simp [Operator.symbol, operatorAt?, hc]
  | eq | ne | ge | le => rfl

/-- Where no operator is recognised none is marked. -/
theorem markAt_ne_operator {c : Char} {cs : List Char} (h : operatorAt? (c :: cs) = none) :
    markAt c cs.head? ≠ .operator := by
  intro hmark
  unfold markAt at hmark
  unfold operatorAt? at h
  cases cs <;> grind

theorem operator_not_mem_marksAt {quote : Option Char} {c : Char} {cs : List Char}
    (h : quote = none → isQuote c = false → operatorAt? (c :: cs) = none) :
    .operator ∉ marksAt quote c cs.head? := by
  cases quote with
  | some q => by_cases hq : c = q <;> simp [marksAt, hq]
  | none =>
    by_cases hquote : isQuote c = true
    · simp [marksAt, hquote]
    · have hne := markAt_ne_operator (h rfl (by simpa using hquote))
      simpa [marksAt, hquote] using hne.symm

/-- An operator behind a character at which none is recognised does not change its mark. -/
theorem markAt_symbol_append {c : Char} {op : Operator} {cs : List Char}
    (h : operatorAt? (c :: (op.symbol.toList ++ cs)) = none) :
    markAt c (op.symbol.toList ++ cs).head? = markAt c none := by
  unfold operatorAt? at h
  cases op <;> simp only [Operator.symbol] at h ⊢ <;> unfold markAt <;> grind

theorem exists_of_map_grow {c : Char} {e : Except SyntaxProblem (Option Comparison)}
    {found : Comparison} (h : e.map (·.map (findOperator.grow c)) = .ok (some found)) :
    ∃ inner, e = .ok (some inner) ∧ findOperator.grow c inner = found := by
  cases e with
  | error p => contradiction
  | ok o =>
    cases o with
    | none => simp [Except.map] at h
    | some inner => exact ⟨inner, rfl, by simpa [Except.map] using h⟩

/-- A character in front of a text goes to the left side of its comparison. -/
theorem Found.grow {quote : Option Char} {c : Char} {cs : List Char} {found : Comparison}
    (hc : quote = none → isQuote c = false → operatorAt? (c :: cs) = none)
    (h : Found (nextQuote quote c) cs found) :
    Found quote (c :: cs) (findOperator.grow c found) := by
  obtain ⟨left, op, right⟩ := found
  obtain ⟨htext, hfirst, tail, hmarks, htail⟩ := h
  have hno := operator_not_mem_marksAt hc
  have hlead : marksAt quote c cs.head? = marksAt quote c left.head? := by
    cases left with
    | cons d left => simp [htext]
    | nil =>
      cases quote with
      | some q => rfl
      | none =>
        by_cases hquote : isQuote c = true
        · simp [marksAt, hquote]
        · have hnone := hc rfl (by simpa using hquote)
          simp only [List.nil_append] at htext
          rw [htext] at hnone ⊢
          rw [marksAt, marksAt, markAt_symbol_append hnone]
          rfl
  refine ⟨by simp [findOperator.grow, htext], ?_, tail, ?_, htail⟩
  · intro hmem
    rcases List.mem_append.1 hmem with hmem | hmem
    · exact hno (hlead ▸ hmem)
    · exact hfirst hmem
  · rw [marks_cons, hlead, hmarks, ← List.append_assoc]
    rfl

theorem found_of_findOperator {quote : Option Char} {cs : List Char} {found : Comparison}
    (h : findOperator quote cs = .ok (some found)) : Found quote cs found := by
  induction cs generalizing quote found with
  | nil => simp [findOperator] at h
  | cons c cs ih =>
    simp only [findOperator] at h
    split at h
    · next hout =>
      simp only [Bool.and_eq_true, Option.isNone_iff_eq_none, Bool.not_eq_true'] at hout
      obtain ⟨rfl, hquote⟩ := hout
      split at h
      · next op right hop =>
        obtain rfl : (⟨[], op, right⟩ : Comparison) = found := by simpa using h
        have htext := eq_of_operatorAt? hop
        obtain ⟨second, hmarks, -⟩ := marks_symbol_append op right
        exact ⟨htext, by simp, second ++ marks none right, by rw [htext, hmarks]; rfl,
          List.suffix_append _ _⟩
      · next hop =>
        split at h
        · contradiction
        · obtain ⟨inner, hinner, rfl⟩ := exists_of_map_grow h
          exact (ih (by simpa [nextQuote, hquote] using hinner)).grow fun _ _ => hop
    · next hin =>
      obtain ⟨inner, hinner, rfl⟩ := exists_of_map_grow h
      refine (ih hinner).grow fun hnone hquote => ?_
      simp [hnone, hquote] at hin

theorem eq_ok_none_of_map {f : Comparison → Comparison}
    {e : Except SyntaxProblem (Option Comparison)} (h : e.map (·.map f) = .ok none) :
    e = .ok none := by
  cases e with
  | error p => contradiction
  | ok o => cases o <;> simp_all [Except.map]

/-- A text in which the search finds nothing has no operator outside quotes. -/
theorem operator_not_mem_of_findOperator {quote : Option Char} {cs : List Char}
    (h : findOperator quote cs = .ok none) : .operator ∉ marks quote cs := by
  induction cs generalizing quote with
  | nil => cases quote <;> simp
  | cons c cs ih =>
    have hstep : (quote = none → isQuote c = false → operatorAt? (c :: cs) = none) ∧
        findOperator (nextQuote quote c) cs = .ok none := by
      simp only [findOperator] at h
      split at h
      · next hout =>
        simp only [Bool.and_eq_true, Option.isNone_iff_eq_none, Bool.not_eq_true'] at hout
        obtain ⟨rfl, hquote⟩ := hout
        split at h
        · simp at h
        · next hop =>
          split at h
          · contradiction
          · exact ⟨fun _ _ => hop, by simpa [nextQuote, hquote] using eq_ok_none_of_map h⟩
      · next hin =>
        refine ⟨fun hnone hquote => ?_, eq_ok_none_of_map h⟩
        simp [hnone, hquote] at hin
    intro hmem
    rcases List.mem_append.1 hmem with hmem | hmem
    · exact operator_not_mem_marksAt hstep.1 hmem
    · exact ih hstep.2 hmem

theorem markAt_ne_quoted (c : Char) (next : Option Char) : markAt c next ≠ .quoted := by
  unfold markAt
  grind

theorem operatorAt?_eq_none_of_plain {c : Char} {cs : List Char}
    (h : markAt c cs.head? = .plain) : operatorAt? (c :: cs) = none ∧ c ≠ '=' := by
  unfold markAt at h
  unfold operatorAt?
  grind

/-- The search passes over strings and plain characters. -/
theorem findOperator_append {quote : Option Char} {p : List Char}
    (hcalm : ∀ m ∈ marks quote p, m = .quoted ∨ m = .plain)
    (hlast : ∀ c ∈ p.getLast?, ∀ next, markAt c next = .plain) (rest : List Char) :
    findOperator quote (p ++ rest) =
      (findOperator none rest).map (·.map fun found => { found with left := p ++ found.left }) := by
  induction p generalizing quote with
  | nil =>
    have hclosed : .unclosed ∉ marks quote [] := fun hmem => by simpa using hcalm _ hmem
    rw [eq_none_of_closed_nil hclosed, List.nil_append]
    cases findOperator none rest with
    | error p => rfl
    | ok o => cases o <;> rfl
  | cons c p ih =>
    have htail : ∀ m ∈ marks (nextQuote quote c) p, m = .quoted ∨ m = .plain :=
      fun m hm => hcalm m (List.mem_append_right _ hm)
    have hplast : ∀ d ∈ p.getLast?, ∀ next, markAt d next = .plain :=
      fun d hd => hlast d (mem_getLast?_cons hd)
    have hgrow : findOperator quote (c :: (p ++ rest)) =
        (findOperator (nextQuote quote c) (p ++ rest)).map (·.map (findOperator.grow c)) := by
      rw [findOperator]
      split
      · next hout =>
        simp only [Bool.and_eq_true, Option.isNone_iff_eq_none, Bool.not_eq_true'] at hout
        obtain ⟨rfl, hquote⟩ := hout
        have hplain : markAt c (p ++ rest).head? = .plain := by
          cases p with
          | nil => exact hlast c rfl _
          | cons d p =>
            have hmem : markAt c (some d) ∈ marks none (c :: d :: p) := by
              rw [marks_none_cons hquote]
              exact List.mem_cons_self
            exact (hcalm _ hmem).resolve_left (markAt_ne_quoted c _)
        obtain ⟨hop, heq⟩ := operatorAt?_eq_none_of_plain hplain
        simp [hop, heq, nextQuote, hquote]
      · rfl
    rw [List.cons_append, hgrow, ih htail hplast]
    cases findOperator none rest with
    | error p => rfl
    | ok o => cases o <;> rfl

theorem findOperator_symbol_append (op : Operator) {cs : List Char} (h : cs.head? ≠ some '=') :
    findOperator none (op.symbol.toList ++ cs) = .ok (some ⟨[], op, cs⟩) := by
  obtain ⟨c, tail, hc, htext⟩ : ∃ c tail, isQuote c = false ∧ op.symbol.toList = c :: tail := by
    cases op <;> exact ⟨_, _, by decide, rfl⟩
  have hop := operatorAt?_symbol_append op h
  rw [htext, List.cons_append] at hop ⊢
  simp [findOperator, hc, hop]

end Condition
end FlowCheck
