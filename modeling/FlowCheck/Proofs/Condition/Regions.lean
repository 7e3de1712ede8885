import FlowCheck.Proofs.Condition.ByteRanges

/-!
# The quoted regions of the parts of a condition

`openQuotes` tells which quote is open in front of each character of a text.  `ExactCut` says that
parts are the text cut at a separator and nothing else: they are ranges of its bytes between
characters, they join to the text, none of them has the separator outside quotes, all but the last
close their quotes, and each has, read on its own, the quoted regions that it has inside the text.

`separators` finds the separators `||` and `&&` in one pass from left to right, and
`nestedSeparators` finds them by cutting at `||` first and each part at `&&`, as a condition is
read.  `exactCut_split` is the main result: `split` cuts exactly, and the two ways to find the
separators agree.
-/

namespace FlowCheck
namespace Condition

variable {sep : Char}

/-- The quote that is open behind a text. -/
def openBehind (quote : Option Char) (cs : List Char) : Option Char := cs.foldl nextQuote quote

/-- The quote that is open in front of each character. -/
def openQuotes (quote : Option Char) : List Char → List (Option Char)
  | [] => []
  | c :: cs => quote :: openQuotes (nextQuote quote c) cs

/-- The parts are what the text is between separators outside quotes. -/
structure ExactCut (sep : Char) (s : String) (parts : List (List Char)) : Prop where
  /-- The loop over bytes cuts between characters. -/
  spans : List.Forall₂ (Spans s.toList) (byteRanges (Text.bytes s) sep.toNat 0 0) parts
  joined : [sep, sep].intercalate parts = s.toList
  hidden : ∀ part ∈ parts, ∀ front back, part = front ++ sep :: sep :: back →
    openBehind none front ≠ none
  closed : ∀ part ∈ parts.dropLast, openBehind none part = none
  /-- Reading a part on its own gives the regions that it has inside the text. -/
  regions : openQuotes none s.toList = [none, none].intercalate (parts.map (openQuotes none))

/-- The separators outside quotes, with their places, as one pass from left to right finds them. -/
def separators : Option Char → ℕ → List Char → List (ℕ × Char)
  | _, _, [] => []
  | _, _, [_] => []
  | quote, place, c :: d :: cs =>
    if quote = none ∧ (c = '|' ∨ c = '&') ∧ d = c then (place, c) :: separators none (place + 2) cs
    else separators (nextQuote quote c) (place + 1) (d :: cs)

/-- The separators that stand between parts, the first of which starts at the place. -/
def between (sep : Char) (place : ℕ) : List (List Char) → List (ℕ × Char)
  | [] => []
  | [_] => []
  | p :: q :: parts => (place + p.length, sep) :: between sep (place + p.length + 2) (q :: parts)

/-- The separators `||` that stand between parts, and those that stand between the parts of each
when it is cut at `&&`. -/
def nestedSeparators (place : ℕ) : List (List Char) → List (ℕ × Char)
  | [] => []
  | [p] => between '&' place (split '&' none p)
  | p :: q :: parts => between '&' place (split '&' none p) ++
      (place + p.length, '|') :: nestedSeparators (place + p.length + 2) (q :: parts)

/-! ## Quotes that are open -/

@[simp] theorem openBehind_nil (quote : Option Char) : openBehind quote [] = quote := rfl

@[simp] theorem openBehind_cons (quote : Option Char) (c : Char) (cs : List Char) :
    openBehind quote (c :: cs) = openBehind (nextQuote quote c) cs := rfl

theorem openQuotes_append (quote : Option Char) (cs ds : List Char) :
    openQuotes quote (cs ++ ds) = openQuotes quote cs ++ openQuotes (openBehind quote cs) ds := by
  induction cs generalizing quote with
  | nil => rfl
  | cons c cs ih => exact congrArg (quote :: ·) (ih _)

theorem openBehind_eq_none_iff {quote : Option Char} {cs : List Char} :
    openBehind quote cs = none ↔ .unclosed ∉ marks quote cs := by
  induction cs generalizing quote with
  | nil => cases quote <;> simp
  | cons c cs ih =>
    rw [openBehind_cons, ih, marks_cons, List.mem_append, not_or]
    exact (and_iff_right (unclosed_not_mem_marksAt quote c cs.head?)).symm

/-- A separator is marked where it stands outside quotes. -/
theorem separator_mem_marks_append (hsep : IsSeparator sep) {quote : Option Char}
    {front : List Char} (h : openBehind quote front = none) (back : List Char) :
    .separator sep ∈ marks quote (front ++ sep :: sep :: back) := by
  induction front generalizing quote with
  | nil =>
    obtain rfl : quote = none := h
    exact List.mem_append_left _ ((separator_mem_marksAt_iff hsep).2 ⟨rfl, rfl, rfl⟩)
  | cons c front ih => exact List.mem_append_right _ (ih h)

/-! ## Parts -/

/-- Induction over the parts of a text that starts outside quotes: so does the text behind each
separator. -/
theorem Cut.induction_outside
    {motive : ∀ cs parts, Cut sep none cs parts → Prop}
    (last : ∀ cs (h : .separator sep ∉ marks none cs), motive cs [cs] (.last h))
    (part : ∀ p cs parts (hpart : .separator sep ∉ marks none p)
      (hclosed : .unclosed ∉ marks none p) (hlast : p.getLast? ≠ some sep)
      (hcs : Cut sep none cs parts), motive cs parts hcs →
      motive (p ++ sep :: sep :: cs) (p :: parts) (.part hpart hclosed hlast hcs))
    {cs : List Char} {parts : List (List Char)} (h : Cut sep none cs parts) :
    motive cs parts h := by
  have hall : ∀ {quote : Option Char} (h : Cut sep quote cs parts) (hquote : quote = none),
      motive cs parts (hquote ▸ h) := by
    intro quote h
    induction h with
    | last h =>
      rintro rfl
      exact last _ h
    | part hpart hclosed hlast hcs ih =>
      rintro rfl
      exact part _ _ _ hpart hclosed hlast hcs (ih hcs rfl)
  exact hall h rfl

variable {cs : List Char} {parts : List (List Char)}

theorem Cut.joined (h : Cut sep none cs parts) : [sep, sep].intercalate parts = cs := by
  induction h using Cut.induction_outside with
  | last => simp [List.intercalate]
  | part p cs parts _ _ _ hcs ih => cases hcs <;> simp_all [List.intercalate]

theorem Cut.hidden (hsep : IsSeparator sep) (h : Cut sep none cs parts) : ∀ part ∈ parts,
    ∀ front back, part = front ++ sep :: sep :: back → openBehind none front ≠ none := by
  have hout : ∀ part, .separator sep ∉ marks none part →
      ∀ front back, part = front ++ sep :: sep :: back → openBehind none front ≠ none := by
    rintro _ hpart front back rfl hnone
    exact hpart (separator_mem_marks_append hsep hnone back)
  induction h using Cut.induction_outside with
  | last cs h => exact List.forall_mem_singleton.2 (hout cs h)
  | part p cs parts hpart _ _ _ ih => exact List.forall_mem_cons.2 ⟨hout p hpart, ih⟩

theorem Cut.closed (h : Cut sep none cs parts) :
    ∀ part ∈ parts.dropLast, openBehind none part = none := by
  induction h using Cut.induction_outside with
  | last => simp
  | part p cs parts _ hclosed _ hcs ih =>
    have hne : parts ≠ [] := by cases hcs <;> exact List.cons_ne_nil _ _
    rw [List.dropLast_cons_of_ne_nil hne]
    exact List.forall_mem_cons.2 ⟨openBehind_eq_none_iff.2 hclosed, ih⟩

theorem Cut.regions (hsep : IsSeparator sep) (h : Cut sep none cs parts) :
    openQuotes none cs = [none, none].intercalate (parts.map (openQuotes none)) := by
  induction h using Cut.induction_outside with
  | last => simp [List.intercalate]
  | part p cs parts _ hclosed _ hcs ih =>
    have hnext : nextQuote none sep = none := by simp [nextQuote, hsep.isQuote_eq_false]
    have hbehind : openQuotes none (sep :: sep :: cs) = none :: none :: openQuotes none cs := by
      simp [openQuotes, hnext]
    rw [openQuotes_append, openBehind_eq_none_iff.2 hclosed, hbehind, ih]
    cases hcs <;> simp [List.intercalate]

/-! ## Separators -/

/-- One step of the pass. -/
theorem separators_cons (quote : Option Char) (place : ℕ) (c : Char) (cs : List Char) :
    separators quote place (c :: cs) =
      if quote = none ∧ (c = '|' ∨ c = '&') ∧ cs.head? = some c then
        (place, c) :: separators none (place + 2) cs.tail
      else separators (nextQuote quote c) (place + 1) cs := by
  cases cs with
  | nil => simp [separators]
  | cons d cs => simp [separators]

theorem separators_append (hsep : IsSeparator sep) {quote : Option Char} {p : List Char}
    (hpart : .separator sep ∉ marks quote p) (hclosed : .unclosed ∉ marks quote p)
    (hlast : p.getLast? ≠ some sep) (place : ℕ) (cs : List Char) :
    separators quote place (p ++ sep :: sep :: cs) =
      separators quote place p ++
        (place + p.length, sep) :: separators none (place + p.length + 2) cs := by
  induction hn : p.length using Nat.strong_induction_on generalizing quote p place with
  | _ n ih =>
    subst hn
    cases p with
    | nil =>
      obtain rfl := eq_none_of_closed_nil hclosed
      rw [List.nil_append, separators_cons, if_pos ⟨rfl, hsep, rfl⟩]
      rfl
    | cons c p =>
      obtain ⟨hc, hp⟩ := not_or.1 (mt List.mem_append.2 hpart)
      have htail := closed_tail hclosed
      have hplast : p.getLast? ≠ some sep := fun h => hlast (mem_getLast?_cons h)
      rw [List.cons_append, separators_cons, separators_cons]
      by_cases hcut : quote = none ∧ (c = '|' ∨ c = '&') ∧ p.head? = some c
      · -- the other separator, of which both characters stand in the part
        obtain ⟨rfl, hother, hhead⟩ := hcut
        obtain ⟨p, rfl⟩ := List.head?_eq_some_iff.1 hhead
        have hquote : nextQuote none c = none := by
          simp [nextQuote, IsSeparator.isQuote_eq_false hother]
        rw [hquote] at hp htail
        obtain ⟨-, hp⟩ := not_or.1 (mt List.mem_append.2 hp)
        have htail := closed_tail htail
        rw [hquote] at hp htail
        rw [if_pos ⟨rfl, hother, rfl⟩, if_pos ⟨rfl, hother, rfl⟩]
        simp only [List.cons_append, List.tail_cons, List.length_cons]
        rw [ih p.length (by simp only [List.length_cons]; omega) hp htail
          (fun h => hplast (mem_getLast?_cons h)) _ rfl]
        simp only [Nat.add_assoc, Nat.add_comm, Nat.add_left_comm]
      · have hnot : ¬ (quote = none ∧ (c = '|' ∨ c = '&') ∧
            (p ++ sep :: sep :: cs).head? = some c) := by
          rintro ⟨hquote, hother, hhead⟩
          cases p with
          | nil =>
            obtain rfl : sep = c := by simpa using hhead
            exact hlast rfl
          | cons d p => exact hcut ⟨hquote, hother, hhead⟩
        rw [if_neg hcut, if_neg hnot, ih p.length (by simp) hp htail hplast _ rfl,
          List.length_cons, Nat.add_right_comm place, Nat.add_assoc place]

theorem separators_eq_nil {quote : Option Char} {cs : List Char}
    (h : ∀ sep, .separator sep ∉ marks quote cs) (place : ℕ) : separators quote place cs = [] := by
  induction cs generalizing quote place with
  | nil => simp [separators]
  | cons c cs ih =>
    have hnot : ¬ (quote = none ∧ (c = '|' ∨ c = '&') ∧ cs.head? = some c) := by
      rintro ⟨hquote, hc, hhead⟩
      have hsep : IsSeparator c := hc
      exact h c (List.mem_append_left _
        ((separator_mem_marksAt_iff hsep).2 ⟨hquote, rfl, hhead⟩))
    rw [separators_cons, if_neg hnot]
    exact ih (fun sep hmem => h sep (List.mem_append_right _ hmem)) _

/-- In a text without `||` the pass finds the separators at which the text is cut. -/
theorem separators_eq_between (hbar : .separator '|' ∉ marks none cs) (place : ℕ) :
    separators none place cs = between '&' place (split '&' none cs) := by
  have hand : IsSeparator '&' := .inr rfl
  have hnone : ∀ {p : List Char}, .separator '|' ∉ marks none p → .separator '&' ∉ marks none p →
      ∀ place, separators none place p = [] := by
    refine fun hp hq => separators_eq_nil fun sep hmem => ?_
    rcases isSeparator_of_mem_marks hmem with rfl | rfl
    · exact hp hmem
    · exact hq hmem
  have hcut : Cut '&' none cs (split '&' none cs) := cut_split hand (by simp) cs
  generalize split '&' none cs = parts at hcut
  induction hcut using Cut.induction_outside generalizing place with
  | last cs h => exact hnone hbar h place
  | part p cs parts h hclosed hlast hcs ih =>
    rw [marks_append_separator hand hclosed hlast] at hbar
    simp only [List.mem_append, List.mem_cons, not_or] at hbar
    rw [separators_append hand h hclosed hlast, hnone hbar.1 h, ih hbar.2.2.2]
    cases hcs <;> rfl

/-- Cutting at `||` and each part at `&&` finds the separators that one pass finds. -/
theorem separators_eq_nestedSeparators (place : ℕ) (cs : List Char) :
    separators none place cs = nestedSeparators place (split '|' none cs) := by
  have hbar : IsSeparator '|' := .inl rfl
  have hcut : Cut '|' none cs (split '|' none cs) := cut_split hbar (by simp) cs
  generalize split '|' none cs = parts at hcut
  induction hcut using Cut.induction_outside generalizing place with
  | last cs h => exact separators_eq_between h place
  | part p cs parts h hclosed hlast hcs ih =>
    rw [separators_append hbar h hclosed hlast, separators_eq_between h, ih]
    cases hcs <;> rfl

/-! ## The cut -/

/-- Cutting a text at a separator is exact, and cutting at `||` first and each part at `&&` finds
the separators that one pass from left to right finds. -/
theorem exactCut_split (hsep : IsSeparator sep) (s : String) :
    ExactCut sep s (split sep none s.toList) ∧
      separators none 0 s.toList = nestedSeparators 0 (split '|' none s.toList) := by
  have hcut : Cut sep none s.toList (split sep none s.toList) := cut_split hsep (by simp) _
  have hspans := forall₂_spans_layout hsep.toNat_lt hcut.joined []
  refine ⟨⟨?_, hcut.joined, hcut.hidden hsep, hcut.closed, hcut.regions hsep⟩,
    separators_eq_nestedSeparators 0 s.toList⟩
  rw [byteRanges_bytes hsep]
  exact hspans

/-- A quoted separator, a character of two bytes and a quote that is never closed. -/
theorem exactCut_open_quote : IsSeparator '|' ∧
    ExactCut '|' "é=='||'||a&&\"b||c" ["é=='||'".toList, "a&&\"b||c".toList] ∧
    separators none 0 "é=='||'||a&&\"b||c".toList = [(7, '|'), (10, '&')] := by
  obtain ⟨hcut, hseparators⟩ :=
    exactCut_split (show IsSeparator '|' from .inl rfl) "é=='||'||a&&\"b||c"
  have hparts : split '|' none "é=='||'||a&&\"b||c".toList =
      ["é=='||'".toList, "a&&\"b||c".toList] := by decide
  rw [hparts] at hcut hseparators
  exact ⟨.inl rfl, hcut, hseparators.trans (by decide)⟩

end Condition
end FlowCheck
