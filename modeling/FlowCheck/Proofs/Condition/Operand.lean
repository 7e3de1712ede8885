import FlowCheck.Proofs.Condition.Grammar
import FlowCheck.Proofs.Condition.Mark
import FlowCheck.Proofs.Number.Numeral
import FlowCheck.Proofs.Text.Pieces
import Mathlib.Data.Option.Basic

/-!
# Reading operands

The reader tries a quoted string, a word, a number and a path in this order.  Their texts do not
overlap, so the order does not matter: an operand is read from a text exactly when the text, without
the blanks around it, is one of its texts in the lenient grammar (`parseOperand_eq_ok_iff`).  The
texts of the documented grammar are those that keep to one quoted string, and next to anything they
keep their marks to themselves (`Calm`).
-/

namespace FlowCheck
namespace Condition

open Text (AllBlank Tight isBlank trim)

/-! ## Words -/

theorem word?_eq_some_iff {w : String} {value : Json} :
    word? w = some value ↔ (w, value) ∈ words := by
  simp only [words, List.mem_cons, Prod.mk.injEq, List.not_mem_nil, or_false]
  unfold word?
  constructor
  · intro h
    split_ifs at h with h1 h2 h3
    · exact .inl ⟨h1, by simpa using h.symm⟩
    · exact .inr (.inl ⟨h2, by simpa using h.symm⟩)
    · rcases h3 with h3 | h3
      · exact .inr (.inr (.inl ⟨h3, by simpa using h.symm⟩))
      · exact .inr (.inr (.inr ⟨h3, by simpa using h.symm⟩))
  · rintro (⟨rfl, rfl⟩ | ⟨rfl, rfl⟩ | ⟨rfl, rfl⟩ | ⟨rfl, rfl⟩) <;> simp

/-! ## Paths -/

theorem isSegment_iff {cs : List Char} :
    isSegment cs = true ↔ cs ≠ [] ∧ ∀ c ∈ cs, isNameChar c = true := by
  simp [isSegment]

theorem head?_intercalate {first : List Char} (h : first ≠ []) (rest : List (List Char)) :
    (['.'].intercalate (first :: rest)).head? = first.head? := by
  obtain ⟨c, first, rfl⟩ := List.exists_cons_of_ne_nil h
  cases rest <;> rfl

theorem pathText_iff {cs : List Char} : PathText cs ↔ isPath cs = true := by
  constructor
  · rintro ⟨first, rest, rfl, hsegments, hdigit⟩
    have hpoint : ∀ segment ∈ first :: rest, '.' ∉ segment := by
      intro segment hmem hp
      exact absurd ((hsegments segment hmem).2 '.' hp) (by decide)
    rw [isPath, Text.splitAt_eq_splitOn,
      List.splitOn_intercalate '.' hpoint (List.cons_ne_nil _ _),
      head?_intercalate (hsegments first List.mem_cons_self).1, Bool.and_eq_true]
    refine ⟨List.all_eq_true.2 fun segment hmem => isSegment_iff.2 (hsegments segment hmem), ?_⟩
    cases first with
    | nil => rfl
    | cons c first => simpa using hdigit c rfl
  · intro h
    obtain ⟨hsegments, hdigit⟩ := Bool.and_eq_true_iff.1 h
    rw [Text.splitAt_eq_splitOn] at hsegments
    have hjoin : ['.'].intercalate (cs.splitOn '.') = cs := List.intercalate_splitOn '.'
    obtain ⟨first, rest, hcut⟩ := List.exists_cons_of_ne_nil (List.splitOn_ne_nil '.' cs)
    rw [hcut] at hjoin hsegments
    have hall : ∀ segment ∈ first :: rest, segment ≠ [] ∧ ∀ c ∈ segment, isNameChar c = true :=
      fun segment hmem => isSegment_iff.1 (List.all_eq_true.1 hsegments segment hmem)
    refine ⟨first, rest, hjoin.symm, hall, fun c hc => ?_⟩
    rw [← head?_intercalate (hall first List.mem_cons_self).1, hjoin] at hc
    rw [Option.mem_def] at hc
    simpa [hc] using hdigit

/-! ## Words, numbers and paths -/

/-- The characters of words, numbers and paths. -/
def isBareChar (c : Char) : Bool := isNameChar c || Numeral.isNumeralChar c

/-- A text of such characters. -/
structure Bare (cs : List Char) : Prop where
  ne_nil : cs ≠ []
  chars : ∀ c ∈ cs, isBareChar c = true

theorem Bare.inert {cs : List Char} (h : Bare cs) : ∀ c ∈ cs, isInert c = true :=
  fun c hc => isInert_of_class (p := isBareChar) (by decide) (h.chars c hc)

theorem Bare.tight {cs : List Char} (h : Bare cs) : Tight cs :=
  Text.tight_of_forall h.ne_nil fun c hc =>
    Text.isBlank_eq_false_of_class (p := isBareChar) (by decide) (h.chars c hc)

theorem bare_of_word {w : String} {value : Json} (h : (w, value) ∈ words) : Bare w.toList := by
  simp only [words, List.mem_cons, Prod.mk.injEq, List.not_mem_nil, or_false] at h
  rcases h with ⟨rfl, -⟩ | ⟨rfl, -⟩ | ⟨rfl, -⟩ | ⟨rfl, -⟩ <;>
    exact ⟨by decide, List.all_eq_true.1 (by decide)⟩

theorem shaped_of_number? {cs : List Char} {value : Json} (h : number? cs = some value) :
    Numeral.Shaped cs := by
  unfold number? at h
  split at h
  · next n hn => exact Numeral.shaped_of_int64? hn
  · obtain ⟨x, hx, -⟩ := Option.map_eq_some_iff.1 h
    exact Numeral.shaped_of_real? hx

theorem bare_of_number? {cs : List Char} {value : Json} (h : number? cs = some value) :
    Bare cs := by
  obtain ⟨hchars, c, hc, -⟩ := shaped_of_number? h
  refine ⟨fun hnil => by simp [hnil] at hc, fun d hd => ?_⟩
  simp [isBareChar, hchars d hd]

theorem bare_of_pathText {cs : List Char} (h : PathText cs) : Bare cs := by
  obtain ⟨first, rest, rfl, hsegments, -⟩ := h
  constructor
  · intro hnil
    have hne := (hsegments first List.mem_cons_self).1
    have hhead := head?_intercalate hne rest
    rw [hnil, List.head?_nil] at hhead
    exact hne (List.head?_eq_none_iff.1 hhead.symm)
  · intro c hc
    rcases Text.mem_intercalate hc with rfl | ⟨segment, hmem, hc⟩
    · decide
    · simp [isBareChar, (hsegments segment hmem).2 c hc]

/-- No word is a number. -/
theorem number?_eq_none_of_word {w : String} {value : Json} (h : (w, value) ∈ words) :
    number? w.toList = none := by
  by_contra hcon
  obtain ⟨v, hv⟩ := Option.ne_none_iff_exists'.1 hcon
  obtain ⟨-, c, hc, hopens⟩ := shaped_of_number? hv
  have hwords :
      (words.all fun p => p.1.toList.head?.all fun c => !Numeral.opensNumeral c) = true := by
    decide
  have hhead := List.all_eq_true.1 hwords (w, value) h
  rw [Option.mem_def] at hc
  simp [hc, hopens] at hhead

/-- No path is a number: a path starts with a letter or an underscore. -/
theorem number?_eq_none_of_pathText {cs : List Char} (h : PathText cs) : number? cs = none := by
  obtain ⟨first, rest, rfl, hsegments, hdigit⟩ := h
  have hfirst := hsegments first List.mem_cons_self
  by_contra hcon
  obtain ⟨v, hv⟩ := Option.ne_none_iff_exists'.1 hcon
  obtain ⟨-, c, hc, hopens⟩ := shaped_of_number? hv
  rw [head?_intercalate hfirst.1] at hc
  have hname := hfirst.2 c (List.mem_of_mem_head? hc)
  have hsigns : c ∈ ['+', '-', '.'] := by
    simpa [Numeral.opensNumeral, hdigit c hc] using hopens
  have hclass : (['+', '-', '.'].all fun d => !isNameChar d) = true := by decide
  have hnone := List.all_eq_true.1 hclass c hsigns
  rw [hname] at hnone
  contradiction

/-! ## Reading an operand -/

theorem unquoted?_eq_some_iff {cs body : List Char} :
    unquoted? cs = some body ↔ ∃ q, isQuote q = true ∧ cs = q :: (body ++ [q]) := by
  constructor
  · intro h
    cases cs with
    | nil => simp [unquoted?] at h
    | cons q cs =>
      simp only [unquoted?, Option.ite_none_right_eq_some, Bool.and_eq_true, beq_iff_eq] at h
      obtain ⟨⟨hq, hlast⟩, hbody⟩ := h
      obtain rfl : cs.dropLast = body := by simpa using hbody
      exact ⟨q, hq, by rw [List.dropLast_append_getLast? q hlast]⟩
  · rintro ⟨q, hq, rfl⟩
    simp [unquoted?, hq]

theorem Bare.unquoted? {cs : List Char} (h : Bare cs) : Condition.unquoted? cs = none := by
  obtain ⟨c, rest, rfl⟩ := List.exists_cons_of_ne_nil h.ne_nil
  simp [Condition.unquoted?, isQuote_eq_false_of_isInert (h.inert c List.mem_cons_self)]

theorem tight_of_operandText {strict : Prop} {x : Operand} {cs : List Char}
    (h : OperandText strict x cs) : Tight cs := by
  cases h with
  | @quoted q body hq hbody =>
    have hblank : isBlank q = false := by
      by_contra hcon
      have hinert := isInert_of_isBlank (c := q) (by simpa using hcon)
      rw [isQuote_eq_false_of_isInert hinert] at hq
      contradiction
    refine ⟨by simp, fun c hc => ?_, fun c hc => ?_⟩
    · obtain rfl : q = c := by simpa using hc
      exact hblank
    · rw [← List.cons_append, List.getLast?_concat] at hc
      obtain rfl : q = c := by simpa using hc
      exact hblank
  | word h => exact (bare_of_word h).tight
  | number h => exact (bare_of_number? h).tight
  | path h _ => exact (bare_of_pathText h).tight

/-- What is read from a text is one of the operands whose text it is, and no text has two. -/
theorem parseOperand_eq_ok_iff {raw : List Char} {x : Operand} :
    parseOperand raw = .ok x ↔ OperandText False x (trim raw) := by
  unfold parseOperand
  generalize trim raw = cs
  constructor
  · intro h
    simp only at h
    split at h
    · contradiction
    · split at h
      · next body hbody =>
        obtain ⟨q, hq, rfl⟩ := unquoted?_eq_some_iff.1 hbody
        obtain rfl := Except.ok.inj h
        exact .quoted hq False.elim
      · split at h
        · next value hvalue =>
          obtain rfl := Except.ok.inj h
          rcases (Option.orElse_eq_some _ _ _).1 hvalue with hword | ⟨-, hnumber⟩
          · have htext : OperandText False (.literal value) (String.ofList cs).toList :=
              .word (word?_eq_some_iff.1 hword)
            rwa [String.toList_ofList] at htext
          · exact .number hnumber
        · next hvalue =>
          obtain ⟨hword, -⟩ := (Option.orElse_eq_none _ _).1 hvalue
          split at h
          · next hpath =>
            obtain rfl := Except.ok.inj h
            refine .path (pathText_iff.2 hpath) fun value hmem => ?_
            rw [word?_eq_some_iff.2 hmem] at hword
            contradiction
          · contradiction
  · intro h
    have hne : cs.isEmpty = false := by simpa using (tight_of_operandText h).ne_nil
    simp only [hne]
    cases h with
    | @quoted q body hq _ => simp [unquoted?_eq_some_iff.2 ⟨q, hq, rfl⟩]
    | word h =>
      simp [(bare_of_word h).unquoted?, word?_eq_some_iff.2 h]
    | number h =>
      have hword : word? (String.ofList cs) = none := by
        by_contra hcon
        obtain ⟨v, hv⟩ := Option.ne_none_iff_exists'.1 hcon
        have hnone := number?_eq_none_of_word (word?_eq_some_iff.1 hv)
        rw [String.toList_ofList, h] at hnone
        contradiction
      simp [(bare_of_number? h).unquoted?, hword, h]
    | path h hnot =>
      have hword : word? (String.ofList cs) = none := by
        by_contra hcon
        obtain ⟨v, hv⟩ := Option.ne_none_iff_exists'.1 hcon
        exact hnot v (word?_eq_some_iff.1 hv)
      simp [(bare_of_pathText h).unquoted?, hword, number?_eq_none_of_pathText h,
        pathText_iff.1 h]

/-! ## The documented texts -/

theorem calm_of_operandText {x : Operand} {cs : List Char} (h : OperandText True x cs) :
    Calm cs := by
  cases h with
  | quoted hq hbody => exact calm_quoted hq (hbody trivial)
  | word h => exact calm_of_inert (bare_of_word h).inert
  | number h => exact calm_of_inert (bare_of_number? h).inert
  | path h _ => exact calm_of_inert (bare_of_pathText h).inert

/-- A string with its own quote inside gives more than one mark for quotes. -/
theorem operandText_of_one_string {strict : Prop} {x : Operand} {cs : List Char}
    (h : OperandText False x cs) (hclosed : .unclosed ∉ marks none cs)
    (hone : (marks none cs).count .quoted ≤ 1) : OperandText strict x cs := by
  cases h with
  | @quoted q body hq _ =>
    refine .quoted hq fun _ hmem => ?_
    obtain ⟨front, back, rfl, hfront⟩ := List.eq_append_cons_of_mem hmem
    have hmarks : marks none (q :: ((front ++ q :: back) ++ [q])) =
        .quoted :: marks none (back ++ [q]) := by
      rw [List.append_assoc, List.cons_append]
      exact marks_quoted hq hfront _
    rw [hmarks] at hclosed hone
    have hlast : .quoted ∈ marks none (back ++ [q]) ∨ .unclosed ∈ marks none (back ++ [q]) :=
      quoted_or_unclosed_mem_marks (.inr ⟨q, by simp, hq⟩)
    rcases hlast with hquoted | hunclosed
    · have hpos := List.count_pos_iff.2 hquoted
      rw [List.count_cons_self] at hone
      omega
    · exact hclosed (List.mem_cons_of_mem _ hunclosed)
  | word h => exact .word h
  | number h => exact .number h
  | path h hword => exact .path h hword

end Condition
end FlowCheck
