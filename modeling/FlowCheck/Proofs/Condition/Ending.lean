import FlowCheck.Proofs.Condition.Parsing

/-!
# How conditions end

The last character of a condition that is no blank ends an operand: it is a quote, or a character of
a word, a number or a path (`ends_of_parse`).  The grammar has the operand last at every level, so
this goes from operands to clauses, to rows of them, and to conditions.
-/

namespace FlowCheck
namespace Condition

open Text (AllBlank isBlank trim)

/-- The characters that operands end with. -/
def endsOperand (c : Char) : Bool := isQuote c || isBareChar c

/-- Behind its last character that ends an operand, the text has only blanks. -/
def Ends (cs : List Char) : Prop :=
  ∃ front c after, cs = front ++ c :: after ∧ endsOperand c = true ∧ AllBlank after

/-- What stands in front does not matter. -/
theorem Ends.prepend {cs : List Char} (h : Ends cs) (front : List Char) : Ends (front ++ cs) := by
  obtain ⟨before, c, after, rfl, hc, hafter⟩ := h
  exact ⟨front ++ before, c, after, by simp, hc, hafter⟩

theorem ends_of_operandText {x : Operand} {cs : List Char} (h : OperandText False x cs) :
    Ends cs := by
  have hbare (hcs : Bare cs) : Ends cs := by
    have hlast := hcs.chars _ (List.getLast_mem hcs.ne_nil)
    refine ⟨cs.dropLast, cs.getLast hcs.ne_nil, [], ?_, by simp [endsOperand, hlast],
      Text.allBlank_nil⟩
    exact (List.dropLast_append_getLast hcs.ne_nil).symm
  cases h with
  | @quoted q body hq _ =>
    exact ⟨q :: body, q, [], by simp, by simp [endsOperand, hq], Text.allBlank_nil⟩
  | word h => exact hbare (bare_of_word h)
  | number h => exact hbare (bare_of_number? h)
  | path h _ => exact hbare (bare_of_pathText h)

theorem ends_of_spaced {x : Operand} {cs : List Char} (h : Spaced (OperandText False) x cs) :
    Ends cs := by
  obtain ⟨before, core, behind, -, hbehind, hcore, rfl⟩ := h
  obtain ⟨front, c, after, rfl, hc, hafter⟩ := ends_of_operandText hcore
  exact ⟨before ++ front, c, after ++ behind, by simp, hc, hafter.append hbehind⟩

theorem ends_of_clauseText {clause : Clause} {cs : List Char}
    (h : ClauseText (OperandText False) clause cs) : Ends cs := by
  cases h with
  | compare op _ hr => exact (ends_of_spaced hr).prepend _
  | plain h => exact ends_of_spaced h
  | @negated x b t _ h =>
    have hsplit : b ++ '!' :: t = (b ++ ['!']) ++ t := by simp
    rw [hsplit]
    exact (ends_of_spaced h).prepend _

/-- A row of things ends as its last thing does. -/
theorem ends_of_joined {α : Type} {spell : α → List Char → Prop} {sep : Char} {as : List α}
    {cs : List Char} (hspell : ∀ a t, spell a t → Ends t) (h : Joined sep spell as cs) :
    Ends cs := by
  induction h with
  | one h => exact hspell _ _ h
  | @cons a as t cs _ _ ih =>
    have hsplit : t ++ sep :: sep :: cs = (t ++ [sep, sep]) ++ cs := by simp
    rw [hsplit]
    exact ih.prepend _

/-- An accepted text is blank, or it ends as operands do. -/
theorem ends_of_parse {s : String} {c : Condition} (h : parse s = .ok c) :
    AllBlank s.toList ∨ Ends s.toList := by
  rcases conditionText_of_parse False.elim h with ⟨-, hblank⟩ | h
  · exact .inl hblank
  · exact .inr (ends_of_joined (fun _ _ hconj =>
      ends_of_joined (fun _ _ hclause => ends_of_clauseText hclause) hconj) h)

/-- A text with another last character is no condition. -/
theorem exists_parse_eq_error {front : List Char} {c : Char} (hblank : isBlank c = false)
    (hends : endsOperand c = false) :
    ∃ problem, parse (String.ofList (front ++ [c])) = .error problem := by
  cases hparse : parse (String.ofList (front ++ [c])) with
  | error problem => exact ⟨problem, rfl⟩
  | ok condition =>
    have hend := ends_of_parse hparse
    rw [String.toList_ofList] at hend
    rcases hend with hall | ⟨before, d, after, heq, hd, hafter⟩
    · rw [hall c (by simp)] at hblank
      contradiction
    · obtain rfl | ⟨after, e, rfl⟩ := List.eq_nil_or_concat' after
      · obtain ⟨-, hcd⟩ := List.append_inj' heq rfl
        obtain rfl : c = d := by simpa using hcd
        rw [hd] at hends
        contradiction
      · have hassoc : before ++ d :: (after ++ [e]) = (before ++ d :: after) ++ [e] := by simp
        rw [hassoc] at heq
        obtain ⟨-, hce⟩ := List.append_inj' heq rfl
        obtain rfl : c = e := by simpa using hce
        rw [hafter c (by simp)] at hblank
        contradiction

end Condition
end FlowCheck
