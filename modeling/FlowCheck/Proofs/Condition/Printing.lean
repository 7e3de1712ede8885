import FlowCheck.Proofs.Condition.Parsing

/-!
# Reading undoes printing

A condition is printed by writing its operands, in one of the quotes that a string does not
contain, with the operators, the separators and any blanks between them.  Every printable
condition can be printed, and it is read back from all its prints.
-/

namespace FlowCheck
namespace Condition

/-! ## Printing -/

/-- A literal is printed as text or as a word or as an integer of 64 bits; a path is printed when it
is one and is no word. -/
inductive OperandPrint : Operand → List Char → Prop
  | string {s : String} {q : Char} (hq : isQuote q = true) (h : q ∉ s.toList) :
      OperandPrint (.literal (.str s)) (q :: (s.toList ++ [q]))
  | integer {n : Int} (h : Word.fitsSigned 64 n = true) :
      OperandPrint (.literal (.int n)) (toString n).toList
  | true : OperandPrint (.literal (.bool .true)) "true".toList
  | false : OperandPrint (.literal (.bool .false)) "false".toList
  | null : OperandPrint (.literal .null) "null".toList
  | path {names : String} (h : PathText names.toList)
      (hword : ∀ value, (names, value) ∉ words) : OperandPrint (.path names) names.toList

/-- The prints of a condition, with any blanks around its tokens. -/
def Print (c : Condition) (s : String) : Prop :=
  Joined '|' (Joined '&' (ClauseText OperandPrint)) c.any s.toList

def Operand.Printable : Operand → Prop
  | .literal (.str s) => '"' ∉ s.toList ∨ '\'' ∉ s.toList
  | .literal (.num (.int n)) => Word.fitsSigned 64 n = true
  | .literal (.bool _) => True
  | .literal .null => True
  | .literal _ => False
  | .path names => PathText names.toList ∧ ∀ value, (names, value) ∉ words

def Clause.operands : Clause → List Operand
  | .compare left _ right => [left, right]
  | .truthy x _ => [x]

/-- There is a disjunct, each disjunct has a clause, and all operands are printable. -/
structure Printable (c : Condition) : Prop where
  any_ne_nil : c.any ≠ []
  all_ne_nil : ∀ conjunction ∈ c.any, conjunction ≠ []
  operands : ∀ conjunction ∈ c.any, ∀ clause ∈ conjunction, ∀ x ∈ clause.operands, x.Printable

theorem exists_operandPrint {x : Operand} (h : x.Printable) : ∃ t, OperandPrint x t := by
  cases x with
  | path names => exact ⟨_, .path h.1 h.2⟩
  | literal value =>
    cases value with
    | null => exact ⟨_, .null⟩
    | bool b =>
      cases b with
      | false => exact ⟨_, .false⟩
      | true => exact ⟨_, .true⟩
    | num n =>
      cases n with
      | int n => exact ⟨_, .integer h⟩
      | real x => exact h.elim
    | str s =>
      rcases h with h | h
      · exact ⟨_, .string (q := '"') (by decide) h⟩
      · exact ⟨_, .string (q := '\'') (by decide) h⟩
    | arr items => exact h.elim
    | obj members => exact h.elim

theorem spaced_of_spell {α : Type} {spell : α → List Char → Prop} {a : α} {t : List Char}
    (h : spell a t) : Spaced spell a t :=
  ⟨[], t, [], Text.allBlank_nil, Text.allBlank_nil, h, by simp⟩

theorem exists_clauseText {clause : Clause} (h : ∀ x ∈ clause.operands, x.Printable) :
    ∃ t, ClauseText OperandPrint clause t := by
  cases clause with
  | compare left op right =>
    obtain ⟨l, hl⟩ := exists_operandPrint (h left (by simp [Clause.operands]))
    obtain ⟨r, hr⟩ := exists_operandPrint (h right (by simp [Clause.operands]))
    exact ⟨_, .compare op (spaced_of_spell hl) (spaced_of_spell hr)⟩
  | truthy x negated =>
    obtain ⟨t, ht⟩ := exists_operandPrint (h x (by simp [Clause.operands]))
    cases negated with
    | false => exact ⟨_, .plain (spaced_of_spell ht)⟩
    | true => exact ⟨_, .negated Text.allBlank_nil (spaced_of_spell ht)⟩

theorem exists_print {c : Condition} (h : Printable c) : ∃ s, Print c s := by
  obtain ⟨t, ht⟩ := exists_joined '|' h.any_ne_nil fun conjunction hc =>
    exists_joined '&' (h.all_ne_nil conjunction hc) fun clause hclause =>
      exists_clauseText (h.operands conjunction hc clause hclause)
  exact ⟨String.ofList t, by simpa [Print] using ht⟩

/-! ## Reading -/

/-- A printed operand is a text of the documented grammar. -/
theorem operandText_of_operandPrint {x : Operand} {t : List Char} (h : OperandPrint x t) :
    OperandText True x t := by
  cases h with
  | @string s q hq h =>
    have htext := OperandText.quoted hq fun _ : True => h
    rwa [String.ofList_toList] at htext
  | integer h => exact .number (by rw [number?, Numeral.int64?_toString h])
  | true => exact .word (by simp [words])
  | false => exact .word (by simp [words])
  | null => exact .word (by simp [words])
  | @path names h hword =>
    have htext : OperandText True (.path (String.ofList names.toList)) names.toList :=
      .path h (by simpa using hword)
    rwa [String.ofList_toList] at htext

theorem documented_of_print {c : Condition} {s : String} (h : Print c s) :
    Documented c s.toList :=
  .inr (h.mono fun _ _ hconj => hconj.mono fun _ _ hclause =>
    hclause.mono fun _ _ hx => operandText_of_operandPrint hx)

/-- A printable condition is read back from each of its prints, of which there is one. -/
theorem parse_print {c : Condition} (h : Printable c) :
    (∃ s, Print c s) ∧ ∀ s, Print c s → parse s = .ok c :=
  ⟨exists_print h, fun _ hs => parse_of_documented (documented_of_print hs)⟩

/-- A separator inside a string does not cut. -/
theorem parse_print_separator_in_string :
    let c : Condition := ⟨[[.compare (.path "role") .eq (.literal (.str "a || b"))]]⟩
    Printable c ∧ (∃ s, Print c s) ∧ ∀ s, Print c s → parse s = .ok c := by
  intro c
  have hpath : (Operand.path "role").Printable :=
    ⟨pathText_iff.2 (by decide), by simp [words]⟩
  have hstring : (Operand.literal (.str "a || b")).Printable := .inl (by decide)
  have hc : Printable c := by
    refine ⟨by simp [c], by simp [c], ?_⟩
    simpa [c, Clause.operands] using ⟨hpath, hstring⟩
  exact ⟨hc, parse_print hc⟩

end Condition
end FlowCheck
