import FlowCheck.Condition.Parser
import FlowCheck.Proofs.Text.Trim
import Mathlib.Data.List.Basic

/-!
# The grammar of conditions

Which texts stand for which conditions, as relations that know nothing of a reader.

    Condition   ::= Conjunction ( '||' Conjunction )*
    Conjunction ::= Clause ( '&&' Clause )*
    Clause      ::= Operand Operator Operand | '!'? Operand
    Operand     ::= Quoted | Number | 'true' | 'false' | 'null' | Path
    Path        ::= Segment ( '.' Segment )*

Blanks may stand around every token.  To this documented grammar the relations add two texts that
the reader knows as well: `nil`, which is another word for `null` and so is not a path, and the
blank text, which stands for the condition without disjuncts.  They take the texts of an operand as
a parameter, so that one grammar serves for all the ways to write an operand.

## Main definitions

* `OperandText strict` : the texts of an operand; `strict` says that a quoted string does not
  contain its own quote
* `ConditionText` : the texts of a condition, over the texts of its operands
* `Documented`, `Lenient` : the grammar with strict quoted strings, and the one without
* `Elastic` : blanks may be added to the texts of a thing, and taken away, at both ends
-/

namespace FlowCheck
namespace Condition

open Text (AllBlank Tight isBlank trim trimStart trimEnd)

/-! ## Operands -/

/-- The words that are literals.  The grammar as documented has the first three; `nil` is another
name of `null`. -/
def words : List (String × Json) :=
  [("true", .bool true), ("false", .bool false), ("null", .null), ("nil", .null)]

/-- Segments of letters, digits and underscores with points between them, of which the first does
not start with a digit. -/
def PathText (cs : List Char) : Prop :=
  ∃ first rest, cs = ['.'].intercalate (first :: rest) ∧
    (∀ segment ∈ first :: rest, segment ≠ [] ∧ ∀ c ∈ segment, isNameChar c = true) ∧
    ∀ c ∈ first.head?, c.isDigit = false

/-- The texts of an operand, without blanks around them. -/
inductive OperandText (strict : Prop) : Operand → List Char → Prop
  | quoted {q : Char} {body : List Char} (hq : isQuote q = true) (hbody : strict → q ∉ body) :
      OperandText strict (.literal (.str (String.ofList body))) (q :: (body ++ [q]))
  | word {w : String} {value : Json} (h : (w, value) ∈ words) :
      OperandText strict (.literal value) w.toList
  | number {cs : List Char} {value : Json} (h : number? cs = some value) :
      OperandText strict (.literal value) cs
  | path {cs : List Char} (h : PathText cs) (hword : ∀ value, (String.ofList cs, value) ∉ words) :
      OperandText strict (.path (String.ofList cs)) cs

/-- A stricter text is a text. -/
theorem OperandText.mono {strict strict' : Prop} (himp : strict' → strict) {x : Operand}
    {cs : List Char} (h : OperandText strict x cs) : OperandText strict' x cs := by
  cases h with
  | quoted hq hbody => exact .quoted hq fun hs => hbody (himp hs)
  | word h => exact .word h
  | number h => exact .number h
  | path h hword => exact .path h hword

/-! ## Clauses and conditions -/

section

variable {α : Type}

/-- The texts of a thing with blanks on either side. -/
def Spaced (spell : α → List Char → Prop) (a : α) (cs : List Char) : Prop :=
  ∃ before core after, AllBlank before ∧ AllBlank after ∧ spell a core ∧
    cs = before ++ core ++ after

/-- The texts of things with a doubled separator between any two. -/
inductive Joined (sep : Char) (spell : α → List Char → Prop) : List α → List Char → Prop
  | one {a : α} {t : List Char} (h : spell a t) : Joined sep spell [a] t
  | cons {a : α} {as : List α} {t cs : List Char} (h : spell a t) (hs : Joined sep spell as cs) :
      Joined sep spell (a :: as) (t ++ sep :: sep :: cs)

end

/-- The texts of a clause, given those of its operands. -/
inductive ClauseText (spell : Operand → List Char → Prop) : Clause → List Char → Prop
  | compare {left right : Operand} {l r : List Char} (op : Operator) (hl : Spaced spell left l)
      (hr : Spaced spell right r) :
      ClauseText spell (.compare left op right) (l ++ op.symbol.toList ++ r)
  | plain {x : Operand} {t : List Char} (h : Spaced spell x t) :
      ClauseText spell (.truthy x false) t
  | negated {x : Operand} {b t : List Char} (hb : AllBlank b) (h : Spaced spell x t) :
      ClauseText spell (.truthy x true) (b ++ '!' :: t)

def ConjunctionText (spell : Operand → List Char → Prop) : Conjunction → List Char → Prop :=
  Joined '&' (ClauseText spell)

/-- The texts of a condition; the condition without disjuncts has the blank texts. -/
def ConditionText (spell : Operand → List Char → Prop) (c : Condition) (cs : List Char) : Prop :=
  (c.any = [] ∧ AllBlank cs) ∨ Joined '|' (ConjunctionText spell) c.any cs

/-! ## More ways to write an operand -/

section

variable {α : Type} {spell spell' : α → List Char → Prop}

theorem Spaced.mono (h : ∀ a t, spell a t → spell' a t) {a : α} {t : List Char}
    (ht : Spaced spell a t) : Spaced spell' a t := by
  obtain ⟨before, core, after, hb, ha, hcore, rfl⟩ := ht
  exact ⟨before, core, after, hb, ha, h a core hcore, rfl⟩

theorem Joined.mono {sep : Char} (h : ∀ a t, spell a t → spell' a t) {as : List α}
    {t : List Char} (ht : Joined sep spell as t) : Joined sep spell' as t := by
  induction ht with
  | one ht => exact .one (h _ _ ht)
  | cons ht _ ih => exact .cons (h _ _ ht) ih

/-- A row of things that have texts has one. -/
theorem exists_joined (sep : Char) {as : List α} (hne : as ≠ [])
    (h : ∀ a ∈ as, ∃ t, spell a t) : ∃ t, Joined sep spell as t := by
  induction as with
  | nil => exact absurd rfl hne
  | cons a as ih =>
    obtain ⟨t, ht⟩ := h a List.mem_cons_self
    cases as with
    | nil => exact ⟨t, .one ht⟩
    | cons b as =>
      obtain ⟨ts, hts⟩ := ih (List.cons_ne_nil _ _) fun x hx => h x (List.mem_cons_of_mem _ hx)
      exact ⟨_, .cons ht hts⟩

end

theorem ClauseText.mono {spell spell' : Operand → List Char → Prop}
    (h : ∀ x t, spell x t → spell' x t) {clause : Clause} {t : List Char}
    (ht : ClauseText spell clause t) : ClauseText spell' clause t := by
  cases ht with
  | compare op hl hr => exact .compare op (hl.mono h) (hr.mono h)
  | plain ht => exact .plain (ht.mono h)
  | negated hb ht => exact .negated hb (ht.mono h)

/-- The documented grammar, with `nil` and the blank text added to it: a quoted string is a quote,
characters other than that quote, and the quote again. -/
def Documented : Condition → List Char → Prop := ConditionText (OperandText True)

/-- The grammar in which a quoted string may contain its own quote. -/
def Lenient : Condition → List Char → Prop := ConditionText (OperandText False)

/-! ## Blanks at the ends -/

/-- Blanks may be added to a text of a thing and taken from it, at both ends; no text of a thing is
blank. -/
structure Elastic {α : Type} (spell : α → List Char → Prop) : Prop where
  front : ∀ {a : α} {b t : List Char}, AllBlank b → spell a t → spell a (b ++ t)
  back : ∀ {a : α} {t b : List Char}, AllBlank b → spell a t → spell a (t ++ b)
  start : ∀ {a : α} {t : List Char}, spell a t → spell a (trimStart t)
  stop : ∀ {a : α} {t : List Char}, spell a t → spell a (trimEnd t)
  not_blank : ∀ {a : α} {t : List Char}, spell a t → ¬ AllBlank t

section

variable {α : Type} {spell : α → List Char → Prop}

theorem Elastic.trim_iff (h : Elastic spell) {a : α} {t : List Char} :
    spell a (trim t) ↔ spell a t := by
  constructor
  · intro ht
    obtain ⟨before, after, hb, ha, heq⟩ := Text.exists_eq_append_trim t
    rw [heq]
    exact h.back ha (h.front hb ht)
  · intro ht
    exact h.stop (h.start ht)

/-- The trimmed text of a spaced thing is the thing itself. -/
theorem spaced_iff (htight : ∀ a t, spell a t → Tight t) {a : α} {cs : List Char} :
    Spaced spell a cs ↔ spell a (trim cs) := by
  constructor
  · rintro ⟨before, core, after, hb, ha, hcore, rfl⟩
    rwa [Text.trim_append_append hb ha (htight a core hcore)]
  · intro h
    obtain ⟨before, after, hb, ha, heq⟩ := Text.exists_eq_append_trim cs
    exact ⟨before, trim cs, after, hb, ha, h, heq⟩

theorem elastic_spaced (htight : ∀ a t, spell a t → Tight t) : Elastic (Spaced spell) where
  front := by
    rintro a b t hblank ⟨before, core, after, hb, ha, hcore, rfl⟩
    exact ⟨b ++ before, core, after, hblank.append hb, ha, hcore, by simp⟩
  back := by
    rintro a t b hblank ⟨before, core, after, hb, ha, hcore, rfl⟩
    exact ⟨before, core, after ++ b, hb, ha.append hblank, hcore, by simp⟩
  start := by
    rintro a t ⟨before, core, after, hb, ha, hcore, rfl⟩
    refine ⟨[], core, after, Text.allBlank_nil, ha, hcore, ?_⟩
    rw [List.append_assoc, Text.trimStart_append_of_allBlank hb,
      Text.trimStart_append_of_tight (htight a core hcore)]
    rfl
  stop := by
    rintro a t ⟨before, core, after, hb, ha, hcore, rfl⟩
    refine ⟨before, core, [], hb, Text.allBlank_nil, hcore, ?_⟩
    rw [Text.trimEnd_append_of_allBlank ha,
      Text.trimEnd_append_of_tight (htight a core hcore), List.append_nil]
  not_blank := by
    rintro a t ⟨before, core, after, hb, ha, hcore, rfl⟩ hall
    have hnil := Text.trim_eq_nil_iff.2 hall
    rw [Text.trim_append_append hb ha (htight a core hcore)] at hnil
    exact (htight a core hcore).ne_nil hnil

theorem elastic_joined {sep : Char} (hsep : isBlank sep = false) (h : Elastic spell) :
    Elastic (Joined sep spell) where
  front := by
    rintro a b t hb (ht | ⟨ht, hs⟩)
    · exact .one (h.front hb ht)
    · rw [← List.append_assoc]
      exact .cons (h.front hb ht) hs
  back := by
    intro a t b hb ht
    induction ht with
    | one ht => exact .one (h.back hb ht)
    | cons ht _ ih =>
      rw [List.append_assoc]
      exact .cons ht ih
  start := by
    rintro a t (ht | ⟨ht, hs⟩)
    · exact .one (h.start ht)
    · rw [Text.trimStart_append_cons hsep]
      exact .cons (h.start ht) hs
  stop := by
    intro a t ht
    induction ht with
    | one ht => exact .one (h.stop ht)
    | @cons a as t cs ht _ ih =>
      rw [List.append_cons, Text.trimEnd_append_cons hsep, ← List.append_cons]
      exact .cons ht ih
  not_blank := by
    rintro a t (ht | ⟨ht, hs⟩) hall
    · exact h.not_blank ht hall
    · exact h.not_blank ht fun c hc => hall c (List.mem_append_left _ hc)

end

/-- No blank is part of an operator. -/
theorem isBlank_eq_false_of_mem_symbol (op : Operator) :
    ∀ c ∈ op.symbol.toList, isBlank c = false := by
  have hall : (op.symbol.toList.all fun c => !isBlank c) = true := by cases op <;> decide
  intro c hc
  simpa using List.all_eq_true.1 hall c hc

theorem symbol_ne_nil (op : Operator) : op.symbol.toList ≠ [] := by
  cases op <;> decide

theorem trimStart_append_symbol (op : Operator) (l r : List Char) :
    trimStart (l ++ op.symbol.toList ++ r) = trimStart l ++ op.symbol.toList ++ r := by
  obtain ⟨c, symbol, hsymbol⟩ := List.exists_cons_of_ne_nil (symbol_ne_nil op)
  have hc := isBlank_eq_false_of_mem_symbol op c (by simp [hsymbol])
  simp [hsymbol, Text.trimStart_append_cons hc]

theorem trimEnd_append_symbol (op : Operator) (l r : List Char) :
    trimEnd (l ++ op.symbol.toList ++ r) = l ++ op.symbol.toList ++ trimEnd r := by
  obtain ⟨symbol, c, hsymbol⟩ :=
    (List.eq_nil_or_concat' op.symbol.toList).resolve_left (symbol_ne_nil op)
  have hc := isBlank_eq_false_of_mem_symbol op c (by simp [hsymbol])
  simpa [hsymbol] using Text.trimEnd_append_cons hc (l ++ symbol) r

theorem elastic_clauseText {spell : Operand → List Char → Prop} (h : Elastic (Spaced spell)) :
    Elastic (ClauseText spell) where
  front := by
    intro clause b t hblank ht
    cases ht with
    | compare op hl hr =>
      rw [← List.append_assoc, ← List.append_assoc]
      exact .compare op (h.front hblank hl) hr
    | plain ht => exact .plain (h.front hblank ht)
    | negated hb ht =>
      rw [← List.append_assoc]
      exact .negated (hblank.append hb) ht
  back := by
    intro clause t b hblank ht
    cases ht with
    | compare op hl hr =>
      rw [List.append_assoc]
      exact .compare op hl (h.back hblank hr)
    | plain ht => exact .plain (h.back hblank ht)
    | negated hb ht =>
      rw [List.append_assoc, List.cons_append]
      exact .negated hb (h.back hblank ht)
  start := by
    intro clause t ht
    cases ht with
    | compare op hl hr =>
      rw [trimStart_append_symbol]
      exact .compare op (h.start hl) hr
    | plain ht => exact .plain (h.start ht)
    | negated hb ht =>
      rw [Text.trimStart_append_cons (by decide)]
      exact .negated (fun c hc => hb c (List.dropWhile_subset isBlank hc)) ht
  stop := by
    intro clause t ht
    cases ht with
    | compare op hl hr =>
      rw [trimEnd_append_symbol]
      exact .compare op hl (h.stop hr)
    | plain ht => exact .plain (h.stop ht)
    | negated hb ht =>
      rw [Text.trimEnd_append_cons (by decide)]
      exact .negated hb (h.stop ht)
  not_blank := by
    intro clause t ht hall
    cases ht with
    | compare op hl hr =>
      exact h.not_blank hl fun c hc => hall c (List.mem_append_left _ (List.mem_append_left _ hc))
    | plain ht => exact h.not_blank ht hall
    | negated hb ht => exact absurd (hall '!' (by simp)) (by decide)

end Condition
end FlowCheck
