import FlowCheck.Format.Email
import FlowCheck.Pattern.Compile
import FlowCheck.Proofs.Number.Sorting
import FlowCheck.Proofs.Pattern.Matching
import FlowCheck.Proofs.Request.FieldRule
import Mathlib.Data.List.Basic
import Mathlib.Data.List.TakeDrop
import Mathlib.Data.List.TakeWhile

/-!
# Which texts are email addresses

An address has no blanks, one `@` with something in front of it, and behind it a point that is
neither the first nor the last character (`Format.IsAddress`).  The same shape is commonly written
as a pattern (`Format.addressPattern`) whose parts overlap, since the characters around the point
may be points themselves.

Both the direct test of a field and the matcher of this pattern cut a text at the `@` and at some
point behind it into three nonempty rows of characters (`Format.CutsInto`), and such a text is an
address (`Format.isAddress_iff`).  So a field of type email takes exactly the addresses, and these
are exactly the texts in which the pattern occurs (`FieldRule.emailed_accepts_iff`).
-/

namespace FlowCheck

/-- A set is brought into order by the start of its ranges. -/
theorem Unicode.Ranges.normal_eq_of_perm {ranges sorted : Unicode.Ranges}
    (hperm : ranges.Perm sorted) (hsorted : sorted.Pairwise fun a b => a.1 < b.1) :
    ranges.normal = (sorted.foldl joinOnto []).reverse := by
  rw [normal, mergeSort_eq_of_perm hperm hsorted]

namespace Format

open Text (isBlank)

/-! ## Addresses -/

structure IsAddress (cs : List Char) : Prop where
  noBlank : ∀ c ∈ cs, isBlank c = false
  oneAt : cs.count '@' = 1
  innerPoint : ∃ name domain, cs = name ++ '@' :: domain ∧ name ≠ [] ∧
    ∃ front back, domain = front ++ '.' :: back ∧ front ≠ [] ∧ back ≠ []

/-- Three nonempty rows of address characters, with an `@` and a point between them. -/
structure CutsInto (cs name front back : List Char) : Prop where
  text : cs = name ++ '@' :: (front ++ '.' :: back)
  name : name ≠ [] ∧ ∀ c ∈ name, isAddressChar c = true
  front : front ≠ [] ∧ ∀ c ∈ front, isAddressChar c = true
  back : back ≠ [] ∧ ∀ c ∈ back, isAddressChar c = true

theorem isAddressChar_iff {c : Char} : isAddressChar c = true ↔ isBlank c = false ∧ c ≠ '@' := by
  simp [isAddressChar]

/-- Some characters are address characters when none is a blank and none is an `@`. -/
theorem forall_isAddressChar_iff {cs : List Char} : (∀ c ∈ cs, isAddressChar c = true) ↔
    (∀ c ∈ cs, isBlank c = false) ∧ cs.count '@' = 0 := by
  simp only [isAddressChar_iff, List.count_eq_zero]
  constructor
  · intro h
    exact ⟨fun c hc => (h c hc).1, fun hmem => (h _ hmem).2 rfl⟩
  · rintro ⟨hblank, hat⟩ c hc
    exact ⟨hblank c hc, fun heq => hat (heq ▸ hc)⟩

theorem isAddress_iff {cs : List Char} :
    IsAddress cs ↔ ∃ name front back, CutsInto cs name front back := by
  constructor
  · rintro ⟨hblank, hat, name, domain, rfl, hname, front, back, rfl, hfront, hback⟩
    simp only [List.count_append, List.count_cons_self,
      List.count_cons_of_ne (show '.' ≠ '@' by decide)] at hat
    refine ⟨name, front, back, rfl, ⟨hname, ?_⟩, ⟨hfront, ?_⟩, ⟨hback, ?_⟩⟩
    all_goals
      exact forall_isAddressChar_iff.2 ⟨fun c hc => hblank c (by simp [hc]), by omega⟩
  · rintro ⟨name, front, back, rfl, ⟨hname, hnameChars⟩, ⟨hfront, hfrontChars⟩, ⟨hback, hbackChars⟩⟩
    rw [forall_isAddressChar_iff] at hnameChars hfrontChars hbackChars
    refine ⟨?_, ?_, name, front ++ '.' :: back, rfl, hname, front, back, rfl, hfront, hback⟩
    · simp only [List.forall_mem_append, List.forall_mem_cons]
      exact ⟨hnameChars.1, by decide, hfrontChars.1, by decide, hbackChars.1⟩
    · simp only [List.count_append, List.count_cons_self,
        List.count_cons_of_ne (show '.' ≠ '@' by decide)]
      omega

/-! ## The direct test -/

theorem hasInnerPoint_iff {domain : List Char} : hasInnerPoint domain = true ↔
    ∃ front back, domain = front ++ '.' :: back ∧ front ≠ [] ∧ back ≠ [] := by
  rw [hasInnerPoint, List.contains_eq_mem, decide_eq_true_eq, List.mem_iff_append]
  constructor
  · rintro ⟨front, back, h⟩
    obtain ⟨first, rest, rfl⟩ : ∃ first rest, domain = first :: rest :=
      List.exists_cons_of_ne_nil fun hnil => by simp [hnil] at h
    obtain ⟨init, last, rfl⟩ : ∃ init last, rest = init ++ [last] := by
      rcases List.eq_nil_or_concat' rest with rfl | hconcat
      · simp at h
      · exact hconcat
    obtain rfl : init = front ++ '.' :: back := by simpa using h
    exact ⟨first :: front, back ++ [last], by simp, by simp, by simp⟩
  · rintro ⟨front, back, rfl, hfront, hback⟩
    obtain ⟨c, front, rfl⟩ := List.exists_cons_of_ne_nil hfront
    refine ⟨front, back.dropLast, ?_⟩
    simp [List.dropLast_append_of_ne_nil, List.dropLast_cons_of_ne_nil hback]

theorem span_append_at {name : List Char} (h : ∀ c ∈ name, isAddressChar c = true)
    (domain : List Char) :
    (name ++ '@' :: domain).span isAddressChar = (name, '@' :: domain) := by
  have hat : isAddressChar '@' = false := by decide
  rw [List.span_eq_takeWhile_dropWhile, List.takeWhile_append_of_pos h,
    List.dropWhile_append_of_pos h]
  simp [hat]

theorem isEmail_iff {cs : List Char} :
    isEmail cs = true ↔ ∃ name front back, CutsInto cs name front back := by
  constructor
  · intro h
    unfold isEmail at h
    split at h
    · contradiction
    · next name domain hname hspan =>
      obtain ⟨hdomain, hpoint⟩ := Bool.and_eq_true_iff.1 h
      obtain ⟨front, back, rfl, hfront, hback⟩ := hasInnerPoint_iff.1 hpoint
      rw [List.all_append, List.all_cons, Bool.and_eq_true_iff, Bool.and_eq_true_iff,
        List.all_eq_true, List.all_eq_true] at hdomain
      rw [List.span_eq_takeWhile_dropWhile, Prod.mk.injEq] at hspan
      obtain ⟨htake, hdrop⟩ := hspan
      have hchars : ∀ c ∈ name, isAddressChar c = true := fun c hc =>
        List.mem_takeWhile_imp (htake ▸ hc)
      have htext : cs = name ++ '@' :: (front ++ '.' :: back) := by
        rw [← htake, ← hdrop, List.takeWhile_append_dropWhile]
      exact ⟨name, front, back, htext, ⟨hname, hchars⟩,
        ⟨hfront, hdomain.1⟩, ⟨hback, hdomain.2.2⟩⟩
    · contradiction
  · rintro ⟨name, front, back, rfl, ⟨hname, hnameChars⟩, ⟨hfront, hfrontChars⟩,
      ⟨hback, hbackChars⟩⟩
    obtain ⟨first, name, rfl⟩ := List.exists_cons_of_ne_nil hname
    have hpoint : hasInnerPoint (front ++ '.' :: back) = true :=
      hasInnerPoint_iff.2 ⟨front, back, rfl, hfront, hback⟩
    have hdomain : (front ++ '.' :: back).all isAddressChar = true := by
      rw [List.all_eq_true, List.forall_mem_append, List.forall_mem_cons]
      exact ⟨hfrontChars, by decide, hbackChars⟩
    rw [isEmail, span_append_at hnameChars]
    simp only [hdomain, hpoint, Bool.and_self]

/-! ## The pattern -/

/-- The usual pattern for the shape of an address. -/
def addressPattern : String := "^[^\\s@]+@[^\\s@]+\\.[^\\s@]+$"

/-- The address characters as a set: neither blanks nor the code point of the `@`. -/
def addressRanges : Unicode.Ranges :=
  [(0, 8), (14, 31), (33, 63), (65, 132), (134, 159), (161, 5759), (5761, 8191), (8203, 8231),
    (8234, 8238), (8240, 8286), (8288, 12287), (12289, 55295), (57344, 1114111)]

/-- A row of address characters. -/
def addressRow : Matcher := .repeated 1 none (.set addressRanges)

def addressMatcher : Matcher :=
  .concat [.look .textStart, addressRow, .set (Pattern.single '@'), addressRow,
    .set (Pattern.single '.'), addressRow, .look .textEnd]

/-- What the sets of the pattern exclude. -/
def excludedRanges : Unicode.Ranges := Unicode.Property.blanks ++ Pattern.single '@'

theorem complement_excludedRanges : excludedRanges.complement = addressRanges := by
  have hperm : (excludedRanges ++ Unicode.Ranges.surrogates).Perm
      [(9, 13), (32, 32), (64, 64), (133, 133), (160, 160), (5760, 5760), (8192, 8202),
        (8232, 8233), (8239, 8239), (8287, 8287), (12288, 12288), (55296, 57343)] := by
    decide +kernel
  -- The sorting itself is not evaluated: the row above is its result, since its starts rise.
  rw [Unicode.Ranges.complement, Unicode.Ranges.normal_eq_of_perm hperm (by decide)]
  rfl

theorem size_addressMatcher_le : addressMatcher.size ≤ Matcher.sizeLimit := by
  have hrow : addressRanges.normal = addressRanges :=
    Unicode.Ranges.normal_eq_of_perm (.refl _) (by decide)
  have hsingle (c : Char) : (Pattern.single c).normal = Pattern.single c :=
    Unicode.Ranges.normal_eq_of_perm (.refl _) (List.pairwise_singleton _ _)
  simp only [addressMatcher, addressRow, Matcher.size, Matcher.sizeOfAll, Matcher.sizeOfSet,
    Matcher.isEmptyWidth, hrow, hsingle]
  decide +kernel

theorem compile_addressPattern : Pattern.compile addressPattern = .ok addressMatcher := by
  obtain ⟨node, hread, hmeaning⟩ : ∃ node, Pattern.read addressPattern.toList = .ok node ∧
      node.meaning {} = .ok ({}, addressMatcher) := by
    rw [addressMatcher, addressRow, ← complement_excludedRanges]
    exact ⟨_, rfl, rfl⟩
  simp only [Pattern.compile, hread, hmeaning, Except.mapError, bind, Except.bind,
    if_neg (Nat.not_lt.2 size_addressMatcher_le)]
  rfl

theorem has_addressRanges_iff {c : Char} :
    addressRanges.has c.toNat = true ↔ isAddressChar c = true := by
  have hvalid : c.toNat < 55296 ∨ 57343 < c.toNat ∧ c.toNat < 1114112 := c.valid
  have hat : c = '@' ↔ c.toNat = 64 := Char.toNat_inj.symm
  simp only [isAddressChar_iff, isBlank, ne_eq, hat, addressRanges, Unicode.Ranges.has,
    List.any_cons, List.any_nil, Bool.or_false, Bool.or_eq_true, Bool.and_eq_true,
    decide_eq_true_eq, Bool.or_eq_false_iff, Bool.and_eq_false_iff, decide_eq_false_iff_not,
    beq_eq_false_iff_ne]
  omega

theorem has_single_iff {c d : Char} : (Pattern.single d).has c.toNat = true ↔ c = d := by
  simp only [Pattern.single, Unicode.Ranges.has, List.any_cons, List.any_nil, Bool.or_false,
    Bool.and_eq_true, decide_eq_true_eq, ← Char.toNat_inj]
  omega

section
variable {cs : List Char} {i j : Nat}

open Matcher (Reads)

theorem spans_addressRow_iff : addressRow.Spans cs.toArray i j ↔
    ∃ row, (row ≠ [] ∧ ∀ c ∈ row, isAddressChar c = true) ∧ Reads cs i row j := by
  simp only [addressRow, Matcher.spans_repeated_set_iff, has_addressRanges_iff, and_assoc]

theorem spans_single_iff {c : Char} :
    (Matcher.set (Pattern.single c)).Spans cs.toArray i j ↔ Reads cs i [c] j := by
  simp only [Matcher.spans_set_iff, has_single_iff, exists_eq_left]

theorem occursIn_addressMatcher_iff {text : String} : addressMatcher.occursIn text = true ↔
    ∃ name front back, CutsInto text.toList name front back := by
  simp only [Matcher.occursIn_iff, addressMatcher, Matcher.spans_concat_cons_iff,
    Matcher.spans_concat_nil_iff, spans_addressRow_iff, spans_single_iff]
  constructor
  · rintro ⟨i, j, hi, _, hstart, k₁, ⟨name, hname, hreadsName⟩, k₂, hreadsAt, k₃,
      ⟨front, hfront, hreadsFront⟩, k₄, hreadsPoint, k₅, ⟨back, hback, hreadsBack⟩, k₆, hend, -⟩
    obtain ⟨rfl, rfl⟩ := (Matcher.spans_textStart_iff hi).1 hstart
    obtain ⟨rfl, hnil⟩ := Matcher.spans_textEnd_iff.1 hend
    have hreadsDomain : Reads text.toList k₂ (front ++ '.' :: back) k₆ :=
      Matcher.reads_append_iff.2 ⟨k₃, hreadsFront,
        Matcher.reads_cons_iff.2 ⟨k₄, hreadsPoint, hreadsBack⟩⟩
    have hreads : Reads text.toList 0 (name ++ '@' :: (front ++ '.' :: back)) k₆ :=
      Matcher.reads_append_iff.2 ⟨k₁, hreadsName,
        Matcher.reads_cons_iff.2 ⟨k₂, hreadsAt, hreadsDomain⟩⟩
    exact ⟨name, front, back, (Matcher.reads_all_iff.1 ⟨hreads, hnil⟩).1, hname, hfront, hback⟩
  · rintro ⟨name, front, back, htext, hname, hfront, hback⟩
    obtain ⟨hreads, hnil⟩ := Matcher.reads_all_iff.2 ⟨htext, rfl⟩
    obtain ⟨k₁, hreadsName, hreads⟩ := Matcher.reads_append_iff.1 hreads
    obtain ⟨k₂, hreadsAt, hreads⟩ := Matcher.reads_cons_iff.1 hreads
    obtain ⟨k₃, hreadsFront, hreads⟩ := Matcher.reads_append_iff.1 hreads
    obtain ⟨k₄, hreadsPoint, hreadsBack⟩ := Matcher.reads_cons_iff.1 hreads
    exact ⟨0, _, Nat.zero_le _, 0, (Matcher.spans_textStart_iff (Nat.zero_le _)).2 ⟨rfl, rfl⟩,
      k₁, ⟨name, hname, hreadsName⟩, k₂, hreadsAt, k₃, ⟨front, hfront, hreadsFront⟩, k₄,
      hreadsPoint, _, ⟨back, hback, hreadsBack⟩, _, Matcher.spans_textEnd_iff.2 ⟨rfl, hnil⟩, rfl⟩

end

end Format

/-! ## Fields of type email -/

namespace FieldRule

variable {rule : FieldRule} {text : String}

/-- The rule that asks for an email address, and for the rest asks the same. -/
def emailed (rule : FieldRule) : FieldRule := { rule with fieldType := some .email }

/-- The rule that asks for no type, and for the rest asks the same. -/
def untyped (rule : FieldRule) : FieldRule := { rule with fieldType := none }

theorem typeProblem?_emailed_eq_none_iff :
    rule.emailed.typeProblem? (.str text) = none ↔ Format.IsAddress text.toList := by
  have htype : rule.emailed.typeProblem? (.str text) =
      if Format.isEmail text.toList then none else some .email := rfl
  rw [htype, Format.isAddress_iff, ← Format.isEmail_iff]
  cases Format.isEmail text.toList <;> simp

/-- The type of a value is looked at in addition to everything else. -/
theorem finding?_eq_none_iff_untyped {j : Json} : rule.finding? j = none ↔
    rule.typeProblem? j = none ∧ rule.untyped.finding? j = none := by
  have hproblem : rule.problem? Pattern.compile j =
      (rule.typeProblem? j <|> rule.untyped.problem? Pattern.compile j) := rfl
  rw [finding?_eq_none_iff, finding?_eq_none_iff, hproblem, Option.orElse_eq_none]

/-- A text is taken for an email address when it is one, and what else the rule asks for is asked in
addition.  The usual pattern occurs in the same texts. -/
theorem emailed_accepts_iff (rule : FieldRule) (text : String) :
    (¬ rule.emailed.Reports .type (.str text) ↔ Format.IsAddress text.toList) ∧
    (rule.emailed.finding? (.str text) = none ↔
      Format.IsAddress text.toList ∧ rule.untyped.finding? (.str text) = none) ∧
    ∃ m, Pattern.compile Format.addressPattern = .ok m ∧
      (m.occursIn text = true ↔ Format.IsAddress text.toList) := by
  refine ⟨?_, ?_, Format.addressMatcher, Format.compile_addressPattern, ?_⟩
  · rw [reports_type_str_iff, not_not, typeProblem?_emailed_eq_none_iff]
  · rw [finding?_eq_none_iff_untyped, typeProblem?_emailed_eq_none_iff]
    rfl
  · rw [Format.occursIn_addressMatcher_iff, Format.isAddress_iff]

end FieldRule

end FlowCheck
