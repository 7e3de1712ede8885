import FlowCheck.Text.Search
import Mathlib.Data.List.Infix
import Mathlib.Data.List.TakeWhile

/-!
# Occurrences

A text occurs in another one when it is a run of its characters (`contains_iff`).  An occurrence in
a text that is put together lies in one of the parts, as long as it cannot reach over their
border: it lacks a character that stands there (`infix_or_infix_of_infix_append_cons`), or it fits
nowhere on the fixed words in front or behind (`infix_of_apart`, `infix_of_apart_reverse`).
-/

namespace FlowCheck
namespace Text

theorem isSome_after?_iff {front cs : List Char} :
    (after? front cs).isSome = true ↔ front <+: cs := by
  rw [Option.isSome_iff_exists]
  constructor
  · rintro ⟨rest, h⟩
    exact ⟨rest, (eq_append_of_after? h).symm⟩
  · rintro ⟨rest, rfl⟩
    exact ⟨rest, after?_append front rest⟩

theorem after?_eq_none_iff {front cs : List Char} : after? front cs = none ↔ ¬ front <+: cs := by
  rw [← isSome_after?_iff, Option.not_isSome_iff_eq_none]

theorem occursIn_iff {needle text : List Char} :
    occursIn needle text = true ↔ needle <:+: text := by
  have hstart (cs : List Char) : ((after? needle cs).bind some).isSome = true ↔ needle <+: cs := by
    rw [Option.bind_fun_some, isSome_after?_iff]
  unfold occursIn
  induction text with
  | nil =>
    rw [firstBehind, hstart, List.prefix_nil, List.infix_nil]
  | cons c cs ih =>
    rw [firstBehind, List.infix_cons_iff, ← hstart]
    cases (after? needle (c :: cs)).bind some with
    | none => simpa using ih
    | some rest => simp

/-- Searching finds every occurrence and nothing else. -/
theorem contains_iff {text needle : String} :
    contains text needle = true ↔ needle.toList <:+: text.toList :=
  occursIn_iff

/-! ## Behind an occurrence -/

section
variable {α : Type} (lead : List Char) (wanted : List Char → Option α)

theorem firstBehind_cons (c : Char) (cs : List Char) : firstBehind lead wanted (c :: cs) =
    ((after? lead (c :: cs)).bind wanted).or (firstBehind lead wanted cs) :=
  Option.orElse_eq_or

theorem firstBehind_cons_of_ne {c d : Char} (h : c ≠ d) (cs : List Char) :
    firstBehind (c :: lead) wanted (d :: cs) = firstBehind (c :: lead) wanted cs := by
  rw [firstBehind_cons, after?, if_neg h, Option.bind_none, Option.none_or]

/-- Nothing is found to start where the first character of what is looked for is missing. -/
theorem firstBehind_append_of_not_mem {c : Char} {front : List Char} (h : c ∉ front)
    (rest : List Char) :
    firstBehind (c :: lead) wanted (front ++ rest) = firstBehind (c :: lead) wanted rest := by
  induction front with
  | nil => rfl
  | cons d front ih =>
    obtain ⟨hne, hfront⟩ := List.ne_and_not_mem_of_not_mem_cons h
    rw [List.cons_append, firstBehind_cons_of_ne lead wanted hne, ih hfront]

/-- What is found stands behind an occurrence. -/
theorem exists_wanted_of_firstBehind {lead : List Char} {wanted : List Char → Option α}
    {cs : List Char} {a : α} (h : firstBehind lead wanted cs = some a) :
    ∃ rest, lead ++ rest <:+ cs ∧ wanted rest = some a := by
  have hhere {cs : List Char} (h : (after? lead cs).bind wanted = some a) :
      ∃ rest, lead ++ rest <:+ cs ∧ wanted rest = some a := by
    obtain ⟨rest, hrest, hwanted⟩ := Option.bind_eq_some_iff.1 h
    exact ⟨rest, eq_append_of_after? hrest ▸ List.suffix_rfl, hwanted⟩
  induction cs with
  | nil => exact hhere h
  | cons c cs ih =>
    rw [firstBehind_cons, Option.or_eq_some_iff] at h
    rcases h with h | ⟨-, h⟩
    · exact hhere h
    · obtain ⟨rest, hsuffix, hwanted⟩ := ih h
      exact ⟨rest, hsuffix.trans (List.suffix_cons c cs), hwanted⟩

end

theorem isWord_of_word? {cs word : List Char} (h : word? cs = some word) :
    ∀ c ∈ word, Unicode.isWord c = true := by
  unfold word? at h
  split at h
  · contradiction
  · obtain rfl := Option.some.inj h
    exact fun c hc => List.mem_takeWhile_imp hc

/-! ## Occurrences and borders -/

/-- A row without some element does not reach over it. -/
theorem infix_or_infix_of_infix_append_cons {α : Type} {run a b : List α} {m : α} (hm : m ∉ run)
    (h : run <:+: a ++ m :: b) : run <:+: a ∨ run <:+: b := by
  rcases List.infix_append_iff.1 h with h | h | ⟨front, back, rfl, hfront, hback⟩
  · exact .inl h
  · rcases List.infix_cons_iff.1 h with h | h
    · rcases List.prefix_cons_iff.1 h with rfl | ⟨t, rfl, -⟩
      · exact .inl (List.nil_infix)
      · exact absurd List.mem_cons_self hm
    · exact .inr h
  · rcases List.prefix_cons_iff.1 hback with rfl | ⟨t, rfl, -⟩
    · exact .inl (by simpa using hfront.isInfix)
    · exact absurd (List.mem_append_right _ List.mem_cons_self) hm

theorem prefix_of_prefix_append_cons {α : Type} {run a b : List α} {m : α} (hm : m ∉ run)
    (h : run <+: a ++ m :: b) : run <+: a := by
  have hupto : a ++ [m] <+: a ++ m :: b := List.prefix_append_right_inj a |>.2 ⟨b, rfl⟩
  rcases List.prefix_or_prefix_of_prefix h hupto with hrun | hrun
  · rcases List.prefix_concat_iff.1 hrun with rfl | hrun
    · simp at hm
    · exact hrun
  · exact absurd (hrun.subset (by simp)) hm

/-- Two texts differ at a place that both of them have. -/
def clash : List Char → List Char → Bool
  | c :: cs, d :: ds => c != d || clash cs ds
  | _, _ => false

/-- A text cannot start anywhere in `front`, whatever follows. -/
def apart (text : List Char) : List Char → Bool
  | [] => true
  | c :: front => clash text (c :: front) && apart text front

theorem not_prefix_of_clash {text front : List Char} (h : clash text front = true)
    (back : List Char) : ¬ text <+: front ++ back := by
  induction text generalizing front with
  | nil => simp [clash] at h
  | cons c cs ih =>
    cases front with
    | nil => simp [clash] at h
    | cons d ds =>
      rw [List.cons_append, List.cons_prefix_cons]
      rintro ⟨rfl, hprefix⟩
      exact ih (by simpa [clash] using h) hprefix

/-- What cannot start in the words in front occurs behind them. -/
theorem infix_of_apart {text front back : List Char} (hfront : apart text front = true)
    (h : text <:+: front ++ back) : text <:+: back := by
  induction front with
  | nil => exact h
  | cons c front ih =>
    obtain ⟨hclash, hrest⟩ := Bool.and_eq_true_iff.1 hfront
    rcases List.infix_cons_iff.1 h with h | h
    · exact absurd h (not_prefix_of_clash hclash back)
    · exact ih hrest h

/-- What cannot end in the words behind occurs in front of them. -/
theorem infix_of_apart_reverse {text front back : List Char}
    (hback : apart text.reverse back.reverse = true) (h : text <:+: front ++ back) :
    text <:+: front := by
  rw [← List.reverse_infix, List.reverse_append] at h
  exact List.reverse_infix.1 (infix_of_apart hback h)

/-! ## Behind parts of a text -/

section
variable {α : Type} {lead : List Char} (wanted : List Char → Option α)

/-- Words that cannot start in the text in front are looked for behind it. -/
theorem firstBehind_append_of_apart {front : List Char} (h : apart lead front = true)
    (rest : List Char) :
    firstBehind lead wanted (front ++ rest) = firstBehind lead wanted rest := by
  induction front with
  | nil => rfl
  | cons c front ih =>
    obtain ⟨hclash, hrest⟩ := Bool.and_eq_true_iff.1 h
    have hhere : after? lead (c :: (front ++ rest)) = none :=
      after?_eq_none_iff.2 (not_prefix_of_clash hclash rest)
    rw [List.cons_append, firstBehind_cons, hhere, Option.bind_none, Option.none_or, ih hrest]

/-- Words that do not occur in the text in front are looked for behind a character that they do not
have. -/
theorem firstBehind_append_cons {m : Char} (hm : m ∉ lead) (hne : lead ≠ []) {front : List Char}
    (h : ¬ lead <:+: front) (rest : List Char) :
    firstBehind lead wanted (front ++ m :: rest) = firstBehind lead wanted rest := by
  obtain ⟨c, lead, rfl⟩ := List.exists_cons_of_ne_nil hne
  induction front with
  | nil =>
    exact firstBehind_cons_of_ne lead wanted (ne_of_mem_of_not_mem List.mem_cons_self hm) rest
  | cons d front ih =>
    have hhere : after? (c :: lead) (d :: (front ++ m :: rest)) = none := by
      exact after?_eq_none_iff.2 fun hprefix =>
        h (prefix_of_prefix_append_cons (a := d :: front) hm hprefix).isInfix
    rw [List.cons_append, firstBehind_cons, hhere, Option.bind_none, Option.none_or,
      ih fun hinfix => h (List.infix_cons hinfix)]

theorem firstBehind_some_append (lead rest : List Char) :
    firstBehind lead some (lead ++ rest) = some rest := by
  cases hchars : lead ++ rest with
  | nil => rw [firstBehind, ← hchars, after?_append, Option.bind_some]
  | cons c cs => rw [firstBehind_cons, ← hchars, after?_append, Option.bind_some, Option.some_or]

end

end Text
end FlowCheck
