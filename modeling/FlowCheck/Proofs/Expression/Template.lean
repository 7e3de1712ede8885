import FlowCheck.Expression.Template
import FlowCheck.Proofs.Text.Search
import FlowCheck.Proofs.Text.Trim

/-!
# Unwrapping

A text is cut at the first occurrence of a doubled character (`cutAt_eq_some_iff`).  A text without
an opening marker is unwrapped by trimming it.  A text that is marked as a whole loses its markers,
unless a closing marker stands inside: then that one counts, and the last one stays.
-/

namespace FlowCheck
namespace Template

open Text (isBlank trim trimStart)

/-! ## Cutting at a doubled character -/

/-- A doubled character occurs where the text starts with it, or behind that. -/
theorem doubled_infix_cons_iff {c a : Char} {cs : List Char} :
    [c, c] <:+: a :: cs ↔ (a = c ∧ cs.head? = some c) ∨ [c, c] <:+: cs := by
  have hprefix : [c, c] <+: a :: cs ↔ a = c ∧ cs.head? = some c := by
    cases cs <;> simp [List.cons_prefix_cons, eq_comm]
  rw [List.infix_cons_iff, hprefix]

/-- One step of the search. -/
theorem cutAt_cons (c a : Char) (cs : List Char) :
    cutAt c (a :: cs) =
      if a = c ∧ cs.head? = some c then some ([], cs.tail)
      else (cutAt c cs).map fun r => (a :: r.1, r.2) := by
  cases cs with
  | nil => simp [cutAt]
  | cons b cs => simp [cutAt]

theorem cutAt_eq_none_iff {c : Char} {cs : List Char} : cutAt c cs = none ↔ ¬ [c, c] <:+: cs := by
  induction cs with
  | nil => simp [cutAt]
  | cons a cs ih =>
    rw [cutAt_cons, doubled_infix_cons_iff]
    split
    · next h => simp [h]
    · next h => simp [h, ih]

theorem cutAt_append {c : Char} {before : List Char} (h : ¬ [c, c] <:+: before ++ [c])
    (behind : List Char) : cutAt c (before ++ c :: c :: behind) = some (before, behind) := by
  induction before with
  | nil => simp [cutAt]
  | cons a before ih =>
    rw [List.cons_append, doubled_infix_cons_iff, not_or] at h
    have hhead : (before ++ c :: c :: behind).head? = (before ++ [c]).head? := by
      cases before <;> rfl
    rw [List.cons_append, cutAt_cons, hhead, if_neg h.1, ih h.2]
    rfl

/-- The cut is at the first occurrence: the doubled character does not occur any earlier. -/
theorem cutAt_eq_some_iff {c : Char} {cs before behind : List Char} :
    cutAt c cs = some (before, behind) ↔
      cs = before ++ c :: c :: behind ∧ ¬ [c, c] <:+: before ++ [c] := by
  constructor
  · intro h
    induction cs generalizing before with
    | nil => simp [cutAt] at h
    | cons a cs ih =>
      rw [cutAt_cons] at h
      split at h
      · next hat =>
        obtain ⟨rfl, hhead⟩ := hat
        obtain ⟨tail, rfl⟩ := List.head?_eq_some_iff.1 hhead
        obtain ⟨rfl, rfl⟩ := Prod.mk.inj (Option.some.inj h)
        exact ⟨rfl, by simp [doubled_infix_cons_iff]⟩
      · next hat =>
        obtain ⟨⟨front, back⟩, hcut, heq⟩ := Option.map_eq_some_iff.1 h
        obtain ⟨rfl, rfl⟩ := Prod.mk.inj heq
        obtain ⟨rfl, hfront⟩ := ih hcut
        refine ⟨rfl, ?_⟩
        rw [List.cons_append, doubled_infix_cons_iff, not_or]
        refine ⟨fun hstart => hat ⟨hstart.1, ?_⟩, hfront⟩
        rw [← hstart.2]
        cases front <;> rfl
  · rintro ⟨rfl, h⟩
    exact cutAt_append h behind

/-! ## Expanding -/

/-- What opens a marked part. -/
def opening : List Char := ['\x7b', '\x7b']

/-- What closes a marked part. -/
def closing : List Char := ['\x7d', '\x7d']

theorem expand_of_no_opening {cs : List Char} (h : ¬ opening <:+: cs) : expand cs = some cs := by
  have hcut : cutAt '\x7b' cs = none := cutAt_eq_none_iff.2 h
  rw [expand]
  split
  · rfl
  · next heq =>
    rw [hcut] at heq
    contradiction

/-- A marked part is replaced by its trimmed inside, and what follows it is expanded. -/
theorem expand_append {before inner : List Char} (hopen : ¬ opening <:+: before ++ ['\x7b'])
    (hclose : ¬ closing <:+: inner ++ ['\x7d']) (rest : List Char) :
    expand (before ++ '\x7b' :: '\x7b' :: (inner ++ '\x7d' :: '\x7d' :: rest)) =
      (expand rest).map fun tail => before ++ trim inner ++ tail := by
  have hcut := cutAt_append hopen (inner ++ '\x7d' :: '\x7d' :: rest)
  have hinner := cutAt_append hclose rest
  rw [expand]
  split
  · next heq =>
    rw [hcut] at heq
    contradiction
  · next heq =>
    obtain ⟨rfl, rfl⟩ := Prod.mk.inj (Option.some.inj (hcut.symm.trans heq))
    split
    · next heq =>
      rw [hinner] at heq
      contradiction
    · next heq =>
      obtain ⟨rfl, rfl⟩ := Prod.mk.inj (Option.some.inj (hinner.symm.trans heq))
      rfl

theorem unwrap_of_expand {raw : String} {cs : List Char}
    (h : expand (trim raw.toList) = some cs) : unwrap raw = .ok (String.ofList (trim cs)) := by
  rw [unwrap, h]

/-- A text without an opening marker is trimmed. -/
theorem unwrap_of_no_opening {raw : String} (h : ¬ opening <:+: raw.toList) :
    unwrap raw = .ok (String.ofList (trim raw.toList)) := by
  have htrim : ¬ opening <:+: trim raw.toList := fun hin => h (hin.trans (Text.trim_isInfix _))
  rw [unwrap_of_expand (expand_of_no_opening htrim), Text.trim_trim]

/-! ## Texts that are marked as a whole -/

/-- A text between an opening and a closing marker. -/
def marked (text : String) : String := "\x7b\x7b " ++ text ++ " \x7d\x7d"

theorem trim_marked (text : String) :
    trim (marked text).toList = '\x7b' :: '\x7b' :: (' ' :: text.toList ++ ' ' :: closing) := by
  have hchars : (marked text).toList =
      '\x7b' :: ('\x7b' :: (' ' :: text.toList ++ [' ', '\x7d']) ++ ['\x7d']) := by
    simp [marked]
  have htight : Text.Tight (marked text).toList := by
    rw [hchars]
    refine ⟨by simp, fun c hc => ?_, fun c hc => ?_⟩
    · obtain rfl : '\x7b' = c := by simpa using hc
      decide
    · rw [← List.cons_append, List.getLast?_concat] at hc
      obtain rfl : '\x7d' = c := by simpa using hc
      decide
  have htrim := Text.trim_append_append Text.allBlank_nil Text.allBlank_nil htight
  rw [List.nil_append, List.append_nil] at htrim
  rw [htrim, hchars]
  simp [closing]

/-- A marker with blanks around it stands in a text or behind it. -/
theorem not_closing_infix_of_spaced {cs : List Char} (h : ¬ closing <:+: cs) :
    ¬ closing <:+: ' ' :: cs ++ [' '] ++ ['\x7d'] := by
  intro hin
  rw [List.append_assoc, List.singleton_append] at hin
  rcases Text.infix_or_infix_of_infix_append_cons (by decide) hin with hin | hin
  · rw [← List.nil_append (' ' :: cs)] at hin
    rcases Text.infix_or_infix_of_infix_append_cons (by decide) hin with hin | hin
    · exact absurd hin (by decide)
    · exact h hin
  · exact absurd hin (by decide)

/-- Without a closing marker inside, the markers go and the text is trimmed. -/
theorem unwrap_marked_of_no_closing {text : String} (h : ¬ closing <:+: text.toList) :
    unwrap (marked text) = .ok (String.ofList (trim text.toList)) := by
  have hblank : Text.AllBlank [' '] := by simp [Text.AllBlank, isBlank]
  have hstart : ¬ opening <:+: [] ++ ['\x7b'] := by decide
  have hempty : ¬ opening <:+: [] := by decide
  have hexpand := expand_append hstart (not_closing_infix_of_spaced h) []
  have hmarked : trim (marked text).toList = [] ++ '\x7b' :: '\x7b' ::
      (' ' :: text.toList ++ [' '] ++ '\x7d' :: '\x7d' :: []) := by
    rw [trim_marked]
    simp [closing]
  rw [← hmarked, expand_of_no_opening hempty, Option.map_some, List.nil_append,
    List.append_nil] at hexpand
  have hinside : trim (' ' :: text.toList ++ [' ']) = trim text.toList :=
    Text.trim_append_of_allBlank hblank hblank text.toList
  rw [unwrap_of_expand hexpand, Text.trim_trim, hinside]

/-- With a closing marker inside, the last marker is left over. -/
theorem unwrap_marked_of_closing {text : String} (hopen : ¬ opening <:+: text.toList)
    (hclose : closing <:+: text.toList) :
    ∃ cs, unwrap (marked text) = .ok (String.ofList (cs ++ ['\x7d'])) := by
  obtain ⟨⟨front, back⟩, hcut⟩ : ∃ r, cutAt '\x7d' text.toList = some r :=
    Option.ne_none_iff_exists'.1 fun hnone => cutAt_eq_none_iff.1 hnone hclose
  obtain ⟨htext, hfront⟩ := cutAt_eq_some_iff.1 hcut
  have hinner : ¬ closing <:+: ' ' :: front ++ ['\x7d'] := by
    rw [List.cons_append, closing, doubled_infix_cons_iff, not_or]
    exact ⟨by simp, hfront⟩
  have hrest : ¬ opening <:+: back ++ ' ' :: closing := by
    intro hin
    rcases Text.infix_or_infix_of_infix_append_cons (by decide) hin with hin | hin
    · refine hopen (hin.trans ?_)
      rw [htext]
      exact ⟨front ++ ['\x7d', '\x7d'], [], by simp⟩
    · exact absurd hin (by decide)
  have hstart : ¬ opening <:+: [] ++ ['\x7b'] := by decide
  have hexpand := expand_append hstart hinner (back ++ ' ' :: closing)
  have hmarked : trim (marked text).toList = [] ++ '\x7b' :: '\x7b' ::
      (' ' :: front ++ '\x7d' :: '\x7d' :: (back ++ ' ' :: closing)) := by
    rw [trim_marked, htext]
    simp
  rw [← hmarked, expand_of_no_opening hrest, Option.map_some] at hexpand
  rw [unwrap_of_expand hexpand]
  have hlast : [] ++ trim (' ' :: front) ++ (back ++ ' ' :: closing) =
      (trim (' ' :: front) ++ back ++ [' ', '\x7d']) ++ ['\x7d'] := by
    simp [closing]
  rw [hlast, Text.trim_concat (by decide)]
  exact ⟨_, rfl⟩

end Template
end FlowCheck
