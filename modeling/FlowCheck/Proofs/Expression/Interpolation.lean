import FlowCheck.Proofs.Expression.Template

/-!
# Texts with marked parts

A text with marked parts (`Template`) is a row of parts, each an expression between markers with
the text in front of it, and a last text.  Where no marker reaches over the border of a part the
parts are the ones that are found from left to right, so unwrapping replaces every expression by its
trimmed form and trims the whole (`Template.expand_written`).

Every other text has an opening marker behind its last complete part, and no closing one behind
that (`Template.LeavesOpen`); those are the texts that are refused.  Blanks at the ends of a text
belong to no marker, so trimming the text before its parts are looked for changes neither outcome.
-/

namespace FlowCheck

namespace Template

open Text (trim)

/-! ## Parts -/

/-- With one more character `c` behind a text, a doubled `c` is in the text or has its first half as
the last character of the text. -/
theorem doubled_infix_concat_iff {c : Char} {cs : List Char} :
    [c, c] <:+: cs ++ [c] ↔ [c, c] <:+: cs ∨ cs.getLast? = some c := by
  induction cs with
  | nil => simp [doubled_infix_cons_iff]
  | cons a cs ih =>
    rw [List.cons_append, doubled_infix_cons_iff, doubled_infix_cons_iff, ih]
    cases cs with
    | nil => simp
    | cons b cs =>
      rw [List.getLast?_cons_cons]
      simp [or_assoc]

/-- A text and an expression between markers behind it.  The markers cannot be read any earlier. -/
structure Part where
  text : List Char
  inside : List Char
  text_plain : ¬ opening <:+: text
  text_end : text.getLast? ≠ some '\x7b'
  inside_plain : ¬ closing <:+: inside
  inside_end : inside.getLast? ≠ some '\x7d'

namespace Part

/-- The part as it is written. -/
def written (p : Part) : List Char := p.text ++ opening ++ p.inside ++ closing

/-- The part with its expression in place of the marked one. -/
def unwrapped (p : Part) : List Char := p.text ++ trim p.inside

theorem expand_written_append (p : Part) (rest : List Char) :
    expand (p.written ++ rest) = (expand rest).map (p.unwrapped ++ ·) := by
  have hopen : ¬ opening <:+: p.text ++ ['\x7b'] := by
    rw [opening, doubled_infix_concat_iff, not_or]
    exact ⟨p.text_plain, p.text_end⟩
  have hclose : ¬ closing <:+: p.inside ++ ['\x7d'] := by
    rw [closing, doubled_infix_concat_iff, not_or]
    exact ⟨p.inside_plain, p.inside_end⟩
  have hwritten : p.written ++ rest =
      p.text ++ '\x7b' :: '\x7b' :: (p.inside ++ '\x7d' :: '\x7d' :: rest) := by
    simp [written, opening, closing]
  rw [hwritten, expand_append hopen hclose]
  rfl

theorem expand_flatMap_written_append (parts : List Part) (rest : List Char) :
    expand (parts.flatMap written ++ rest) =
      (expand rest).map (parts.flatMap unwrapped ++ ·) := by
  induction parts with
  | nil => simp
  | cons p parts ih =>
    rw [List.flatMap_cons, List.append_assoc, expand_written_append, ih, Option.map_map]
    simp [Function.comp_def]

end Part

end Template

/-- A text with marked parts. -/
structure Template where
  parts : List Template.Part
  last : List Char
  last_plain : ¬ Template.opening <:+: last

namespace Template

open Text (AllBlank trim)

/-- The text as it is written. -/
def written (t : Template) : List Char := t.parts.flatMap Part.written ++ t.last

/-- The text with its expressions in place of the marked ones. -/
def unwrapped (t : Template) : List Char := t.parts.flatMap Part.unwrapped ++ t.last

theorem expand_written (t : Template) : expand t.written = some t.unwrapped := by
  rw [written, Part.expand_flatMap_written_append, expand_of_no_opening t.last_plain]
  rfl

/-! ## Opening markers without a closing one -/

/-- Behind complete parts the text has an opening marker, and no closing one anywhere behind it. -/
def LeavesOpen (cs : List Char) : Prop :=
  ∃ (parts : List Part) (text rest : List Char),
    cs = parts.flatMap Part.written ++ (text ++ opening ++ rest) ∧
      ¬ opening <:+: text ∧ text.getLast? ≠ some '\x7b' ∧ ¬ closing <:+: rest

theorem LeavesOpen.written_append {cs : List Char} (h : LeavesOpen cs) (p : Part) :
    LeavesOpen (p.written ++ cs) := by
  obtain ⟨parts, text, rest, rfl, hrest⟩ := h
  exact ⟨p :: parts, text, rest, by simp, hrest⟩

/-- What a marker in a text divides: the text in front of it, which cannot be confused with it, and
the text behind it. -/
theorem exists_of_cutAt {c : Char} {cs before behind : List Char}
    (h : cutAt c cs = some (before, behind)) :
    cs = before ++ [c, c] ++ behind ∧ ¬ [c, c] <:+: before ∧ before.getLast? ≠ some c := by
  obtain ⟨rfl, hfirst⟩ := cutAt_eq_some_iff.1 h
  rw [doubled_infix_concat_iff, not_or] at hfirst
  exact ⟨by simp, hfirst⟩

/-- From left to right a text falls into parts, unless a marker is left open. -/
theorem exists_written_eq_or_leavesOpen (cs : List Char) :
    (∃ t : Template, t.written = cs) ∨ LeavesOpen cs := by
  induction hn : cs.length using Nat.strong_induction_on generalizing cs with
  | _ n ih =>
    subst hn
    cases hopen : cutAt '\x7b' cs with
    | none => exact .inl ⟨⟨[], cs, cutAt_eq_none_iff.1 hopen⟩, rfl⟩
    | some cut =>
      obtain ⟨text, behind⟩ := cut
      obtain ⟨hcs, htext, htextEnd⟩ := exists_of_cutAt hopen
      cases hclose : cutAt '\x7d' behind with
      | none =>
        exact .inr ⟨[], text, behind, hcs, htext, htextEnd, cutAt_eq_none_iff.1 hclose⟩
      | some cut =>
        obtain ⟨inside, rest⟩ := cut
        obtain ⟨hbehind, hinside, hinsideEnd⟩ := exists_of_cutAt hclose
        let p : Part := ⟨text, inside, htext, htextEnd, hinside, hinsideEnd⟩
        have hpart : cs = p.written ++ rest := by
          rw [hcs, hbehind]
          simp [Part.written, p, opening, closing]
        have hlength : rest.length < cs.length := by
          rw [hpart, Part.written, opening]
          simp only [List.length_append, List.length_cons]
          omega
        rw [hpart]
        rcases ih rest.length hlength rest rfl with ⟨t, ht⟩ | hleft
        · refine .inl ⟨⟨p :: t.parts, t.last, t.last_plain⟩, ?_⟩
          rw [← ht, written, written, List.flatMap_cons, List.append_assoc]
        · exact .inr (hleft.written_append p)

/-- One step of expanding, with its two searches. -/
theorem expand_eq (cs : List Char) : expand cs =
    (cutAt '\x7b' cs).elim (some cs) fun cut =>
      (cutAt '\x7d' cut.2).bind fun closed =>
        (expand closed.2).map fun tail => cut.1 ++ trim closed.1 ++ tail := by
  rw [expand]
  split
  · next hopen => rw [hopen, Option.elim_none]
  · next hopen =>
    split
    · next hclose => simp only [hopen, Option.elim_some, hclose, Option.bind_none]
    · next hclose => simp only [hopen, Option.elim_some, hclose, Option.bind_some]

/-- Exactly the texts that leave a marker open are refused. -/
theorem expand_eq_none_iff {cs : List Char} : expand cs = none ↔ LeavesOpen cs := by
  constructor
  · intro h
    rcases exists_written_eq_or_leavesOpen cs with ⟨t, rfl⟩ | hleft
    · rw [expand_written] at h
      contradiction
    · exact hleft
  · rintro ⟨parts, text, rest, rfl, htext, htextEnd, hrest⟩
    have hopen : cutAt '\x7b' (text ++ opening ++ rest) = some (text, rest) := by
      rw [cutAt_eq_some_iff, doubled_infix_concat_iff, not_or]
      exact ⟨by simp [opening], htext, htextEnd⟩
    have hclose : cutAt '\x7d' rest = none := cutAt_eq_none_iff.2 hrest
    have hrefused : expand (text ++ opening ++ rest) = none := by
      rw [expand_eq, hopen, Option.elim_some, hclose, Option.bind_none]
    rw [Part.expand_flatMap_written_append, hrefused, Option.map_none]

/-! ## Blanks at the ends -/

section
variable {c : Char} {before after : List Char}

theorem cutAt_append_of_not_mem (h : c ∉ before) (cs : List Char) :
    cutAt c (before ++ cs) = (cutAt c cs).map fun cut => (before ++ cut.1, cut.2) := by
  induction before with
  | nil => simp
  | cons a before ih =>
    obtain ⟨ha, hbefore⟩ := List.ne_and_not_mem_of_not_mem_cons h
    rw [List.cons_append, cutAt_cons, if_neg fun hat => ha hat.1.symm, ih hbefore,
      Option.map_map]
    rfl

theorem cutAt_append_right_of_not_mem (h : c ∉ after) (cs : List Char) :
    cutAt c (cs ++ after) = (cutAt c cs).map fun cut => (cut.1, cut.2 ++ after) := by
  induction cs with
  | nil =>
    refine cutAt_eq_none_iff.2 fun hin => h ?_
    exact hin.subset List.mem_cons_self
  | cons a cs ih =>
    -- a character in front of `after` is not doubled by it
    have hhead : (cs ++ after).head? = some c ↔ cs.head? = some c := by
      cases cs with
      | cons b cs => rfl
      | nil =>
        refine ⟨fun hhead => absurd (List.mem_of_mem_head? hhead) h, fun hhead => ?_⟩
        contradiction
    rw [List.cons_append, cutAt_cons, cutAt_cons]
    simp only [hhead, ih]
    split
    · next hat =>
      obtain ⟨tail, rfl⟩ := List.head?_eq_some_iff.1 hat.2
      rfl
    · rw [Option.map_map, Option.map_map]
      rfl

theorem expand_append_of_allBlank (hbefore : AllBlank before) (cs : List Char) :
    expand (before ++ cs) = (expand cs).map (before ++ ·) := by
  have hnot : '\x7b' ∉ before := fun hmem => absurd (hbefore _ hmem) (by decide)
  rw [expand_eq, expand_eq cs, cutAt_append_of_not_mem hnot]
  cases cutAt '\x7b' cs with
  | none => rfl
  | some cut =>
    simp only [Option.map_some, Option.elim_some, Option.map_bind, Function.comp_def,
      Option.map_map, List.append_assoc]

theorem expand_append_right_of_allBlank (hafter : AllBlank after) (cs : List Char) :
    expand (cs ++ after) = (expand cs).map (· ++ after) := by
  have hopen : '\x7b' ∉ after := fun hmem => absurd (hafter _ hmem) (by decide)
  have hclose : '\x7d' ∉ after := fun hmem => absurd (hafter _ hmem) (by decide)
  induction hn : cs.length using Nat.strong_induction_on generalizing cs with
  | _ n ih =>
    subst hn
    rw [expand_eq, expand_eq cs, cutAt_append_right_of_not_mem hopen]
    cases hcut : cutAt '\x7b' cs with
    | none => rfl
    | some cut =>
      simp only [Option.map_some, Option.elim_some, cutAt_append_right_of_not_mem hclose]
      cases hclosed : cutAt '\x7d' cut.2 with
      | none => rfl
      | some closed =>
        have hlength : closed.2.length < cs.length :=
          (length_lt_of_cutAt hclosed).trans (length_lt_of_cutAt hcut)
        simp only [Option.map_some, Option.bind_some, ih _ hlength _ rfl, Option.map_map,
          Function.comp_def, List.append_assoc]

end

/-- Trimming may come before or after. -/
theorem map_trim_expand_trim (cs : List Char) :
    (expand (trim cs)).map trim = (expand cs).map trim := by
  obtain ⟨before, after, hbefore, hafter, hcs⟩ := Text.exists_eq_append_trim cs
  have hexpand : expand cs = (expand (trim cs)).map (before ++ · ++ after) := by
    calc expand cs = expand (before ++ trim cs ++ after) := by rw [← hcs]
      _ = (expand (before ++ trim cs)).map (· ++ after) :=
        expand_append_right_of_allBlank hafter _
      _ = (expand (trim cs)).map (before ++ · ++ after) := by
        rw [expand_append_of_allBlank hbefore, Option.map_map]
        rfl
  have hends : (trim ∘ fun x => before ++ x ++ after) = trim :=
    funext (Text.trim_append_of_allBlank hbefore hafter)
  rw [hexpand, Option.map_map, hends]

/-! ## Unwrapping -/

theorem unwrap_eq (raw : String) : unwrap raw =
    ((expand raw.toList).map trim).elim
      (.error (.expression raw "unclosed interpolation: missing \x7d\x7d"))
      fun cs => .ok (String.ofList cs) := by
  rw [← map_trim_expand_trim, unwrap]
  cases expand (trim raw.toList) <;> rfl

/-- Unwrapping a text with marked parts trims every expression and the whole.  A text is refused
exactly when it leaves a marker open, and the error carries the whole text. -/
theorem unwrap_written_and_eq_error_iff :
    (∀ t : Template,
      unwrap (String.ofList t.written) = .ok (String.ofList (trim t.unwrapped))) ∧
    ∀ raw fault, unwrap raw = .error fault ↔ LeavesOpen raw.toList ∧
      fault = .expression raw "unclosed interpolation: missing \x7d\x7d" := by
  refine ⟨fun t => ?_, fun raw fault => ?_⟩
  · rw [unwrap_eq, String.toList_ofList, expand_written]
    rfl
  · rw [unwrap_eq, ← expand_eq_none_iff]
    cases expand raw.toList with
    | none => simp [eq_comm]
    | some cs => simp

/-- At a row of three braces the first two open and close. -/
example : unwrap "\x7b\x7b\x7ba\x7d\x7d\x7d" = .ok "\x7ba\x7d" := by cbv

end Template
end FlowCheck
