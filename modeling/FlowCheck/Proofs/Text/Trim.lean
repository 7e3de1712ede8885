import FlowCheck.Text.Blank
import Mathlib.Data.List.TakeWhile

/-!
# Trimming

What `Text.trim` takes away are blanks, and it takes away all of those at the ends: a text is its
trimmed text between two rows of blanks (`exists_eq_append_trim`), and a text that neither begins
nor ends with a blank comes back from between any two rows of blanks (`trim_append_append`).
-/

namespace FlowCheck
namespace Text

/-- The code points of the blanks. -/
def blankPoints : List Nat :=
  [9, 10, 11, 12, 13, 0x20, 0x85, 0xA0, 0x1680, 0x2000, 0x2001, 0x2002, 0x2003, 0x2004, 0x2005,
    0x2006, 0x2007, 0x2008, 0x2009, 0x200A, 0x2028, 0x2029, 0x202F, 0x205F, 0x3000]

theorem toNat_mem_blankPoints {c : Char} (h : isBlank c = true) : c.toNat ∈ blankPoints := by
  simp only [isBlank, Bool.or_eq_true, Bool.and_eq_true, decide_eq_true_eq, beq_iff_eq] at h
  simp only [blankPoints, List.mem_cons, List.not_mem_nil, or_false]
  omega

/-- A class of characters has no blanks when it has none of the listed ones. -/
theorem isBlank_eq_false_of_class {p : Char → Bool}
    (h : (blankPoints.all fun n => !p (Char.ofNat n)) = true) {c : Char} (hc : p c = true) :
    isBlank c = false := by
  by_contra hblank
  have hnone := List.all_eq_true.1 h c.toNat (toNat_mem_blankPoints (by simpa using hblank))
  rw [Char.ofNat_toNat, hc] at hnone
  contradiction

/-- Blanks and nothing else. -/
def AllBlank (cs : List Char) : Prop := ∀ c ∈ cs, isBlank c = true

theorem allBlank_nil : AllBlank [] := by simp [AllBlank]

theorem AllBlank.append {a b : List Char} (ha : AllBlank a) (hb : AllBlank b) :
    AllBlank (a ++ b) := by
  intro c hc
  rcases List.mem_append.1 hc with h | h
  · exact ha c h
  · exact hb c h

/-- A text with a character, of which neither the first nor the last is a blank. -/
structure Tight (cs : List Char) : Prop where
  ne_nil : cs ≠ []
  head : ∀ c ∈ cs.head?, isBlank c = false
  last : ∀ c ∈ cs.getLast?, isBlank c = false

/-- A text without blanks is tight as soon as it has a character. -/
theorem tight_of_forall {cs : List Char} (hne : cs ≠ []) (h : ∀ c ∈ cs, isBlank c = false) :
    Tight cs :=
  ⟨hne, fun c hc => h c (List.mem_of_mem_head? hc), fun c hc => h c (List.mem_of_getLast? hc)⟩

theorem tight_reverse {cs : List Char} (h : Tight cs) : Tight cs.reverse :=
  ⟨by simpa using h.ne_nil, by simpa using h.last, by simpa using h.head⟩

/-! ## At the start -/

theorem trimStart_append_of_allBlank {b : List Char} (hb : AllBlank b) (cs : List Char) :
    trimStart (b ++ cs) = trimStart cs :=
  List.dropWhile_append_of_pos hb

/-- Blanks in front of a character that is none are passed over. -/
theorem trimStart_append_of_head {b cs : List Char} (hb : AllBlank b)
    (hhead : ∀ c ∈ cs.head?, isBlank c = false) : trimStart (b ++ cs) = cs := by
  rw [trimStart_append_of_allBlank hb]
  cases cs with
  | nil => rfl
  | cons c cs => simp [trimStart, hhead c rfl]

theorem trimStart_append_of_tight {cs : List Char} (h : Tight cs) (rest : List Char) :
    trimStart (cs ++ rest) = cs ++ rest := by
  cases cs with
  | nil => exact absurd rfl h.ne_nil
  | cons c cs => simp [trimStart, h.head c rfl]

/-- A character that is no blank stops the trimming in front of it. -/
theorem trimStart_append_cons {s : Char} (hs : isBlank s = false) (cs rest : List Char) :
    trimStart (cs ++ s :: rest) = trimStart cs ++ s :: rest := by
  induction cs with
  | nil => simp [trimStart, hs]
  | cons c cs ih =>
    by_cases hc : isBlank c = true
    · simpa [trimStart, hc] using ih
    · simp [trimStart, hc]

theorem exists_eq_append_trimStart (cs : List Char) :
    ∃ before, AllBlank before ∧ cs = before ++ trimStart cs :=
  ⟨cs.takeWhile isBlank, fun _ hc => List.mem_takeWhile_imp hc,
    List.takeWhile_append_dropWhile.symm⟩

/-! ## At the end

The end of a text is the start of the reversed one. -/

theorem trimEnd_eq_reverse (cs : List Char) : trimEnd cs = (trimStart cs.reverse).reverse := rfl

theorem trimEnd_append_of_allBlank {b : List Char} (hb : AllBlank b) (cs : List Char) :
    trimEnd (cs ++ b) = trimEnd cs := by
  have hrev : AllBlank b.reverse := fun c hc => hb c (by simpa using hc)
  rw [trimEnd_eq_reverse, List.reverse_append, trimStart_append_of_allBlank hrev,
    trimEnd_eq_reverse]

theorem trimEnd_append_of_tight {cs : List Char} (h : Tight cs) (front : List Char) :
    trimEnd (front ++ cs) = front ++ cs := by
  rw [trimEnd_eq_reverse, List.reverse_append, trimStart_append_of_tight (tight_reverse h)]
  simp

theorem trimEnd_append_cons {s : Char} (hs : isBlank s = false) (front cs : List Char) :
    trimEnd (front ++ s :: cs) = front ++ s :: trimEnd cs := by
  rw [trimEnd_eq_reverse, List.reverse_append, List.reverse_cons, List.append_assoc,
    List.singleton_append, trimStart_append_cons hs, List.reverse_append, trimEnd_eq_reverse]
  simp

theorem exists_eq_trimEnd_append (cs : List Char) :
    ∃ after, AllBlank after ∧ cs = trimEnd cs ++ after := by
  obtain ⟨b, hb, h⟩ := exists_eq_append_trimStart cs.reverse
  refine ⟨b.reverse, fun c hc => hb c (by simpa using hc), ?_⟩
  rw [trimEnd_eq_reverse, ← List.reverse_append, ← h, List.reverse_reverse]

/-! ## At both ends -/

/-- A text is its trimmed text with blanks on either side. -/
theorem exists_eq_append_trim (cs : List Char) :
    ∃ before after, AllBlank before ∧ AllBlank after ∧ cs = before ++ trim cs ++ after := by
  obtain ⟨before, hb, hstart⟩ := exists_eq_append_trimStart cs
  obtain ⟨after, ha, hend⟩ := exists_eq_trimEnd_append (trimStart cs)
  refine ⟨before, after, hb, ha, ?_⟩
  rw [trim, List.append_assoc, ← hend, ← hstart]

theorem trim_append_append {before core after : List Char} (hb : AllBlank before)
    (ha : AllBlank after) (hcore : Tight core) : trim (before ++ core ++ after) = core := by
  rw [trim, List.append_assoc, trimStart_append_of_allBlank hb, trimStart_append_of_tight hcore,
    trimEnd_append_of_allBlank ha]
  simpa using trimEnd_append_of_tight hcore []

/-- What is left after trimming is tight, if there is anything left. -/
theorem tight_trim {cs : List Char} (h : trim cs ≠ []) : Tight (trim cs) := by
  refine ⟨h, fun c hc => ?_, fun c hc => ?_⟩
  · obtain ⟨after, -, hend⟩ := exists_eq_trimEnd_append (trimStart cs)
    refine head?_trimStart cs c ?_
    rw [hend, List.head?_append, Option.mem_def]
    exact Option.or_eq_some_iff.2 (.inl hc)
  · rw [trim, trimEnd_eq_reverse, List.getLast?_reverse] at hc
    exact head?_trimStart _ c hc

theorem trim_eq_nil_iff {cs : List Char} : trim cs = [] ↔ AllBlank cs := by
  constructor
  · intro h
    obtain ⟨before, after, hb, ha, hcs⟩ := exists_eq_append_trim cs
    rw [hcs, h, List.append_nil]
    exact hb.append ha
  · intro h
    have hstart : trimStart cs = [] := by
      simpa [trimStart] using trimStart_append_of_allBlank h []
    rw [trim, hstart]
    rfl

/-- Blanks at the ends do not show in the trimmed text. -/
theorem trim_append_of_allBlank {before after : List Char} (hb : AllBlank before)
    (ha : AllBlank after) (cs : List Char) : trim (before ++ cs ++ after) = trim cs := by
  by_cases hnil : trim cs = []
  · have hcs := trim_eq_nil_iff.1 hnil
    rw [hnil, trim_eq_nil_iff]
    exact (hb.append hcs).append ha
  · obtain ⟨b, a, hb', ha', heq⟩ := exists_eq_append_trim cs
    have hsplit : before ++ cs ++ after = (before ++ b) ++ trim cs ++ (a ++ after) := by
      calc before ++ cs ++ after = before ++ (b ++ trim cs ++ a) ++ after := by rw [← heq]
        _ = (before ++ b) ++ trim cs ++ (a ++ after) := by simp only [List.append_assoc]
    rw [hsplit, trim_append_append (hb.append hb') (ha'.append ha) (tight_trim hnil)]

theorem trim_trim (cs : List Char) : trim (trim cs) = trim cs := by
  by_cases hnil : trim cs = []
  · rw [hnil, trim_nil]
  · simpa using trim_append_append allBlank_nil allBlank_nil (tight_trim hnil)

/-- Trimming leaves a last character that is no blank in its place. -/
theorem trim_concat {s : Char} (hs : isBlank s = false) (cs : List Char) :
    trim (cs ++ [s]) = trimStart cs ++ [s] := by
  rw [trim, trimStart_append_cons hs, trimEnd_append_cons hs]
  rfl

theorem trim_isInfix (cs : List Char) : trim cs <:+: cs := by
  obtain ⟨before, after, -, -, heq⟩ := exists_eq_append_trim cs
  exact ⟨before, after, heq.symm⟩

end Text
end FlowCheck
