import FlowCheck.Proofs.Condition.Cut
import FlowCheck.Proofs.Text.ByteOrder

/-!
# Cutting the bytes of a condition

`byteRanges` cuts the bytes of a text with a loop over their places: at a quote it goes behind the
next such byte, which can be behind the end, at a doubled separator it ends a range and goes on two
bytes later, and it passes over any other byte.  It knows nothing of characters.

`byteRanges_bytes` says that it cuts where `split` does: the ranges are those of the parts, laid out
with two bytes between them.  So every range starts and ends between characters
(`forall₂_spans_layout`).  A byte of a character of several bytes is at least 128, so it is
neither a quote nor a separator, and the loop passes over it.
-/

namespace FlowCheck
namespace Condition

open Text (charBytes charBytes_of_lt le_of_mem_charBytes)

/-- The ranges of bytes between separators, where the loop stands at the place `i` and the range
that it is in starts at `start`. -/
def byteRanges (bs : List ℕ) (sep start i : ℕ) : List (ℕ × ℕ) :=
  match h : bs.drop i with
  | [] => [(min start bs.length, bs.length)]
  | b :: rest =>
    if b = '"'.toNat ∨ b = '\''.toNat then
      byteRanges bs sep start (i + 1 + (rest.takeWhile (· ≠ b)).length + 1)
    else if b = sep ∧ rest.head? = some sep then
      (start, i) :: byteRanges bs sep (i + 2) (i + 2)
    else byteRanges bs sep start (i + 1)
termination_by bs.length - i
decreasing_by
  all_goals
    have hlt : i < bs.length := by
      by_contra hge
      simp [List.drop_eq_nil_of_le (not_lt.1 hge)] at h
    omega

/-- How many bytes a text has. -/
def byteSize (cs : List Char) : ℕ := (cs.flatMap charBytes).length

@[simp] theorem byteSize_nil : byteSize [] = 0 := rfl

@[simp] theorem byteSize_cons (c : Char) (cs : List Char) :
    byteSize (c :: cs) = (charBytes c).length + byteSize cs := by
  simp [byteSize]

@[simp] theorem byteSize_append (as bs : List Char) :
    byteSize (as ++ bs) = byteSize as + byteSize bs := by
  simp [byteSize]

/-- The range of bytes holds the part, and starts and ends between characters of the text. -/
def Spans (cs : List Char) (range : ℕ × ℕ) (part : List Char) : Prop :=
  ∃ front back, cs = front ++ part ++ back ∧
    range = (byteSize front, byteSize front + byteSize part)

/-- The ranges of parts with two bytes between them, where the first part starts at `start` and
what is left of it at `i`. -/
def layout (start i : ℕ) : List (List Char) → List (ℕ × ℕ)
  | [] => []
  | p :: parts => (start, i + byteSize p) :: layout (i + byteSize p + 2) (i + byteSize p + 2) parts

/-! ## Bytes of characters -/

theorem toNat_lt_of_isQuote {q : Char} (h : isQuote q = true) : q.toNat < 128 := by
  have hq : q = '"' ∨ q = '\'' := by simpa [isQuote] using h
  rcases hq with rfl | rfl <;> decide

theorem IsSeparator.toNat_lt {sep : Char} (h : IsSeparator sep) : sep.toNat < 128 := by
  rcases h with rfl | rfl <;> decide

theorem isQuote_iff_toNat {c : Char} :
    isQuote c = true ↔ c.toNat = '"'.toNat ∨ c.toNat = '\''.toNat := by
  rw [Char.toNat_inj, Char.toNat_inj]
  simp [isQuote]

/-- A character of one byte is the first byte of a text exactly when it is its first character. -/
theorem head?_flatMap_charBytes {d : Char} (hd : d.toNat < 128) (cs : List Char) :
    (cs.flatMap charBytes).head? = some d.toNat ↔ cs.head? = some d := by
  cases cs with
  | nil => simp
  | cons c cs =>
    rw [List.flatMap_cons]
    by_cases hc : c.toNat < 128
    · simp [charBytes_of_lt hc, Char.toNat_inj]
    · obtain ⟨b, bs, hb⟩ := List.exists_cons_of_ne_nil (Text.charBytes_ne_nil c)
      have hle := le_of_mem_charBytes (not_lt.1 hc) b (by simp [hb])
      have hne : c ≠ d := fun heq => hc (heq ▸ hd)
      simp only [hb, List.cons_append, List.head?_cons, Option.some.injEq, hne, iff_false]
      omega

/-! ## The loop -/

variable {bs : List ℕ} {start i : ℕ}

theorem byteRanges_of_drop_eq_nil {sep : ℕ} (h : bs.drop i = []) :
    byteRanges bs sep start i = [(min start bs.length, bs.length)] := by
  rw [byteRanges]
  split <;> simp_all

theorem byteRanges_of_drop_eq_cons {sep b : ℕ} {rest : List ℕ} (h : bs.drop i = b :: rest) :
    byteRanges bs sep start i =
      if b = '"'.toNat ∨ b = '\''.toNat then
        byteRanges bs sep start (i + 1 + (rest.takeWhile (· ≠ b)).length + 1)
      else if b = sep ∧ rest.head? = some sep then
        (start, i) :: byteRanges bs sep (i + 2) (i + 2)
      else byteRanges bs sep start (i + 1) := by
  rw [byteRanges]
  split
  · next h' => simp [h'] at h
  · next h' =>
    obtain ⟨rfl, rfl⟩ := List.cons.inj (h'.symm.trans h)
    rfl

/-- The loop passes over bytes that are not of characters of one byte. -/
theorem byteRanges_pass {sep : ℕ} (hsep : sep < 128) {mid rest : List ℕ}
    (hmid : ∀ b ∈ mid, 128 ≤ b) (h : bs.drop i = mid ++ rest) :
    byteRanges bs sep start i = byteRanges bs sep start (i + mid.length) := by
  induction mid generalizing i with
  | nil => rfl
  | cons b mid ih =>
    have hb := hmid b List.mem_cons_self
    have hquote : ¬ (b = '"'.toNat ∨ b = '\''.toNat) := by
      rintro (rfl | rfl) <;> exact absurd hb (by decide)
    have hnot : ¬ (b = sep ∧ (mid ++ rest).head? = some sep) := fun hcut => by omega
    rw [List.cons_append] at h
    have hdrop : bs.drop (i + 1) = mid ++ rest := by
      rw [← List.drop_drop, h, List.drop_succ_cons, List.drop_zero]
    rw [byteRanges_of_drop_eq_cons h, if_neg hquote, if_neg hnot,
      ih (fun b hb => hmid b (List.mem_cons_of_mem _ hb)) hdrop, List.length_cons]
    congr 1
    omega

/-- Where the loop goes on: at once outside quotes, and behind the next quote of the same kind
inside. -/
def resume (bs : List ℕ) (quote : Option Char) (i : ℕ) : ℕ :=
  match quote with
  | none => i
  | some q => i + ((bs.drop i).takeWhile (· ≠ q.toNat)).length + 1

/-- Inside quotes the loop passes over a character that does not close them. -/
theorem resume_pass {q c : Char} (hq : isQuote q = true) (hc : c ≠ q) {rest : List ℕ}
    (h : bs.drop i = charBytes c ++ rest) :
    resume bs (some q) i = resume bs (some q) (i + (charBytes c).length) := by
  have hne : ∀ b ∈ charBytes c, decide (b ≠ q.toNat) = true := by
    intro b hb
    have hlt := toNat_lt_of_isQuote hq
    by_cases hone : c.toNat < 128
    · rw [charBytes_of_lt hone, List.mem_singleton] at hb
      simpa [hb, Char.toNat_inj] using hc
    · have hle := le_of_mem_charBytes (not_lt.1 hone) b hb
      simp only [ne_eq, decide_eq_true_eq]
      omega
  have hdrop : bs.drop (i + (charBytes c).length) = rest := by
    rw [← List.drop_drop, h, List.drop_left]
  simp only [resume, hdrop, h, List.takeWhile_append_of_pos hne, List.length_append]
  omega

/-- A character that does not separate, at the place `i`, is passed over. -/
theorem byteRanges_char {sep : Char} (hsep : IsSeparator sep) {quote : Option Char}
    (hquote : ∀ q ∈ quote, isQuote q = true) {c : Char} {cs : List Char}
    (h : bs.drop i = charBytes c ++ cs.flatMap charBytes)
    (hc : ¬ (quote = none ∧ c = sep ∧ cs.head? = some sep)) :
    byteRanges bs sep.toNat start (resume bs quote i) =
      byteRanges bs sep.toNat start (resume bs (nextQuote quote c) (i + (charBytes c).length)) := by
  cases quote with
  | some q =>
    have hq := hquote q rfl
    by_cases hclose : c = q
    · subst hclose
      simp [resume, nextQuote, h, charBytes_of_lt (toNat_lt_of_isQuote hq)]
    · rw [resume_pass hq hclose h, nextQuote, if_neg hclose]
  | none =>
    by_cases hone : c.toNat < 128
    · rw [charBytes_of_lt hone, List.singleton_append] at h
      have htail : bs.drop (i + 1) = cs.flatMap charBytes := by
        rw [← List.drop_drop, h, List.drop_succ_cons, List.drop_zero]
      have hnot : ¬ (c.toNat = sep.toNat ∧ (cs.flatMap charBytes).head? = some sep.toNat) := by
        rw [Char.toNat_inj, head?_flatMap_charBytes hsep.toNat_lt]
        exact fun hcut => hc ⟨rfl, hcut⟩
      rw [resume, byteRanges_of_drop_eq_cons h, if_neg hnot, charBytes_of_lt hone,
        List.length_singleton]
      by_cases hq : isQuote c = true
      · rw [if_pos (isQuote_iff_toNat.1 hq), nextQuote, if_pos hq, resume, htail]
      · rw [if_neg (mt isQuote_iff_toNat.2 hq), nextQuote, if_neg hq, resume]
    · have hq : ¬ isQuote c = true := fun hq => hone (toNat_lt_of_isQuote hq)
      rw [nextQuote, if_neg hq]
      exact byteRanges_pass hsep.toNat_lt (le_of_mem_charBytes (not_lt.1 hone)) h

/-- At a doubled separator a range ends. -/
theorem byteRanges_separator {sep : Char} (hsep : IsSeparator sep) {rest : List ℕ}
    (h : bs.drop i = sep.toNat :: sep.toNat :: rest) :
    byteRanges bs sep.toNat start i =
      (start, i) :: byteRanges bs sep.toNat (i + 2) (i + 2) := by
  have hquote := mt isQuote_iff_toNat.2 (Bool.eq_false_iff.1 hsep.isQuote_eq_false)
  rw [byteRanges_of_drop_eq_cons h, if_neg hquote, if_pos ⟨rfl, rfl⟩]

/-! ## The parts -/

theorem split_ne_nil {sep : Char} (hsep : IsSeparator sep) (quote : Option Char) (cs : List Char) :
    split sep quote cs ≠ [] := by
  cases cs with
  | nil => simp [split]
  | cons c cs =>
    rw [split_cons hsep]
    split
    · exact List.cons_ne_nil _ _
    · cases split sep (nextQuote quote c) cs <;> exact List.cons_ne_nil _ _

/-- A character in front of the first part is passed over in its range. -/
theorem layout_pushFirst {parts : List (List Char)} (h : parts ≠ []) (start i : ℕ) (c : Char) :
    layout start i (pushFirst c parts) = layout start (i + (charBytes c).length) parts := by
  cases parts with
  | nil => contradiction
  | cons p parts => simp [pushFirst, layout, Nat.add_assoc]

/-- The loop, wherever it stands, finds the ranges of the parts of what is left. -/
theorem byteRanges_resume {sep : Char} (hsep : IsSeparator sep) {quote : Option Char}
    (hquote : ∀ q ∈ quote, isQuote q = true) {cs : List Char}
    (hbs : bs.drop i = cs.flatMap charBytes) (hlen : bs.length = i + byteSize cs)
    (hstart : start ≤ i) :
    byteRanges bs sep.toNat start (resume bs quote i) = layout start i (split sep quote cs) := by
  induction hn : cs.length using Nat.strong_induction_on generalizing quote cs start i with
  | _ n ih =>
    subst hn
    cases cs with
    | nil =>
      have hend : bs.drop (resume bs quote i) = [] := by
        refine List.drop_eq_nil_of_le ?_
        rw [hlen, byteSize_nil, Nat.add_zero]
        cases quote with
        | none => exact le_rfl
        | some q => simp only [resume]; omega
      have hnil : split sep quote [] = [[]] := by simp [split]
      simp [byteRanges_of_drop_eq_nil hend, hnil, layout, hlen, hstart]
    | cons c cs =>
      rw [List.flatMap_cons] at hbs
      rw [byteSize_cons] at hlen
      rw [split_cons hsep]
      split
      · next hcut =>
        obtain ⟨rfl, rfl, hhead⟩ := hcut
        obtain ⟨tail, rfl⟩ := List.head?_eq_some_iff.1 hhead
        rw [List.flatMap_cons, charBytes_of_lt hsep.toNat_lt] at hbs
        rw [byteSize_cons, charBytes_of_lt hsep.toNat_lt] at hlen
        simp only [List.singleton_append, List.length_singleton] at hbs hlen
        have hdrop : bs.drop (i + 2) = tail.flatMap charBytes := by
          rw [← List.drop_drop, hbs]
          rfl
        have hrest : byteRanges bs c.toNat (i + 2) (resume bs none (i + 2)) =
            layout (i + 2) (i + 2) (split c none tail) :=
          ih tail.length (by simp only [List.length_cons]; omega) (by simp) hdrop (by omega) le_rfl
            rfl
        rw [resume, byteRanges_separator hsep hbs]
        exact congrArg ((start, i) :: ·) hrest
      · next hcut =>
        have hdrop : bs.drop (i + (charBytes c).length) = cs.flatMap charBytes := by
          rw [← List.drop_drop, hbs, List.drop_left]
        rw [byteRanges_char hsep hquote hbs hcut, layout_pushFirst (split_ne_nil hsep _ _)]
        exact ih cs.length (by simp) (isQuote_of_mem_nextQuote hquote c) hdrop (by omega)
          (by omega) rfl

/-- The loop over bytes finds the ranges of the parts. -/
theorem byteRanges_bytes {sep : Char} (hsep : IsSeparator sep) (s : String) :
    byteRanges (Text.bytes s) sep.toNat 0 0 = layout 0 0 (split sep none s.toList) := by
  have hloop : byteRanges (Text.bytes s) sep.toNat 0 (resume (Text.bytes s) none 0) =
      layout 0 0 (split sep none s.toList) :=
    byteRanges_resume hsep (by simp) (by rw [List.drop_zero, Text.bytes_eq])
      (by rw [Text.bytes_eq, byteSize, Nat.zero_add]) le_rfl
  exact hloop

/-- The ranges of the parts of a text, laid out behind another text, lie between characters. -/
theorem forall₂_spans_layout {sep : Char} (hsep : sep.toNat < 128) {cs : List Char}
    {parts : List (List Char)} (h : [sep, sep].intercalate parts = cs) (before : List Char) :
    List.Forall₂ (Spans (before ++ cs))
      (layout (byteSize before) (byteSize before) parts) parts := by
  subst h
  induction parts generalizing before with
  | nil => exact .nil
  | cons p parts ih =>
    cases parts with
    | nil => exact .cons ⟨before, [], by simp [List.intercalate], rfl⟩ .nil
    | cons q parts =>
      have hnext := ih (before ++ p ++ [sep, sep])
      have htwo : byteSize [sep, sep] = 2 := by simp [charBytes_of_lt hsep]
      rw [byteSize_append, byteSize_append, htwo] at hnext
      refine .cons ⟨before, [sep, sep] ++ [sep, sep].intercalate (q :: parts), ?_, rfl⟩ ?_
      · simp [List.intercalate]
      · simpa [List.intercalate] using hnext

end Condition
end FlowCheck
