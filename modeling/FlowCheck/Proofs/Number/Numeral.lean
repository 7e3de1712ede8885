import FlowCheck.Number.Numeral
import Mathlib.Data.List.TakeWhile

/-!
# Numerals: reading what was printed, and what a numeral looks like

An integer printed in decimal is read back as itself (`integer?_toString`).  Whatever is read as a
number, integer or fraction, consists of digits, signs, points and exponent letters, and starts
with a digit, a sign or a point (`Shaped`); this keeps numerals apart from words, paths and quoted
strings.
-/

namespace FlowCheck
namespace Numeral

/-! ## Printing and reading -/

theorem valueOf_eq_ofDigitChars (digits : List Char) :
    valueOf digits = Nat.ofDigitChars 10 digits 0 := by
  rw [valueOf, Nat.ofDigitChars_eq_foldl]
  congr 1
  funext n d
  rw [Nat.mul_comm]

theorem natural?_toDigits (n : Nat) : natural? (Nat.toDigits 10 n) = some n := by
  have hdigits : (Nat.toDigits 10 n).all Char.isDigit = true :=
    List.all_eq_true.2 fun c hc => Nat.isDigit_of_mem_toDigits (by decide) (by decide) hc
  simp [natural?, hdigits, valueOf_eq_ofDigitChars, Nat.ofDigitChars_ten_toDigits]

/-- A text that starts with a digit has no sign. -/
theorem splitSign_of_digit {c : Char} (hc : c.isDigit = true) (cs : List Char) :
    splitSign (c :: cs) = (false, c :: cs) := by
  unfold splitSign
  split
  · next h => simp_all [Char.isDigit]
  · next h => simp_all [Char.isDigit]
  · rfl

theorem splitSign_toDigits (n : Nat) :
    splitSign (Nat.toDigits 10 n) = (false, Nat.toDigits 10 n) := by
  cases h : Nat.toDigits 10 n with
  | nil => exact absurd h Nat.toDigits_ne_nil
  | cons c cs =>
    have hc : c ∈ Nat.toDigits 10 n := by simp [h]
    exact splitSign_of_digit (Nat.isDigit_of_mem_toDigits (by decide) (by decide) hc) cs

theorem integer?_eq (cs : List Char) : integer? cs =
    (natural? (splitSign cs).2).map fun n : Nat => if (splitSign cs).1 then -(n : Int) else n := by
  rw [integer?]
  cases h : natural? (splitSign cs).2 <;> simp [h]

/-- Reading undoes printing. -/
theorem integer?_toString (n : Int) : integer? (toString n).toList = some n := by
  cases n with
  | ofNat m =>
    have htext : (toString (Int.ofNat m)).toList = Nat.toDigits 10 m := Nat.toList_repr
    rw [htext, integer?_eq, splitSign_toDigits, natural?_toDigits]
    rfl
  | negSucc m =>
    have htext : (toString (Int.negSucc m)).toList = '-' :: Nat.toDigits 10 (m + 1) := by
      rw [Int.toString_eq_repr, Int.repr, String.toList_append, Nat.toList_repr]
      rfl
    rw [htext, integer?_eq, splitSign, natural?_toDigits]
    rfl

theorem int64?_toString {n : Int} (h : Word.fitsSigned 64 n = true) :
    int64? (toString n).toList = some n := by
  rw [int64?, integer?_toString, Option.filter_some, if_pos h]

/-! ## The shape of numerals -/

def isNumeralChar (c : Char) : Bool := c.isDigit || ['+', '-', '.', 'e', 'E'].contains c

def opensNumeral (c : Char) : Bool := c.isDigit || ['+', '-', '.'].contains c

/-- What every numeral looks like, read or not. -/
structure Shaped (cs : List Char) : Prop where
  chars : ∀ c ∈ cs, isNumeralChar c = true
  head : ∃ c ∈ cs.head?, opensNumeral c = true

theorem isNumeralChar_of_isDigit {c : Char} (h : c.isDigit = true) : isNumeralChar c = true := by
  simp [isNumeralChar, h]

theorem shaped_of_digits {cs : List Char} (hne : cs ≠ []) (h : ∀ c ∈ cs, c.isDigit = true) :
    Shaped cs := by
  obtain ⟨c, rest, rfl⟩ := List.exists_cons_of_ne_nil hne
  refine ⟨fun d hd => isNumeralChar_of_isDigit (h d hd), c, rfl, ?_⟩
  simp [opensNumeral, h c List.mem_cons_self]

/-- Nothing is cut off but a sign. -/
theorem splitSign_cases (cs : List Char) :
    cs = (splitSign cs).2 ∨ ∃ s, (s = '+' ∨ s = '-') ∧ cs = s :: (splitSign cs).2 := by
  unfold splitSign
  split
  · exact .inr ⟨_, .inl rfl, rfl⟩
  · exact .inr ⟨_, .inr rfl, rfl⟩
  · exact .inl rfl

theorem shaped_of_splitSign {cs : List Char} (h : Shaped (splitSign cs).2) : Shaped cs := by
  rcases splitSign_cases cs with heq | ⟨s, hs, heq⟩
  · rw [heq]
    exact h
  · rw [heq]
    have hsign : opensNumeral s = true ∧ isNumeralChar s = true := by
      rcases hs with rfl | rfl <;> decide
    refine ⟨fun c hc => ?_, s, rfl, hsign.1⟩
    rcases List.mem_cons.1 hc with rfl | hc
    · exact hsign.2
    · exact h.chars c hc

theorem shaped_of_natural? {cs : List Char} {n : Nat} (h : natural? cs = some n) :
    Shaped cs := by
  unfold natural? at h
  split at h
  · contradiction
  · next hcs =>
    simp only [Bool.or_eq_true, List.isEmpty_iff, Bool.not_eq_true', not_or,
      Bool.not_eq_false, List.all_eq_true] at hcs
    exact shaped_of_digits hcs.1 hcs.2

theorem shaped_of_integer? {cs : List Char} {n : Int} (h : integer? cs = some n) :
    Shaped cs := by
  rw [integer?_eq] at h
  obtain ⟨m, hm, -⟩ := Option.map_eq_some_iff.1 h
  exact shaped_of_splitSign (shaped_of_natural? hm)

theorem shaped_of_int64? {cs : List Char} {n : Int} (h : int64? cs = some n) : Shaped cs :=
  shaped_of_integer? (Option.filter_eq_some_iff.1 h).1

theorem chars_of_exponent? {cs : List Char} {e : Int} (h : exponent? cs = some e) :
    ∀ c ∈ cs, isNumeralChar c = true := by
  cases cs with
  | nil => simp
  | cons c cs =>
    simp only [exponent?] at h
    split at h
    · next hc =>
      intro d hd
      rcases List.mem_cons.1 hd with rfl | hd
      · rcases hc with rfl | rfl <;> decide
      · exact (shaped_of_integer? h).chars d hd
    · contradiction

theorem chars_of_takeWhile_isDigit (cs : List Char) :
    ∀ c ∈ cs.takeWhile Char.isDigit, isNumeralChar c = true :=
  fun _ hc => isNumeralChar_of_isDigit (List.mem_takeWhile_imp hc)

/-- A row of digits, possibly empty, in front of a rest that then starts with a point. -/
theorem shaped_of_digits_append {cs rest : List Char}
    (hcs : cs = cs.takeWhile Char.isDigit ++ rest) (hrest : ∀ c ∈ rest, isNumeralChar c = true)
    (hhead : cs.takeWhile Char.isDigit = [] → ∃ tail, rest = '.' :: tail) : Shaped cs := by
  constructor
  · intro c hc
    rw [hcs] at hc
    rcases List.mem_append.1 hc with hc | hc
    · exact chars_of_takeWhile_isDigit cs c hc
    · exact hrest c hc
  · cases hdigits : cs.takeWhile Char.isDigit with
    | nil =>
      obtain ⟨tail, rfl⟩ := hhead hdigits
      rw [hcs, hdigits]
      exact ⟨'.', rfl, by decide⟩
    | cons d ds =>
      have hd : d.isDigit = true :=
        List.mem_takeWhile_imp (p := Char.isDigit) (l := cs) (by simp [hdigits])
      rw [hcs, hdigits]
      exact ⟨d, rfl, by simp [opensNumeral, hd]⟩

theorem shaped_of_real? {cs : List Char} {x : Binary64} (h : real? cs = some x) :
    Shaped cs := by
  refine shaped_of_splitSign ?_
  generalize hbody : (splitSign cs).2 = body
  simp only [real?, hbody] at h
  have hcut : body = body.takeWhile Char.isDigit ++ body.dropWhile Char.isDigit :=
    List.takeWhile_append_dropWhile.symm
  generalize body.dropWhile Char.isDigit = rest at h hcut
  split at h
  · next tail =>
    simp only [Option.ite_none_left_eq_some, Option.bind_eq_some_iff] at h
    obtain ⟨-, e, he, -⟩ := h
    refine shaped_of_digits_append hcut (fun d hd => ?_) fun _ => ⟨tail, rfl⟩
    -- behind the point stand the digits of the fraction and the exponent
    rcases List.mem_cons.1 hd with rfl | hd
    · decide
    · rw [← List.takeWhile_append_dropWhile (p := Char.isDigit) (l := tail)] at hd
      rcases List.mem_append.1 hd with hd | hd
      · exact chars_of_takeWhile_isDigit tail d hd
      · exact chars_of_exponent? he d hd
  · simp only [Option.ite_none_left_eq_some, Option.bind_eq_some_iff] at h
    obtain ⟨hne, e, he, -⟩ := h
    refine shaped_of_digits_append hcut (chars_of_exponent? he) fun hempty => ?_
    simp [hempty] at hne

end Numeral
end FlowCheck
