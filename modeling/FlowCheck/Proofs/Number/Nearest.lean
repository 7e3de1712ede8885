import FlowCheck.Json.Basic
import Mathlib.Algebra.Group.Nat.Defs

/-!
# The double nearest to an integer

No double is nearer to an integer than the one that it is rounded to
(`Binary64.natAbs_units_ofInt_sub_le`).  Magnitudes are rounded to multiples of a unit that leaves
53 binary digits; a double is such a multiple too, or it has a smaller unit and lies below all
numbers with as many digits, so it is no nearer.

What else there is to say about rounding follows from this alone: it keeps the order of integers
(`Binary64.units_ofInt_mono`), it never carries an integer past a double
(`Binary64.units_ofInt_le`, `Binary64.le_units_ofInt`), and an integer that some double is equal to
is rounded to a double equal to it (`Binary64.units_ofInt`).
-/

namespace FlowCheck
namespace Binary64

/-! ## Magnitudes -/

/-- A quotient is rounded to a multiple of its divisor than which none is nearer. -/
theorem roundHalfEven_nearest {num den : Nat} (hden : 0 < den) (k : Nat) :
    ((roundHalfEven num den * den : Nat) - num : Int).natAbs ≤
      ((k * den : Nat) - num : Int).natAbs := by
  have hdivision : num / den * den + num % den = num := Nat.div_add_mod' num den
  have hrest : num % den < den := Nat.mod_lt num hden
  have hside : k * den ≤ num / den * den ∨ (num / den + 1) * den ≤ k * den := by
    rcases Nat.lt_or_ge (num / den) k with habove | hbelow
    · exact .inr (Nat.mul_le_mul_right den habove)
    · exact .inl (Nat.mul_le_mul_right den hbelow)
  have hnext : (num / den + 1) * den = num / den * den + den := Nat.succ_mul _ _
  unfold roundHalfEven
  dsimp only
  split <;> omega

/-- A double of a smaller unit lies below all numbers that have 53 digits at the larger one. -/
theorem magnitude_lt_of_exponent_lt {x : Binary64} {e : Nat} (h : x.exponent < e) :
    x.magnitude < 2 ^ 52 * 2 ^ e := by
  have hsignificand := x.significand_lt
  rw [Nat.one_shiftLeft] at hsignificand
  calc x.magnitude
    _ = x.significand * 2 ^ x.exponent := Nat.shiftLeft_eq _ _
    _ < 2 ^ 53 * 2 ^ x.exponent := Nat.mul_lt_mul_of_pos_right hsignificand (Nat.two_pow_pos _)
    _ = 2 ^ 52 * 2 ^ (x.exponent + 1) := by rw [Nat.pow_succ']; omega
    _ ≤ 2 ^ 52 * 2 ^ e := Nat.mul_le_mul_left _ (Nat.pow_le_pow_right (by decide) h)

/-- A double of a larger unit is a multiple of the smaller one. -/
theorem magnitude_eq_mul_of_le_exponent {x : Binary64} {e : Nat} (h : e ≤ x.exponent) :
    ∃ k, x.magnitude = k * 2 ^ e := by
  refine ⟨x.significand * 2 ^ (x.exponent - e), ?_⟩
  rw [magnitude, Nat.shiftLeft_eq, Nat.mul_assoc, ← Nat.pow_add, Nat.sub_add_cancel h]

theorem mul_le_of_exponentFor_ne_zero {num : Nat} (h : exponentFor num ≠ 0) :
    2 ^ 52 * 2 ^ exponentFor num ≤ num := by
  have hdigits := le_shiftRight_exponentFor h
  rwa [Nat.shiftRight_eq_div_pow, Nat.one_shiftLeft,
    Nat.le_div_iff_mul_le (Nat.two_pow_pos _)] at hdigits

/-- The magnitude that `num` units are rounded to. -/
def roundedMagnitude (num : Nat) : Nat :=
  roundHalfEven num (2 ^ exponentFor num) * 2 ^ exponentFor num

theorem roundedMagnitude_nearest (num : Nat) (x : Binary64) :
    (roundedMagnitude num - num : Int).natAbs ≤ (x.magnitude - num : Int).natAbs := by
  have hmultiple (k : Nat) : (roundedMagnitude num - num : Int).natAbs ≤
      ((k * 2 ^ exponentFor num : Nat) - num : Int).natAbs :=
    roundHalfEven_nearest (Nat.two_pow_pos (exponentFor num)) k
  rcases Nat.lt_or_ge x.exponent (exponentFor num) with hlt | hle
  · -- The least number with 53 digits is a multiple, and lies between the double and `num`.
    have hbelow : x.magnitude < 2 ^ 52 * 2 ^ exponentFor num := magnitude_lt_of_exponent_lt hlt
    have habove : 2 ^ 52 * 2 ^ exponentFor num ≤ num :=
      mul_le_of_exponentFor_ne_zero (Nat.ne_zero_of_lt hlt)
    have hleast := hmultiple (2 ^ 52)
    omega
  · obtain ⟨k, hk⟩ := magnitude_eq_mul_of_le_exponent hle
    rw [hk]
    exact hmultiple k

theorem roundedSignificand_one (num : Nat) :
    roundedSignificand num 1 = roundHalfEven num (2 ^ exponentFor num) := by
  rw [roundedSignificand, Nat.div_one, Nat.one_shiftLeft]

theorem ofUnits?_one_eq_some {negative : Bool} {num : Nat} {y : Binary64}
    (h : ofUnits? negative num 1 = some y) :
    y.negative = negative ∧ y.magnitude = roundedMagnitude num := by
  unfold ofUnits? at h
  dsimp only at h
  split at h
  · split at h
    · obtain rfl := Option.some.inj h
      refine ⟨rfl, ?_⟩
      change roundedSignificand num 1 <<< exponentFor (num / 1) = roundedMagnitude num
      rw [roundedSignificand_one, Nat.div_one, Nat.shiftLeft_eq, roundedMagnitude]
    · contradiction
  · next hcarry =>
    split at h
    · obtain rfl := Option.some.inj h
      have hfull : roundedSignificand num 1 = 1 <<< 53 :=
        Nat.le_antisymm (roundedSignificand_le num 1) (Nat.not_lt.1 hcarry)
      refine ⟨rfl, ?_⟩
      change 1 <<< 52 <<< (exponentFor (num / 1) + 1) = roundedMagnitude num
      rw [roundedMagnitude, ← roundedSignificand_one, hfull, Nat.div_one, Nat.shiftLeft_eq,
        Nat.pow_succ']
      omega
    · contradiction

theorem magnitude_le_largest (x : Binary64) (negative : Bool) :
    x.magnitude ≤ (largest negative).magnitude := by
  rw [magnitude, magnitude, Nat.shiftLeft_eq, Nat.shiftLeft_eq]
  exact Nat.mul_le_mul (Nat.le_sub_one_of_lt x.significand_lt)
    (Nat.pow_le_pow_right (by decide) x.exponent_le)

/-- What is rounded to no double is not below the largest. -/
theorem largest_le_of_ofUnits?_eq_none {negative : Bool} {num : Nat}
    (h : ofUnits? negative num 1 = none) : (largest negative).magnitude ≤ num := by
  unfold ofUnits? at h
  dsimp only at h
  split at h
  · split at h
    · contradiction
    · next hlarge =>
      rw [Nat.div_one, Nat.not_le] at hlarge
      have hbelow := magnitude_lt_of_exponent_lt (x := largest negative) hlarge
      exact Nat.le_trans (Nat.le_of_lt hbelow) (mul_le_of_exponentFor_ne_zero (by omega))
  · next hcarry =>
    split at h
    · contradiction
    · next hlarge =>
      rw [Nat.div_one, Nat.not_le] at hlarge
      have hdigits : 1 <<< 53 - 1 ≤ num / 2 ^ exponentFor num := by
        have hrounded := roundHalfEven_le num (2 ^ exponentFor num)
        rw [← roundedSignificand_one] at hrounded
        omega
      rw [Nat.le_div_iff_mul_le (Nat.two_pow_pos _)] at hdigits
      calc (largest negative).magnitude
        _ = (1 <<< 53 - 1) * 2 ^ (largest negative).exponent := Nat.shiftLeft_eq _ _
        _ ≤ (1 <<< 53 - 1) * 2 ^ exponentFor num :=
          Nat.mul_le_mul_left _ (Nat.pow_le_pow_right (by decide) (Nat.le_of_lt_succ hlarge))
        _ ≤ num := hdigits

/-- What a magnitude is rounded to, the largest double where all are smaller, is nearest to it. -/
theorem magnitude_nearest (negative : Bool) (num : Nat) (x : Binary64) :
    let y := (ofUnits? negative num 1).getD (largest negative)
    y.negative = negative ∧
      (y.magnitude - num : Int).natAbs ≤ (x.magnitude - num : Int).natAbs := by
  cases h : ofUnits? negative num 1 with
  | none =>
    have hlargest : (largest negative).magnitude ≤ num := largest_le_of_ofUnits?_eq_none h
    have hx := x.magnitude_le_largest negative
    refine ⟨rfl, ?_⟩
    rw [Option.getD_none]
    omega
  | some y =>
    obtain ⟨hnegative, hmagnitude⟩ := ofUnits?_one_eq_some h
    refine ⟨hnegative, ?_⟩
    rw [Option.getD_some, hmagnitude]
    exact roundedMagnitude_nearest num x

/-! ## Integers -/

theorem magnitude_zero (negative : Bool) : (zero negative).magnitude = 0 := rfl

theorem mul_unitsPerOne_eq (n : Int) : n * unitsPerOne =
    if n < 0 then -((n.natAbs * unitsPerOne : Nat) : Int) else (n.natAbs * unitsPerOne : Nat) := by
  split
  · next hneg =>
    rw [Int.natCast_mul, ← Int.neg_mul, Int.ofNat_natAbs_of_nonpos (Int.le_of_lt hneg), Int.neg_neg]
  · next hneg => rw [Int.natCast_mul, Int.natAbs_of_nonneg (Int.not_lt.1 hneg)]

/-- No double is nearer to an integer than the one that it is rounded to. -/
theorem natAbs_units_ofInt_sub_le (n : Int) (x : Binary64) :
    ((ofInt n).units - n * unitsPerOne).natAbs ≤ (x.units - n * unitsPerOne).natAbs := by
  obtain ⟨hnegative, hx⟩ := magnitude_nearest (n < 0) (n.natAbs * unitsPerOne) x
  have hzero := (magnitude_nearest (n < 0) (n.natAbs * unitsPerOne) (zero false)).2
  rw [magnitude_zero] at hzero
  change (ofInt n).negative = _ at hnegative
  change ((ofInt n).magnitude - _ : Int).natAbs ≤ _ at hx
  change ((ofInt n).magnitude - _ : Int).natAbs ≤ _ at hzero
  -- A double of the other sign is farther away than zero is.
  rw [units, units, hnegative, mul_unitsPerOne_eq]
  by_cases hneg : n < 0
  · simp only [hneg, decide_true, if_true]
    split <;> omega
  · simp only [hneg, decide_false, Bool.false_eq_true, if_false]
    split <;> omega

section Order

variable {n : Int} {x : Binary64}

/-- An integer that is equal to some double is read as a double equal to it. -/
theorem units_ofInt (h : x.units = n * unitsPerOne) : (ofInt n).units = n * unitsPerOne := by
  have hnearest := natAbs_units_ofInt_sub_le n x
  omega

/-- An integer that is at most a double is not rounded past it. -/
theorem units_ofInt_le (h : n * unitsPerOne ≤ x.units) : (ofInt n).units ≤ x.units := by
  have hnearest := natAbs_units_ofInt_sub_le n x
  omega

theorem le_units_ofInt (h : x.units ≤ n * unitsPerOne) : x.units ≤ (ofInt n).units := by
  have hnearest := natAbs_units_ofInt_sub_le n x
  omega

theorem unitsPerOne_pos : (0 : Int) < unitsPerOne := by decide

/-- Rounding keeps the order of integers. -/
theorem units_ofInt_mono {a b : Int} (h : a ≤ b) : (ofInt a).units ≤ (ofInt b).units := by
  rcases Int.le_iff_eq_or_lt.1 h with rfl | hlt
  · exact Int.le_refl _
  · have hunits : a * unitsPerOne < b * unitsPerOne :=
      Int.mul_lt_mul_of_pos_right hlt unitsPerOne_pos
    have hleft := natAbs_units_ofInt_sub_le a (ofInt b)
    have hright := natAbs_units_ofInt_sub_le b (ofInt a)
    omega

end Order

/-! ## Small integers -/

/-- A number of at most 53 digits is a multiple of the unit that it is rounded at. -/
theorem two_pow_exponentFor_dvd {k t : Nat} (hk : k ≤ 2 ^ 53) :
    exponentFor (k * 1 <<< t) ≤ t + 1 ∧ 2 ^ exponentFor (k * 1 <<< t) ∣ k * 1 <<< t := by
  rw [Nat.one_shiftLeft]
  by_cases hzero : exponentFor (k * 2 ^ t) = 0
  · simp [hzero]
  · have hle : k * 2 ^ t ≤ 2 ^ 52 * 2 ^ (t + 1) := by
      calc k * 2 ^ t
        _ ≤ 2 ^ 53 * 2 ^ t := Nat.mul_le_mul_right _ hk
        _ = 2 ^ 52 * 2 ^ (t + 1) := by rw [Nat.pow_succ']; omega
    have hdigits := mul_le_of_exponentFor_ne_zero hzero
    have hexponent : exponentFor (k * 2 ^ t) ≤ t + 1 := by
      have hpow := Nat.le_of_mul_le_mul_left (Nat.le_trans hdigits hle) (Nat.two_pow_pos 52)
      exact (Nat.pow_le_pow_iff_right (by decide)).1 hpow
    refine ⟨hexponent, ?_⟩
    rcases Nat.lt_or_eq_of_le hexponent with hlt | heq
    · exact Nat.dvd_trans (Nat.pow_dvd_pow 2 (Nat.le_of_lt_succ hlt)) (Nat.dvd_mul_left _ _)
    · -- Only the number `2 ^ 53` itself is rounded at the next unit.
      rw [heq] at hdigits ⊢
      rw [Nat.le_antisymm hle hdigits]
      exact Nat.dvd_mul_left _ _

/-- An integer of at most 53 digits is a double. -/
theorem exists_units_eq {n : Int} (h : n.natAbs ≤ 2 ^ 53) :
    ∃ x : Binary64, x.units = n * unitsPerOne := by
  let num := n.natAbs * unitsPerOne
  obtain ⟨hexponent, hdvd⟩ : exponentFor num ≤ 1075 ∧ 2 ^ exponentFor num ∣ num :=
    two_pow_exponentFor_dvd h
  let x : Binary64 := ⟨n < 0, num >>> exponentFor num, exponentFor num,
    shiftRight_exponentFor_lt num, Nat.le_trans hexponent (by decide),
    (Decidable.em _).imp id le_shiftRight_exponentFor⟩
  have hmagnitude : x.magnitude = num := by
    change num >>> exponentFor num <<< exponentFor num = num
    rw [Nat.shiftLeft_eq, Nat.shiftRight_eq_div_pow, Nat.div_mul_cancel hdvd]
  refine ⟨x, ?_⟩
  rw [units, hmagnitude, mul_unitsPerOne_eq]
  simp [x, num]

/-- Two integers that are read as one double. -/
def sameDouble (a b : Int) : Bool := (ofInt a).eq (ofInt b)

theorem sameDouble_iff {a b : Int} : sameDouble a b = true ↔ (ofInt a).units = (ofInt b).units :=
  beq_iff_eq

theorem units_ofInt_of_natAbs_le {n : Int} (h : n.natAbs ≤ 2 ^ 53) :
    (ofInt n).units = n * unitsPerOne := by
  obtain ⟨x, hx⟩ := exists_units_eq h
  exact units_ofInt hx

theorem mul_unitsPerOne_lt_iff {a b : Int} :
    a * unitsPerOne < b * unitsPerOne ↔ a < b :=
  Int.mul_lt_mul_right unitsPerOne_pos

/-- An integer below `2 ^ 53` has a double of its own. -/
theorem eq_of_sameDouble {a b : Int} (h : sameDouble a b = true) (ha : a.natAbs < 2 ^ 53) :
    a = b := by
  have hunits := sameDouble_iff.1 h
  rw [units_ofInt_of_natAbs_le (Nat.le_of_lt ha)] at hunits
  by_cases hb : b.natAbs ≤ 2 ^ 53
  · rw [units_ofInt_of_natAbs_le hb] at hunits
    exact Int.eq_of_mul_eq_mul_right (Int.ne_of_gt unitsPerOne_pos) hunits
  · -- A larger integer is rounded to `2 ^ 53` at least, in absolute value.
    exfalso
    rcases Int.lt_or_le b 0 with hneg | hpos
    · have hmono := units_ofInt_mono (a := b) (b := -2 ^ 53) (by omega)
      rw [← hunits, units_ofInt_of_natAbs_le (by decide), ← Int.not_lt,
        mul_unitsPerOne_lt_iff] at hmono
      omega
    · have hmono := units_ofInt_mono (a := 2 ^ 53) (b := b) (by omega)
      rw [← hunits, units_ofInt_of_natAbs_le (by decide), ← Int.not_lt,
        mul_unitsPerOne_lt_iff] at hmono
      omega

end Binary64

/-- The value of a number, counted in units of `2 ^ -1074`. -/
def Number.units : Number → Int
  | .int n => n * Binary64.unitsPerOne
  | .real x => x.units

/-- A number is equal to an integer: whole, and of that value. -/
theorem Number.compareInt_real_eq_iff {x : Binary64} {n : Int} :
    (Number.real x).compareInt n = .eq ↔ x.units = n * Binary64.unitsPerOne :=
  Int.compare_eq_eq

/-- An integer that some double equals is equal to the double it is read as. -/
theorem Number.compareInt_toBinary64 {x : Binary64} {n : Int}
    (h : (Number.real x).compareInt n = .eq) :
    (Number.real (Number.int n).toBinary64).compareInt n = .eq :=
  compareInt_real_eq_iff.2 (Binary64.units_ofInt (compareInt_real_eq_iff.1 h))

end FlowCheck
