/-!
# Finite binary floating point numbers

`Binary64` holds the finite doubles: a sign, a significand below `2 ^ 53` and an exponent
counted in units of `2 ^ -1074`, the least positive double.  Every finite double is thus an
integer number of such units (`Binary64.units`), and comparison is comparison of integers.
Rounding a quotient to the nearest double is exact integer arithmetic (`Binary64.nearest`),
with ties to the even significand.

## Main definitions

* `Binary64.nearest` : the double nearest to a quotient, `none` beyond the largest double
* `Binary64.ofInt` : the double nearest to an integer
* `Binary64.compare` : numeric comparison, where the two zeros are equal
-/

namespace FlowCheck

/-- A finite double: `± significand · 2 ^ exponent` units of `2 ^ -1074`. -/
structure Binary64 where
  negative : Bool
  significand : Nat
  exponent : Nat
  significand_lt : significand < 1 <<< 53
  exponent_le : exponent ≤ 2045
  normal : exponent = 0 ∨ 1 <<< 52 ≤ significand
deriving DecidableEq

namespace Binary64

/-- The absolute value, counted in units of `2 ^ -1074`. -/
def magnitude (x : Binary64) : Nat := x.significand <<< x.exponent

/-- The value, counted in units of `2 ^ -1074`. -/
def units (x : Binary64) : Int := if x.negative then -x.magnitude else x.magnitude

/-- The number of units in one. -/
def unitsPerOne : Nat := 1 <<< 1074

def zero (negative : Bool) : Binary64 :=
  ⟨negative, 0, 0, by decide, by decide, .inl rfl⟩

/-- The largest finite double, or its negative. -/
def largest (negative : Bool) : Binary64 :=
  ⟨negative, 1 <<< 53 - 1, 2045, by decide, by decide, .inr (by decide)⟩

instance : Inhabited Binary64 := ⟨zero false⟩

def isZero (x : Binary64) : Bool := x.significand == 0

/-! ## Comparison -/

/-- Numeric order; `0.0` and `-0.0` are equal. -/
def compare (x y : Binary64) : Ordering := Ord.compare x.units y.units

def eq (x y : Binary64) : Bool := x.units == y.units

def lt (x y : Binary64) : Bool := x.units < y.units

/-- The value has no fractional part. -/
def isWhole (x : Binary64) : Bool := x.magnitude % unitsPerOne == 0

/-! ## Rounding -/

/-- `num / den` rounded to the nearest integer, a half to the even one. -/
def roundHalfEven (num den : Nat) : Nat :=
  let q := num / den
  let r := num % den
  if 2 * r < den ∨ (2 * r = den ∧ q % 2 = 0) then q else q + 1

theorem roundHalfEven_le (num den : Nat) : roundHalfEven num den ≤ num / den + 1 := by
  unfold roundHalfEven
  dsimp only
  split <;> omega

theorem le_roundHalfEven (num den : Nat) : num / den ≤ roundHalfEven num den := by
  unfold roundHalfEven
  dsimp only
  split <;> omega

/-- The exponent at which `q` keeps at most 53 binary digits before the point. -/
def exponentFor (q : Nat) : Nat := q.log2 - 52

theorem shiftRight_exponentFor_lt (q : Nat) : q >>> exponentFor q < 1 <<< 53 := by
  rw [Nat.shiftRight_eq_div_pow, Nat.one_shiftLeft, Nat.div_lt_iff_lt_mul (Nat.two_pow_pos _),
    ← Nat.pow_add]
  by_cases h : q = 0
  · subst h; exact Nat.two_pow_pos _
  · refine Nat.lt_of_lt_of_le Nat.lt_log2_self (Nat.pow_le_pow_right (by decide) ?_)
    unfold exponentFor
    omega

theorem le_shiftRight_exponentFor {q : Nat} (h : exponentFor q ≠ 0) :
    1 <<< 52 ≤ q >>> exponentFor q := by
  unfold exponentFor at *
  have hq : q ≠ 0 := by
    rintro rfl
    simp at h
  rw [Nat.shiftRight_eq_div_pow, Nat.one_shiftLeft, Nat.le_div_iff_mul_le (Nat.two_pow_pos _),
    ← Nat.pow_add]
  have : 52 + (q.log2 - 52) = q.log2 := by omega
  rw [this]
  exact Nat.log2_self_le hq

/-- The significand that `nearest` settles on before a carry into the exponent. -/
def roundedSignificand (num den : Nat) : Nat :=
  roundHalfEven num (den <<< exponentFor (num / den))

/-- Shifting a quotient down is dividing by the shifted divisor. -/
theorem div_shiftRight (num den e : Nat) : (num / den) >>> e = num / den <<< e := by
  rw [Nat.shiftRight_eq_div_pow, Nat.div_div_eq_div_mul, Nat.shiftLeft_eq]

theorem roundedSignificand_le (num den : Nat) : roundedSignificand num den ≤ 1 <<< 53 := by
  have h := shiftRight_exponentFor_lt (num / den)
  rw [div_shiftRight] at h
  exact Nat.le_trans (roundHalfEven_le _ _) h

theorem le_roundedSignificand {num den : Nat} (h : exponentFor (num / den) ≠ 0) :
    1 <<< 52 ≤ roundedSignificand num den := by
  have h' := le_shiftRight_exponentFor h
  rw [div_shiftRight] at h'
  exact Nat.le_trans h' (le_roundHalfEven _ _)

/-- The double nearest to `num / den` units of `2 ^ -1074`; none when it exceeds the largest. -/
def ofUnits? (negative : Bool) (num den : Nat) : Option Binary64 :=
  let e := exponentFor (num / den)
  let m := roundedSignificand num den
  if hm : m < 1 <<< 53 then
    if he : e ≤ 2045 then
      some ⟨negative, m, e, hm, he,
        (Decidable.em (e = 0)).imp id fun h => le_roundedSignificand h⟩
    else none
  else if he : e + 1 ≤ 2045 then
    some ⟨negative, 1 <<< 52, e + 1, by decide, he, .inr (Nat.le_refl _)⟩
  else none

/-- The double nearest to `num / den`; none when that is beyond the largest double. -/
def nearest (negative : Bool) (num den : Nat) : Option Binary64 :=
  ofUnits? negative (num * unitsPerOne) den

/-- The double nearest to an integer, an integer beyond all doubles giving the largest. -/
def ofInt (n : Int) : Binary64 :=
  (nearest (n < 0) n.natAbs 1).getD (largest (n < 0))

/-! ## Decimal fractions -/

/-- The double nearest to `digits · 10 ^ exponent`.  Exponents far outside the range are settled
by size, so that no huge power is computed. -/
def ofDecimal? (negative : Bool) (digits : Nat) (exponent : Int) : Option Binary64 :=
  if digits = 0 then some (zero negative)
  else
    let top := exponent + (Nat.log2 digits / 3 : Nat)
    if exponent > 400 then none
    else if top < -400 then some (zero negative)
    else if exponent ≥ 0 then nearest negative (digits * Nat.pow 10 exponent.toNat) 1
    else nearest negative digits (Nat.pow 10 (-exponent).toNat)

/-- The product of two doubles, rounded to nearest. -/
def mul? (x y : Binary64) : Option Binary64 :=
  nearest (x.negative != y.negative) (x.magnitude * y.magnitude) (unitsPerOne * unitsPerOne)

/-- The quotient by a nonzero double, rounded to nearest. -/
def div? (x y : Binary64) : Option Binary64 :=
  nearest (x.negative != y.negative) x.magnitude y.magnitude

/-- The double nearest to a power of ten up to `10 ^ 308`. -/
def powerOfTen (k : Nat) : Binary64 :=
  (nearest false (Nat.pow 10 (min k 308)) 1).getD (largest false)

end Binary64

end FlowCheck
