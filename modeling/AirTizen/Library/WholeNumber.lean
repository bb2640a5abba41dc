import AirTizen.Library.Binary64

/-!
# Whole numbers in doubles

A script keeps its counters in doubles.  `whole` is the double an integer is
read as; `numeral` is the integer that a double is written as below `10 ^ 21`.
-/

namespace Binary64

/-- The double nearest to an integer, which is an integer again. -/
def whole (number : Nat) : Nat := ⌊ofNat number⌋.toNat

/-- The multiple of the unit that is written for a number, if one is read back
as the number: the nearer one of two, the even one at the same distance. -/
def shortest (number unit : Nat) : Option Nat :=
  let below := number / unit * unit
  let above := below + unit
  let lower := decide (whole below = number)
  let upper := decide (whole above = number)
  let nearer := decide (above - number < number - below) ||
    (decide (above - number = number - below) && number / unit % 2 == 1)
  if upper && (!lower || nearer) then some above
  else if lower then some below
  else none

/-- The integer behind the digits of a double: the fewest digits that are read
back as the same double, filled up with zeros.  Up to `2 ^ 53` integers and
doubles are the same. -/
def numeral (number : Nat) : Nat :=
  if number ≤ 2 ^ 53 then number
  else ((List.range 21).reverse.findSome? fun digits =>
    shortest number (10 ^ digits)).getD number

theorem roundHalfEven_natCast (number : Nat) : roundHalfEven number = number := by
  have floor : ⌊(number : ℚ)⌋ = number := Int.floor_natCast number
  unfold roundHalfEven
  simp only [floor]
  rw [if_pos]
  norm_num

theorem quantum_natCast_nonpos {number : Nat} (small : number < 2 ^ 53) :
    quantum number ≤ 0 := by
  have scaled : ⌊(number : ℚ) * 2 ^ 1074⌋ = ((number * 2 ^ 1074 : Nat) : ℤ) := by
    rw [← @Int.floor_natCast ℚ, Nat.cast_mul, Nat.cast_pow, Nat.cast_ofNat]
  have bits : (number * 2 ^ 1074).log2 ≤ 1126 := by
    by_cases zero : number = 0
    · rw [zero, Nat.zero_mul, Nat.log2_zero]
      exact Nat.zero_le _
    · have positive : number * 2 ^ 1074 ≠ 0 := by positivity
      have bound : number * 2 ^ 1074 < 2 ^ (53 + 1074) := by
        rw [pow_add]
        gcongr
      have bits := (Nat.log2_lt positive).mpr bound
      omega
  unfold quantum
  rw [scaled, Int.toNat_natCast]
  omega

theorem ofNat_eq {number : Nat} (small : number < 2 ^ 53) : ofNat number = number := by
  obtain ⟨digits, exponent⟩ := Int.eq_ofNat_of_zero_le
    (neg_nonneg.mpr (quantum_natCast_nonpos small))
  have unit : (2 : ℚ) ^ quantum number = ((2 : ℚ) ^ digits)⁻¹ := by
    rw [← neg_neg (quantum (number : ℚ)), exponent, zpow_neg, zpow_natCast]
  have scaled : (number : ℚ) / ((2 : ℚ) ^ digits)⁻¹ = ((number * 2 ^ digits : Nat) : ℚ) := by
    push_cast
    rw [div_inv_eq_mul]
  rw [ofNat, round, unit, scaled, roundHalfEven_natCast]
  push_cast
  field_simp

theorem whole_eq {number : Nat} (small : number ≤ 2 ^ 53) : whole number = number := by
  rcases small.lt_or_eq with below | rfl
  · rw [whole, ofNat_eq below, Int.floor_natCast, Int.toNat_natCast]
  · decide +kernel

theorem numeral_eq {number : Nat} (small : number ≤ 2 ^ 53) : numeral number = number :=
  if_pos small

/-- The first integer that is not a double is read as the one before it. -/
theorem whole_pow_succ : whole (2 ^ 53 + 1) = 2 ^ 53 := by decide +kernel

example : numeral (2 ^ 63) = 9223372036854776000 := by decide +kernel

end Binary64
