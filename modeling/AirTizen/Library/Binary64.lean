import Mathlib.Algebra.Order.Field.Power
import Mathlib.Data.Rat.Floor
import Mathlib.Tactic.Linarith
import Mathlib.Tactic.NormNum
import Mathlib.Tactic.Positivity
import Mathlib.Tactic.Ring
import AirTizen.Library.Text

/-!
# Non-negative double arithmetic

Finite non-negative doubles are the rational numbers they denote.  `round` is
the rounding of IEEE 754 binary64 to the nearest double, ties to even, below
the overflow threshold; `fixed6` is what `%.6f` prints.
-/

namespace Binary64

open CText

def roundHalfEven (x : ℚ) : ℤ :=
  let fraction := x - ⌊x⌋
  if fraction < 1 / 2 then ⌊x⌋
  else if 1 / 2 < fraction then ⌊x⌋ + 1
  else if ⌊x⌋ % 2 = 0 then ⌊x⌋
  else ⌊x⌋ + 1

/-- Exponent of the last of the 53 significant bits of a double near `x`. -/
def quantum (x : ℚ) : ℤ :=
  max ((⌊x * 2 ^ 1074⌋.toNat.log2 : ℤ) - 1126) (-1074)

def round (x : ℚ) : ℚ := roundHalfEven (x / 2 ^ quantum x) * 2 ^ quantum x

def ofNat (number : Nat) : ℚ := round number

def div (x y : ℚ) : ℚ := round (x / y)

def sixDigits (number : Nat) : Bytes :=
  [number / 100000, number / 10000, number / 1000, number / 100, number / 10, number].map
    fun digits => (48 + digits % 10).toUInt8

/-- `%.6f`. -/
def fixed6 (x : ℚ) : Bytes :=
  let millionths := (roundHalfEven (x * 1000000)).toNat
  decimal (millionths / 1000000) ++ ascii "." ++ sixDigits (millionths % 1000000)

/-- A double as comparisons see it: both zeros are the rational zero. -/
inductive Double where
  | finite (value : ℚ)
  | infinite (negative : Bool)
  | nan
  deriving DecidableEq

def Double.inRange (limit : ℚ) : Double → Bool
  | .finite value => 0 ≤ value && value ≤ limit
  | .infinite _ | .nan => false

def Double.isFinite : Double → Bool
  | .finite _ => true
  | .infinite _ | .nan => false

/-- `0 <= x`. -/
def Double.nonneg : Double → Bool
  | .finite value => 0 ≤ value
  | .infinite negative => !negative
  | .nan => false

def Double.min : Double → Double → Double
  | .nan, _ | _, .nan => .nan
  | .infinite true, _ | _, .infinite true => .infinite true
  | .infinite false, other | other, .infinite false => other
  | .finite first, .finite second => .finite (Min.min first second)

def nearest (negative : Bool) (magnitude : ℚ) : Double :=
  if 2 ^ 1024 ≤ round magnitude then .infinite negative
  else .finite (if negative then -round magnitude else round magnitude)

def Double.mul : Double → Double → Double
  | .finite first, .finite second =>
      nearest (decide (first < 0) != decide (second < 0)) |first * second|
  | .nan, _ | _, .nan => .nan
  | .infinite negative, .infinite other => .infinite (negative != other)
  | .infinite negative, .finite value | .finite value, .infinite negative =>
      if value = 0 then .nan else .infinite (negative != decide (value < 0))

theorem roundHalfEven_le (x : ℚ) : (roundHalfEven x : ℚ) ≤ x + 1 := by
  have below := Int.floor_le x
  unfold roundHalfEven
  simp only
  split
  · linarith
  · split
    · push_cast
      linarith
    · split
      · linarith
      · push_cast
        linarith

theorem two_zpow_quantum_le {x : ℚ} (nonneg : 0 ≤ x) : (2 : ℚ) ^ quantum x ≤ max x 1 := by
  unfold quantum
  rcases le_total ((⌊x * 2 ^ 1074⌋.toNat.log2 : ℤ) - 1126) (-1074) with small | large
  · rw [max_eq_right small]
    refine le_trans ?_ (le_max_right x 1)
    exact zpow_le_one_of_nonpos₀ (by norm_num) (by norm_num)
  · rw [max_eq_left large]
    refine le_trans ?_ (le_max_left x 1)
    set scaled := ⌊x * 2 ^ 1074⌋.toNat with scaledEquality
    have nonzero : scaled ≠ 0 := by
      intro zero
      rw [zero] at large
      norm_num at large
    have power : (2 : ℚ) ^ scaled.log2 ≤ scaled := by
      exact_mod_cast Nat.log2_self_le nonzero
    have floor : (scaled : ℚ) ≤ x * 2 ^ 1074 := by
      have nonnegative : 0 ≤ ⌊x * 2 ^ 1074⌋ := Int.floor_nonneg.mpr (by positivity)
      have cast : (scaled : ℚ) = (⌊x * 2 ^ 1074⌋ : ℚ) := by
        rw [scaledEquality, ← Int.cast_natCast, Int.toNat_of_nonneg nonnegative]
      rw [cast]
      exact Int.floor_le _
    calc (2 : ℚ) ^ ((scaled.log2 : ℤ) - 1126)
        = 2 ^ scaled.log2 / 2 ^ 1126 := by
          rw [zpow_sub₀ (by norm_num), zpow_natCast]
          norm_cast
      _ ≤ x * 2 ^ 1074 / 2 ^ 1126 := by gcongr; exact power.trans floor
      _ ≤ x := by
          rw [div_le_iff₀ (by positivity)]
          exact mul_le_mul_of_nonneg_left (pow_le_pow_right₀ (by norm_num) (by norm_num)) nonneg

/-- A crude bound on the rounded value, enough to bound its printed width. -/
theorem round_le {x : ℚ} (nonneg : 0 ≤ x) : round x ≤ 2 * x + 1 := by
  have positive : (0 : ℚ) < 2 ^ quantum x := by positivity
  have step := two_zpow_quantum_le nonneg
  have bound := roundHalfEven_le (x / 2 ^ quantum x)
  calc round x
      ≤ (x / 2 ^ quantum x + 1) * 2 ^ quantum x := by
        unfold round
        gcongr
    _ = x + 2 ^ quantum x := by
        rw [add_mul, div_mul_cancel₀ _ positive.ne', one_mul]
    _ ≤ 2 * x + 1 := by
        rcases max_cases x 1 with ⟨equality, _⟩ | ⟨equality, _⟩ <;> linarith

theorem roundHalfEven_nonneg {x : ℚ} (nonneg : 0 ≤ x) : 0 ≤ roundHalfEven x := by
  have floor : 0 ≤ ⌊x⌋ := Int.floor_nonneg.mpr nonneg
  unfold roundHalfEven
  simp only
  split
  · exact floor
  · split
    · omega
    · split <;> omega

theorem round_nonneg {x : ℚ} (nonneg : 0 ≤ x) : 0 ≤ round x := by
  have positive : (0 : ℚ) < 2 ^ quantum x := by positivity
  have rounded : (0 : ℚ) ≤ roundHalfEven (x / 2 ^ quantum x) := by
    exact_mod_cast roundHalfEven_nonneg (by positivity)
  exact mul_nonneg rounded positive.le

theorem fixed6_length_le {x : ℚ} {width : Nat} (positive : 0 < width) (nonneg : 0 ≤ x)
    (bound : x + 1 ≤ 10 ^ width) : (fixed6 x).length ≤ width + 7 := by
  have millionths : (roundHalfEven (x * 1000000)).toNat / 1000000 < 10 ^ width := by
    rw [Nat.div_lt_iff_lt_mul (by norm_num)]
    have rounded := roundHalfEven_le (x * 1000000)
    have nonnegative : 0 ≤ roundHalfEven (x * 1000000) := roundHalfEven_nonneg (by positivity)
    have cast : ((roundHalfEven (x * 1000000)).toNat : ℚ) = roundHalfEven (x * 1000000) := by
      exact_mod_cast Int.toNat_of_nonneg nonnegative
    have strict : ((roundHalfEven (x * 1000000)).toNat : ℚ) < 10 ^ width * 1000000 := by
      rw [cast]
      linarith
    exact_mod_cast strict
  have digits := decimal_length_le positive millionths
  simp only [fixed6, sixDigits, List.length_append, List.length_map, List.length_cons,
    List.length_nil]
  have dot : (ascii ".").length = 1 := rfl
  omega

end Binary64
