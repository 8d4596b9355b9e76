import Bulletin.Proofs.Double.Units
import Mathlib.Data.Rat.Floor
import Mathlib.Order.Monotone.Basic
import Mathlib.Tactic.Linarith
import Mathlib.Tactic.Ring

/-!
# The number a double stands for

A double is a rational number: its units over the units that make one, with its sign.  Comparisons
of encodings are comparisons of these numbers, and the whole part is what is left of one when its
fraction is cut off.

## Main statements

- `strictMono_unitsOf`: larger encodings stand for more units
- `nonneg_iff`, `ltOne_iff`, `leOne_iff`: comparisons
- `floor_value`: whole parts
-/

namespace Bulletin.Double

/-! ## Encodings in order -/

/-- `unitsOf` of the next encoding is one step of the binade more. -/
theorem unitsOf_succ (e : Nat) : unitsOf (e + 1) = unitsOf e + twoPow (binade e) := by
  by_cases hnext : binade (e + 1) = binade e
  · have hbase : binade e * twoPow 52 ≤ e := by
      rw [binade, twoPow_52]
      omega
    rw [unitsOf, unitsOf, hnext, Nat.succ_sub hbase, Nat.succ_mul]
  · -- A binade ends one step before twice its first number, with which the next one begins.
    have hbinade : binade (e + 1) = binade e + 1 := by
      rw [binade, binade, twoPow_52] at *
      omega
    have hlast : e - binade e * twoPow 52 = 2 * twoPow 52 - 1 := by
      rw [binade, binade, twoPow_52] at *
      omega
    have hfirst : e + 1 - (binade e + 1) * twoPow 52 = twoPow 52 := by
      rw [binade, twoPow_52] at *
      omega
    rw [unitsOf, unitsOf, hbinade, hlast, hfirst]
    calc twoPow 52 * twoPow (binade e + 1) = 2 * twoPow 52 * twoPow (binade e) := by
          rw [twoPow_succ (binade e)]
          ring
      _ = (2 * twoPow 52 - 1) * twoPow (binade e) + twoPow (binade e) := by
          rw [← Nat.succ_mul, Nat.succ_eq_add_one, Nat.sub_add_cancel (by rw [twoPow_52]; omega)]

/-- `unitsOf` increases from each encoding to the next. -/
theorem unitsOf_lt_unitsOf_succ (e : Nat) : unitsOf e < unitsOf (e + 1) := by
  rw [unitsOf_succ]
  exact Nat.lt_add_of_pos_right (twoPow_pos _)

/-- `unitsOf` is strictly increasing. -/
theorem strictMono_unitsOf : StrictMono unitsOf := strictMono_nat_of_lt_succ unitsOf_lt_unitsOf_succ

theorem unitsOf_zero : unitsOf 0 = 0 := by decide

/-- `oneEncoding` stands for as many units as make one. -/
theorem unitsOf_oneEncoding : unitsOf oneEncoding = unit := by decide +kernel

/-- `isZero` holds of the numbers without any units. -/
theorem units_eq_zero_iff {x : Double} : x.units = 0 ↔ x.isZero = true := by
  rw [units, ← unitsOf_zero, strictMono_unitsOf.injective.eq_iff, isZero, beq_iff_eq]

/-! ## Numbers -/

/-- The number that a double stands for. -/
def value (x : Double) : ℚ := if x.negative then -(x.units / unit) else x.units / unit

section Comparisons

variable {x : Double}

theorem cast_unit_pos : (0 : ℚ) < unit := Nat.cast_pos.2 unit_pos

/-- `value` of a negative number is below zero by its units. -/
theorem value_of_negative (h : x.negative = true) : x.value = -(x.units / unit) := by
  rw [value, if_pos h]

/-- `value` of a number that is not negative is its units. -/
theorem value_of_not_negative (h : x.negative = false) : x.value = x.units / unit := by
  rw [value, if_neg (Bool.eq_false_iff.1 h)]

/-- A magnitude is not negative. -/
theorem quotient_nonneg : (0 : ℚ) ≤ x.units / unit :=
  div_nonneg (Nat.cast_nonneg _) (Nat.cast_nonneg _)

/-- `nonneg` holds of the numbers that are not negative; the negative zero is one of them. -/
theorem nonneg_iff : x.nonneg = true ↔ 0 ≤ x.value := by
  rw [nonneg, Bool.or_eq_true, ← units_eq_zero_iff]
  cases hsign : x.negative with
  | false =>
    rw [value_of_not_negative hsign, Bool.not_false]
    exact iff_of_true (Or.inl rfl) quotient_nonneg
  | true =>
    -- Of the negative encodings only the one of zero does not stand for less than zero.
    have hzero : (x.units : ℚ) / unit = 0 ↔ x.units = 0 := by
      rw [div_eq_zero_iff, or_iff_left cast_unit_pos.ne', Nat.cast_eq_zero]
    rw [value_of_negative hsign, ← hzero, Left.nonneg_neg_iff, quotient_nonneg.ge_iff_eq',
      Bool.not_true, or_iff_right Bool.false_ne_true]

/-- `ltOne` holds of the numbers less than one. -/
theorem ltOne_iff : x.ltOne = true ↔ x.value < 1 := by
  rw [← Bool.not_eq_false, ltOne_eq_false_iff, not_and, not_le]
  cases hsign : x.negative with
  | false =>
    rw [value_of_not_negative hsign, div_lt_one cast_unit_pos, Nat.cast_lt]
    simp
  | true =>
    have hvalue : x.value < 1 := by
      rw [value_of_negative hsign]
      linarith [@quotient_nonneg x]
    simp [hvalue]

/-- `leOne` holds of the numbers that are at most one. -/
theorem leOne_iff : x.leOne = true ↔ x.value ≤ 1 := by
  rw [leOne, Bool.or_eq_true, decide_eq_true_iff]
  cases hsign : x.negative with
  | false =>
    rw [value_of_not_negative hsign, div_le_one cast_unit_pos, Nat.cast_le, units,
      ← unitsOf_oneEncoding, strictMono_unitsOf.le_iff_le]
    simp
  | true =>
    have hvalue : x.value ≤ 1 := by
      rw [value_of_negative hsign]
      linarith [@quotient_nonneg x]
    simp [hvalue]

/-- `whole` is the whole part of a number that is not negative. -/
theorem floor_value (h : 0 ≤ x.value) : ⌊x.value⌋ = x.whole := by
  -- A number with the sign of the negative ones is zero here.
  have hquotient : x.value = x.units / unit := by
    cases hsign : x.negative with
    | false => exact value_of_not_negative hsign
    | true =>
      rw [value_of_negative hsign] at h ⊢
      linarith [@quotient_nonneg x]
  rw [hquotient, whole]
  exact Rat.floor_natCast_div_natCast _ _

end Comparisons

end Bulletin.Double
