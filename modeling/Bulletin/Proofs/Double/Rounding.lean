import Bulletin.Proofs.Double.Value
import Mathlib.Algebra.Order.Field.Basic
import Mathlib.Tactic.LinearCombination

/-!
# Rounding to the nearest double

A number is rounded to the double nearest to it, and of two that are equally near to the one with the
even encoding.  The encodings go on behind the largest finite double in the same steps; a number that
is nearest to one of those is too large for a double.

## Main statements

- `isNearest_nearest`: no encoding is nearer to a quotient than the one it is rounded to
- `IsNearest.lt_infinityEncoding_iff`: which numbers are small enough
- `round?_eq_some_iff`: a quotient is rounded to one double, if it is small enough
- `exists_roundsTo`: every number that is small enough rounds to a double
-/

namespace Bulletin.Double

/-! ## Distances -/

section Distances

variable {a b u : ℚ}

/-- The smaller of two numbers is as near as the larger one up to the middle between them. -/
theorem abs_sub_le_iff_of_lt (h : a < b) : |a - u| ≤ |b - u| ↔ 2 * u ≤ a + b := by
  have hsquares : (b - u) ^ 2 - (a - u) ^ 2 = (b - a) * (a + b - 2 * u) := by ring
  rw [← sq_le_sq, ← sub_nonneg, hsquares, mul_nonneg_iff_of_pos_left (sub_pos.2 h), sub_nonneg]

/-- The larger of two numbers is as near as the smaller one from the middle between them on. -/
theorem abs_sub_le_iff_of_gt (h : b < a) : |a - u| ≤ |b - u| ↔ b + a ≤ 2 * u := by
  have hsquares : (b - u) ^ 2 - (a - u) ^ 2 = (a - b) * (2 * u - (b + a)) := by ring
  rw [← sq_le_sq, ← sub_nonneg, hsquares, mul_nonneg_iff_of_pos_left (sub_pos.2 h), sub_nonneg]

/-- Two numbers are equally near in the middle between them. -/
theorem abs_sub_eq_iff_of_lt (h : a < b) : |a - u| = |b - u| ↔ 2 * u = a + b := by
  rw [le_antisymm_iff, abs_sub_le_iff_of_lt h, abs_sub_le_iff_of_gt h, ← le_antisymm_iff]

end Distances

/-! ## The nearest encoding -/

/-- Of all encodings, those past the finite ones included, this is the nearest to a number of units.
If another one is as near, this is the even one. -/
structure IsNearest (u : ℚ) (e : Nat) : Prop where
  le : ∀ e', |(unitsOf e : ℚ) - u| ≤ |(unitsOf e' : ℚ) - u|
  even : ∀ e', e' ≠ e → |(unitsOf e' : ℚ) - u| = |(unitsOf e : ℚ) - u| → e % 2 = 0

section Nearest

variable {u : ℚ} {e e' num den : Nat}

/-- `unitsOf` is strictly increasing in the rational numbers as well. -/
theorem cast_unitsOf_lt (h : e < e') : (unitsOf e : ℚ) < unitsOf e' :=
  Nat.cast_lt.2 (strictMono_unitsOf h)

/-- An encoding is the nearest to the numbers between the middles to the others. -/
theorem IsNearest.of_middles
    (hbelow : ∀ e' < e, (unitsOf e' : ℚ) + unitsOf e ≤ 2 * u ∧
      (2 * u = unitsOf e' + unitsOf e → e % 2 = 0))
    (habove : ∀ e' > e, 2 * u ≤ (unitsOf e : ℚ) + unitsOf e' ∧
      (2 * u = unitsOf e + unitsOf e' → e % 2 = 0)) : IsNearest u e where
  le e' := by
    obtain hlt | rfl | hgt := Nat.lt_trichotomy e' e
    · exact (abs_sub_le_iff_of_gt (cast_unitsOf_lt hlt)).2 (hbelow e' hlt).1
    · exact le_rfl
    · exact (abs_sub_le_iff_of_lt (cast_unitsOf_lt hgt)).2 (habove e' hgt).1
  even e' hne htie := by
    obtain hlt | hgt := Nat.lt_or_gt_of_ne hne
    · exact (hbelow e' hlt).2 ((abs_sub_eq_iff_of_lt (cast_unitsOf_lt hlt)).1 htie)
    · exact (habove e' hgt).2 ((abs_sub_eq_iff_of_lt (cast_unitsOf_lt hgt)).1 htie.symm)

/-- `roundQuotient` rounds by a half at most, and by a half to an even number only. -/
theorem roundQuotient_bounds (num : Nat) (hden : 0 < den) :
    2 * (den * roundQuotient num den) ≤ 2 * num + den ∧
      2 * num ≤ 2 * (den * roundQuotient num den) + den ∧
      (2 * (den * roundQuotient num den) = 2 * num + den ∨
        2 * num = 2 * (den * roundQuotient num den) + den → roundQuotient num den % 2 = 0) := by
  -- With the division written as a product the rest is linear in quotient and remainder.
  have hnum : den * (num / den) + num % den = num := Nat.div_add_mod num den
  have hrest : num % den < den := Nat.mod_lt num hden
  simp only [roundQuotient]
  generalize num / den = q at hnum
  generalize num % den = r at hnum hrest
  have hnext : den * (q + 1) = den * q + den := Nat.mul_succ den q
  -- What is cut off is less than a half, more than a half, or a half.
  split
  · omega
  · split
    · rw [hnext]
      omega
    · obtain heven | hodd := Nat.mod_two_eq_zero_or_one q
      · rw [heven, Nat.add_zero]
        omega
      · rw [hodd, hnext]
        omega

/-- `unitsOf` of an encoding given by its binade and what is left of it, which may be the first
number of the next binade. -/
theorem unitsOf_eq_of_le {k q : Nat} (hq : q ≤ twoPow 53) (hk : k = 0 ∨ twoPow 52 ≤ q) :
    unitsOf (k * twoPow 52 + q) = q * twoPow k := by
  obtain hlt | rfl := Nat.lt_or_eq_of_le hq
  · exact unitsOf_eq hlt hk
  · have hnext : k * twoPow 52 + twoPow 53 = (k + 1) * twoPow 52 + twoPow 52 := by
      rw [twoPow_53, twoPow_52]
      omega
    rw [hnext, unitsOf_eq (twoPow_lt_twoPow (by decide)) (.inr le_rfl), ← twoPow_add,
      ← twoPow_add, show 52 + (k + 1) = 53 + k by omega]

/-- `roundQuotient` does not round below the whole part. -/
theorem div_le_roundQuotient (num den : Nat) : num / den ≤ roundQuotient num den := by
  simp only [roundQuotient]
  split
  · exact le_rfl
  · split <;> exact Nat.le_add_right _ _

/-- `roundQuotient` rounds up by one at most. -/
theorem roundQuotient_le (num den : Nat) : roundQuotient num den ≤ num / den + 1 := by
  simp only [roundQuotient]
  split
  · exact Nat.le_succ _
  · split <;> omega

/-- `nearest` as a binade and what is left of the quotient in steps of that binade.  Only the lowest
binade has numbers of fewer steps than the leading bit makes. -/
theorem exists_nearest_eq (num : Nat) (hden : 0 < den) :
    ∃ k, nearest num den = k * twoPow 52 + roundQuotient (num * unit) (den * twoPow k) ∧
      roundQuotient (num * unit) (den * twoPow k) ≤ twoPow 53 ∧
      (k = 0 ∨ twoPow 52 * (den * twoPow k) ≤ num * unit) := by
  refine ⟨Nat.log2 (num * unit / den) - 52, rfl, ?_⟩
  generalize num * unit = n
  generalize hlog : Nat.log2 (n / den) = log
  have hstep : 0 < den * twoPow (log - 52) := Nat.mul_pos hden (twoPow_pos _)
  -- Less than one unit lies in the lowest binade; otherwise the logarithm gives the binade.
  by_cases hzero : n / den = 0
  · obtain rfl : log = 0 := by rw [← hlog, hzero]; rfl
    refine ⟨(roundQuotient_le _ _).trans ?_, .inl rfl⟩
    rw [twoPow_zero, Nat.mul_one, hzero, twoPow_53]
    decide
  · have hlow : twoPow log ≤ n / den := (le_log2_iff hzero).1 hlog.ge
    have hhigh : n / den < twoPow (log + 1) := (log2_lt_iff hzero).1 (by omega)
    constructor
    · have hquotient : n / (den * twoPow (log - 52)) < twoPow 53 := by
        rw [← Nat.div_div_eq_div_mul, Nat.div_lt_iff_lt_mul (twoPow_pos _), ← twoPow_add]
        exact hhigh.trans_le (twoPow_le_twoPow (by omega))
      exact (roundQuotient_le _ _).trans hquotient
    · obtain hle | hlt := Nat.lt_or_ge 52 log |>.symm
      · exact .inl (Nat.sub_eq_zero_of_le hle)
      · right
        calc twoPow 52 * (den * twoPow (log - 52)) = twoPow log * den := by
              rw [Nat.mul_left_comm, ← twoPow_add, Nat.add_sub_cancel' hlt.le, Nat.mul_comm]
          _ ≤ n := (Nat.le_div_iff_mul_le hden).1 hlow

/-- `roundQuotient_bounds` in units: a number is rounded by half a step at most, and by half a step
to an even number of steps only. -/
theorem roundQuotient_units_bounds (hden : 0 < den) {n : Nat} {u : ℚ} (hu : (n : ℚ) = den * u)
    {k r : Nat} (hr : roundQuotient n (den * twoPow k) = r) :
    2 * (r * twoPow k : ℚ) ≤ 2 * u + twoPow k ∧ 2 * u ≤ 2 * (r * twoPow k : ℚ) + twoPow k ∧
      (2 * (r * twoPow k : ℚ) = 2 * u + twoPow k ∨
        2 * u = 2 * (r * twoPow k : ℚ) + twoPow k → r % 2 = 0) := by
  have hpos : (0 : ℚ) < den := Nat.cast_pos.2 hden
  obtain ⟨hlow, hhigh, htie⟩ := roundQuotient_bounds n (Nat.mul_pos hden (twoPow_pos k))
  rw [hr] at hlow hhigh htie
  -- The bounds hold of the quotient multiplied out, so the denominator is taken out of each.
  refine ⟨?_, ?_, fun h => htie ?_⟩
  · have hlow' : (2 * (den * twoPow k * r) : ℚ) ≤ 2 * n + den * twoPow k := by exact_mod_cast hlow
    exact le_of_mul_le_mul_left (by linarith) hpos
  · have hhigh' : (2 * n : ℚ) ≤ 2 * (den * twoPow k * r) + den * twoPow k := by
      exact_mod_cast hhigh
    exact le_of_mul_le_mul_left (by linarith) hpos
  · rw [← Nat.cast_inj (R := ℚ), ← Nat.cast_inj (R := ℚ)]
    push_cast
    rw [hu]
    refine h.imp (fun h => ?_) fun h => ?_
    · linear_combination den * h
    · linear_combination den * h

/-- In a binade and above it the encodings are a step of the binade apart or more. -/
theorem unitsOf_add_twoPow_le {k : Nat} (hk : k ≤ binade e) (h : e < e') :
    unitsOf e + twoPow k ≤ unitsOf e' := by
  calc unitsOf e + twoPow k ≤ unitsOf (e + 1) := by
        rw [unitsOf_succ]
        exact Nat.add_le_add_left (twoPow_le_twoPow hk) _
    _ ≤ unitsOf e' := strictMono_unitsOf.monotone h

/-- A number that is rounded to `r` steps in its binade is nearest to the encoding of these. -/
theorem isNearest_of_steps {k r : Nat} (hle : r ≤ twoPow 53) (hfirst : k = 0 ∨ twoPow 52 ≤ r)
    (hleading : k = 0 ∨ (twoPow 52 * twoPow k : ℚ) ≤ u)
    (hlow : 2 * (r * twoPow k : ℚ) ≤ 2 * u + twoPow k)
    (hhigh : 2 * u ≤ 2 * (r * twoPow k : ℚ) + twoPow k)
    (htie : 2 * (r * twoPow k : ℚ) = 2 * u + twoPow k ∨
      2 * u = 2 * (r * twoPow k : ℚ) + twoPow k → r % 2 = 0) :
    IsNearest u (k * twoPow 52 + r) := by
  have hunits := unitsOf_eq_of_le hle hfirst
  have hparity : (k * twoPow 52 + r) % 2 = r % 2 := by
    rw [twoPow_52]
    omega
  rw [← Nat.cast_mul, ← hunits] at hlow hhigh htie
  rw [← hparity] at htie
  apply IsNearest.of_middles
  · intro e' he'
    by_cases hedge : k ≠ 0 ∧ r = twoPow 52
    · -- The first number of a binade is rounded to from above only.
      obtain ⟨hk, rfl⟩ := hedge
      have hlt := cast_unitsOf_lt he'
      have hu := hleading.resolve_left hk
      rw [← Nat.cast_mul, ← hunits] at hu
      exact ⟨by linarith, fun h => by linarith⟩
    · -- Everywhere else the encoding before lies in the same binade, a whole step below.
      have hbinade : k ≤ binade (k * twoPow 52 + r - 1) := by
        rw [twoPow_52] at hfirst hedge
        rw [binade, twoPow_52]
        omega
      have hstep : (unitsOf e' : ℚ) + twoPow k ≤ unitsOf (k * twoPow 52 + r) := by
        have hlast : unitsOf e' ≤ unitsOf (k * twoPow 52 + r - 1) :=
          strictMono_unitsOf.monotone (Nat.le_sub_one_of_lt he')
        have hnext := unitsOf_add_twoPow_le hbinade (Nat.sub_one_lt_of_lt he')
        exact_mod_cast (Nat.add_le_add_right hlast _).trans hnext
      exact ⟨by linarith, fun h => htie (.inl (by linarith))⟩
  · intro e' he'
    -- Above, the next encoding is a whole step away.
    have hbinade : k ≤ binade (k * twoPow 52 + r) := by
      rw [twoPow_52] at hfirst
      rw [binade, twoPow_52]
      omega
    have hstep : (unitsOf (k * twoPow 52 + r) : ℚ) + twoPow k ≤ unitsOf e' := by
      exact_mod_cast unitsOf_add_twoPow_le hbinade he'
    exact ⟨by linarith, fun h => htie (.inr (by linarith))⟩

/-- `nearest` is the encoding that no other one is nearer than. -/
theorem isNearest_nearest (num : Nat) (hden : 0 < den) :
    IsNearest ((num * unit : Nat) / den) (nearest num den) := by
  have hpos : (0 : ℚ) < den := Nat.cast_pos.2 hden
  obtain ⟨k, he, hle, hleast⟩ := exists_nearest_eq num hden
  have hu : ((num * unit : Nat) : ℚ) = den * ((num * unit : Nat) / den) :=
    (mul_div_cancel₀ _ hpos.ne').symm
  obtain ⟨hlow, hhigh, htie⟩ := roundQuotient_units_bounds hden hu (k := k) rfl
  -- Both the quotient and the number are at least the first of their binade, unless `k` is zero.
  have hfirst : k = 0 ∨ twoPow 52 ≤ roundQuotient (num * unit) (den * twoPow k) := by
    refine hleast.imp_right fun h => ?_
    have hstep : 0 < den * twoPow k := Nat.mul_pos hden (twoPow_pos k)
    exact ((Nat.le_div_iff_mul_le hstep).2 h).trans (div_le_roundQuotient _ _)
  have hleading : k = 0 ∨ (twoPow 52 * twoPow k : ℚ) ≤ (num * unit : Nat) / den := by
    refine hleast.imp_right fun h => ?_
    rw [le_div_iff₀ hpos]
    calc (twoPow 52 * twoPow k * den : ℚ) = (twoPow 52 * (den * twoPow k) : Nat) := by
          push_cast
          ring
      _ ≤ (num * unit : Nat) := Nat.cast_le.2 h
  rw [he]
  exact isNearest_of_steps hle hfirst hleading hlow hhigh htie

/-- No two encodings are nearest to one number: between two of them there is a third, or one of them
is odd. -/
theorem IsNearest.unique (h : IsNearest u e) (h' : IsNearest u e') : e = e' := by
  wlog hlt : e < e' generalizing e e'
  · obtain rfl | hgt := Nat.eq_or_lt_of_not_lt hlt
    · rfl
    · exact (this h' h hgt).symm
  · have htie : |(unitsOf e : ℚ) - u| = |(unitsOf e' : ℚ) - u| := le_antisymm (h.le e') (h'.le e)
    have heven := h.even e' hlt.ne' htie.symm
    have heven' := h'.even e hlt.ne htie
    have hbetween : e + 1 < e' := by omega
    have hnear := (abs_sub_le_iff_of_lt (cast_unitsOf_lt (Nat.lt_succ_self e))).1 (h.le (e + 1))
    have hmiddle := (abs_sub_eq_iff_of_lt (cast_unitsOf_lt hlt)).1 htie
    -- The third one is nearer than both, which are equally near.
    linarith [cast_unitsOf_lt hbetween]

/-! ### Numbers that are too large -/

/-- Half a step above the largest double: from here on a number is nearest to an encoding past the
finite ones. -/
def overflow : ℚ := twoPow 1024 - twoPow 970

/-- `infinityEncoding` stands for `2 ^ 1024`. -/
theorem unitsOf_infinityEncoding : unitsOf infinityEncoding = twoPow 1024 * unit := by
  decide +kernel

/-- The largest finite double is two half steps below `2 ^ 1024`. -/
theorem unitsOf_last :
    unitsOf (infinityEncoding - 1) + 2 * (twoPow 970 * unit) = twoPow 1024 * unit := by
  decide +kernel

/-- The middle between the last finite encoding and the next one. -/
theorem unitsOf_last_add_unitsOf_infinityEncoding :
    (unitsOf (infinityEncoding - 1) : ℚ) + unitsOf infinityEncoding = 2 * (overflow * unit) := by
  have hlast : (unitsOf (infinityEncoding - 1) : ℚ) + 2 * (twoPow 970 * unit) =
      twoPow 1024 * unit := by
    exact_mod_cast unitsOf_last
  have hnext : (unitsOf infinityEncoding : ℚ) = twoPow 1024 * unit := by
    exact_mod_cast unitsOf_infinityEncoding
  rw [hnext, overflow]
  linear_combination hlast

/-- The encodings that are not finite come behind the last finite one. -/
theorem last_lt_of_infinityEncoding_le (h : infinityEncoding ≤ e) : infinityEncoding - 1 < e := by
  rw [infinityEncoding, twoPow_52] at h ⊢
  omega

/-- The last finite encoding is nearer to a number that is small enough than the ones past it. -/
theorem abs_last_sub_lt (hu : u < overflow * unit) (h : infinityEncoding ≤ e) :
    |(unitsOf (infinityEncoding - 1) : ℚ) - u| < |(unitsOf e : ℚ) - u| := by
  have hnext : (unitsOf infinityEncoding : ℚ) ≤ unitsOf e :=
    Nat.cast_le.2 (strictMono_unitsOf.monotone h)
  have hmiddle := unitsOf_last_add_unitsOf_infinityEncoding
  rw [← not_le, abs_sub_le_iff_of_gt (cast_unitsOf_lt (last_lt_of_infinityEncoding_le h))]
  linarith

/-- A number is nearest to a finite encoding if and only if it is less than `overflow`.  The last of
them is odd, so the middle itself is too large. -/
theorem IsNearest.lt_infinityEncoding_iff (h : IsNearest u e) :
    e < infinityEncoding ↔ u < overflow * unit := by
  have hmiddle := unitsOf_last_add_unitsOf_infinityEncoding
  constructor
  · intro hfinite
    by_contra hlarge
    have hlast : (unitsOf e : ℚ) ≤ unitsOf (infinityEncoding - 1) :=
      Nat.cast_le.2 (strictMono_unitsOf.monotone (Nat.le_sub_one_of_lt hfinite))
    have hnear := (abs_sub_le_iff_of_lt (cast_unitsOf_lt hfinite)).1 (h.le infinityEncoding)
    -- A number from the middle on is at least as near to infinity, so it is the middle and a tie.
    have heq : (unitsOf e : ℚ) = unitsOf (infinityEncoding - 1) := by linarith
    obtain rfl := strictMono_unitsOf.injective (Nat.cast_injective heq)
    have htie := (abs_sub_eq_iff_of_lt (cast_unitsOf_lt hfinite)).2 (by linarith)
    exact absurd (h.even _ hfinite.ne' htie.symm) (by decide)
  · intro hsmall
    by_contra hinfinite
    exact (abs_last_sub_lt hsmall (Nat.le_of_not_lt hinfinite)).not_ge (h.le _)

end Nearest

/-! ## Numbers with their signs -/

/-- A number with a sign. -/
def signed (negative : Bool) (q : ℚ) : ℚ := if negative then -q else q

/-- A double is the one that a number with this sign rounds to: the number is small enough, no double
is nearer to it, and if another one is as near, this is the even one. -/
structure RoundsTo (negative : Bool) (q : ℚ) (x : Double) : Prop where
  sign : x.negative = negative
  small : |q| < overflow
  nearest : ∀ y : Double, |x.value - q| ≤ |y.value - q|
  even : ∀ y : Double, y.magnitude ≠ x.magnitude → |y.value - q| = |x.value - q| →
    x.magnitude % 2 = 0

section Signs

variable {negative : Bool} {p q : ℚ} {x : Double}

/-- One sign for two numbers does not change their distance. -/
theorem abs_signed_sub_signed (negative : Bool) (p q : ℚ) :
    |signed negative p - signed negative q| = |p - q| := by
  cases negative with
  | false => rfl
  | true => rw [signed, signed, if_pos rfl, if_pos rfl, neg_sub_neg, abs_sub_comm]

/-- `signed` keeps the magnitude. -/
theorem abs_signed (negative : Bool) (hq : 0 ≤ q) : |signed negative q| = q := by
  cases negative with
  | false => exact abs_of_nonneg hq
  | true => rw [signed, if_pos rfl, abs_neg, abs_of_nonneg hq]

/-- Another sign does not bring two numbers nearer to each other. -/
theorem abs_sub_le_abs_signed_sub_signed (negative negative' : Bool) (hp : 0 ≤ p) (hq : 0 ≤ q) :
    |p - q| ≤ |signed negative p - signed negative' q| := by
  have h := abs_abs_sub_abs_le (signed negative p) (signed negative' q)
  rwa [abs_signed negative hp, abs_signed negative' hq] at h

/-- `value` is `signed` of the magnitude. -/
theorem value_eq_signed (x : Double) : x.value = signed x.negative (x.units / unit) := rfl

/-- The distance of a double from a number, in units. -/
theorem abs_units_sub (x : Double) (q : ℚ) :
    |(unitsOf x.magnitude : ℚ) - q * unit| = |x.units / unit - q| * unit := by
  have hunit : (0 : ℚ) < unit := cast_unit_pos
  rw [← abs_of_pos hunit, ← abs_mul, abs_of_pos hunit, sub_mul, div_mul_cancel₀ _ hunit.ne', units]

/-- The double with an encoding and a sign. -/
theorem exists_double (negative : Bool) {e : Nat} (h : e < infinityEncoding) :
    ∃ x : Double, x.negative = negative ∧ x.magnitude = e := ⟨⟨negative, e, h⟩, rfl, rfl⟩

/-- `RoundsTo` keeps the sign and asks for the nearest encoding. -/
theorem roundsTo_signed_iff (hq : 0 ≤ q) :
    RoundsTo negative (signed negative q) x ↔
      x.negative = negative ∧ IsNearest (q * unit) x.magnitude := by
  have hunit : (0 : ℚ) < unit := cast_unit_pos
  -- Doubles of the same sign are as far away as their encodings; others are farther away.
  have hsame (y : Double) (h : y.negative = negative) :
      |(unitsOf y.magnitude : ℚ) - q * unit| = |y.value - signed negative q| * unit := by
    rw [abs_units_sub, value_eq_signed, h, abs_signed_sub_signed]
  have hother (y : Double) :
      |(unitsOf y.magnitude : ℚ) - q * unit| ≤ |y.value - signed negative q| * unit := by
    rw [abs_units_sub, value_eq_signed]
    exact mul_le_mul_of_nonneg_right
      (abs_sub_le_abs_signed_sub_signed _ _ quotient_nonneg hq) hunit.le
  constructor
  · intro h
    have hsmall : q * unit < overflow * unit := by
      have hlt := h.small
      rw [abs_signed negative hq] at hlt
      exact mul_lt_mul_of_pos_right hlt hunit
    have hnear (e : Nat) (he : e < infinityEncoding) :
        |(unitsOf x.magnitude : ℚ) - q * unit| ≤ |(unitsOf e : ℚ) - q * unit| := by
      obtain ⟨y, hy, rfl⟩ := exists_double negative he
      rw [hsame x h.sign, hsame y hy]
      exact mul_le_mul_of_nonneg_right (h.nearest y) hunit.le
    -- Encodings past the finite ones are no doubles; the last finite one stands in for them.
    refine ⟨h.sign, ⟨fun e => ?_, fun e hne htie => ?_⟩⟩
    · obtain he | he := Nat.lt_or_ge e infinityEncoding
      · exact hnear e he
      · exact (hnear _ (by decide)).trans (abs_last_sub_lt hsmall he).le
    · obtain he | he := Nat.lt_or_ge e infinityEncoding
      · obtain ⟨y, hy, rfl⟩ := exists_double negative he
        rw [hsame x h.sign, hsame y hy, mul_left_inj' hunit.ne'] at htie
        exact h.even y hne htie
      · -- The last finite encoding would be nearer than both.
        have hlast := abs_last_sub_lt hsmall he
        rw [htie] at hlast
        exact absurd (hnear _ (by decide)) hlast.not_ge
  · rintro ⟨hsign, h⟩
    have hsmall := h.lt_infinityEncoding_iff.1 x.magnitude_lt
    refine ⟨hsign, ?_, ?_, ?_⟩
    · rw [abs_signed negative hq]
      exact lt_of_mul_lt_mul_right hsmall hunit.le
    · intro y
      rw [← mul_le_mul_iff_left₀ hunit, ← hsame x hsign]
      exact (h.le y.magnitude).trans (hother y)
    · intro y hne htie
      apply h.even y.magnitude hne
      refine le_antisymm ?_ (h.le y.magnitude)
      rw [hsame x hsign, ← htie]
      exact hother y

/-- A double is given by its sign and its encoding. -/
theorem eq_of_negative_of_magnitude {y : Double} (hsign : x.negative = y.negative)
    (hmagnitude : x.magnitude = y.magnitude) : x = y := by
  cases x
  cases y
  cases hsign
  cases hmagnitude
  rfl

/-- `RoundsTo` holds of one double at most. -/
theorem RoundsTo.unique {y : Double} (hq : 0 ≤ q) (h : RoundsTo negative (signed negative q) x)
    (h' : RoundsTo negative (signed negative q) y) : x = y := by
  rw [roundsTo_signed_iff hq] at h h'
  exact eq_of_negative_of_magnitude (h.1.trans h'.1.symm) (h.2.unique h'.2)

/-- A double rounds to itself. -/
theorem roundsTo_value (x : Double) : RoundsTo x.negative x.value x := by
  have hunits : (x.units / unit * unit : ℚ) = unitsOf x.magnitude :=
    div_mul_cancel₀ _ cast_unit_pos.ne'
  rw [value_eq_signed, roundsTo_signed_iff quotient_nonneg, hunits]
  refine ⟨rfl, ⟨fun e => ?_, fun e hne htie => absurd ?_ hne⟩⟩
  · rw [sub_self, abs_zero]
    exact abs_nonneg _
  · -- A tie at distance zero is the same number.
    rw [sub_self, abs_zero, abs_eq_zero, sub_eq_zero, Nat.cast_inj] at htie
    exact strictMono_unitsOf.injective htie

/-- A number of less than half a unit rounds to zero. -/
theorem roundsTo_signedZero (negative : Bool) (hq : 0 ≤ q) (hsmall : 2 * (q * unit) < 1) :
    RoundsTo negative (signed negative q) (signedZero negative) := by
  rw [roundsTo_signed_iff hq]
  refine ⟨rfl, IsNearest.of_middles (fun e he => absurd he (Nat.not_lt_zero e)) fun e he => ?_⟩
  have hunits : (1 : ℚ) ≤ unitsOf e := by
    have hlt : unitsOf 0 < unitsOf e := strictMono_unitsOf he
    rw [unitsOf_zero] at hlt
    exact_mod_cast hlt
  have hzero : (unitsOf (signedZero negative).magnitude : ℚ) = 0 := by
    exact_mod_cast unitsOf_zero
  exact ⟨by linarith, fun _ => rfl⟩

section Quotients

variable {num den : Nat}

theorem isNearest_quotient (hden : 0 < den) :
    IsNearest (num / den * unit) (nearest num den) := by
  have h := isNearest_nearest num hden
  rwa [Nat.cast_mul, mul_div_right_comm] at h

/-- A quotient is rounded to the double nearest to it. -/
theorem round?_eq_some_iff (hden : 0 < den) :
    round? negative num den = some x ↔ RoundsTo negative (signed negative (num / den)) x := by
  have hnearest := @isNearest_quotient num den hden
  rw [roundsTo_signed_iff (by positivity)]
  constructor
  · intro h
    obtain ⟨hsign, hmagnitude⟩ := round?_magnitude h
    exact ⟨hsign, hmagnitude ▸ hnearest⟩
  · rintro ⟨hsign, h⟩
    have hmagnitude := hnearest.unique h
    have hfinite : nearest num den < infinityEncoding := hmagnitude ▸ x.magnitude_lt
    rw [round?, dif_pos hfinite]
    exact congrArg some (eq_of_negative_of_magnitude hsign.symm hmagnitude)

/-- A quotient is rounded to some double if and only if it is small enough. -/
theorem exists_round?_eq_some_iff (hden : 0 < den) :
    (∃ x, round? negative num den = some x) ↔ (num / den : ℚ) < overflow := by
  rw [← mul_lt_mul_iff_left₀ cast_unit_pos, ← (isNearest_quotient hden).lt_infinityEncoding_iff,
    round?]
  split
  · rename_i hfinite
    exact iff_of_true ⟨_, rfl⟩ hfinite
  · rename_i hinfinite
    refine iff_of_false ?_ hinfinite
    rintro ⟨x, hx⟩
    cases hx

/-- Every number that is small enough rounds to a double. -/
theorem exists_roundsTo (hq : 0 ≤ q) (hsmall : q < overflow) :
    ∃ x, RoundsTo negative (signed negative q) x := by
  have hquotient : q = (q.num.toNat : ℚ) / q.den := by
    have hnum : ((q.num.toNat : Int) : ℚ) = q.num := by
      rw [Int.toNat_of_nonneg (Rat.num_nonneg.2 hq)]
    rw [← Int.cast_natCast q.num.toNat, hnum, Rat.num_div_den]
  rw [hquotient] at hsmall ⊢
  obtain ⟨x, hx⟩ := (exists_round?_eq_some_iff q.den_pos).2 hsmall
  exact ⟨x, (round?_eq_some_iff q.den_pos).1 hx⟩

end Quotients

end Signs

end Bulletin.Double
