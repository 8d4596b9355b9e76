import Bulletin.Double.Basic

/-!
# Doubles by their units

What is said of an encoding is a statement about the number of units it stands for: the numbers from
one on have the encodings from that of one on, and a whole number that is not too large is a double
itself, so that rounding leaves it alone.

## Main statements

- `ltOne_eq_false_iff`: the numbers that are not less than one
- `exists_ofNat?_eq`: small whole numbers are doubles
-/

namespace Bulletin

/-! ## Powers of two -/

/-- `twoPow` makes products of sums. -/
theorem twoPow_add (m n : Nat) : twoPow (m + n) = twoPow m * twoPow n := Nat.pow_add 2 m n

/-- `twoPow` grows with its exponent. -/
theorem twoPow_le_twoPow {m n : Nat} (h : m ≤ n) : twoPow m ≤ twoPow n :=
  Nat.pow_le_pow_right (by decide) h

/-- `twoPow` grows strictly. -/
theorem twoPow_lt_twoPow {m n : Nat} (h : m < n) : twoPow m < twoPow n :=
  Nat.pow_lt_pow_right (by decide) h

/-- `twoPow` of a smaller exponent divides that of a larger one. -/
theorem twoPow_dvd_twoPow {m n : Nat} (h : m ≤ n) : twoPow m ∣ twoPow n := Nat.pow_dvd_pow 2 h

/-- `Nat.log2` inverts `twoPow`. -/
theorem log2_twoPow (n : Nat) : Nat.log2 (twoPow n) = n := Nat.log2_two_pow

/-- `Nat.log2` of a number that is not zero is less than `k` if the number is less than `twoPow k`.
-/
theorem log2_lt_iff {n k : Nat} (h : n ≠ 0) : Nat.log2 n < k ↔ n < twoPow k := Nat.log2_lt h

/-- `Nat.log2` of a number that is not zero is `k` or more if the number is `twoPow k` or more. -/
theorem le_log2_iff {n k : Nat} (h : n ≠ 0) : k ≤ Nat.log2 n ↔ twoPow k ≤ n := Nat.le_log2 h

/-- The encodings of one binade, as a numeral that `omega` can use. -/
theorem twoPow_52 : twoPow 52 = 4503599627370496 := by decide

theorem twoPow_53 : twoPow 53 = 9007199254740992 := by decide

namespace Double

/-- `unit` as a power of two. -/
theorem unit_eq : unit = twoPow 1074 := rfl

/-- `unit` is positive. -/
theorem unit_pos : 0 < unit := twoPow_pos 1074

/-! ## Encodings and units -/

/-- `unitsOf` of an encoding that is given by its binade and what is left of it.  Only the lowest
binade has encodings without the leading bit. -/
theorem unitsOf_eq {k q : Nat} (hq : q < twoPow 53) (hk : k = 0 ∨ twoPow 52 ≤ q) :
    unitsOf (k * twoPow 52 + q) = q * twoPow k := by
  have hbinade : binade (k * twoPow 52 + q) = k := by
    rw [twoPow_53] at hq
    rw [twoPow_52] at hk
    rw [binade, twoPow_52]
    omega
  rw [unitsOf, hbinade, Nat.add_sub_cancel_left]

/-- An encoding stands for one or more exactly if it is `oneEncoding` or a later one. -/
theorem unit_le_unitsOf_iff {e : Nat} : unit ≤ unitsOf e ↔ oneEncoding ≤ e := by
  rw [unitsOf]
  by_cases he : oneEncoding ≤ e
  · have hbinade : 1022 ≤ binade e := by
      rw [oneEncoding, twoPow_52] at he
      rw [binade, twoPow_52]
      omega
    -- From the second binade on an encoding holds the leading bit.
    have hbit : twoPow 52 ≤ e - binade e * twoPow 52 := by
      rw [binade, twoPow_52] at hbinade ⊢
      omega
    have hunits : unit ≤ (e - binade e * twoPow 52) * twoPow (binade e) := by
      calc unit = twoPow 52 * twoPow 1022 := by rw [unit_eq, ← twoPow_add]
        _ ≤ _ := Nat.mul_le_mul hbit (twoPow_le_twoPow hbinade)
    simp only [hunits, he]
  · have hbinade : binade e ≤ 1021 := by
      rw [oneEncoding, twoPow_52] at he
      rw [binade, twoPow_52]
      omega
    -- Below one an encoding has less than two binades left.
    have hrest : e - binade e * twoPow 52 < twoPow 53 := by
      rw [binade, twoPow_52, twoPow_53]
      omega
    have hunits : (e - binade e * twoPow 52) * twoPow (binade e) < unit := by
      calc _ < twoPow 53 * twoPow (binade e) := Nat.mul_lt_mul_of_pos_right hrest (twoPow_pos _)
        _ ≤ twoPow 53 * twoPow 1021 := Nat.mul_le_mul_left _ (twoPow_le_twoPow hbinade)
        _ = unit := by rw [unit_eq, ← twoPow_add]
    simp only [he, iff_false]
    omega

/-- `ltOne` fails for the numbers from one on. -/
theorem ltOne_eq_false_iff {x : Double} :
    x.ltOne = false ↔ x.negative = false ∧ unit ≤ x.units := by
  rw [units, unit_le_unitsOf_iff, ltOne, Bool.or_eq_false_iff, decide_eq_false_iff_not, Nat.not_lt]

/-! ## Whole numbers -/

/-- `roundQuotient` does not round a quotient that is whole. -/
theorem roundQuotient_of_dvd {num den : Nat} (hden : 0 < den) (h : den ∣ num) :
    roundQuotient num den = num / den := by
  simp only [roundQuotient, Nat.mod_eq_zero_of_dvd h, Nat.mul_zero, hden, ite_true]

/-- The power of two that is divided out of a whole number of units goes into it. -/
theorem twoPow_dvd_units {n : Nat} (h0 : n * unit ≠ 0) (h : n ≤ twoPow 53) :
    twoPow (Nat.log2 (n * unit) - 52) ∣ n * unit := by
  by_cases hn : n = twoPow 53
  · -- The one number with a bit more than an encoding holds is a power of two.
    rw [hn, unit_eq, ← twoPow_add, log2_twoPow]
    exact twoPow_dvd_twoPow (Nat.sub_le _ _)
  · have hlt : n < twoPow 53 := Nat.lt_of_le_of_ne h hn
    have hlog : Nat.log2 (n * unit) < 1127 := by
      rw [log2_lt_iff h0]
      calc n * unit < twoPow 53 * unit := Nat.mul_lt_mul_of_pos_right hlt unit_pos
        _ = twoPow 1127 := by rw [unit_eq, ← twoPow_add]
    generalize Nat.log2 (n * unit) = log at hlog ⊢
    have hdvd : twoPow (log - 52) ∣ unit := by
      rw [unit_eq]
      exact twoPow_dvd_twoPow (by omega)
    exact Nat.dvd_mul_left_of_dvd hdvd n

/-- `ofNat?` finds every whole number up to `2 ^ 53` as it is. -/
theorem exists_ofNat?_eq {n : Nat} (h : n ≤ twoPow 53) :
    ∃ x, ofNat? n = some x ∧ x.negative = false ∧ x.units = n * unit := by
  by_cases h0 : n = 0
  · subst h0
    exact ⟨zero, by decide +kernel, rfl, by decide +kernel⟩
  · have hpos : n * unit ≠ 0 := Nat.mul_ne_zero h0 (Nat.ne_of_gt unit_pos)
    -- One has 1074 as its exponent, and `2 ^ 53` has 1127.
    have hlow : 1074 ≤ Nat.log2 (n * unit) := by
      rw [le_log2_iff hpos, ← unit_eq]
      exact Nat.le_mul_of_pos_left _ (Nat.pos_of_ne_zero h0)
    have hhigh : Nat.log2 (n * unit) < 1128 := by
      rw [log2_lt_iff hpos]
      calc n * unit ≤ twoPow 53 * unit := Nat.mul_le_mul_right _ h
        _ = twoPow 1127 := by rw [unit_eq, ← twoPow_add]
        _ < twoPow 1128 := twoPow_lt_twoPow (by decide)
    have hdvd := twoPow_dvd_units hpos h
    have hself : twoPow (Nat.log2 (n * unit)) ≤ n * unit := (le_log2_iff hpos).1 (Nat.le_refl _)
    have hnext : n * unit < twoPow (Nat.log2 (n * unit) + 1) :=
      (log2_lt_iff hpos).1 (Nat.lt_succ_self _)
    have hnearest : nearest n 1 = (Nat.log2 (n * unit) - 52) * twoPow 52 +
        n * unit / twoPow (Nat.log2 (n * unit) - 52) := by
      rw [nearest, Nat.div_one, Nat.one_mul, roundQuotient_of_dvd (twoPow_pos _) hdvd]
    -- From here on only the binade counts, and the quotient that is kept.
    generalize Nat.log2 (n * unit) = log at *
    -- The quotient has 53 bits, so that it begins with the leading bit and fits in one binade.
    have hbit : twoPow 52 ≤ n * unit / twoPow (log - 52) := by
      rw [Nat.le_div_iff_mul_le (twoPow_pos _), ← twoPow_add,
        show 52 + (log - 52) = log by omega]
      exact hself
    have hrest : n * unit / twoPow (log - 52) < twoPow 53 := by
      rw [Nat.div_lt_iff_lt_mul (twoPow_pos _), ← twoPow_add,
        show 53 + (log - 52) = log + 1 by omega]
      exact hnext
    have hfinite : nearest n 1 < infinityEncoding := by
      rw [twoPow_53] at hrest
      rw [hnearest, infinityEncoding, twoPow_52]
      omega
    have hunits : unitsOf (nearest n 1) = n * unit := by
      rw [hnearest, unitsOf_eq hrest (.inr hbit), Nat.div_mul_cancel hdvd]
    refine ⟨⟨false, nearest n 1, hfinite⟩, ?_, rfl, hunits⟩
    rw [ofNat?, round?, dif_pos hfinite]

end Double

end Bulletin
