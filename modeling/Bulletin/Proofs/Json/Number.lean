import Bulletin.Json.Reader
import Bulletin.Proofs.Json.Measure

/-!
# Values that stand for numbers

A number of JSON text is an integer that fits 64 bits or a double.  Each has a double next to it, and
so has every number that is read from a text: only numbers that are written as texts, and values of
another kind, can fail to stand for one.

## Main statements

- `Number.toDouble?_eq_some_iff`: a number stands for the double it rounds to
- `Number.Fits.exists_roundsTo`: which every number that fits has
- `Json.fits_of_leaves_readNumber`: and every number that is read fits
- `Json.asNumber?_eq_some_iff`: which values stand for numbers, and for which
-/

namespace Bulletin

open Double (RoundsTo)

namespace Number

/-- Has a number a minus sign? -/
def negative : Number → Bool
  | .integer i => decide (i < 0)
  | .double x => x.negative

/-- The value of a number. -/
def value : Number → ℚ
  | .integer i => i
  | .double x => x.value

/-- An integer fits 64 bits, as one with a sign or one without. -/
def Fits : Number → Prop
  | .integer i => -(Json.negativeLimit : Int) ≤ i ∧ i ≤ Json.significandLimit
  | .double _ => True

variable {n : Number} {x : Double}

/-- An integer as its sign and its magnitude. -/
theorem signed_natAbs (i : Int) : Double.signed (decide (i < 0)) (i.natAbs : ℚ) = i := by
  rw [Double.signed, Nat.cast_natAbs]
  split
  · rename_i h
    rw [abs_of_neg (of_decide_eq_true h), Int.cast_neg, neg_neg]
  · rename_i h
    rw [abs_of_nonneg (by simpa using h)]

/-- `toDouble?` finds the double that the value rounds to. -/
theorem toDouble?_eq_some_iff : n.toDouble? = some x ↔ RoundsTo n.negative n.value x := by
  cases n with
  | integer i =>
    -- An integer is a quotient over one.
    have hround := @Double.round?_eq_some_iff (decide (i < 0)) x i.natAbs 1 Nat.one_pos
    rwa [Nat.cast_one, div_one, signed_natAbs] at hround
  | double y =>
    have hself := Double.roundsTo_value y
    constructor
    · intro h
      rwa [Option.some_inj.1 h] at hself ⊢
    · intro h
      exact congrArg some (hself.unique Double.quotient_nonneg h)

/-- An integer of 64 bits is less than `overflow`. -/
theorem natAbs_lt_overflow {i : Int} (h : (Number.integer i).Fits) :
    (i.natAbs : ℚ) < Double.overflow := by
  -- The comparison with the largest double is made in the natural numbers.
  have hlimit : Json.significandLimit + twoPow 970 < twoPow 1024 := by decide +kernel
  obtain ⟨hlow, hhigh⟩ := h
  have hle : i.natAbs ≤ Json.significandLimit := by
    have hlimits : Json.negativeLimit ≤ Json.significandLimit := by decide +kernel
    omega
  have hlt : i.natAbs + twoPow 970 < twoPow 1024 := by omega
  rw [Double.overflow, lt_sub_iff_add_lt]
  exact_mod_cast hlt

/-- A number that fits has a double next to it. -/
theorem Fits.exists_roundsTo (h : n.Fits) : ∃ x, RoundsTo n.negative n.value x := by
  cases n with
  | integer i =>
    obtain ⟨x, hx⟩ := @Double.exists_roundsTo (decide (i < 0)) _ (Nat.cast_nonneg _)
      (natAbs_lt_overflow h)
    rw [signed_natAbs] at hx
    exact ⟨x, hx⟩
  | double y => exact ⟨y, Double.roundsTo_value y⟩

end Number

namespace Json

/-! ## Numbers that are read -/

/-- `gather` keeps within the limit of the significand. -/
theorem gather_le {s : Nat} (hs : s ≤ significandLimit) (ds : List Char) :
    (gather s ds).1 ≤ significandLimit := by
  induction ds generalizing s with
  | nil => exact hs
  | cons d ds ih =>
    rw [gather]
    split
    · rename_i hfits
      exact ih hfits
    · exact hs

/-- `toNumber` makes numbers that fit only. -/
theorem NumberText.fits_of_toNumber {t : NumberText} {negative : Bool} {n : Number}
    (h : t.toNumber negative = .ok n) : n.Fits := by
  -- Every number that is not an integer is a double, which fits.
  have hdouble : ∀ {n}, (t.toDouble? negative).map Number.double = .ok n → n.Fits := by
    intro n h
    cases hx : t.toDouble? negative with
    | error e =>
      rw [hx] at h
      cases h
    | ok x =>
      rw [hx] at h
      cases h
      trivial
  unfold toNumber at h
  dsimp only at h
  split at h
  · rename_i s _ _ hgather
    have hs : s ≤ significandLimit := by
      have hle := gather_le (Nat.zero_le _) t.whole
      rwa [hgather] at hle
    split at h
    · cases h
      exact ⟨by omega, by omega⟩
    · split at h
      · rename_i hlimit
        cases h
        simp only [Bool.and_eq_true, decide_eq_true_eq] at hlimit
        exact ⟨by omega, by omega⟩
      · exact hdouble h
  · exact hdouble h

/-- `readNumber` reads numbers that fit only. -/
theorem fits_of_leaves_readNumber {negative : Bool} {cs rest : List Char} {n : Number}
    (h : Leaves (readNumber negative cs) n rest) : n.Fits := by
  obtain ⟨t, -, hn⟩ := leaves_readNumber_iff.1 h
  exact t.fits_of_toNumber hn

/-! ## Numbers where they are due -/

/-- A value stands for a double: a number for the one it rounds to, and a text for the one that its
numeral rounds to. -/
inductive StandsFor : Json → Double → Prop
  | number {n : Number} {x : Double} : RoundsTo n.negative n.value x → StandsFor (.number n) x
  | text {s : String} {n : Numeral} {x : Double} : n.Measures s →
    RoundsTo n.negative n.value x → StandsFor (.string s) x

/-- `asNumber?` reads a value as the double it stands for. -/
theorem asNumber?_eq_some_iff {v : Json} {x : Double} : v.asNumber? = some x ↔ v.StandsFor x := by
  constructor
  · intro h
    cases v with
    | number n => exact .number (Number.toDouble?_eq_some_iff.1 h)
    | string s =>
      obtain ⟨n, hmeasures, hrounds⟩ := measure?_eq_some_iff.1 h
      exact .text hmeasures hrounds
    | _ => cases h
  · intro h
    cases h with
    | number hrounds => exact Number.toDouble?_eq_some_iff.2 hrounds
    | text hmeasures hrounds => exact measure?_eq_some_iff.2 ⟨_, hmeasures, hrounds⟩

end Json

end Bulletin
