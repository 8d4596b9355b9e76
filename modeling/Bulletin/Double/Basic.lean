import Bulletin.Double.Power

/-!
# Finite double precision numbers

A `Double` is a finite IEEE 754 binary64 number: a sign and the remaining 63 bits of its
interchange encoding, read as a natural number.  Read so, the encoding has two properties that
carry everything else:

* it is increasing: of two magnitudes the larger number has the larger encoding, and the number
  next above has the encoding plus one;
* every magnitude is a whole number of *units* of `2 ^ -1074`, the smallest positive double.

`unitsOf` is that view.  Rounding goes the other way: `nearest num den` is the encoding of the
double nearest to a quotient, a tie going to the even encoding.  Nothing here is infinite or
undefined: an operation whose result is too large gives `none`.
-/

namespace Bulletin

/-- The encoding of positive infinity: the first one that no finite magnitude has. -/
def infinityEncoding : Nat := 2047 * twoPow 52

/-- A finite double precision number. -/
structure Double where
  /-- The sign bit; zero has both signs. -/
  negative : Bool
  /-- The encoding without its sign bit. -/
  magnitude : Nat
  magnitude_lt : magnitude < infinityEncoding
deriving DecidableEq

namespace Double

/-- How often the spacing of neighbours has doubled since the smallest numbers. -/
def binade (encoding : Nat) : Nat := encoding / twoPow 52 - 1

/-- The magnitude in units of `2 ^ -1074`. -/
def unitsOf (encoding : Nat) : Nat :=
  (encoding - binade encoding * twoPow 52) * twoPow (binade encoding)

/-- The units that make one. -/
def unit : Nat := twoPow 1074

/-- A quotient rounded to a whole number, a tie going to the even one. -/
def roundQuotient (num den : Nat) : Nat :=
  let q := num / den
  let r := 2 * (num % den)
  if r < den then q else if den < r then q + 1 else q + q % 2

/-- The encoding of the magnitude nearest to `num / den`, which may lie beyond the finite ones. -/
def nearest (num den : Nat) : Nat :=
  let k := Nat.log2 (num * unit / den) - 52
  k * twoPow 52 + roundQuotient (num * unit) (den * twoPow k)

/-- The double nearest to a quotient, unless that is infinite. -/
def round? (negative : Bool) (num den : Nat) : Option Double :=
  if h : nearest num den < infinityEncoding then some ⟨negative, nearest num den, h⟩ else none

/-- Zero with a sign. -/
def signedZero (negative : Bool) : Double := ⟨negative, 0, by decide⟩

/-- Positive zero. -/
def zero : Double := signedZero false

instance : Inhabited Double := ⟨zero⟩

/-- The magnitude in units of `2 ^ -1074`. -/
def units (x : Double) : Nat := unitsOf x.magnitude

/-- Zero of either sign. -/
def isZero (x : Double) : Bool := x.magnitude == 0

/-- The number of the other sign. -/
def neg (x : Double) : Double := { x with negative := !x.negative }

/-- The double nearest to a natural number. -/
def ofNat? (n : Nat) : Option Double := round? false n 1

/-- The double nearest to the product of two magnitudes. -/
def mul? (x y : Double) : Option Double :=
  round? (x.negative != y.negative) (x.units * y.units) (unit * unit)

/-- The double nearest to the quotient of two magnitudes; dividing by zero has no result. -/
def div? (x y : Double) : Option Double :=
  if y.isZero then none else round? (x.negative != y.negative) x.units y.units

/-- The whole part of the magnitude. -/
def whole (x : Double) : Nat := x.units / unit

/-- Zero of either sign, or more. -/
def nonneg (x : Double) : Bool := !x.negative || x.isZero

/-- More than zero. -/
def isPositive (x : Double) : Bool := !x.negative && !x.isZero

/-- The encoding of one. -/
def oneEncoding : Nat := 1023 * twoPow 52

/-- One. -/
def one : Double := ⟨false, oneEncoding, by decide⟩

/-- Less than one. -/
def ltOne (x : Double) : Bool := x.negative || x.magnitude < oneEncoding

/-- At most one. -/
def leOne (x : Double) : Bool := x.negative || x.magnitude ≤ oneEncoding

/-- `neg` twice gives the number back. -/
@[simp] theorem neg_neg (x : Double) : x.neg.neg = x := by simp [neg]

/-- What `round?` finds has the given sign and the encoding `nearest`. -/
theorem round?_magnitude {negative : Bool} {num den : Nat} {x : Double}
    (h : round? negative num den = some x) :
    x.negative = negative ∧ x.magnitude = nearest num den := by
  simp only [round?, Option.dite_none_right_eq_some, Option.some.injEq] at h
  obtain ⟨_, rfl⟩ := h
  exact ⟨rfl, rfl⟩

end Double

end Bulletin
