import Bulletin.Double.Basic
import Bulletin.Text.Digit

/-!
# The fewest digits that read back

The decimal text of a double needs only as many digits as tell it apart from its neighbours.  The
numbers that round to `x` form the interval between the midpoints to the doubles next below and
next above, ends included when the encoding of `x` is even.  A decimal grid with `n` digits has at
most two points around `x`; the first `n` for which one of them lies in the interval is the least,
and of two points that do the nearer one is taken.

Everything is compared exactly: in half units (a midpoint is the sum of two neighbours' units) and
scaled by `10 ^ 400`, which makes every grid of every double whole.
-/

namespace Bulletin

/-- What becomes of a number halfway between two decimals of the least length. -/
inductive HalfwayRule where
  /-- The larger one is taken. -/
  | up
  /-- The one whose last digit is even is taken. -/
  | even
deriving DecidableEq

/-- A positive decimal: `0.d₁d₂… · 10 ^ point`. -/
structure Digits where
  digits : List Char
  point : Int

namespace Double

open Text

/-- The power of ten that makes the decimal grids of all doubles whole. -/
def gridScale : Nat := 400

/-- Is `c · step` a number that rounds to the double with this encoding? -/
def readsBack (encoding : Nat) (c step : Nat) : Bool :=
  let low := (unitsOf (encoding - 1) + unitsOf encoding) * tenPow gridScale
  let high := (unitsOf encoding + unitsOf (encoding + 1)) * tenPow gridScale
  let v := c * step * (2 * unit)
  if encoding % 2 = 0 then low ≤ v && v ≤ high else low < v && v < high

/-- The grid point of the given step that stands for the double, if one reads back. -/
def gridPoint? (rule : HalfwayRule) (encoding step : Nat) : Option Nat :=
  let v := unitsOf encoding * tenPow gridScale
  let c := v / (step * unit)
  let below := readsBack encoding c step
  let above := readsBack encoding (c + 1) step
  if below && above then
    -- The nearer of the two: the rest of the division against half a step.
    let r := 2 * (v % (step * unit))
    if r < step * unit then some c
    else if step * unit < r then some (c + 1)
    else match rule with
      | .up => some (c + 1)
      | .even => some (c + c % 2)
  else if below then some c
  else if above then some (c + 1)
  else none

/-- Where the decimal point stands relative to the first digit. -/
def pointOf (encoding : Nat) : Int :=
  ((digitsOf (unitsOf encoding * tenPow gridScale / unit)).length : Int) - gridScale

/-- Seventeen digits always tell a double apart. -/
def maxDigits : Nat := 17

/-- The point of the coarsest grid that reads back, with the grid's digit count, among the given
number of grids from `n` digits on; past them the next finer grid stands in. -/
def firstGrid (rule : HalfwayRule) (encoding : Nat) (point : Int) : Nat → Nat → Nat × Nat
  | n, 0 =>
    (unitsOf encoding * tenPow gridScale / (tenPow ((gridScale : Int) + point - n).toNat * unit), n)
  | n, more + 1 =>
    match gridPoint? rule encoding (tenPow ((gridScale : Int) + point - n).toNat) with
    | some c => (c, n)
    | none => firstGrid rule encoding point (n + 1) more

/-- A list of digits without the zeros at its end. -/
def dropZeros (ds : List Char) : List Char := (ds.reverse.dropWhile (· == '0')).reverse

/-- The shortest decimal of a magnitude; zero has the single digit zero. -/
def shortest (rule : HalfwayRule) (x : Double) : Digits :=
  if x.isZero then ⟨['0'], 1⟩
  else
    let point := pointOf x.magnitude
    let (c, n) := firstGrid rule x.magnitude point 1 maxDigits
    let ds := digitsOf c
    -- A grid point may have one digit more than its grid: 9.6 may round to 10.
    ⟨dropZeros ds, point + ((ds.length : Int) - n)⟩

end Double

end Bulletin
