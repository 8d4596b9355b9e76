import Bulletin.Double.Shortest

/-!
# Writing doubles

A `NumberLayout` holds the decisions of one number format over the shortest digits: where the
positional notation ends, what follows a whole number, and which way an exact tie goes.  The two
formats of this library are values of it: `NumberLayout.css` for style declarations and messages,
`NumberLayout.json` for numbers in JSON text.
-/

namespace Bulletin

/-- The decisions of a number format. -/
structure NumberLayout where
  /-- Powers of ten of the first digit that are written positionally; `none` means all. -/
  positional : Option (Int × Int)
  /-- What a whole number ends in. -/
  wholeMark : List Char
  /-- Which of two equally near decimals is written. -/
  halfway : HalfwayRule

namespace NumberLayout

/-- Never an exponent, and nothing after a whole number. -/
def css : NumberLayout := ⟨none, [], .up⟩

/-- Positional from `1e-5` up to `1e16`, and a whole number keeps `.0`. -/
def json : NumberLayout := ⟨some (-5, 15), ['.', '0'], .even⟩

/-- The digits with the point after the first `point` of them, padded with zeros. -/
def placePoint (layout : NumberLayout) (d : Digits) : List Char :=
  if d.point ≤ 0 then
    '0' :: '.' :: List.replicate (-d.point).toNat '0' ++ d.digits
  else
    let n := d.point.toNat
    if d.digits.length ≤ n then
      d.digits ++ List.replicate (n - d.digits.length) '0' ++ layout.wholeMark
    else
      d.digits.take n ++ '.' :: d.digits.drop n

/-- An exponent with its sign. -/
def exponentText (e : Int) : List Char :=
  (if e < 0 then '-' else '+') :: Text.digitsOf e.natAbs

/-- One digit, the rest behind a point, and the power of ten. -/
def placeExponent (d : Digits) : List Char :=
  let rest := d.digits.drop 1
  d.digits.take 1 ++ (if rest.isEmpty then [] else '.' :: rest) ++ 'e' :: exponentText (d.point - 1)

/-- Is a first digit at this power of ten written positionally? -/
def isPositional (layout : NumberLayout) (power : Int) : Bool :=
  match layout.positional with
  | none => true
  | some (low, high) => low ≤ power && power ≤ high

/-- The text of a double in this format. -/
def write (layout : NumberLayout) (x : Double) : String :=
  let d := x.shortest layout.halfway
  let body :=
    if layout.isPositional (d.point - 1) then layout.placePoint d else placeExponent d
  String.ofList (if x.negative then '-' :: body else body)

end NumberLayout

end Bulletin
