import Bulletin.Double.Power

/-!
# Years

A year is an integer of 32 bits.
-/

namespace Bulletin

/-- The year with a sign and a size, if it has one of 32 bits. -/
def year? (negative : Bool) (size : Nat) : Option Int :=
  if negative then (if size ≤ twoPow 31 then some (-size) else none)
  else if size < twoPow 31 then some size
  else none

end Bulletin
