import Bulletin.Double.Basic
import Bulletin.Text.Digit

/-!
# Decimal numerals

A numeral is an optional sign, digits with an optional point among, before or behind them, and an
optional power of ten.  `Numeral.parse?` takes one apart and `Numeral.nearest?` is the double
nearest to its exact value; a numeral beyond the largest finite double has none.
-/

namespace Bulletin

/-- A decimal numeral taken apart: `± whole.fraction · 10 ^ exponent`. -/
structure Numeral where
  negative : Bool
  whole : List Char
  fraction : List Char
  exponent : Int

namespace Numeral

open Text

/-- A leading sign and what follows it: `true` for a minus. -/
def signed : List Char → Bool × List Char
  | '-' :: rest => (true, rest)
  | '+' :: rest => (false, rest)
  | cs => (false, cs)

/-- A power of ten behind its mark; `none` when no digit follows or something is left. -/
def exponent? (cs : List Char) : Option Int :=
  let (negative, ds) := signed cs
  if ds.isEmpty || !ds.all Char.isDigit then none
  else some (if negative then -(valueOf ds : Int) else valueOf ds)

/-- What may follow the digits: nothing, or a power of ten. -/
def power? : List Char → Option Int
  | [] => some 0
  | c :: rest => if c = 'e' || c = 'E' then exponent? rest else none

/-- Takes a whole text apart as one numeral. -/
def parse? (cs : List Char) : Option Numeral :=
  let (negative, body) := signed cs
  let (whole, tail) := digitRun body
  let (fraction, tail) := match tail with
    | '.' :: after => digitRun after
    | _ => ([], tail)
  if whole.isEmpty && fraction.isEmpty then none
  else (power? tail).map fun e => ⟨negative, whole, fraction, e⟩

/-- The exact value is `significand · 10 ^ power`. -/
def significand (n : Numeral) : Nat := valueOf (n.whole ++ n.fraction)

def power (n : Numeral) : Int := n.exponent - n.fraction.length

/-- Powers of ten past which a number with these many digits in front of its point is certainly
infinite, or rounds to zero. -/
def powerLimit : Int := 400

/-- The double nearest to the value, if it is finite. -/
def nearest? (n : Numeral) : Option Double :=
  let s := n.significand
  let size := ((digitsOf s).length : Int) + n.power
  if s = 0 then some (.signedZero n.negative)
  else if powerLimit < size then none
  else if size < -powerLimit then some (.signedZero n.negative)
  else if 0 ≤ n.power then Double.round? n.negative (s * tenPow n.power.toNat) 1
  else Double.round? n.negative s (tenPow (-n.power).toNat)

end Numeral

/-- The double nearest to a decimal numeral, unless the text is none or its value is infinite. -/
def Double.ofNumeral? (cs : List Char) : Option Double := (Numeral.parse? cs).bind Numeral.nearest?

end Bulletin
