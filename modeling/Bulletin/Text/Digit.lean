/-!
# Decimal digits

Digits here are the ten ASCII ones.  `valueOf` reads a run of them as a natural number;
`digitRun` splits a text after its leading run.
-/

namespace Bulletin.Text

/-- The value of a decimal digit. -/
def digitValue (c : Char) : Nat := c.toNat - '0'.toNat

/-- A run of decimal digits as a number, the empty run as zero. -/
def valueOf (ds : List Char) : Nat := ds.foldl (fun n d => 10 * n + digitValue d) 0

/-- The decimal digits of a natural number. -/
def digitsOf (n : Nat) : List Char := Nat.toDigits 10 n

/-- The decimal text of a natural number. -/
def ofNat (n : Nat) : String := String.ofList (digitsOf n)

/-- The decimal text of an integer, with a minus in front of a negative one. -/
def ofInt (i : Int) : String :=
  String.ofList (if i < 0 then '-' :: digitsOf i.natAbs else digitsOf i.natAbs)

/-- The leading digits of a text, and the rest. -/
def digitRun (cs : List Char) : List Char × List Char :=
  (cs.takeWhile Char.isDigit, cs.dropWhile Char.isDigit)

/-- The value of a hexadecimal digit of either case. -/
def hexValue? (c : Char) : Option Nat :=
  if c.isDigit then some (digitValue c)
  else if 'a' ≤ c && c ≤ 'f' then some (c.toNat - 'a'.toNat + 10)
  else if 'A' ≤ c && c ≤ 'F' then some (c.toNat - 'A'.toNat + 10)
  else none

/-- `digitRun` splits a text without losing anything. -/
theorem digitRun_append (cs : List Char) : (digitRun cs).1 ++ (digitRun cs).2 = cs := by
  simp [digitRun]

/-- `digitRun` leaves no more than there was. -/
theorem length_digitRun_snd_le (cs : List Char) : (digitRun cs).2.length ≤ cs.length := by
  exact (List.dropWhile_sublist _).length_le

end Bulletin.Text
