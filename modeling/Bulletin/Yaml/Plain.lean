import Bulletin.Double.Numeral
import Bulletin.Json.Basic
import Bulletin.Yaml.Cursor

/-!
# What plain scalars stand for

A scalar that is written without quotes may be a null, a truth value or a number, by its spelling
alone.  Integers are decimal, or have one of three radix marks; a run of several digits that starts
with a zero is no number at all.
-/

namespace Bulletin.Yaml

/-- A spelling of the null value; the empty text is not among them. -/
def isNullWord (cs : List Char) : Bool :=
  String.ofList cs ∈ ["~", "null", "Null", "NULL"]

/-- A truth value. -/
def truthValue? (cs : List Char) : Option Bool :=
  if String.ofList cs ∈ ["true", "True", "TRUE"] then some true
  else if String.ofList cs ∈ ["false", "False", "FALSE"] then some false
  else none

/-! ## Integers -/

/-- The value of a digit in a radix. -/
def digitIn? (radix : Nat) (c : Char) : Option Nat :=
  (Text.hexValue? c).filter (· < radix)

/-- The value of digits in a radix, of which there is at least one. -/
def digitsIn? (radix : Nat) (cs : List Char) : Option Nat :=
  if cs.isEmpty then none
  else cs.foldl (fun v c => do some (radix * (← v) + (← digitIn? radix c))) (some 0)

/-- The radix that a mark behind a zero asks for. -/
def radix? : Char → Option Nat
  | 'x' => some 16
  | 'o' => some 8
  | 'b' => some 2
  | _ => none

/-- A natural number behind a radix mark. -/
def markedNat? : List Char → Option Nat
  | '0' :: mark :: digits => (radix? mark).bind fun radix => digitsIn? radix digits
  | _ => none

/-- Several digits of which the first is zero, perhaps behind a sign: no number, but a text. -/
def isPaddedNumber (cs : List Char) : Bool :=
  let digits := match cs with
    | '-' :: rest => rest
    | '+' :: rest => rest
    | cs => cs
  match digits with
  | '0' :: d :: rest => d.isDigit && rest.all Char.isDigit
  | _ => false

/-- A decimal natural number. -/
def decimalNat? (cs : List Char) : Option Nat :=
  if isPaddedNumber cs then none else digitsIn? 10 cs

/-- A natural number without a sign. -/
def unsignedNat? (cs : List Char) : Option Nat := (markedNat? cs).or (decimalNat? cs)

/-- An integer, as its sign and its size. -/
def integer? : List Char → Option (Bool × Nat)
  | '-' :: cs => (unsignedNat? cs).map (true, ·)
  | '+' :: cs => (unsignedNat? cs).map (false, ·)
  | cs => (unsignedNat? cs).map (false, ·)

/-- An integer as a value of JSON.  One that needs more than 64 bits is refused, and beyond 128 bits
a numeral is not read as an integer. -/
def integerValue? (cs : List Char) : Option (Except YamlError Json) :=
  match integer? cs with
  | some (false, n) =>
    if n < twoPow 64 then some (.ok (.number (.integer n)))
    else if n < twoPow 128 then some (.error .wrongShape)
    else none
  | some (true, n) =>
    if n ≤ twoPow 63 then some (.ok (.number (.integer (-n))))
    else if n ≤ twoPow 127 then some (.error .wrongShape)
    else none
  | none => none

/-! ## Real numbers -/

/-- The spellings of the infinities, and of what is not a number. -/
def isSpecial (cs : List Char) : Bool :=
  String.ofList cs ∈
    [".inf", ".Inf", ".INF", "+.inf", "+.Inf", "+.INF", "-.inf", "-.Inf", "-.INF", ".nan", ".NaN",
      ".NAN"]

/-- A real number as a value of JSON, which is null where JSON has no such number. -/
def realValue? (cs : List Char) : Option Json :=
  if isSpecial cs then some .null else (Double.ofNumeral? cs).map fun x => .number (.double x)

/-! ## Scalars by their spelling -/

/-- What a plain scalar stands for. -/
def plainValue (cs : List Char) : Except YamlError Json :=
  if cs.isEmpty || isNullWord cs then .ok .null
  else
    match truthValue? cs with
    | some b => .ok (.bool b)
    | none =>
      match integerValue? cs with
      | some i => i
      | none =>
        let real := if isPaddedNumber cs then none else realValue? cs
        .ok (real.getD (.string (String.ofList cs)))

end Bulletin.Yaml
