import Bulletin.Double.Layout
import Bulletin.Text.Blank
import Bulletin.Text.Digit

/-!
# Colors with an opacity

An opacity can only be given to a color whose channels are known.  Two spellings are read, blanks
at both ends aside: `#rrggbb`, and `rgb(r,g,b)` with one to three decimal digits a channel and
blanks around them.  Channels of the second spelling are not clamped.  A color of any other
spelling keeps its text and loses the opacity.
-/

namespace Bulletin

/-- The channels of a color. -/
structure Rgb where
  red : Nat
  green : Nat
  blue : Nat
deriving DecidableEq

namespace Rgb

open Text

/-- Two hexadecimal digits as a channel. -/
def hexChannel? (high low : Char) : Option Nat := do
  let h ← hexValue? high
  let l ← hexValue? low
  some (16 * h + l)

/-- A decimal channel with the blanks around it, and the text behind. -/
def channel? (cs : List Char) : Option (Nat × List Char) :=
  let (ds, rest) := digitRun (trimStart cs)
  if 1 ≤ ds.length && ds.length ≤ 3 then some (valueOf ds, trimStart rest) else none

/-- Three decimal channels up to the closing parenthesis. -/
def channels? (cs : List Char) : Option Rgb := do
  let (r, rest) ← channel? cs
  let ',' :: rest := rest | none
  let (g, rest) ← channel? rest
  let ',' :: rest := rest | none
  let (b, rest) ← channel? rest
  if rest = [')'] then some ⟨r, g, b⟩ else none

/-- The channels of a color in one of the two spellings. -/
def parse? (color : String) : Option Rgb :=
  match (trim color).toList with
  | ['#', a, b, c, d, e, f] => do
    some ⟨← hexChannel? a b, ← hexChannel? c d, ← hexChannel? e f⟩
  | 'r' :: 'g' :: 'b' :: '(' :: rest => channels? rest
  | _ => none

/-- The color with an opacity. -/
def toRgba (c : Rgb) (opacity : Double) : String :=
  "rgba(" ++ ofNat c.red ++ "," ++ ofNat c.green ++ "," ++ ofNat c.blue ++ "," ++
    NumberLayout.css.write opacity ++ ")"

end Rgb

/-- Gives a color an opacity, if its channels are known. -/
def withOpacity (color : String) (opacity : Double) : String :=
  match Rgb.parse? color with
  | some rgb => rgb.toRgba opacity
  | none => color

end Bulletin
