import Bulletin.Text.Blank

/-!
# Alignment

Where a block's content stands.  Authors write alignments in any case, with blanks around them and
in either spelling of "center"; anything else is no alignment.
-/

namespace Bulletin

/-- A horizontal alignment. -/
inductive Align where
  | left
  | center
  | right
  | justify
deriving DecidableEq

namespace Align

/-- The alignment an author means. -/
def parse? (value : String) : Option Align :=
  let word := String.ofList ((Text.trim value).toList.map Char.toLower)
  if word = "left" then some .left
  else if word = "center" || word = "centre" then some .center
  else if word = "right" then some .right
  else if word = "justify" then some .justify
  else none

/-- The name of an alignment. -/
def text : Align → String
  | .left => "left"
  | .center => "center"
  | .right => "right"
  | .justify => "justify"

/-- The value of a table cell's `align` attribute, which knows no justified text. -/
def cellText : Align → String
  | .justify => "left"
  | align => align.text

end Align

end Bulletin
