import Bulletin.Json.Record
import Bulletin.Json.Printer

/-!
# The style of a block

What an author sets for one block, each field optional.  A style is read leniently, and written
with its fields in order and the absent ones left out.
-/

namespace Bulletin

/-- The style an author gives a block. -/
structure Style where
  backgroundColor : Option String := none
  backgroundImage : Option String := none
  backgroundGradient : Option String := none
  backgroundOpacity : Option Double := none
  textColor : Option String := none
  buttonColor : Option String := none
  buttonTextColor : Option String := none
  borderColor : Option String := none
  borderWidth : Option String := none
  borderRadius : Option String := none
  padding : Option String := none
deriving DecidableEq

namespace Style

/-- The style that sets nothing. -/
def empty : Style := {}

instance : Record Style where
  keys :=
    ["backgroundColor", "backgroundImage", "backgroundGradient", "backgroundOpacity", "textColor",
      "buttonColor", "buttonTextColor", "borderColor", "borderWidth", "borderRadius", "padding"]
  ofMembers ms :=
    { backgroundColor := ms.text "backgroundColor"
      backgroundImage := ms.text "backgroundImage"
      backgroundGradient := ms.text "backgroundGradient"
      backgroundOpacity := ms.number "backgroundOpacity"
      textColor := ms.text "textColor"
      buttonColor := ms.text "buttonColor"
      buttonTextColor := ms.text "buttonTextColor"
      borderColor := ms.text "borderColor"
      borderWidth := ms.text "borderWidth"
      borderRadius := ms.text "borderRadius"
      padding := ms.text "padding" }

/-- Reads the JSON text of a style. -/
def read (text : String) : Except JsonError Style := Record.read "StyleSpec" text

/-- A member for a text field that is set. -/
def textMember (key : String) (value : Option String) : Members :=
  match value with
  | some s => [(key, .string s)]
  | none => []

/-- A member for a number field that is set. -/
def numberMember (key : String) (value : Option Double) : Members :=
  match value with
  | some x => [(key, .number (.double x))]
  | none => []

/-- The fields that are set, in order. -/
def toMembers (s : Style) : Members :=
  textMember "backgroundColor" s.backgroundColor ++
    textMember "backgroundImage" s.backgroundImage ++
    textMember "backgroundGradient" s.backgroundGradient ++
    numberMember "backgroundOpacity" s.backgroundOpacity ++
    textMember "textColor" s.textColor ++
    textMember "buttonColor" s.buttonColor ++
    textMember "buttonTextColor" s.buttonTextColor ++
    textMember "borderColor" s.borderColor ++
    textMember "borderWidth" s.borderWidth ++
    textMember "borderRadius" s.borderRadius ++
    textMember "padding" s.padding

/-- The JSON text of a style. -/
def text (s : Style) : String := (Json.object s.toMembers).print

end Style

end Bulletin
