import Bulletin.Json.Printer
import Bulletin.Json.Record

/-!
# Themes

A theme holds the three colors of a whole newsletter.  A theme that is read takes its default for
each color that is missing or blank, so no color of it is blank.  It is written with all three.
-/

namespace Bulletin

/-- The colors of a newsletter. -/
structure Theme where
  containerBackground : String
  containerTextColor : String
  /-- The color of links, and of buttons that have none of their own. -/
  globalLinkColor : String
deriving DecidableEq

namespace Theme

/-- The theme of a newsletter that names none. -/
def standard : Theme := ⟨"#ffffff", "#333333", "#007bff"⟩

/-- A color, or its default when it is missing or blank. -/
def colorOr (default : String) (color : Option String) : String :=
  (Text.present color).getD default

instance : Record Theme where
  keys := ["containerBackground", "containerTextColor", "globalLinkColor"]
  ofMembers ms :=
    { containerBackground := colorOr standard.containerBackground (ms.text "containerBackground")
      containerTextColor := colorOr standard.containerTextColor (ms.text "containerTextColor")
      globalLinkColor := colorOr standard.globalLinkColor (ms.text "globalLinkColor") }

/-- Reads the JSON text of a theme. -/
def read (text : String) : Except JsonError Theme := Record.read "RawTheme" text

/-- The colors, in order. -/
def toMembers (t : Theme) : Members :=
  [("containerBackground", .string t.containerBackground),
    ("containerTextColor", .string t.containerTextColor),
    ("globalLinkColor", .string t.globalLinkColor)]

/-- The JSON text of a theme. -/
def text (t : Theme) : String := (Json.object t.toMembers).print

end Theme

end Bulletin
