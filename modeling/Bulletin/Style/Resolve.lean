import Bulletin.Color
import Bulletin.Style.Align
import Bulletin.Style.Declarations
import Bulletin.Style.Spec
import Bulletin.Theme

/-!
# Resolving a style

A block is drawn in a style that has no gaps: what its author leaves open is filled from the
defaults of its kind and from the theme.  `resolve` also settles which of the three backgrounds is
shown: an image, else a gradient, else a color.

The declarations of the block's outer cell stay a list here (`Resolved.container`); they become
text where the cell is drawn.
-/

namespace Bulletin

/-- What a kind of block brings along before its author's style. -/
structure BlockDefaults where
  padding : Option String
  align : Align
  /-- Whether the border fields draw a border around the block.  A kind that draws a line of its
  own uses them for that. -/
  containerBorder : Bool := true
deriving DecidableEq

/-- A style without gaps. -/
structure Resolved where
  align : Align
  /-- The declarations of the block's outer cell. -/
  container : List Declaration
  textColor : String
  linkColor : String
  buttonBackground : String
  buttonTextColor : String
  borderColor : String
  borderWidth : String
deriving DecidableEq

namespace Style

open Text

/-- The background color, with the opacity if that is below one. -/
def shade (color : String) (opacity : Option Double) : String :=
  match opacity with
  | some o => if o.ltOne then withOpacity color o else color
  | none => color

/-- The declarations of the one background that is shown. -/
def background (s : Style) : List Declaration :=
  match present s.backgroundImage, present s.backgroundGradient, present s.backgroundColor with
  | some image, _, _ =>
    [⟨"background-image", "url(" ++ image ++ ")"⟩, ⟨"background-size", "cover"⟩,
      ⟨"background-position", "center"⟩]
  | none, some gradient, _ => [⟨"background-image", gradient⟩]
  | none, none, some color => [⟨"background-color", shade color s.backgroundOpacity⟩]
  | none, none, none => []

/-- The declarations of the border around a block. -/
def border (s : Style) : List Declaration :=
  declare? "border-color" (present s.borderColor) ++
    match (present s.borderWidth).filter (· ≠ "0") with
    | some w => [⟨"border-width", w⟩, ⟨"border-style", "solid"⟩]
    | none => []

/-- The properties that hand a block's own colors to what it contains. -/
def customProperties (s : Style) : List Declaration :=
  declare? "--nl-button-bg" (present s.buttonColor) ++
    declare? "--nl-button-text" (present s.buttonTextColor) ++
    declare? "--nl-border-color" (present s.borderColor)

/-- The declarations of a block's outer cell. -/
def container (s : Style) (align : Align) (defaults : BlockDefaults) : List Declaration :=
  s.background ++
    declare? "color" (present s.textColor) ++
    (if defaults.containerBorder then s.border else []) ++
    declare? "border-radius" (present s.borderRadius) ++
    declare? "padding" ((present s.padding).or defaults.padding) ++
    [⟨"text-align", align.text⟩] ++
    s.customProperties

end Style

/-- The color of text on a button. -/
def defaultButtonTextColor : String := "#ffffff"

/-- The color of borders. -/
def defaultBorderColor : String := "#dddddd"

/-- The width of borders. -/
def defaultBorderWidth : String := "1px"

open Text in
/-- Fills the gaps of a block's style.  `align` is the alignment its content asks for. -/
def resolve (style : Option Style) (align : Option String) (theme : Theme)
    (defaults : BlockDefaults) : Resolved :=
  let s := style.getD .empty
  let a := (align.bind Align.parse?).getD defaults.align
  { align := a
    container := s.container a defaults
    textColor := (present s.textColor).getD theme.containerTextColor
    linkColor := theme.globalLinkColor
    buttonBackground := (present s.buttonColor).getD theme.globalLinkColor
    buttonTextColor := (present s.buttonTextColor).getD defaultButtonTextColor
    borderColor := (present s.borderColor).getD defaultBorderColor
    borderWidth := (present s.borderWidth).getD defaultBorderWidth }

namespace Resolved

/-- The style of the outer cell. -/
def containerText (r : Resolved) : String := Declaration.textAll r.container

/-- The style of a link that looks like a button. -/
def buttonText (r : Resolved) : String :=
  Declaration.textAll
    [⟨"display", "inline-block"⟩, ⟨"padding", "12px 24px"⟩,
      ⟨"background-color", r.buttonBackground⟩, ⟨"color", r.buttonTextColor⟩,
      ⟨"text-decoration", "none"⟩, ⟨"border-radius", "4px"⟩, ⟨"font-weight", "bold"⟩]

/-- The style of a link within text. -/
def linkText (r : Resolved) : String :=
  Declaration.textAll [⟨"color", r.linkColor⟩, ⟨"text-decoration", "underline"⟩]

end Resolved

end Bulletin
