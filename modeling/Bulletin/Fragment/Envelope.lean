import Bulletin.Block.Kind
import Bulletin.Html.Node
import Bulletin.Text.Blank

/-!
# The frame of a block

Every block is a layout table of one cell, which carries the block's resolved style.  Besides that
envelope this module holds what several kinds draw alike: a button, a link, the placeholder of an
empty collection.
-/

namespace Bulletin.Fragment

open Html Text

/-- The attribute that centers a table.  The other alignments would make it float. -/
def centerAttr (align : Align) : List Attr :=
  if align = .center then [⟨"align", "center"⟩] else []

/-- A block's table around its content. -/
def envelope (kind : Kind) (s : Resolved) (body : List Node) : Node :=
  fullTable ("nl-block nl-" ++ kind.tag) []
    [row [.element "td" [⟨"align", s.align.cellText⟩, ⟨"style", s.containerText⟩] body]]

/-- What is drawn for a text if it is present. -/
def forPresent (field : Option String) (draw : String → List Node) : List Node :=
  match present field with
  | some s => draw s
  | none => []

/-- A field's text, empty when it is absent. -/
def fieldText (field : Option String) : Node := .text (field.getD "")

/-- A field's text, or another when it is not present. -/
def presentOr (default : String) (field : Option String) : String := (present field).getD default

/-- A link that opens a page of its own. -/
def anchor (href : String) (more : List Attr) (label : List Node) : Node :=
  .element "a" ([⟨"href", href⟩, ⟨"target", "_blank"⟩] ++ more) label

/-- A link within text. -/
def textLink (s : Resolved) (href : String) (label : List Node) : Node :=
  anchor href [⟨"style", s.linkText⟩] label

/-- A colored cell around a link; without an address it leads nowhere. -/
def button (s : Resolved) (align : Align) (label : String) (url : Option String) : Node :=
  tightTable [] (centerAttr align)
    [row [.element "td"
      [⟨"class", "button-td"⟩, ⟨"align", "center"⟩, ⟨"bgcolor", s.buttonBackground⟩,
        ⟨"style", "border-radius: 4px; background-color: " ++ s.buttonBackground ++ ";"⟩]
      [.element "a"
        [⟨"class", "button"⟩, ⟨"href", presentOr "#" url⟩, ⟨"target", "_blank"⟩,
          ⟨"style", s.buttonText⟩]
        [.text label]]]]

/-- The margin that places an image in its cell. -/
def imageMargin : Align → String
  | .center => "0 auto"
  | .right => "0 0 0 auto"
  | .left => "0"
  | .justify => "0"

/-- What stands in for a collection without items. -/
def placeholder (message : String) : Node :=
  classed "p" "nl-empty" "margin: 0; text-align: center; font-style: italic; opacity: 0.7;"
    [.text message]

/-- A heading above a collection. -/
def sectionTitle (s : Resolved) (title : Option String) : List Node :=
  forPresent title fun t =>
    [styled "h2" ("margin: 0 0 15px 0; font-size: 22px; color: " ++ s.textColor ++ ";") [.text t]]

/-- The gap between two cells of a grid. -/
def gridSpacer : Node :=
  .element "td"
    [⟨"class", "grid-spacer"⟩, ⟨"width", "10"⟩,
      ⟨"style", "width: 10px; font-size: 0; line-height: 0;"⟩]
    [noBreakSpace]

end Bulletin.Fragment
