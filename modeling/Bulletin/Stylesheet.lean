import Bulletin.Html.Escape
import Bulletin.Style.Declarations
import Bulletin.Text.Digit
import Bulletin.Theme

/-!
# The style sheet of a document

Rules for the classes that the fragments use: a fixed part, the colors of the theme, and the
changes for narrow screens.  Everything is written without white space between rules.
-/

namespace Bulletin

/-- A rule of a style sheet. -/
structure StyleRule where
  selector : String
  declarations : List Declaration
deriving DecidableEq

namespace StyleRule

/-- A declaration inside a rule. -/
def declarationText (d : Declaration) : String := d.property ++ ":" ++ d.value ++ ";"

/-- Something in braces. -/
def braced (body : String) : String := "\x7b" ++ body ++ "\x7d"

/-- The text of a rule. -/
def text (r : StyleRule) : String :=
  r.selector ++ braced (String.join (r.declarations.map declarationText))

/-- The text of rules in a row. -/
def textAll (rs : List StyleRule) : String := String.join (rs.map text)

end StyleRule

namespace Stylesheet

/-- The rules every document has. -/
def base : List StyleRule :=
  [⟨"body,table,td,a",
      [⟨"-webkit-text-size-adjust", "100%"⟩, ⟨"-ms-text-size-adjust", "100%"⟩]⟩,
    ⟨"table,td",
      [⟨"mso-table-lspace", "0pt"⟩, ⟨"mso-table-rspace", "0pt"⟩, ⟨"border-collapse", "collapse"⟩]⟩,
    ⟨"img",
      [⟨"-ms-interpolation-mode", "bicubic"⟩, ⟨"border", "0"⟩, ⟨"outline", "none"⟩,
        ⟨"text-decoration", "none"⟩, ⟨"height", "auto"⟩, ⟨"line-height", "100%"⟩]⟩,
    ⟨"body",
      [⟨"margin", "0"⟩, ⟨"padding", "0"⟩, ⟨"width", "100%!important"⟩,
        ⟨"font-family", "Arial,Helvetica,sans-serif"⟩]⟩,
    ⟨".email-container", [⟨"margin", "0 auto"⟩]⟩,
    ⟨".nl-block", [⟨"width", "100%"⟩]⟩,
    ⟨".nl-heading h1,.nl-heading h2,.nl-heading h3",
      [⟨"margin", "0"⟩, ⟨"font-weight", "bold"⟩, ⟨"line-height", "1.3"⟩]⟩,
    ⟨".nl-heading h1", [⟨"font-size", "32px"⟩]⟩,
    ⟨".nl-heading h2", [⟨"font-size", "24px"⟩]⟩,
    ⟨".nl-heading h3", [⟨"font-size", "20px"⟩]⟩,
    ⟨".button-td", [⟨"border-radius", "4px"⟩]⟩,
    ⟨".button",
      [⟨"display", "inline-block"⟩, ⟨"text-decoration", "none"⟩, ⟨"mso-padding-alt", "0"⟩]⟩,
    ⟨".divider", [⟨"border", "0"⟩, ⟨"margin", "0"⟩]⟩,
    ⟨".spacer", [⟨"mso-line-height-rule", "exactly"⟩]⟩,
    ⟨".compartment-content p", [⟨"margin", "0 0 10px 0"⟩]⟩,
    ⟨".article-grid,.product-grid", [⟨"table-layout", "fixed"⟩]⟩,
    ⟨".grid-spacer", [⟨"font-size", "0"⟩, ⟨"line-height", "0"⟩]⟩,
    ⟨".nl-empty", [⟨"margin", "0"⟩, ⟨"font-style", "italic"⟩]⟩,
    ⟨".preheader",
      [⟨"display", "none!important"⟩, ⟨"visibility", "hidden"⟩, ⟨"opacity", "0"⟩,
        ⟨"color", "transparent"⟩, ⟨"height", "0"⟩, ⟨"width", "0"⟩, ⟨"max-height", "0"⟩,
        ⟨"max-width", "0"⟩, ⟨"overflow", "hidden"⟩, ⟨"mso-hide", "all"⟩]⟩]

/-- The rules that show the theme's colors. -/
def themed (theme : Theme) : List StyleRule :=
  [⟨".nl-block a", [⟨"color", Html.escape theme.globalLinkColor⟩]⟩,
    ⟨".nl-heading h1,.nl-heading h2,.nl-heading h3",
      [⟨"color", Html.escape theme.containerTextColor⟩]⟩]

/-- The rules for screens narrower than the content. -/
def narrow : List StyleRule :=
  [⟨".email-container", [⟨"width", "100%!important"⟩]⟩,
    ⟨".article-cell,.product-cell",
      [⟨"display", "block!important"⟩, ⟨"width", "100%!important"⟩]⟩,
    ⟨".grid-spacer", [⟨"display", "none!important"⟩]⟩]

end Stylesheet

/-- The style sheet of a document with a theme and a content width. -/
def stylesheet (theme : Theme) (width : Nat) : String :=
  StyleRule.textAll (Stylesheet.base ++ Stylesheet.themed theme) ++
    "@media screen and (max-width:" ++ Text.ofNat width ++ "px)" ++
    StyleRule.braced (StyleRule.textAll Stylesheet.narrow)

end Bulletin
