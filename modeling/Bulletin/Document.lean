import Bulletin.Options
import Bulletin.Stylesheet
import Bulletin.Template

/-!
# The whole document

The fragments of a newsletter stand, in order and with nothing between them, in the one cell of a
table of fixed width.  Around it are the head with the title and the style sheet, the hidden
preheader, and a table that carries the background.
-/

namespace Bulletin

open Html

namespace Document

/-- A line end between tags. -/
def newline : Node := .text "\n"

/-- Nodes on lines of their own. -/
def onLines (ns : List Node) : List Node := newline :: ns.flatMap fun n => [n, newline]

/-- The namespaces of a document. -/
def rootAttrs : List Attr :=
  [⟨"lang", "en"⟩, ⟨"xmlns", "http://www.w3.org/1999/xhtml"⟩,
    ⟨"xmlns:v", "urn:schemas-microsoft-com:vml"⟩,
    ⟨"xmlns:o", "urn:schemas-microsoft-com:office:office"⟩]

/-- The settings for one family of mail clients. -/
def officeSettings : String :=
  "[if mso]><xml><o:OfficeDocumentSettings><o:AllowPNG/><o:PixelsPerInch>96</o:PixelsPerInch>" ++
    "</o:OfficeDocumentSettings></xml><![endif]"

/-- The head of a document. -/
def head (theme : Theme) (o : RenderOptions) : Node :=
  .element "head" []
    (onLines
      [.void "meta" [⟨"charset", "UTF-8"⟩],
        .void "meta"
          [⟨"name", "viewport"⟩, ⟨"content", "width=device-width, initial-scale=1"⟩],
        .void "meta" [⟨"http-equiv", "X-UA-Compatible"⟩, ⟨"content", "IE=edge"⟩],
        .void "meta" [⟨"name", "x-apple-disable-message-reformatting"⟩],
        .element "title" [] [.text o.title],
        .comment officeSettings,
        .verbatim "style" (stylesheet theme o.width)])

/-- The hidden preview text, if it is present. -/
def preheader (o : RenderOptions) : List Node :=
  match Text.present o.preheader with
  | some s =>
    [Html.classed "div" "preheader"
      "display: none; max-height: 0; overflow: hidden; mso-hide: all;" [.text s]]
  | none => []

/-- The table of fixed width around some content. -/
def container (theme : Theme) (width : Nat) (content : List Node) : Node :=
  let w := Text.ofNat width
  .element "table"
    ([⟨"role", "presentation"⟩, ⟨"class", "email-container"⟩, ⟨"width", w⟩] ++ noSpacing ++
      [⟨"style", "width: 100%; max-width: " ++ w ++ "px; background-color: " ++
        theme.containerBackground ++ "; color: " ++ theme.containerTextColor ++ ";"⟩])
    [row [.element "td" [] ([newline] ++ content ++ [newline])]]

/-- The table across the page. -/
def page (theme : Theme) (content : Node) : Node :=
  .element "table"
    ([⟨"role", "presentation"⟩, ⟨"width", "100%"⟩] ++ noSpacing ++
      [⟨"style", "background-color: " ++ theme.containerBackground ++ ";"⟩])
    [row [.element "td" [⟨"align", "center"⟩] (onLines [content])]]

/-- The root element of a document. -/
def root (content : List Node) (theme : Theme) (o : RenderOptions) : Node :=
  .element "html" rootAttrs
    (onLines
      [head theme o,
        styled "body"
          ("margin: 0; padding: 0; background-color: " ++ theme.containerBackground ++ ";")
          (onLines (preheader o ++ [page theme (container theme o.width content)]))])

end Document

/-- The document around some fragments of HTML. -/
def assemble (fragments : List String) (theme : Theme) (o : RenderOptions) : String :=
  "<!DOCTYPE html>\n" ++ Node.html [Document.root (fragments.map .raw) theme o, Document.newline]

/-- The document of a list of blocks. -/
def renderNewsletter (bs : List Block) (theme : Theme) (o : RenderOptions) (currentYear : Int) :
    String :=
  assemble (renderBlocks bs theme (o.context currentYear)) theme o

/-- The document of a template. -/
def Template.render (t : Template) (o : RenderOptions) (currentYear : Int) : String :=
  renderNewsletter t.blocks t.theme o currentYear

end Bulletin
