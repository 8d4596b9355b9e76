import Bulletin.Html.Escape
import Bulletin.Text.Digit

/-!
# HTML as a tree

A fragment of HTML is a list of nodes, and `Node.chars` is the only place where nodes become text.
An element writes its own closing tag and text is escaped where it is written, so a tree without
raw HTML is balanced markup and no text in it can end an attribute or begin a tag.

Three kinds of node are written as they are: an entity by its name, the body of a `script` or
`style` element, and raw HTML.
-/

namespace Bulletin.Html

/-- An attribute; its value is escaped when it is written. -/
structure Attr where
  name : String
  value : String
deriving DecidableEq

/-- A piece of HTML. -/
inductive Node where
  | text (s : String)
  | entity (name : String)
  /-- An element without content or closing tag. -/
  | void (tag : String) (attrs : List Attr)
  | element (tag : String) (attrs : List Attr) (children : List Node)
  /-- An element whose content is no markup. -/
  | verbatim (tag : String) (body : String)
  | comment (body : String)
  | raw (html : String)

namespace Attr

/-- An attribute with the space before it. -/
def chars (a : Attr) : List Char :=
  ' ' :: a.name.toList ++ '=' :: '"' :: escapeChars a.value.toList ++ ['"']

/-- The attributes of a tag. -/
def charsAll (attrs : List Attr) : List Char := attrs.flatMap chars

@[simp] theorem charsAll_nil : charsAll [] = [] := rfl

@[simp] theorem charsAll_cons (a : Attr) (attrs : List Attr) :
    charsAll (a :: attrs) = a.chars ++ charsAll attrs := rfl

end Attr

namespace Node

/-- An opening tag. -/
def openChars (tag : String) (attrs : List Attr) : List Char :=
  '<' :: tag.toList ++ Attr.charsAll attrs ++ ['>']

/-- A closing tag. -/
def closeChars (tag : String) : List Char := '<' :: '/' :: tag.toList ++ ['>']

mutual

/-- The characters of a node. -/
def chars : Node → List Char
  | .text s => escapeChars s.toList
  | .entity name => '&' :: name.toList ++ [';']
  | .void tag attrs => openChars tag attrs
  | .element tag attrs children => openChars tag attrs ++ charsAll children ++ closeChars tag
  | .verbatim tag body => openChars tag [] ++ body.toList ++ closeChars tag
  | .comment body => "<!--".toList ++ body.toList ++ "-->".toList
  | .raw html => html.toList

/-- The characters of nodes in a row. -/
def charsAll : List Node → List Char
  | [] => []
  | n :: ns => chars n ++ charsAll ns

end

/-- The HTML of nodes in a row. -/
def html (ns : List Node) : String := String.ofList (charsAll ns)

/-- `charsAll` writes nodes in a row one by one. -/
@[simp] theorem charsAll_append (xs ys : List Node) :
    charsAll (xs ++ ys) = charsAll xs ++ charsAll ys := by
  induction xs with
  | nil => simp [charsAll]
  | cons n ns ih => simp [charsAll, ih]

/-- `html` is the text of `charsAll`. -/
theorem toList_html (ns : List Node) : (html ns).toList = charsAll ns := String.toList_ofList

end Node

/-! ## Building -/

/-- Nodes with a separator between each two. -/
def separated (separator : Node) : List Node → List Node
  | [] => []
  | [n] => [n]
  | n :: ns => n :: separator :: separated separator ns

/-- A line break. -/
def lineBreak : Node := .void "br" []

/-- A text whose line ends are line breaks. -/
def multiline (s : String) : List Node :=
  separated lineBreak ((Text.lines s.toList).map fun line => .text (String.ofList line))

/-- A no-break space. -/
def noBreakSpace : Node := .entity "nbsp"

/-- An element with a style. -/
def styled (tag : String) (css : String) (children : List Node) : Node :=
  .element tag [⟨"style", css⟩] children

/-- An element with a class and a style. -/
def classed (tag cls css : String) (children : List Node) : Node :=
  .element tag [⟨"class", cls⟩, ⟨"style", css⟩] children

/-- A row of cells. -/
def row (cells : List Node) : Node := .element "tr" [] cells

/-- The attributes that take every space out of a layout table. -/
def noSpacing : List Attr := [⟨"cellpadding", "0"⟩, ⟨"cellspacing", "0"⟩, ⟨"border", "0"⟩]

/-- A layout table as wide as its surroundings. -/
def fullTable (cls : String) (more : List Attr) (rows : List Node) : Node :=
  .element "table"
    ([⟨"role", "presentation"⟩, ⟨"class", cls⟩, ⟨"width", "100%"⟩] ++ noSpacing ++ more) rows

/-- A layout table as wide as its content. -/
def tightTable (cls : List Attr) (more : List Attr) (rows : List Node) : Node :=
  .element "table" ([⟨"role", "presentation"⟩] ++ cls ++ noSpacing ++ more) rows

end Bulletin.Html
