import Bulletin.Block.Content
import Bulletin.Fragment.Envelope

/-!
# Text, lines and room

Headings, paragraphs, framed parts, dividing lines and empty room.
-/

namespace Bulletin.Fragment

open Html Text

/-- The element of a heading level: `1` and `3` with or without an `h`, anything else is the
second. -/
def headingTag (level : Option String) : String :=
  match level with
  | none => "h2"
  | some l =>
    let digits := (trim l).toList.dropWhile fun c => c = 'h' || c = 'H'
    if digits = ['1'] then "h1" else if digits = ['3'] then "h3" else "h2"

/-- The content of a heading. -/
def heading (c : Heading) : List Node := [.element (headingTag c.level) [] [fieldText c.text]]

/-- The content of a paragraph. -/
def paragraph (c : Paragraph) : List Node :=
  [styled "p" "margin: 0; font-size: 16px; line-height: 1.6;" (multiline (c.text.getD ""))]

/-- The content of a dividing line, drawn in the block's border. -/
def divider (s : Resolved) : List Node :=
  [.void "hr"
    [⟨"class", "divider"⟩,
      ⟨"style", "border: 0; border-top: " ++ s.borderWidth ++ " solid " ++ s.borderColor ++
        "; height: 0; margin: 0;"⟩]]

/-- Twenty, the height of room that states none. -/
def defaultHeight : Double := ⟨false, 4626322717216342016, by decide⟩

/-- The height of empty room, which is never negative. -/
def spacerHeight (c : Spacer) : Double :=
  let h := c.height.getD defaultHeight
  if h.isPositive then h else .zero

/-- The content of empty room. -/
def spacer (c : Spacer) : List Node :=
  let h := NumberLayout.css.write (spacerHeight c)
  [classed "div" "spacer" ("height: " ++ h ++ "px; line-height: " ++ h ++ "px; font-size: 1px;")
    [noBreakSpace]]

/-- The content of a framed part.  Its HTML is the author's own and is not escaped. -/
def compartment (c : Compartment) (s : Resolved) : List Node :=
  [fullTable "compartment"
    [⟨"style", "border: 1px solid " ++ s.borderColor ++ "; border-radius: 6px;"⟩]
    [row [styled "td" "padding: 15px;"
      ((forPresent c.title fun title =>
        [styled "h3" "margin: 0 0 10px 0; font-size: 18px;" (multiline title)]) ++
      [.element "div" [⟨"class", "compartment-content"⟩] [.raw (c.content.getD "")]])]]]

end Bulletin.Fragment
