import Bulletin.Block.Content
import Bulletin.Fragment.Envelope

/-!
# Links to social networks

A link is labelled with its platform, or with its address where no platform is named; a link with
neither is not drawn.
-/

namespace Bulletin.Fragment

open Html Text

/-- A social link, if there is something to label it with. -/
def socialAnchor? (s : Resolved) (css : String) (link : SocialLink) : Option Node :=
  ((present link.platform).or (present link.url)).map fun label =>
    anchor (presentOr "#" link.url) [⟨"style", s.linkText ++ " " ++ css⟩] [.text label]

/-- The gap between two social links. -/
def socialSpacer : Node :=
  .element "td"
    [⟨"class", "social-spacer"⟩, ⟨"width", "16"⟩,
      ⟨"style", "width: 16px; font-size: 0; line-height: 0;"⟩]
    [noBreakSpace]

/-- The content of a row of social links. -/
def socialLinks (c : SocialLinks) (s : Resolved) : List Node :=
  let cells := (c.links.filterMap (socialAnchor? s "font-size: 14px;")).map fun a =>
    Node.element "td" [⟨"class", "social-link"⟩] [a]
  if cells.isEmpty then []
  else [tightTable [] (centerAttr s.align) [row (separated socialSpacer cells)]]

end Bulletin.Fragment
