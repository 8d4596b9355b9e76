import Bulletin.Block.Content
import Bulletin.Fragment.Envelope

/-!
# Asking and praising

The subscription form, the customer's voice and the call to action.
-/

namespace Bulletin.Fragment

open Html Text

/-- The content of a subscription form. -/
def subscribe (c : Subscribe) (s : Resolved) : List Node :=
  [styled "h2" ("margin: 0 0 10px 0; font-size: 24px; color: " ++ s.textColor ++ ";")
    [.text (presentOr "Subscribe to Our Newsletter" c.title)],
  styled "p" "margin: 0 0 20px 0; font-size: 16px; line-height: 1.5;"
    (multiline (presentOr "Stay updated with our latest news and offers." c.message)),
  tightTable [⟨"class", "subscribe-form"⟩] (centerAttr s.align)
    [row
      [styled "td" "padding-right: 8px;"
        [.void "input"
          [⟨"type", "email"⟩, ⟨"name", "email"⟩,
            ⟨"placeholder", presentOr "Enter your email address" c.placeholder⟩,
            ⟨"style", "padding: 11px 12px; width: 220px; border: 1px solid " ++ s.borderColor ++
              "; border-radius: 4px; font-size: 14px;"⟩]],
      .element "td" []
        [button s .left (presentOr "Subscribe" c.buttonText) c.buttonAction]]]]

/-- The role and the company that are given. -/
def affiliation (c : Testimonial) : String :=
  ", ".intercalate ((present c.role).toList ++ (present c.company).toList)

/-- The content of a testimonial. -/
def testimonial (c : Testimonial) (s : Resolved) : List Node :=
  (forPresent c.imageUrl fun image =>
    [.void "img"
      [⟨"src", image⟩, ⟨"alt", c.attribution.getD ""⟩, ⟨"width", "80"⟩, ⟨"height", "80"⟩,
        ⟨"style",
          "display: block; width: 80px; height: 80px; border: 0; border-radius: 40px; margin: " ++
          imageMargin s.align ++ "; margin-bottom: 15px;"⟩]]) ++
  [classed "p" "testimonial-quote"
    "margin: 0 0 15px 0; font-size: 18px; line-height: 1.6; font-style: italic;"
    [.entity "ldquo", fieldText c.quote, .entity "rdquo"],
  styled "p" "margin: 0; font-size: 15px; font-weight: bold;" [fieldText c.attribution],
  styled "p" "margin: 4px 0 0 0; font-size: 13px; opacity: 0.8;" [.text (affiliation c)]]

/-- The content of a call to action. -/
def banner (c : Banner) (s : Resolved) : List Node :=
  (forPresent c.title fun title =>
    [styled "h2" ("margin: 0 0 10px 0; font-size: 26px; color: " ++ s.textColor ++ ";")
      [.text title]]) ++
  (forPresent c.content fun content =>
    [styled "p" "margin: 0 0 20px 0; font-size: 16px; line-height: 1.5;" (multiline content)]) ++
  forPresent c.buttonText fun label => [button s s.align label c.buttonUrl]

end Bulletin.Fragment
