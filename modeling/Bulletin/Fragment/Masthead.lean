import Bulletin.Block.Content
import Bulletin.Fragment.Social

/-!
# Header and footer

The header opens a newsletter with the sender's logo, name and motto.  The footer ends it with the
sender's address, the links a reader may need, and the copyright line, the only place where the
year is written.
-/

namespace Bulletin.Fragment

open Html Text

/-- The content of a header. -/
def header (c : Header) (s : Resolved) : List Node :=
  (forPresent c.logoUrl fun logo =>
    [.void "img"
      [⟨"src", logo⟩, ⟨"alt", presentOr "Logo" c.companyName⟩, ⟨"width", "150"⟩,
        ⟨"style", "display: block; max-width: 150px; height: auto; border: 0; margin: " ++
          imageMargin s.align ++ "; padding-bottom: 10px;"⟩]]) ++
  (forPresent c.companyName fun name =>
    [classed "h1" "nl-company"
      ("margin: 0; font-size: 28px; line-height: 1.2; color: " ++ s.textColor ++ ";")
      [.text name]]) ++
  forPresent c.tagline fun tagline =>
    [classed "p" "nl-tagline" "margin: 6px 0 0 0; font-size: 14px; opacity: 0.8;" [.text tagline]]

/-- The address a contact leads to; a bare mail address becomes a mail link. -/
def contactHref (contact : String) : String :=
  if '@' ∈ contact.toList ∧ ':' ∉ contact.toList then "mailto:" ++ trim contact else contact

/-- The links of a footer that are given. -/
def footerLinks (c : Footer) (s : Resolved) : List Node :=
  (forPresent c.contactUrl fun url => [textLink s (contactHref url) [.text "Contact Us"]]) ++
  (forPresent c.websiteUrl fun url => [textLink s url [.text "Visit our website"]]) ++
  forPresent c.unsubscribeUrl fun url => [textLink s url [.text "Unsubscribe"]]

/-- What stands between two links of a line. -/
def bar : Node := .text " | "

/-- The copyright line. -/
def copyright (company : Option String) (year : Int) : Node :=
  let owner := match present company with
    | some name => " " ++ name
    | none => ""
  classed "p" "nl-copyright" "margin: 0; font-size: 12px; opacity: 0.7;"
    [.entity "copy", .text (" " ++ ofInt year ++ owner ++ ". All rights reserved.")]

/-- A line of links, unless there are none. -/
def linkLine (cls : String) (links : List Node) : List Node :=
  if links.isEmpty then []
  else [classed "p" cls "margin: 0 0 10px 0; font-size: 12px;" (separated bar links)]

/-- The content of a footer. -/
def footer (c : Footer) (s : Resolved) (year : Int) : List Node :=
  (forPresent c.companyName fun name =>
    [styled "p" "margin: 0 0 5px 0; font-size: 14px; font-weight: bold;" [.text name]]) ++
  (forPresent c.address fun address =>
    [classed "p" "nl-address" "margin: 0 0 10px 0; font-size: 12px; line-height: 1.5;"
      (multiline address)]) ++
  linkLine "nl-social" (c.socialLinks.filterMap (socialAnchor? s "font-size: 12px;")) ++
  linkLine "nl-footer-links" (footerLinks c s) ++
  [copyright c.companyName year]

end Bulletin.Fragment
