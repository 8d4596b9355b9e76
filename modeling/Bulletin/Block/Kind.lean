import Bulletin.Style.Resolve

/-!
# Kinds of blocks

The nineteen kinds a block can have, the tag that names each in a template, and the style each
brings along.
-/

namespace Bulletin

/-- A kind of block. -/
inductive Kind where
  | header
  | footer
  | heading
  | paragraph
  | image
  | button
  | divider
  | spacer
  | compartment
  | featuredArticle
  | articleGrid
  | eventCalendar
  | quiz
  | subscribe
  | testimonial
  | banner
  | products
  | socialLinks
  | video
deriving DecidableEq

namespace Kind

/-- The name of a kind in a template. -/
def tag : Kind → String
  | .header => "header"
  | .footer => "footer"
  | .heading => "heading"
  | .paragraph => "paragraph"
  | .image => "image"
  | .button => "button"
  | .divider => "divider"
  | .spacer => "spacer"
  | .compartment => "compartment"
  | .featuredArticle => "featured-article"
  | .articleGrid => "article-grid"
  | .eventCalendar => "event-calendar"
  | .quiz => "quiz"
  | .subscribe => "subscribe-now"
  | .testimonial => "testimonial"
  | .banner => "cta-banner"
  | .products => "product-recommendation"
  | .socialLinks => "social-links"
  | .video => "video"

/-- All kinds. -/
def all : List Kind :=
  [.header, .footer, .heading, .paragraph, .image, .button, .divider, .spacer, .compartment,
    .featuredArticle, .articleGrid, .eventCalendar, .quiz, .subscribe, .testimonial, .banner,
    .products, .socialLinks, .video]

/-- The kind a tag names. -/
def ofTag? (tag : String) : Option Kind := all.find? fun k => k.tag = tag

/-- The style a kind brings along. -/
def defaults : Kind → BlockDefaults
  | .header => ⟨some "20px", .center, true⟩
  | .footer => ⟨some "20px", .center, true⟩
  | .heading => ⟨some "10px 20px", .center, true⟩
  | .paragraph => ⟨some "10px 20px", .left, true⟩
  | .image => ⟨some "10px 20px", .center, true⟩
  | .button => ⟨some "10px 20px", .center, true⟩
  | .divider => ⟨some "10px 20px", .center, false⟩
  | .spacer => ⟨none, .left, true⟩
  | .compartment => ⟨some "20px", .left, true⟩
  | .featuredArticle => ⟨some "20px", .left, true⟩
  | .articleGrid => ⟨some "20px", .left, true⟩
  | .eventCalendar => ⟨some "20px", .left, true⟩
  | .quiz => ⟨some "20px", .left, true⟩
  | .subscribe => ⟨some "30px 20px", .center, true⟩
  | .testimonial => ⟨some "30px 20px", .center, true⟩
  | .banner => ⟨some "40px 20px", .center, true⟩
  | .products => ⟨some "20px", .left, true⟩
  | .socialLinks => ⟨some "15px 20px", .center, true⟩
  | .video => ⟨some "10px 20px", .center, true⟩

/-- No two kinds share a tag. -/
theorem tag_inj {a b : Kind} (h : a.tag = b.tag) : a = b := by
  revert h
  cases a <;> cases b <;> decide

/-- A kind's tag names that kind. -/
theorem ofTag?_tag (k : Kind) : ofTag? k.tag = some k := by
  cases k <;> decide

/-- Only its tag names a kind. -/
theorem tag_of_ofTag? {tag : String} {k : Kind} (h : ofTag? tag = some k) : k.tag = tag := by
  simpa using List.find?_some h

end Kind

end Bulletin
