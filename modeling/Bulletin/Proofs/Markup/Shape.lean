import Bulletin.Block.Basic
import Bulletin.Text.Blank

/-!
# The shape of a content

The shape of a content is what is left when the texts are taken out: which of the fields that decide
over an element are present, how many line feeds stand in the texts of several lines, which answers
are right, and the shapes of the items of every list.
-/

namespace Bulletin

open Text

namespace Text

/-- A field holds some text that is not blank. -/
def isPresent (field : Option String) : Bool := (present field).isSome

/-- How many line feeds a text holds. -/
def lineFeeds (s : String) : Nat := s.toList.count '\n'

end Text

/-- What is left of a content without its texts. -/
inductive Shape where
  /-- Flags, line feeds, and the shapes of the items. -/
  | node (flags : List Bool) (feeds : List Nat) (items : List Shape)

/-- The shape of a record: fields that may be absent, fields of several lines, and items. -/
def Shape.ofFields (fields long : List (Option String)) (items : List Shape) : Shape :=
  .node (fields.map isPresent) (long.map fun field => lineFeeds (field.getD "")) items

/-- `ofFields` gives one shape for the same flags, the same line feeds and the same items. -/
@[simp] theorem Shape.ofFields_inj {fields fields' long long' : List (Option String)}
    {items items' : List Shape} :
    ofFields fields long items = ofFields fields' long' items' ↔
      fields.map isPresent = fields'.map isPresent ∧
      (long.map fun field => lineFeeds (field.getD "")) =
        (long'.map fun field => lineFeeds (field.getD "")) ∧
      items = items' := by
  rw [ofFields, ofFields, node.injEq]

/-- The shape of a link. -/
def SocialLink.shape (l : SocialLink) : Shape := .ofFields [l.platform, l.url] [] []

/-- The shape of an article. -/
def Article.shape (a : Article) : Shape := .ofFields [a.imageUrl, a.excerpt, a.url] [] []

/-- The shape of an event. -/
def Event.shape (e : Event) : Shape :=
  .ofFields [e.title, e.date, e.time, e.location, e.description, e.url] [e.description] []

/-- Which of the answers to a question are right. -/
def QuizQuestion.marks (q : QuizQuestion) : List Bool := q.options.mapIdx fun i _ => q.isCorrect i

/-- The shape of a question. -/
def QuizQuestion.shape (q : QuizQuestion) : Shape := .node (isPresent q.image :: q.marks) [] []

/-- The shape of a product. -/
def Product.shape (p : Product) : Shape :=
  .ofFields [p.imageUrl, p.description, p.price, p.discount, p.link] [] []

/-- The shape of a content. -/
def Content.shape : Content → Shape
  | .header c => .ofFields [c.logoUrl, c.companyName, c.tagline] [] []
  | .footer c =>
    .ofFields [c.companyName, c.address, c.contactUrl, c.websiteUrl, c.unsubscribeUrl] [c.address]
      (c.socialLinks.map SocialLink.shape)
  | .paragraph c => .ofFields [] [c.text] []
  | .image c => .ofFields [c.linkUrl, c.caption] [] []
  | .compartment c => .ofFields [c.title] [c.title] []
  | .featuredArticle c => .ofFields [c.imageUrl, c.title] [] []
  | .articleGrid c => .ofFields [] [] (c.articles.map Article.shape)
  | .eventCalendar c => .ofFields [c.title] [] (c.events.map Event.shape)
  | .quiz c => .ofFields [c.title] [] (c.questions.map QuizQuestion.shape)
  | .subscribe c => .ofFields [c.message] [c.message] []
  | .testimonial c => .ofFields [c.imageUrl] [] []
  | .banner c => .ofFields [c.title, c.content, c.buttonText] [c.content] []
  | .products c => .ofFields [c.title] [] (c.products.map Product.shape)
  | .socialLinks c => .ofFields [] [] (c.links.map SocialLink.shape)
  | .video c => .ofFields [c.thumbnailUrl] [] []
  | .heading _ | .button _ | .divider | .spacer _ | .unknown _ => .ofFields [] [] []

end Bulletin
