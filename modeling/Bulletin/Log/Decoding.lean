import Bulletin.Log.Event
import Bulletin.Template

/-!
# What loading a template tells the log

The events follow the decoding of `Template.read`: the blocks in order, in a block the content of
its kind, and in a content the items of its list.  Nothing is told about fields that are no lists,
since whatever they hold is taken or counts as absent.

* `Json.fieldEvents` are the events of the list of a record, `Json.recordEvents` those of a record
* `Content.decodingEvents` are the events of a block's content
* `Template.loadingEvents` are the events of a whole text

An item of the blocks is decoded in two steps: what is no record at all is skipped before its
content is looked at.  An item of another list is looked at while it is decoded, so a list that
turns out to be too long for the record has been looked at by then.
-/

namespace Bulletin

namespace Json

/-- The events of a field that holds a list, given those of an item.  A field that is missing or
null is an empty list too, but nobody is told. -/
def fieldEvents (item : Json → List LogEvent) (ms : Members) (key : String) : List LogEvent :=
  match ms.lookup key with
  | some (.array xs) => xs.flatMap item
  | none | some .null => []
  | some v => [.notList v]

/-- The events of a value that is decoded as a record, given those of its fields and what a value
that is no record is told as. -/
def recordEvents (name : String) (keys : List String) (fields : Members → List LogEvent)
    (refused : DecodeError → LogEvent) : Json → List LogEvent
  | .object ms => fields ms
  | .array xs =>
    fields (keys.zip xs) ++
      if xs.length ≤ keys.length then [] else [refused (.tooLong xs.length)]
  | v => [refused (.wrongShape v name)]

/-- The events of an item that is decoded as a record without lists. -/
def itemEvents (name : String) (α : Type) [Record α] : Json → List LogEvent :=
  recordEvents name (Record.keys α) (fun _ => []) .itemSkipped

end Json

/-- The events of an item that is decoded as an option of a quiz. -/
def QuizOption.itemEvents (j : Json) : List LogEvent :=
  if (QuizOption.ofJson? j).isSome then [] else [.itemSkipped (.noVariant "RawQuizOption")]

/-- The events of an item that is decoded as a question. -/
def QuizQuestion.itemEvents : Json → List LogEvent :=
  Json.recordEvents "QuizQuestion" (Record.keys QuizQuestion)
    (Json.fieldEvents QuizOption.itemEvents · "options") .itemSkipped

namespace Kind

/-- The record that holds the content of a kind: the name it has in messages, and its fields.  A
divider has no content. -/
def record? : Kind → Option (String × List String)
  | .header => some ("HeaderContent", Record.keys Header)
  | .footer => some ("FooterContent", Record.keys Footer)
  | .heading => some ("HeadingContent", Record.keys Heading)
  | .paragraph => some ("ParagraphContent", Record.keys Paragraph)
  | .image => some ("ImageContent", Record.keys Image)
  | .button => some ("ButtonContent", Record.keys Button)
  | .divider => none
  | .spacer => some ("SpacerContent", Record.keys Spacer)
  | .compartment => some ("CompartmentContent", Record.keys Compartment)
  | .featuredArticle => some ("FeaturedArticleContent", Record.keys FeaturedArticle)
  | .articleGrid => some ("ArticleGridContent", Record.keys ArticleGrid)
  | .eventCalendar => some ("EventCalendarContent", Record.keys EventCalendar)
  | .quiz => some ("QuizContent", Record.keys Quiz)
  | .subscribe => some ("SubscribeNowContent", Record.keys Subscribe)
  | .testimonial => some ("TestimonialContent", Record.keys Testimonial)
  | .banner => some ("CtaBannerContent", Record.keys Banner)
  | .products => some ("ProductRecommendationContent", Record.keys ProductList)
  | .socialLinks => some ("SocialLinksContent", Record.keys SocialLinks)
  | .video => some ("VideoContent", Record.keys Video)

/-- The events of the fields of a kind's content.  No content has two lists, so the order of the
fields does not matter. -/
def fieldEvents (kind : Kind) (ms : Members) : List LogEvent :=
  match kind with
  | .footer => Json.fieldEvents (Json.itemEvents "SocialLink" SocialLink) ms "socialLinks"
  | .articleGrid => Json.fieldEvents (Json.itemEvents "Article" Article) ms "articles"
  | .eventCalendar => Json.fieldEvents (Json.itemEvents "Event" Event) ms "events"
  | .quiz => Json.fieldEvents QuizQuestion.itemEvents ms "questions"
  | .products => Json.fieldEvents (Json.itemEvents "Product" Product) ms "products"
  | .socialLinks => Json.fieldEvents (Json.itemEvents "SocialLink" SocialLink) ms "links"
  | _ => []

end Kind

namespace Content

/-- The events of a value that is decoded as the content of a kind.  Null is empty content of any
kind. -/
def decodingEvents (kind : Kind) (value : Json) : List LogEvent :=
  match kind.record? with
  | none => []
  | some (name, keys) =>
    if value.isNull then []
    else
      Json.recordEvents name keys kind.fieldEvents (.contentEmptied kind.tag)
        (value.foldAliases kind.aliases)

end Content

namespace Block

/-- The events of the members of a block. -/
def memberEvents (ms : Members) : List LogEvent :=
  match Kind.ofTag? ((ms.text "type").getD "") with
  | some kind => Content.decodingEvents kind ((ms.lookup "content").getD .null)
  | none => []

/-- The events of an item that is decoded as a block. -/
def itemEvents (j : Json) : List LogEvent :=
  match j.membersOf? (Record.keys Block) with
  | some ms => memberEvents ms
  | none => Json.itemEvents "RawBlock" Block j

end Block

namespace Template

/-- The events of a value that is decoded as a template.  A template that is refused tells
nothing. -/
def decodingEvents : Json → List LogEvent
  | .array items => items.flatMap Block.itemEvents
  | .object ms =>
    match ms.lookup "blocks" with
    | some (.array items) => items.flatMap Block.itemEvents
    | _ => []
  | _ => []

/-- The events of a text that is loaded as a template. -/
def loadingEvents (text : String) : List LogEvent :=
  match Json.parse text with
  | .ok value => decodingEvents value
  | .error _ => []

end Template

end Bulletin
