import Bulletin.Block.Alias
import Bulletin.Block.Content

/-!
# Blocks

A block is one unit of a newsletter: an id, the content of its kind, and perhaps a style.  A block
whose tag names no kind keeps the tag and nothing else.

No block is refused for what it holds: content that is no record of its kind is read as empty, and
a style that is no object as absent.
-/

namespace Bulletin

/-- What a block holds, by kind. -/
inductive Content where
  | header (c : Header)
  | footer (c : Footer)
  | heading (c : Heading)
  | paragraph (c : Paragraph)
  | image (c : Image)
  | button (c : Button)
  | divider
  | spacer (c : Spacer)
  | compartment (c : Compartment)
  | featuredArticle (c : FeaturedArticle)
  | articleGrid (c : ArticleGrid)
  | eventCalendar (c : EventCalendar)
  | quiz (c : Quiz)
  | subscribe (c : Subscribe)
  | testimonial (c : Testimonial)
  | banner (c : Banner)
  | products (c : ProductList)
  | socialLinks (c : SocialLinks)
  | video (c : Video)
  /-- The tag names no kind. -/
  | unknown (tag : String)
deriving DecidableEq

namespace Content

/-- The kind of a content, unless its tag is unknown. -/
def kind? : Content → Option Kind
  | .header _ => some .header
  | .footer _ => some .footer
  | .heading _ => some .heading
  | .paragraph _ => some .paragraph
  | .image _ => some .image
  | .button _ => some .button
  | .divider => some .divider
  | .spacer _ => some .spacer
  | .compartment _ => some .compartment
  | .featuredArticle _ => some .featuredArticle
  | .articleGrid _ => some .articleGrid
  | .eventCalendar _ => some .eventCalendar
  | .quiz _ => some .quiz
  | .subscribe _ => some .subscribe
  | .testimonial _ => some .testimonial
  | .banner _ => some .banner
  | .products _ => some .products
  | .socialLinks _ => some .socialLinks
  | .video _ => some .video
  | .unknown _ => none

/-- The tag of a content. -/
def tag : Content → String
  | .unknown tag => tag
  | c => match c.kind? with
    | some k => k.tag
    | none => ""

/-- The alignment a content asks for; some kinds never do. -/
def align? : Content → Option String
  | .header c => c.align
  | .footer c => c.align
  | .heading c => c.align
  | .paragraph c => c.align
  | .image c => c.align
  | .button c => c.align
  | .subscribe c => c.align
  | .testimonial c => c.align
  | .banner c => c.align
  | .socialLinks c => c.align
  | .video c => c.align
  | _ => none

/-- The record of a kind that a value stands for, aliases renamed; empty if it stands for none. -/
def decode {α : Type} [Record α] (kind : Kind) (value : Json) : α :=
  (Record.ofJson? (value.foldAliases kind.aliases)).getD Record.blank

/-- The content of a kind that a value stands for. -/
def ofKind (kind : Kind) (value : Json) : Content :=
  match kind with
  | .header => .header (decode kind value)
  | .footer => .footer (decode kind value)
  | .heading => .heading (decode kind value)
  | .paragraph => .paragraph (decode kind value)
  | .image => .image (decode kind value)
  | .button => .button (decode kind value)
  | .divider => .divider
  | .spacer => .spacer (decode kind value)
  | .compartment => .compartment (decode kind value)
  | .featuredArticle => .featuredArticle (decode kind value)
  | .articleGrid => .articleGrid (decode kind value)
  | .eventCalendar => .eventCalendar (decode kind value)
  | .quiz => .quiz (decode kind value)
  | .subscribe => .subscribe (decode kind value)
  | .testimonial => .testimonial (decode kind value)
  | .banner => .banner (decode kind value)
  | .products => .products (decode kind value)
  | .socialLinks => .socialLinks (decode kind value)
  | .video => .video (decode kind value)

/-- The content a tag and a value stand for. -/
def ofTag (tag : String) (value : Json) : Content :=
  match Kind.ofTag? tag with
  | some kind => ofKind kind value
  | none => .unknown tag

/-- `ofKind` makes contents of its kind. -/
theorem kind?_ofKind (kind : Kind) (value : Json) : (ofKind kind value).kind? = some kind := by
  cases kind <;> rfl

/-- `tag` of a content of a known kind is the tag of that kind. -/
theorem tag_eq_of_kind? {c : Content} {kind : Kind} (h : c.kind? = some kind) :
    c.tag = kind.tag := by
  cases c <;> simp_all [kind?, tag]

end Content

/-- One unit of a newsletter. -/
structure Block where
  id : String
  content : Content
  style : Option Style
deriving DecidableEq

namespace Block

instance : Record Block where
  keys := ["id", "type", "content", "style"]
  ofMembers ms :=
    { id := (ms.text "id").getD ""
      content := .ofTag ((ms.text "type").getD "") ((ms.lookup "content").getD .null)
      style := (ms.lookup "style").bind Record.ofObject? }

/-- Reads the JSON text of a block. -/
def read (text : String) : Except JsonError Block := Record.read "RawBlock" text

end Block

end Bulletin
