import Bulletin.Proofs.Markup.Escaping
import Bulletin.Proofs.Markup.Links

/-!
# What the items of collections show

What an article, an event, a product or a link to a social network shows is listed apart from how it
is drawn: its text, its images and its links.  A scanner of HTML finds all of that in the element an
item is drawn as, in order and escaped, and nothing else.

## Main statements

- `shownBy_articleCard`, `shownBy_eventItem`, `shownBy_productCard`, `SocialLink.shownBy_draw`: what
  is found in an item
-/

namespace Bulletin

open Html Node Fragment Text

/-! ## Exhibits -/

/-- What an item shows: its text, the addresses of its images, and those it links to. -/
structure Exhibit where
  text : String
  images : List String
  hrefs : List String

/-- The addresses of an image. -/
abbrev Html.imageTag : Token → Option (List String) := Token.values? "img" "src"

/-- An item is shown, as a scanner sees it: all of it, in order and escaped, and nothing else. -/
structure Exhibit.ShownBy (e : Exhibit) (ts : List Token) : Prop where
  text : textOf ts = escapeChars e.text.toList
  images : gather imageTag ts = e.images.map fun src => [escape src]
  hrefs : gather linkTag ts = e.hrefs.map fun href => [escape href]

/-- A text made from a field, empty unless the field is present. -/
def givenText (field : Option String) (shown : String → String) : String :=
  (present field).elim "" shown

/-- An article shows its title, and what else is given of it. -/
def Article.exhibit (a : Article) : Exhibit where
  text := a.title.getD "" ++ givenText a.excerpt id ++
    givenText a.url fun _ => presentOr "Read more" a.linkText
  images := (present a.imageUrl).toList
  hrefs := (present a.url).toList

/-- An event shows what is given of it, behind labels; of a description, its lines. -/
def Event.exhibit (e : Event) : Exhibit where
  text := givenText e.title id ++ givenText e.date ("Date:" ++ ·) ++
    givenText e.time ("Time:" ++ ·) ++ givenText e.location ("Location:" ++ ·) ++
    givenText e.description (fun d => String.ofList (lines d.toList).flatten) ++
    givenText e.url fun _ => "Event details"
  images := []
  hrefs := (present e.url).toList

/-- A product shows its name, and what else is given of it; a discount only beside a price. -/
def Product.exhibit (p : Product) : Exhibit where
  text := p.name.getD "" ++ givenText p.description id ++
    givenText p.price (fun price => price ++ givenText p.discount (" " ++ ·)) ++
    givenText p.link fun _ => "Shop Now"
  images := (present p.imageUrl).toList
  hrefs := (present p.link).toList

/-- A link to a social network shows its label. -/
def SocialLink.exhibit (link : SocialLink) : Exhibit where
  text := link.label?.getD ""
  images := []
  hrefs := [presentOr "#" link.url]

/-! ## Texts -/

namespace Html.Node

@[simp] theorem textOf_void (tag : String) (attrs : List Attr) :
    textOf (void tag attrs).tokens = [] := rfl

/-- `text` nodes show their lines, one behind the other. -/
theorem textOf_tokensAll_map_text (lines : List (List Char)) :
    textOf (tokensAll (lines.map fun line => text (String.ofList line))) =
      escapeChars lines.flatten := by
  induction lines with
  | nil => rfl
  | cons line lines ih => simp [ih]

/-- `separated` shows no more than the nodes do, when the separator shows no text. -/
theorem textOf_separated {separator : Node} (h : textOf separator.tokens = []) (ns : List Node) :
    textOf (tokensAll (separated separator ns)) = textOf (tokensAll ns) := by
  fun_induction separated separator ns with
  | case1 => rfl
  | case2 n => rfl
  | case3 n ns hne ih => simp [h, ih]

/-- `multiline` shows the lines of a text. -/
@[simp] theorem textOf_multiline (s : String) :
    textOf (tokensAll (multiline s)) = escapeChars (lines s.toList).flatten := by
  rw [multiline, textOf_separated rfl, textOf_tokensAll_map_text]

end Html.Node

namespace Fragment

/-- `forPresent` shows what is drawn of a present text, and nothing otherwise. -/
theorem textOf_forPresent (field : Option String) (draw : String → List Node) :
    textOf (tokensAll (forPresent field draw)) =
      (present field).elim [] fun s => textOf (tokensAll (draw s)) := by
  unfold forPresent
  split <;> simp_all

/-- `givenText` is escaped as what is made from the field. -/
theorem escapeChars_givenText (field : Option String) (shown : String → String) :
    escapeChars (givenText field shown).toList =
      (present field).elim [] fun s => escapeChars (shown s).toList := by
  unfold givenText
  cases present field <;> simp

/-- Nothing is made of a field in either case. -/
theorem elim_nil {α β : Type} (o : Option α) : (o.elim [] fun _ => ([] : List β)) = [] := by
  cases o <;> rfl

/-! ## Items -/

/-- `articleCard` shows what its article holds. -/
theorem shownBy_articleCard (s : Resolved) (a : Article) :
    a.exhibit.ShownBy (articleCard s a).tokens where
  text := by
    simp [articleCard, fullTable, row, styled, cardImage, fieldText, textLink, anchor, elim_nil,
      textOf_append, textOf_forPresent, escapeChars_givenText, Article.exhibit]
  images := by
    simp [articleCard, fullTable, row, styled, cardImage, fieldText, textLink, anchor,
      gather_forPresent_eq, valuesOf, Attr.scanned, Article.exhibit, ← List.map_eq_flatMap]
  hrefs := gather_linkTag_articleCard s a

/-- `eventItem` shows what its event holds. -/
theorem shownBy_eventItem (s : Resolved) (e : Event) :
    e.exhibit.ShownBy (eventItem s e).tokens where
  text := by
    simp [eventItem, fullTable, row, wideRow, detailRow, styled, textLink, anchor, escapeChars_cons,
      textOf_append, textOf_forPresent, escapeChars_givenText, Event.exhibit]
  images := by
    simp [eventItem, fullTable, row, wideRow, detailRow, styled, textLink, anchor,
      gather_forPresent_eq, gather_multiline, Event.exhibit]
  hrefs := gather_linkTag_eventItem s e

/-- `productCard` shows what its product holds. -/
theorem shownBy_productCard (s : Resolved) (p : Product) :
    p.exhibit.ShownBy (productCard s p).tokens where
  text := by
    simp [productCard, fullTable, row, styled, classed, cardImage, fieldText, button, tightTable,
      escapeChars_cons, elim_nil, textOf_append, textOf_forPresent, escapeChars_givenText,
      Product.exhibit]
  images := by
    simp [productCard, fullTable, row, styled, classed, cardImage, fieldText, button, tightTable,
      gather_forPresent_eq, valuesOf, Attr.scanned, Product.exhibit, ← List.map_eq_flatMap]
  hrefs := gather_linkTag_productCard s p

end Fragment

/-- What `fullTable` shows is shown by what stands in it. -/
theorem Exhibit.ShownBy.inside {e : Exhibit} {cls : String} {more : List Attr} {rows : List Node}
    (h : e.ShownBy (fullTable cls more rows).tokens) :
    e.ShownBy (fullTable cls more rows).inside where
  text := by simpa [fullTable, Node.inside] using h.text
  images := by simpa [fullTable, Node.inside] using h.images
  hrefs := by simpa [fullTable, Node.inside] using h.hrefs

/-- A link to a social network, under its label. -/
def SocialLink.draw (link : SocialLink) (s : Resolved) : Node :=
  anchor (presentOr "#" link.url) [⟨"style", s.linkText ++ " " ++ "font-size: 14px;"⟩]
    [.text (link.label?.getD "")]

/-- `SocialLink.draw` shows the label and the address of the link. -/
theorem SocialLink.shownBy_draw (link : SocialLink) (s : Resolved) :
    link.exhibit.ShownBy (link.draw s).tokens where
  text := by simp [SocialLink.draw, anchor, SocialLink.exhibit]
  images := by simp [SocialLink.draw, anchor, SocialLink.exhibit]
  hrefs := by simp [SocialLink.draw, gather_linkTag_anchor, SocialLink.exhibit]

end Bulletin
