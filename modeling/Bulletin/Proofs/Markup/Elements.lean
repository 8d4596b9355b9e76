import Bulletin.Proofs.Lint.Collections

/-!
# The elements that blocks are drawn with

All blocks are drawn with a few kinds of elements.  A reader that passes over these reads nothing
off a block but the script of a quiz, whatever the block holds, unless it brings HTML of its own.

## Main statements

- `Content.gather_body_of_passesOver`: what such a reader reads off a content
- `Block.gather_draw_of_passesOver`: what it reads off a block
-/

namespace Bulletin

open Html Node Fragment

namespace Fragment

/-- A reader reads nothing off the elements that blocks are drawn with. -/
def PassesOver {α : Type} (f : Token → Option α) : Prop :=
  ∀ tag ∈ drawnTags, ∀ attrs, f (.opening tag attrs) = none

namespace PassesOver

variable {α : Type} {f : Token → Option α} (h : PassesOver f)

include h

/-- A reader that passes over all elements overlooks placeholders and products as well. -/
theorem overlooks : Overlooks f where
  styled _ _ := h "p" (by decide) _
  price _ := h "p" (by decide) _
  table _ _ := h "table" (by decide) _
  other _ _ htag _ _ := h _ htag _

/-! ## Parts -/

/-- A void element has nothing to read. -/
theorem void {tag : String} (htag : tag ∈ drawnTags) (attrs : List Attr) :
    gather f (Node.void tag attrs).tokens = [] := by
  rw [gather_void, h tag htag]
  rfl

theorem wideImage (s : Resolved) (src alt : String) :
    gather f (wideImage s src alt).tokens = [] := h.void (by decide) _

/-- `divider` has nothing to read. -/
theorem divider (s : Resolved) : gather f (tokensAll (divider s)) = [] := by
  simp +decide [Fragment.divider, h.void]

variable [Token.IsReader f]

/-- An element has to read what stands in it. -/
theorem element {tag : String} (htag : tag ∈ drawnTags) (attrs : List Attr)
    (children : List Node) :
    gather f (Node.element tag attrs children).tokens = gather f (tokensAll children) := by
  rw [gather_element, h tag htag]
  rfl

theorem styled {tag : String} (htag : tag ∈ drawnTags) (css : String) (children : List Node) :
    gather f (styled tag css children).tokens = gather f (tokensAll children) :=
  h.element htag _ _

theorem classed {tag : String} (htag : tag ∈ drawnTags) (cls css : String)
    (children : List Node) :
    gather f (classed tag cls css children).tokens = gather f (tokensAll children) :=
  h.element htag _ _

theorem row (cells : List Node) : gather f (row cells).tokens = gather f (tokensAll cells) :=
  h.element (by decide) _ _

theorem fullTable (cls : String) (more : List Attr) (rows : List Node) :
    gather f (fullTable cls more rows).tokens = gather f (tokensAll rows) :=
  h.element (by decide) _ _

theorem tightTable (cls more : List Attr) (rows : List Node) :
    gather f (tightTable cls more rows).tokens = gather f (tokensAll rows) :=
  h.element (by decide) _ _

theorem multiline (s : String) : gather f (tokensAll (multiline s)) = [] :=
  gather_multiline (h "br" (by decide) []) s

theorem anchor (href : String) (more : List Attr) (label : List Node) :
    gather f (anchor href more label).tokens = gather f (tokensAll label) :=
  h.element (by decide) _ _

theorem textLink (s : Resolved) (href : String) (label : List Node) :
    gather f (textLink s href label).tokens = gather f (tokensAll label) := h.anchor _ _ _

/-- `button` has nothing to read. -/
theorem button (s : Resolved) (align : Align) (label : String) (url : Option String) :
    gather f (button s align label url).tokens = [] := h.overlooks.button s align label url

/-! ## Contents -/

/-- `header` has nothing to read. -/
theorem header (c : Header) (s : Resolved) : gather f (tokensAll (header c s)) = [] := by
  simp +decide [Fragment.header, h.void, h.classed]

/-- `socialAnchor?` has nothing to read. -/
theorem socialAnchors (s : Resolved) (css : String) (links : List SocialLink) :
    ∀ n ∈ links.filterMap (socialAnchor? s css), gather f n.tokens = [] := by
  intro n hn
  obtain ⟨link, -, hlink⟩ := List.mem_filterMap.1 hn
  obtain ⟨label, -, rfl⟩ := Option.map_eq_some_iff.1 hlink
  simp [h.anchor]

/-- `linkLine` has nothing to read, if its links have not. -/
theorem linkLine {links : List Node} (hlinks : gather f (tokensAll links) = []) (cls : String) :
    gather f (tokensAll (linkLine cls links)) = [] := by
  have hbar : gather f bar.tokens = [] := gather_text _
  unfold Fragment.linkLine
  split
  · rfl
  · simp +decide [h.classed, gather_separated hbar, hlinks]

/-- `footer` has nothing to read. -/
theorem footer (c : Footer) (s : Resolved) (year : Int) :
    gather f (tokensAll (footer c s year)) = [] := by
  -- Two lines of links and a line of copyright; the rest is fields.
  have hsocial := h.linkLine
    (gather_tokensAll_eq_nil (h.socialAnchors s "font-size: 12px;" c.socialLinks)) "nl-social"
  have hfooterLinks : gather f (tokensAll (footerLinks c s)) = [] := by
    simp [footerLinks, h.textLink]
  have hlinks := h.linkLine hfooterLinks "nl-footer-links"
  have hcopyright : gather f (copyright c.companyName year).tokens = [] := by
    simp +decide [copyright, h.classed]
  simp +decide [Fragment.footer, h.styled, h.classed, h.multiline, hsocial, hlinks, hcopyright]

/-- `heading` has nothing to read. -/
theorem heading (c : Heading) : gather f (tokensAll (heading c)) = [] := by
  have htag : headingTag c.level ∈ drawnTags := by
    -- Whatever level is asked for, one of three headings is used.
    unfold headingTag
    split
    · decide
    · dsimp only
      split
      · decide
      · split <;> decide
  simp [Fragment.heading, h.element htag, fieldText]

/-- `paragraph` has nothing to read. -/
theorem paragraph (c : Paragraph) : gather f (tokensAll (paragraph c)) = [] := by
  simp +decide [Fragment.paragraph, h.styled, h.multiline]

/-- `image` has nothing to read. -/
theorem image (c : Image) (s : Resolved) : gather f (tokensAll (image c s)) = [] := by
  have hcaption : ∀ css caption, gather f
      (tokensAll [Html.classed "p" "nl-caption" css [.text caption]]) = [] := by
    intro css caption
    simp +decide [h.classed]
  rw [Fragment.image, tokensAll_append, gather_append, gather_forPresent (hcaption _),
    List.append_nil]
  split <;> simp [h.anchor, h.wideImage]

/-- `video` has nothing to read. -/
theorem video (c : Video) (s : Resolved) : gather f (tokensAll (video c s)) = [] := by
  simp +decide [Fragment.video, h.anchor, h.textLink, h.wideImage, h.styled]

/-- `spacer` has nothing to read. -/
theorem spacer (c : Spacer) : gather f (tokensAll (spacer c)) = [] := by
  simp +decide [Fragment.spacer, noBreakSpace, h.classed]

/-- `featuredArticle` has nothing to read. -/
theorem featuredArticle (c : FeaturedArticle) (s : Resolved) :
    gather f (tokensAll (featuredArticle c s)) = [] := by
  simp +decide [Fragment.featuredArticle, h.fullTable, h.row, h.styled, h.classed, h.element,
    cardImage, h.void, h.button, fieldText]

/-- `productList` has nothing to read. -/
theorem productList (c : ProductList) (s : Resolved) :
    gather f (tokensAll (productList c s)) = [] := by
  have hcard : f (productCardTag s) = none := h "table" (by decide) _
  have hnone : f placeholderTag = none := h "p" (by decide) _
  rw [h.overlooks.productList]
  split
  · rw [hnone]
    rfl
  · exact List.filterMap_replicate_of_none hcard

/-- `subscribe` has nothing to read. -/
theorem subscribe (c : Subscribe) (s : Resolved) : gather f (tokensAll (subscribe c s)) = [] := by
  simp +decide [Fragment.subscribe, h.tightTable, h.row, h.styled, h.element, h.void, h.multiline,
    h.button]

/-- `testimonial` has nothing to read. -/
theorem testimonial (c : Testimonial) (s : Resolved) :
    gather f (tokensAll (testimonial c s)) = [] := by
  simp +decide [Fragment.testimonial, h.styled, h.classed, h.void, fieldText]

/-- `banner` has nothing to read. -/
theorem banner (c : Banner) (s : Resolved) : gather f (tokensAll (banner c s)) = [] := by
  simp +decide [Fragment.banner, h.styled, h.multiline, h.button]

/-- `socialLinks` has nothing to read. -/
theorem socialLinks (c : SocialLinks) (s : Resolved) :
    gather f (tokensAll (socialLinks c s)) = [] := by
  have hanchors := h.socialAnchors s "font-size: 14px;" c.links
  have hspacer : gather f socialSpacer.tokens = [] := by
    simp +decide [socialSpacer, noBreakSpace, h.element]
  unfold Fragment.socialLinks
  dsimp only
  split
  · rfl
  · -- Each link stands in a cell of its own.
    have hcells : gather f (tokensAll ((c.links.filterMap
        (socialAnchor? s "font-size: 14px;")).map
          fun a => Node.element "td" [⟨"class", "social-link"⟩] [a])) = [] := by
      apply gather_tokensAll_eq_nil
      intro cell hcell
      obtain ⟨link, hlink, rfl⟩ := List.mem_map.1 hcell
      simp +decide [h.element, hanchors link hlink]
    simp [h.tightTable, h.row, gather_separated hspacer, hcells]

end PassesOver

end Fragment

/-! ## Blocks -/

/-- The scripts of a content: one if it is a quiz with questions, and scripts are wanted. -/
def Content.scripts (c : Content) (ctx : RenderContext) (scope : String) : List Node :=
  match c with
  | .quiz c =>
    if ctx.scripts && !c.questions.isEmpty then
      [verbatim "script" (scoreScript scope c.questions.length)]
    else []
  | _ => []

/-- `body` of a content gives its scripts to a reader that passes over the elements of blocks, and
nothing else. -/
theorem Content.gather_body_of_passesOver {α : Type} {f : Token → Option α} [Token.IsReader f]
    (h : PassesOver f) {c : Content} (hraw : c.raw? = none) (s : Resolved) (ctx : RenderContext)
    (scope : String) :
    gather f (tokensAll (c.body s ctx scope)) =
      gather f (tokensAll (c.scripts ctx scope)) := by
  have hnone : f placeholderTag = none := h "p" (by decide) _
  cases c with
  | header c => exact h.header c s
  | footer c => exact h.footer c s ctx.year
  | heading c => exact h.heading c
  | paragraph c => exact h.paragraph c
  | image c => exact h.image c s
  | button c => simp [body, buttonBlock, scripts, h.button]
  | divider => exact h.divider s
  | spacer c => exact h.spacer c
  | compartment c => simp [raw?] at hraw
  | featuredArticle c => exact h.featuredArticle c s
  | articleGrid c => simp [body, scripts, h.overlooks.articleGrid, hnone]
  | eventCalendar c => simp [body, scripts, h.overlooks.eventCalendar, hnone]
  | quiz c =>
    by_cases hempty : c.questions = [] <;> cases hscripts : ctx.scripts <;>
      simp [body, scripts, h.overlooks.quiz, hnone, hempty, hscripts]
  | subscribe c => exact h.subscribe c s
  | testimonial c => exact h.testimonial c s
  | banner c => exact h.banner c s
  | products c => exact h.productList c s
  | socialLinks c => exact h.socialLinks c s
  | video c => exact h.video c s
  | unknown tag => rfl

/-- `draw` gives such a reader the scripts of the content: the envelope is made of the same
elements. -/
theorem Block.gather_draw_of_passesOver {α : Type} {f : Token → Option α} [Token.IsReader f]
    (h : PassesOver f) {b : Block} (hraw : b.content.raw? = none) (theme : Theme)
    (ctx : RenderContext) (scope : String) :
    gather f (tokensAll (b.draw theme ctx scope)) =
      gather f (tokensAll (b.content.scripts ctx scope)) := by
  cases hkind : b.content.kind? with
  | none =>
    -- A block of unknown kind is not drawn, and has no script.
    have hunknown : b.content.scripts ctx scope = [] := by
      cases hc : b.content with
      | quiz c => simp [hc, Content.kind?] at hkind
      | _ => rfl
    rw [draw, hkind, hunknown]
  | some kind =>
    rw [b.draw_of_kind? hkind, gather_tokensAll_cons, gather_tokensAll_nil, List.append_nil,
      envelope, h.fullTable, gather_tokensAll_cons, gather_tokensAll_nil, List.append_nil, h.row,
      gather_tokensAll_cons, gather_tokensAll_nil, List.append_nil, h.element (by decide),
      Content.gather_body_of_passesOver h hraw]

end Bulletin
