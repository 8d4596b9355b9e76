import Bulletin.Fragment.Draw
import Bulletin.Proofs.Markup.Tree
import Bulletin.Proofs.Quiz.Script

/-!
# Fragments are well formed

Every content of a block is drawn as a well-formed tree, whatever its texts are.  The one condition
is on a framed part, whose HTML is the author's own and must be allowed; the one script must not
hold a closing tag.

## Main statements

- `wellFormedAll_body`: what stands in the envelope of a block is well formed
- `wellFormedAll_draw`: so is the envelope around it
-/

namespace Bulletin

open Html Text

variable {allow : String → Prop}

namespace Html.Node

variable {tag : String} {attrs : List Attr} {children : List Node}

/-- `text` is well formed. -/
@[simp] theorem wellFormed_text (s : String) : (text s).WellFormed allow := trivial

/-- `entity` is well formed if its name is one. -/
@[simp] theorem wellFormed_entity {name : String} :
    (entity name).WellFormed allow ↔ isName name = true := Iff.rfl

/-- `void` is well formed if its tag is that of an empty element and its attributes are named. -/
@[simp] theorem wellFormed_void :
    (void tag attrs).WellFormed allow ↔ isVoidTag tag = true ∧ Attr.allNamed attrs = true := Iff.rfl

/-- `element` is well formed if its tag and attributes are, and all of its children. -/
@[simp] theorem wellFormed_element :
    (element tag attrs children).WellFormed allow ↔
      isElementTag tag = true ∧ Attr.allNamed attrs = true ∧ WellFormedAll allow children := Iff.rfl

/-- `raw` is well formed if its HTML is allowed. -/
@[simp] theorem wellFormed_raw {html : String} : (raw html).WellFormed allow ↔ allow html := Iff.rfl

/-- `map` makes well-formed nodes of what makes them one by one. -/
theorem wellFormedAll_map {α : Type} {f : α → Node} (h : ∀ a, (f a).WellFormed allow)
    (xs : List α) : WellFormedAll allow (xs.map f) := by
  rw [wellFormedAll_iff]
  intro n hn
  obtain ⟨a, -, rfl⟩ := List.mem_map.1 hn
  exact h a

/-- `mapIdx` makes well-formed nodes of what makes them one by one. -/
theorem wellFormedAll_mapIdx {α : Type} {f : Nat → α → Node} (h : ∀ i a, (f i a).WellFormed allow)
    (xs : List α) : WellFormedAll allow (xs.mapIdx f) := by
  rw [wellFormedAll_iff]
  intro n hn
  obtain ⟨i, hi, rfl⟩ := List.mem_mapIdx.1 hn
  exact h i xs[i]

/-- `separated` is well formed if the separator and the nodes are. -/
theorem wellFormedAll_separated {separator : Node} (hsep : separator.WellFormed allow)
    {ns : List Node} (h : WellFormedAll allow ns) :
    WellFormedAll allow (separated separator ns) := by
  fun_induction separated separator ns with
  | case1 => trivial
  | case2 n => exact h
  | case3 n ns hne ih =>
    rw [wellFormedAll_cons] at h
    exact ⟨h.1, hsep, ih h.2⟩

end Html.Node

namespace Html.Attr

@[simp] theorem allNamed_nil : allNamed [] = true := rfl

@[simp] theorem allNamed_cons (a : Attr) (attrs : List Attr) :
    allNamed (a :: attrs) = (isName a.name && allNamed attrs) := rfl

@[simp] theorem allNamed_append (xs ys : List Attr) :
    allNamed (xs ++ ys) = (allNamed xs && allNamed ys) := List.all_append

end Html.Attr

namespace Html

open Node

@[simp] theorem allNamed_noSpacing : Attr.allNamed noSpacing = true := by decide

/-! ## Parts -/

section Parts

variable {tag cls css : String} {attrs more : List Attr} {children : List Node}

@[simp] theorem wellFormed_lineBreak : lineBreak.WellFormed allow := ⟨by decide, by decide⟩

/-- A no-break space is an entity with a proper name. -/
@[simp] theorem wellFormed_noBreakSpace : noBreakSpace.WellFormed allow := by
  rw [noBreakSpace, wellFormed_entity]
  decide

/-- `multiline` is well formed: text and line breaks. -/
@[simp] theorem wellFormedAll_multiline (s : String) : WellFormedAll allow (multiline s) :=
  wellFormedAll_separated wellFormed_lineBreak (wellFormedAll_map (fun _ => wellFormed_text _) _)

/-- `styled` is well formed if what stands in it is. -/
@[simp] theorem wellFormed_styled :
    (styled tag css children).WellFormed allow ↔
      isElementTag tag = true ∧ WellFormedAll allow children := by
  have hstyle : isName "style" = true := by decide
  simp [styled, hstyle]

/-- `classed` is well formed if what stands in it is. -/
@[simp] theorem wellFormed_classed :
    (classed tag cls css children).WellFormed allow ↔
      isElementTag tag = true ∧ WellFormedAll allow children := by
  have hstyle : isName "style" = true := by decide
  have hclass : isName "class" = true := by decide
  simp [classed, hstyle, hclass]

/-- `row` is well formed if its cells are. -/
@[simp] theorem wellFormed_row :
    (row children).WellFormed allow ↔ WellFormedAll allow children := by
  have hrow : isElementTag "tr" = true := by decide
  simp [row, hrow]

/-- `fullTable` is well formed if its further attributes are named and its rows are well formed. -/
@[simp] theorem wellFormed_fullTable :
    (fullTable cls more children).WellFormed allow ↔
      Attr.allNamed more = true ∧ WellFormedAll allow children := by
  have htable : isElementTag "table" = true := by decide
  have hattrs : (isName "role" && isName "class" && isName "width") = true := by decide
  simp_all [fullTable]

/-- `tightTable` is well formed if its attributes are named and its rows are well formed. -/
@[simp] theorem wellFormed_tightTable :
    (tightTable attrs more children).WellFormed allow ↔
      (Attr.allNamed attrs = true ∧ Attr.allNamed more = true) ∧ WellFormedAll allow children := by
  have htable : isElementTag "table" = true := by decide
  have hrole : isName "role" = true := by decide
  simp [tightTable, htable, hrole]

end Parts

end Html

namespace Fragment

open Node

@[simp] theorem allNamed_centerAttr (align : Align) : Attr.allNamed (centerAttr align) = true := by
  unfold centerAttr
  split <;> decide

/-- `forPresent` is well formed if what it draws is. -/
@[simp] theorem wellFormedAll_forPresent {field : Option String} {draw : String → List Node}
    (h : ∀ s, WellFormedAll allow (draw s)) : WellFormedAll allow (forPresent field draw) := by
  unfold forPresent
  split
  · exact h _
  · trivial

@[simp] theorem wellFormed_fieldText (field : Option String) : (fieldText field).WellFormed allow :=
  trivial

/-- `anchor` is well formed if its further attributes are named and its label is well formed. -/
@[simp] theorem wellFormed_anchor {href : String} {more : List Attr} {label : List Node} :
    (anchor href more label).WellFormed allow ↔
      Attr.allNamed more = true ∧ WellFormedAll allow label := by
  have hlink : isElementTag "a" = true := by decide
  have hattrs : (isName "href" && isName "target") = true := by decide
  simp_all [anchor]

/-- `textLink` is well formed if its label is. -/
@[simp] theorem wellFormed_textLink {s : Resolved} {href : String} {label : List Node} :
    (textLink s href label).WellFormed allow ↔ WellFormedAll allow label := by
  have hstyle : isName "style" = true := by decide
  simp [textLink, hstyle]

/-- `button` is well formed, wherever it leads. -/
@[simp] theorem wellFormed_button (s : Resolved) (align : Align) (label : String)
    (url : Option String) : (button s align label url).WellFormed allow := by
  simp +decide [button]

/-- `placeholder` is well formed. -/
@[simp] theorem wellFormed_placeholder (message : String) :
    (placeholder message).WellFormed allow := by
  simp +decide [placeholder]

/-- `sectionTitle` is well formed. -/
@[simp] theorem wellFormedAll_sectionTitle (s : Resolved) (title : Option String) :
    WellFormedAll allow (sectionTitle s title) := by
  simp +decide [sectionTitle]

/-- `gridSpacer` is well formed. -/
@[simp] theorem wellFormed_gridSpacer : gridSpacer.WellFormed allow := by
  simp +decide [gridSpacer]

/-! ## Contents -/

/-- `header` is well formed. -/
theorem wellFormedAll_header (c : Header) (s : Resolved) : WellFormedAll allow (header c s) := by
  simp +decide [header]

/-- `socialAnchor?` draws well-formed links. -/
theorem wellFormed_of_socialAnchor? {s : Resolved} {css : String} {link : SocialLink} {n : Node}
    (h : socialAnchor? s css link = some n) : n.WellFormed allow := by
  obtain ⟨label, -, rfl⟩ := Option.map_eq_some_iff.1 h
  simp +decide

/-- `socialAnchor?` makes well-formed links. -/
theorem wellFormedAll_socialAnchors (s : Resolved) (css : String) (links : List SocialLink) :
    WellFormedAll allow (links.filterMap (socialAnchor? s css)) := by
  rw [wellFormedAll_iff]
  intro n hn
  obtain ⟨link, -, hlink⟩ := List.mem_filterMap.1 hn
  exact wellFormed_of_socialAnchor? hlink

/-- `linkLine` is well formed if its links are. -/
theorem wellFormedAll_linkLine {cls : String} {links : List Node} (h : WellFormedAll allow links) :
    WellFormedAll allow (linkLine cls links) := by
  unfold linkLine
  split
  · trivial
  · have hline : WellFormedAll allow (separated bar links) :=
      wellFormedAll_separated (wellFormed_text _) h
    simp +decide [hline]

/-- `footer` is well formed. -/
theorem wellFormedAll_footer (c : Footer) (s : Resolved) (year : Int) :
    WellFormedAll allow (footer c s year) := by
  -- Two lines of links and a line of copyright: the rest of the footer is fields.
  have hsocial : WellFormedAll allow
      (linkLine "nl-social" (c.socialLinks.filterMap (socialAnchor? s "font-size: 12px;"))) :=
    wellFormedAll_linkLine (wellFormedAll_socialAnchors s _ c.socialLinks)
  have hlinks : WellFormedAll allow (linkLine "nl-footer-links" (footerLinks c s)) := by
    apply wellFormedAll_linkLine
    simp [footerLinks]
  have hcopyright : (copyright c.companyName year).WellFormed allow := by
    simp +decide [copyright]
  simp +decide [footer, hsocial, hlinks, hcopyright]

/-- `headingTag` names an element. -/
theorem isElementTag_headingTag (level : Option String) :
    isElementTag (headingTag level) = true := by
  -- Whatever level is asked for, one of three headings is used.
  unfold headingTag
  split
  · decide
  · dsimp only
    split
    · decide
    · split <;> decide

/-- `heading` is well formed. -/
theorem wellFormedAll_heading (c : Heading) : WellFormedAll allow (heading c) := by
  simp [heading, isElementTag_headingTag]

/-- `paragraph` is well formed. -/
theorem wellFormedAll_paragraph (c : Paragraph) : WellFormedAll allow (paragraph c) := by
  simp +decide [paragraph]

/-- `wideImage` is well formed. -/
theorem wellFormed_wideImage (s : Resolved) (src alt : String) :
    (wideImage s src alt).WellFormed allow := by
  simp +decide [wideImage]

/-- `image` is well formed, linked or not. -/
theorem wellFormedAll_image (c : Image) (s : Resolved) : WellFormedAll allow (image c s) := by
  simp only [image, wellFormedAll_append]
  constructor
  · split <;> simp [wellFormed_wideImage]
  · simp +decide

/-- `video` is well formed. -/
theorem wellFormedAll_video (c : Video) (s : Resolved) : WellFormedAll allow (video c s) := by
  simp +decide [video, wellFormed_wideImage]

/-- `divider` is well formed. -/
theorem wellFormedAll_divider (s : Resolved) : WellFormedAll allow (divider s) := by
  simp +decide [divider]

/-- `spacer` is well formed. -/
theorem wellFormedAll_spacer (c : Spacer) : WellFormedAll allow (spacer c) := by
  simp +decide [spacer]

/-- `compartment` is well formed when its author's HTML is allowed. -/
theorem wellFormedAll_compartment {c : Compartment} (s : Resolved)
    (h : allow (c.content.getD "")) : WellFormedAll allow (compartment c s) := by
  simp +decide [compartment, h]

/-- `cardImage` is well formed if its further attributes are named. -/
@[simp] theorem wellFormed_cardImage {src alt css : String} {attrs : List Attr} :
    (cardImage src alt attrs css).WellFormed allow ↔ Attr.allNamed attrs = true := by
  have himg : isVoidTag "img" = true := by decide
  have hattrs : (isName "src" && isName "alt" && isName "style") = true := by decide
  simp_all [cardImage]

/-- `featuredArticle` is well formed. -/
theorem wellFormedAll_featuredArticle (c : FeaturedArticle) (s : Resolved) :
    WellFormedAll allow (featuredArticle c s) := by
  simp +decide [featuredArticle]

/-- `articleCard` is well formed. -/
theorem wellFormed_articleCard (s : Resolved) (a : Article) :
    (articleCard s a).WellFormed allow := by
  simp +decide [articleCard]

/-- `gridCell` is well formed if what stands in it is. -/
theorem wellFormed_gridCell {content : List Node} (cls : String) (percent : Nat)
    (h : WellFormedAll allow content) : (gridCell cls percent content).WellFormed allow := by
  simp +decide [gridCell, h]

/-- `articleGrid` is well formed. -/
theorem wellFormedAll_articleGrid (c : ArticleGrid) (s : Resolved) :
    WellFormedAll allow (articleGrid c s) := by
  unfold articleGrid
  split
  · simp
  · -- The width of a cell depends on how many there are, which is no matter here.
    have hcell : ∀ a : Article, (gridCell "article-cell" (cellWidth c.articles.length)
        [articleCard s a]).WellFormed allow := by
      intro a
      apply wellFormed_gridCell
      exact ⟨wellFormed_articleCard s a, trivial⟩
    simp [wellFormedAll_separated wellFormed_gridSpacer (wellFormedAll_map hcell c.articles)]

/-- `productCard` is well formed. -/
theorem wellFormed_productCard (s : Resolved) (p : Product) :
    (productCard s p).WellFormed allow := by
  simp +decide [productCard]

/-- `productCells` are well formed, empty ones included. -/
theorem wellFormedAll_productCells (s : Resolved) (products : List Product) :
    WellFormedAll allow (productCells s products) := by
  apply wellFormedAll_map
  intro slot
  exact wellFormed_gridCell _ _ (wellFormedAll_map (wellFormed_productCard s) _)

/-- `productList` is well formed. -/
theorem wellFormedAll_productList (c : ProductList) (s : Resolved) :
    WellFormedAll allow (productList c s) := by
  rw [productList, wellFormedAll_append]
  refine ⟨wellFormedAll_sectionTitle s c.title, ?_⟩
  split
  · simp
  · simp [wellFormedAll_separated wellFormed_gridSpacer (wellFormedAll_productCells s c.products)]

/-- `detailRow` is well formed. -/
theorem wellFormedAll_detailRow (label : String) (value : Option String) :
    WellFormedAll allow (detailRow label value) := by
  simp +decide [detailRow]

/-- `eventItem` is well formed. -/
theorem wellFormed_eventItem (s : Resolved) (e : Event) : (eventItem s e).WellFormed allow := by
  simp +decide [eventItem, wideRow, wellFormedAll_detailRow]

/-- `eventCalendar` is well formed. -/
theorem wellFormedAll_eventCalendar (c : EventCalendar) (s : Resolved) :
    WellFormedAll allow (eventCalendar c s) := by
  rw [eventCalendar, wellFormedAll_append]
  refine ⟨wellFormedAll_sectionTitle s c.title, ?_⟩
  split
  · simp
  · exact wellFormedAll_map (wellFormed_eventItem s) c.events

/-- `subscribe` is well formed. -/
theorem wellFormedAll_subscribe (c : Subscribe) (s : Resolved) :
    WellFormedAll allow (subscribe c s) := by
  simp +decide [subscribe]

/-- `testimonial` is well formed. -/
theorem wellFormedAll_testimonial (c : Testimonial) (s : Resolved) :
    WellFormedAll allow (testimonial c s) := by
  simp +decide [testimonial]

/-- `banner` is well formed. -/
theorem wellFormedAll_banner (c : Banner) (s : Resolved) : WellFormedAll allow (banner c s) := by
  simp +decide [banner]

/-- `socialLinks` is well formed. -/
theorem wellFormedAll_socialLinks (c : SocialLinks) (s : Resolved) :
    WellFormedAll allow (socialLinks c s) := by
  -- The links are known to be well formed as a list, and each of them gets a cell of its own.
  have hlinks : ∀ n ∈ c.links.filterMap (socialAnchor? s "font-size: 14px;"), n.WellFormed allow :=
    wellFormedAll_iff.1 (wellFormedAll_socialAnchors s "font-size: 14px;" c.links)
  have hspacer : socialSpacer.WellFormed allow := by
    simp +decide [socialSpacer]
  unfold socialLinks
  dsimp only
  split
  · trivial
  · have hcells : WellFormedAll allow ((c.links.filterMap (socialAnchor? s "font-size: 14px;")).map
        fun a => element "td" [⟨"class", "social-link"⟩] [a]) := by
      rw [wellFormedAll_iff]
      intro cell hcell
      obtain ⟨link, hlink, rfl⟩ := List.mem_map.1 hcell
      simp +decide [hlinks link hlink]
    simp [wellFormedAll_separated hspacer hcells]

/-- `quizOption` is well formed. -/
theorem wellFormed_quizOption (scope : String) (index : Nat) (q : QuizQuestion) (i : Nat)
    (o : QuizOption) : (quizOption scope index q i o).WellFormed allow := by
  -- A right answer carries one attribute more.
  unfold quizOption
  split <;> simp +decide

/-- `quizQuestion` is well formed. -/
theorem wellFormed_quizQuestion (scope : String) (index : Nat) (q : QuizQuestion) :
    (quizQuestion scope index q).WellFormed allow := by
  have hoptions : WellFormedAll allow (q.options.mapIdx (quizOption scope index q)) :=
    wellFormedAll_mapIdx (wellFormed_quizOption scope index q) q.options
  simp +decide [quizQuestion, hoptions]

/-- `scoring` is well formed: its script holds no closing tag, so the scanner finds its end. -/
theorem wellFormedAll_scoring {scope : String} (hscope : ∀ c ∈ scope.toList, isScopeChar c = true)
    (total : Nat) (s : Resolved) : WellFormedAll allow (scoring scope total s) := by
  have hscript : (verbatim "script" (scoreScript scope total)).WellFormed allow := by
    refine ⟨by decide, ?_⟩
    -- A closing tag would bring a slash, and neither template nor scope nor number has one.
    intro hclose
    exact slash_notMem_scoreScript hscope total (hclose.mem (by decide))
  simp +decide [scoring, hscript]

/-- `quiz` is well formed under every scope. -/
theorem wellFormedAll_quiz {scope : String} (hscope : ∀ c ∈ scope.toList, isScopeChar c = true)
    (c : Quiz) (s : Resolved) (scripts : Bool) : WellFormedAll allow (quiz scope c s scripts) := by
  rw [quiz, wellFormedAll_append]
  refine ⟨wellFormedAll_sectionTitle s c.title, ?_⟩
  split
  · simp
  · rw [wellFormedAll_append]
    refine ⟨wellFormedAll_mapIdx (wellFormed_quizQuestion scope) c.questions, ?_⟩
    split
    · exact wellFormedAll_scoring hscope _ s
    · trivial

end Fragment

/-! ## Blocks -/

/-- The HTML that a content brings along, which only framed parts do. -/
def Content.raw? : Content → Option String
  | .compartment c => some (c.content.getD "")
  | _ => none

/-- The HTML that a content brings along is balanced. -/
def Content.RawBalanced (c : Content) : Prop := ∀ html ∈ c.raw?, Balanced html

open Fragment Node

/-- `body` of a content is well formed. -/
theorem Content.wellFormedAll_body {c : Content} (hraw : ∀ html ∈ c.raw?, allow html) (s : Resolved)
    (ctx : RenderContext) {scope : String} (hscope : ∀ c ∈ scope.toList, isScopeChar c = true) :
    WellFormedAll allow (c.body s ctx scope) := by
  cases c with
  | header c => exact wellFormedAll_header c s
  | footer c => exact wellFormedAll_footer c s ctx.year
  | heading c => exact wellFormedAll_heading c
  | paragraph c => exact wellFormedAll_paragraph c
  | image c => exact wellFormedAll_image c s
  | button c => exact ⟨wellFormed_button _ _ _ _, trivial⟩
  | divider => exact wellFormedAll_divider s
  | spacer c => exact wellFormedAll_spacer c
  | compartment c => exact wellFormedAll_compartment s (hraw _ rfl)
  | featuredArticle c => exact wellFormedAll_featuredArticle c s
  | articleGrid c => exact wellFormedAll_articleGrid c s
  | eventCalendar c => exact wellFormedAll_eventCalendar c s
  | quiz c => exact wellFormedAll_quiz hscope c s ctx.scripts
  | subscribe c => exact wellFormedAll_subscribe c s
  | testimonial c => exact wellFormedAll_testimonial c s
  | banner c => exact wellFormedAll_banner c s
  | products c => exact wellFormedAll_productList c s
  | socialLinks c => exact wellFormedAll_socialLinks c s
  | video c => exact wellFormedAll_video c s
  | unknown tag => trivial

/-- `envelope` is well formed if what stands in it is. -/
theorem Fragment.wellFormed_envelope {kind : Kind} {s : Resolved} {body : List Node} :
    (envelope kind s body).WellFormed allow ↔ WellFormedAll allow body := by
  have hcell : isElementTag "td" = true := by decide
  have hattrs : (isName "align" && isName "style") = true := by decide
  simp_all [envelope]

/-- `draw` of a block is well formed. -/
theorem Block.wellFormedAll_draw {b : Block} (hraw : ∀ html ∈ b.content.raw?, allow html)
    (theme : Theme) (ctx : RenderContext) {scope : String}
    (hscope : ∀ c ∈ scope.toList, isScopeChar c = true) :
    WellFormedAll allow (b.draw theme ctx scope) := by
  unfold Block.draw
  -- Blocks of unknown kind are not drawn.
  split
  · exact ⟨wellFormed_envelope.2 (Content.wellFormedAll_body hraw _ ctx hscope), trivial⟩
  · trivial

end Bulletin
