import Bulletin.Proofs.Markup.Outline
import Bulletin.Proofs.Markup.Pages

/-!
# No text becomes markup

The skeleton of a fragment is settled by the kind and the shape of its block, by whether the block
is centered and by whether scripts are asked for.  No text, address, id, style, color, number or
year changes it.

## Main statements

- `markupAll_body_congr`: contents of one kind and one shape have the same markup
- `skeleton_renderScoped_congr`: so have their fragments
- `skeleton_assemble_congr`: of a document only the fragments and the preheader show
-/

namespace Bulletin

open Html Node Text

/-- Lists with the same shapes have the same image under what depends on the shape only. -/
theorem map_congr_of_shape {α β : Type} {shape : α → Shape} {f g : α → β}
    (h : ∀ a b, shape a = shape b → f a = g b) {xs ys : List α}
    (hshape : xs.map shape = ys.map shape) : xs.map f = ys.map g := by
  induction xs generalizing ys with
  | nil =>
    obtain rfl : ys = [] := by simpa using hshape.symm
    rfl
  | cons x xs ih =>
    cases ys with
    | nil => simp at hshape
    | cons y ys =>
      rw [List.map_cons, List.map_cons, List.cons.injEq] at hshape
      rw [List.map_cons, List.map_cons, h x y hshape.1, ih hshape.2]

/-- Nodes that are drawn of items with the same shapes have the same markup. -/
theorem map_markup_map_congr {α : Type} {shape : α → Shape} {f g : α → Node}
    (h : ∀ a b, shape a = shape b → (f a).markup = (g b).markup) {xs ys : List α}
    (hshape : xs.map shape = ys.map shape) : (xs.map f).map markup = (ys.map g).map markup := by
  rw [List.map_map, List.map_map]
  exact map_congr_of_shape h hshape

/-- Lists with the same shapes are equally long. -/
theorem length_eq_of_shape {α : Type} {shape : α → Shape} {xs ys : List α}
    (hshape : xs.map shape = ys.map shape) : xs.length = ys.length := by
  simpa using congrArg List.length hshape

/-- Lists of nodes with the same markup are both empty or both not. -/
theorem isEmpty_eq_of_map_markup {ns ms : List Node} (h : ns.map markup = ms.map markup) :
    ns.isEmpty = ms.isEmpty := by
  have hlen := congrArg List.length h
  cases ns <;> cases ms <;> simp_all

/-- Lists with the same shapes are both empty or both not. -/
theorem isEmpty_eq_of_shape {α : Type} {shape : α → Shape} {xs ys : List α}
    (hshape : xs.map shape = ys.map shape) : xs.isEmpty = ys.isEmpty := by
  have hlen := length_eq_of_shape hshape
  cases xs <;> cases ys <;> simp_all

namespace Fragment

/-! ## Parts -/

section Parts

variable {s : Resolved} {href cls css : String} {more : List Attr} {label : List Node}

/-- `forPresent` by the flag of the field. -/
theorem forPresent_eq (field : Option String) (draw : String → List Node) :
    forPresent field draw = if isPresent field = true then draw (field.getD "") else [] := by
  unfold forPresent isPresent
  cases hfield : present field with
  | none => rfl
  | some t =>
    rw [(present_eq_some_iff.1 hfield).1]
    rfl

/-- `forPresent` shows only if the field is present. -/
@[simp] theorem markupAll_forPresent (field : Option String) (draw : String → List Node) :
    markupAll (forPresent field draw) =
      if isPresent field = true then markupAll (draw (field.getD "")) else [] := by
  rw [forPresent_eq]
  split <;> rfl

@[simp] theorem map_markup_forPresent (field : Option String) (draw : String → List Node) :
    (forPresent field draw).map markup =
      if isPresent field = true then (draw (field.getD "")).map markup else [] := by
  rw [forPresent_eq]
  split <;> rfl

/-- `presentOr` has the line feeds of the field or of the default. -/
theorem lineFeeds_presentOr {default : String} (field : Option String) :
    lineFeeds (presentOr default field) =
      if isPresent field = true then lineFeeds (field.getD "") else lineFeeds default := by
  unfold presentOr isPresent
  cases hfield : present field with
  | none => rfl
  | some t =>
    rw [(present_eq_some_iff.1 hfield).1]
    rfl

@[simp] theorem markup_fieldText (field : Option String) : (fieldText field).markup = [] := rfl

@[simp] theorem markup_lineBreak : lineBreak.markup = single 0 := rfl

@[simp] theorem markup_noBreakSpace : noBreakSpace.markup = [] := rfl

/-- `anchor` shows how many attributes it has, and its label. -/
@[simp] theorem markup_anchor :
    (anchor href more label).markup = enclosed (2 + more.length) (markupAll label) := by
  rw [anchor, markup_element, List.length_append]
  rfl

@[simp] theorem markup_textLink :
    (textLink s href label).markup = enclosed 3 (markupAll label) := rfl

@[simp] theorem length_centerAttr (align : Align) :
    (centerAttr align).length = if align = .center then 1 else 0 := by
  unfold centerAttr
  split <;> rfl

/-- `button` shows whether it is centered, and not where it leads. -/
@[simp] theorem markup_button (align : Align) (text : String) (url : Option String) :
    (button s align text url).markup =
      enclosed ((if align = .center then 1 else 0) + 4)
        (enclosed 0 (enclosed 4 (enclosed 4 []))) := by
  simp [button]

@[simp] theorem markup_placeholder (message : String) :
    (placeholder message).markup = enclosed 2 [] := rfl

/-- `sectionTitle` shows whether there is a title. -/
@[simp] theorem markupAll_sectionTitle (title : Option String) :
    markupAll (sectionTitle s title) = if isPresent title = true then enclosed 1 [] else [] := by
  simp [sectionTitle]

@[simp] theorem markup_wideImage (src alt : String) : (wideImage s src alt).markup = single 4 := rfl

/-- `cardImage` shows how many attributes it has. -/
@[simp] theorem markup_cardImage (src alt : String) :
    (cardImage src alt more css).markup = single (3 + more.length) := by
  rw [cardImage, markup_void]
  congr 1
  simp only [List.length_append, List.length_cons, List.length_nil]
  omega

end Parts

/-! ## Contents -/

variable {s t : Resolved}

/-- `header` shows its shape. -/
theorem markupAll_header_congr {c c' : Header}
    (h : (Content.header c).shape = (Content.header c').shape) :
    markupAll (header c s) = markupAll (header c' t) := by
  simp only [Content.shape, Shape.ofFields_inj, List.map_cons, List.cons.injEq] at h
  simp [header, h]

/-- `socialAnchor?` shows whether there is something to label a link with. -/
theorem map_markup_socialAnchor? (css : String) (link : SocialLink) :
    (socialAnchor? s css link).map markup =
      if (isPresent link.platform || isPresent link.url) = true then some (enclosed 3 [])
      else none := by
  unfold socialAnchor? isPresent
  cases present link.platform <;> cases present link.url <;> rfl

/-- `socialAnchor?` shows which links have a label. -/
theorem map_markup_socialAnchors_congr {css cst : String} {links linkt : List SocialLink}
    (h : links.map SocialLink.shape = linkt.map SocialLink.shape) :
    (links.filterMap (socialAnchor? s css)).map markup =
      (linkt.filterMap (socialAnchor? t cst)).map markup := by
  have hlink : ∀ a b : SocialLink, a.shape = b.shape →
      (socialAnchor? s css a).map markup = (socialAnchor? t cst b).map markup := by
    intro a b hab
    simp only [SocialLink.shape, Shape.ofFields_inj, List.map_cons, List.cons.injEq] at hab
    rw [map_markup_socialAnchor?, map_markup_socialAnchor?, hab.1.1, hab.1.2.1]
  -- Before the links without a label are dropped, the two lists agree place by place.
  have hmap := congrArg (List.filterMap id) (map_congr_of_shape hlink h)
  rw [List.filterMap_map, List.filterMap_map] at hmap
  rw [List.map_filterMap, List.map_filterMap]
  exact hmap

/-- `linkLine` shows its links. -/
theorem markupAll_linkLine_congr {cls clt : String} {links linkt : List Node}
    (h : links.map markup = linkt.map markup) :
    markupAll (linkLine cls links) = markupAll (linkLine clt linkt) := by
  unfold linkLine
  rw [isEmpty_eq_of_map_markup h]
  split
  · rfl
  · simp [markupAll_separated_congr bar h]

/-- `footer` shows its shape. -/
theorem markupAll_footer_congr {c c' : Footer} {year year' : Int}
    (h : (Content.footer c).shape = (Content.footer c').shape) :
    markupAll (footer c s year) = markupAll (footer c' t year') := by
  simp only [Content.shape, Shape.ofFields_inj, List.map_cons, List.cons.injEq] at h
  obtain ⟨hfields, hfeeds, hsocial⟩ := h
  -- The line of links has three places, each for one of the flags.
  have hanchors : (footerLinks c s).map markup = (footerLinks c' t).map markup := by
    simp [footerLinks, hfields]
  have hsocialLine : markupAll
        (linkLine "nl-social" (c.socialLinks.filterMap (socialAnchor? s "font-size: 12px;"))) =
      markupAll
        (linkLine "nl-social" (c'.socialLinks.filterMap (socialAnchor? t "font-size: 12px;"))) :=
    markupAll_linkLine_congr (map_markup_socialAnchors_congr hsocial)
  have hlinkLine : markupAll (linkLine "nl-footer-links" (footerLinks c s)) =
      markupAll (linkLine "nl-footer-links" (footerLinks c' t)) :=
    markupAll_linkLine_congr hanchors
  simp [footer, copyright, hfields, hfeeds, hsocialLine, hlinkLine]

/-- `heading` shows nothing of its text or level. -/
theorem markupAll_heading_congr (c c' : Heading) :
    markupAll (heading c) = markupAll (heading c') := by
  simp [heading]

/-- `paragraph` shows the line feeds of its text. -/
theorem markupAll_paragraph_congr {c c' : Paragraph}
    (h : (Content.paragraph c).shape = (Content.paragraph c').shape) :
    markupAll (paragraph c) = markupAll (paragraph c') := by
  simp only [Content.shape, Shape.ofFields_inj, List.map_cons, List.cons.injEq] at h
  simp [paragraph, h]

/-- `image` shows whether it is linked and has a caption. -/
theorem markupAll_image_congr {c c' : Image}
    (h : (Content.image c).shape = (Content.image c').shape) :
    markupAll (image c s) = markupAll (image c' t) := by
  simp only [Content.shape, Shape.ofFields_inj, List.map_cons, List.cons.injEq] at h
  -- A linked image is the image inside of an anchor, and the caption follows either way.
  have himage : ∀ (d : Image) (r : Resolved), markupAll (image d r) =
      (if isPresent d.linkUrl = true then enclosed 2 (single 4) else single 4) ++
        if isPresent d.caption = true then enclosed 2 [] else [] := by
    intro d r
    have hpresent : isPresent d.linkUrl = (present d.linkUrl).isSome := rfl
    rw [image, hpresent]
    cases present d.linkUrl <;> simp
  rw [himage, himage, h.1.1, h.1.2.1]

/-- `buttonBlock` shows whether it is centered. -/
theorem markupAll_buttonBlock_congr (c c' : Button)
    (halign : s.align = .center ↔ t.align = .center) :
    markupAll (buttonBlock c s) = markupAll (buttonBlock c' t) := by
  simp [buttonBlock, halign]

theorem markupAll_divider_congr : markupAll (divider s) = markupAll (divider t) := by
  simp [divider]

theorem markupAll_spacer_congr (c c' : Spacer) : markupAll (spacer c) = markupAll (spacer c') := by
  simp [spacer]

/-- `compartment` shows its author's own HTML as well. -/
theorem markupAll_compartment_congr {c c' : Compartment}
    (h : (Content.compartment c).shape = (Content.compartment c').shape)
    (hraw : skeleton (c.content.getD "").toList = skeleton (c'.content.getD "").toList) :
    markupAll (compartment c s) = markupAll (compartment c' t) := by
  simp only [Content.shape, Shape.ofFields_inj, List.map_cons, List.cons.injEq] at h
  simp [compartment, h, hraw]

/-- `featuredArticle` shows its shape. -/
theorem markupAll_featuredArticle_congr {c c' : FeaturedArticle}
    (h : (Content.featuredArticle c).shape = (Content.featuredArticle c').shape) :
    markupAll (featuredArticle c s) = markupAll (featuredArticle c' t) := by
  simp only [Content.shape, Shape.ofFields_inj, List.map_cons, List.cons.injEq] at h
  simp [featuredArticle, h]

theorem markup_gridCell (cls : String) (percent : Nat) (content : List Node) :
    (gridCell cls percent content).markup = enclosed 4 (markupAll content) := rfl

/-- `articleCard` shows the shape of its article. -/
theorem markup_articleCard_congr {a b : Article} (h : a.shape = b.shape) :
    (articleCard s a).markup = (articleCard t b).markup := by
  simp only [Article.shape, Shape.ofFields_inj, List.map_cons, List.cons.injEq] at h
  simp [articleCard, h]

/-- `articleGrid` shows the shapes of its articles. -/
theorem markupAll_articleGrid_congr {c c' : ArticleGrid}
    (h : (Content.articleGrid c).shape = (Content.articleGrid c').shape) :
    markupAll (articleGrid c s) = markupAll (articleGrid c' t) := by
  simp only [Content.shape, Shape.ofFields_inj, List.map_nil, true_and] at h
  have hcell : ∀ a b : Article, a.shape = b.shape →
      (gridCell "article-cell" (cellWidth c.articles.length) [articleCard s a]).markup =
        (gridCell "article-cell" (cellWidth c'.articles.length) [articleCard t b]).markup := by
    intro a b hab
    have hcard : (articleCard s a).markup = (articleCard t b).markup := markup_articleCard_congr hab
    simp [markup_gridCell, hcard]
  -- The cells agree one by one, and so do the gaps between them.
  have hcells := markupAll_separated_congr gridSpacer (map_markup_map_congr hcell h)
  unfold articleGrid
  rw [isEmpty_eq_of_shape h]
  split
  · rfl
  · simp [hcells]

/-- `productCard` shows the shape of its product. -/
theorem markup_productCard_congr {p q : Product} (h : p.shape = q.shape) :
    (productCard s p).markup = (productCard t q).markup := by
  simp only [Product.shape, Shape.ofFields_inj, List.map_cons, List.cons.injEq] at h
  simp [productCard, h]

/-- `productCells` show the shapes of the products in them. -/
theorem map_markup_productCells_congr {ps qs : List Product}
    (h : ps.map Product.shape = qs.map Product.shape) :
    (productCells s ps).map markup = (productCells t qs).map markup := by
  unfold productCells
  rw [List.map_map, List.map_map]
  apply List.map_congr_left
  intro slot _
  have hslot : ps[slot]?.toList.map Product.shape = qs[slot]?.toList.map Product.shape := by
    -- The slot's shape is that of the product at its place, if there is one.
    have hget := congrArg (fun shapes : List Shape => shapes[slot]?.toList) h
    simpa [Option.toList_map] using hget
  have hcards := map_markup_map_congr (fun p q => markup_productCard_congr (s := s) (t := t)) hslot
  simp only [Function.comp_apply, markup_gridCell, markupAll_eq_flatten, hcards]

/-- `productList` shows the shapes of its products. -/
theorem markupAll_productList_congr {c c' : ProductList}
    (h : (Content.products c).shape = (Content.products c').shape) :
    markupAll (productList c s) = markupAll (productList c' t) := by
  simp only [Content.shape, Shape.ofFields_inj, List.map_cons, List.cons.injEq] at h
  have hcells := markupAll_separated_congr gridSpacer
    (map_markup_productCells_congr (s := s) (t := t) h.2.2)
  unfold productList
  rw [isEmpty_eq_of_shape h.2.2, markupAll_append, markupAll_append]
  split
  · simp [h.1.1]
  · simp [h.1.1, hcells]

/-- `eventItem` shows the shape of its event. -/
theorem markup_eventItem_congr {d e : Event} (h : d.shape = e.shape) :
    (eventItem s d).markup = (eventItem t e).markup := by
  simp only [Event.shape, Shape.ofFields_inj, List.map_cons, List.cons.injEq] at h
  simp [eventItem, wideRow, detailRow, h]

/-- `eventCalendar` shows the shapes of its events. -/
theorem markupAll_eventCalendar_congr {c c' : EventCalendar}
    (h : (Content.eventCalendar c).shape = (Content.eventCalendar c').shape) :
    markupAll (eventCalendar c s) = markupAll (eventCalendar c' t) := by
  simp only [Content.shape, Shape.ofFields_inj, List.map_cons, List.cons.injEq] at h
  have hitems := map_markup_map_congr (fun d e => markup_eventItem_congr (s := s) (t := t)) h.2.2
  unfold eventCalendar
  rw [isEmpty_eq_of_shape h.2.2, markupAll_append, markupAll_append]
  split
  · simp [h.1.1]
  · simp [h.1.1, markupAll_eq_flatten (c.events.map _), markupAll_eq_flatten (c'.events.map _),
      hitems]

/-- `subscribe` shows its shape and whether it is centered. -/
theorem markupAll_subscribe_congr {c c' : Subscribe}
    (h : (Content.subscribe c).shape = (Content.subscribe c').shape)
    (halign : s.align = .center ↔ t.align = .center) :
    markupAll (subscribe c s) = markupAll (subscribe c' t) := by
  simp only [Content.shape, Shape.ofFields_inj, List.map_cons, List.cons.injEq] at h
  simp [subscribe, lineFeeds_presentOr, h, halign]

/-- `testimonial` shows its shape. -/
theorem markupAll_testimonial_congr {c c' : Testimonial}
    (h : (Content.testimonial c).shape = (Content.testimonial c').shape) :
    markupAll (testimonial c s) = markupAll (testimonial c' t) := by
  simp only [Content.shape, Shape.ofFields_inj, List.map_cons, List.cons.injEq] at h
  simp [testimonial, h]

/-- `banner` shows its shape and whether it is centered. -/
theorem markupAll_banner_congr {c c' : Banner}
    (h : (Content.banner c).shape = (Content.banner c').shape)
    (halign : s.align = .center ↔ t.align = .center) :
    markupAll (banner c s) = markupAll (banner c' t) := by
  simp only [Content.shape, Shape.ofFields_inj, List.map_cons, List.cons.injEq] at h
  simp [banner, h, halign]

theorem map_markup_socialCells (ns : List Node) :
    (ns.map fun a => Node.element "td" [⟨"class", "social-link"⟩] [a]).map markup =
      (ns.map markup).map (enclosed 1) := by
  rw [List.map_map, List.map_map]
  apply List.map_congr_left
  intro a _
  simp

/-- `socialLinks` shows which links have a label, and whether they are centered. -/
theorem markupAll_socialLinks_congr {c c' : SocialLinks}
    (h : (Content.socialLinks c).shape = (Content.socialLinks c').shape)
    (halign : s.align = .center ↔ t.align = .center) :
    markupAll (socialLinks c s) = markupAll (socialLinks c' t) := by
  simp only [Content.shape, Shape.ofFields_inj, List.map_nil, true_and] at h
  have hcells : ((c.links.filterMap (socialAnchor? s "font-size: 14px;")).map
        fun a => Node.element "td" [⟨"class", "social-link"⟩] [a]).map markup =
      ((c'.links.filterMap (socialAnchor? t "font-size: 14px;")).map
        fun a => Node.element "td" [⟨"class", "social-link"⟩] [a]).map markup := by
    rw [map_markup_socialCells, map_markup_socialCells, map_markup_socialAnchors_congr h]
  unfold socialLinks
  dsimp only
  rw [isEmpty_eq_of_map_markup hcells]
  split
  · rfl
  · simp [markupAll_separated_congr socialSpacer hcells, halign]

/-- `video` shows its shape. -/
theorem markupAll_video_congr {c c' : Video}
    (h : (Content.video c).shape = (Content.video c').shape) :
    markupAll (video c s) = markupAll (video c' t) := by
  simp only [Content.shape, Shape.ofFields_inj, List.map_cons, List.cons.injEq] at h
  simp [video, h]

/-! ### Quizzes -/

/-- `quizOption` shows whether the answer is right. -/
theorem markup_quizOption (scope : String) (index : Nat) (q : QuizQuestion) (i : Nat)
    (o : QuizOption) :
    (quizOption scope index q i o).markup =
      enclosed 1 (single (if q.isCorrect i = true then 4 else 3)) := by
  unfold quizOption
  split <;> simp

/-- `quizOption` shows which answers to a question are right. -/
theorem map_markup_quizOptions (scope : String) (index : Nat) (q : QuizQuestion) :
    (q.options.mapIdx (quizOption scope index q)).map markup =
      q.marks.map fun right => enclosed 1 (single (if right = true then 4 else 3)) := by
  apply List.ext_getElem?
  intro i
  simp only [QuizQuestion.marks, List.getElem?_map, List.getElem?_mapIdx, Option.map_map]
  apply Option.map_congr
  intro o _
  exact markup_quizOption scope index q i o

/-- `quizQuestion` shows the shape of its question, and neither scope nor position. -/
theorem markup_quizQuestion_congr {p q : QuizQuestion} (h : p.shape = q.shape)
    (scope scope' : String) (i j : Nat) :
    (quizQuestion scope i p).markup = (quizQuestion scope' j q).markup := by
  simp only [QuizQuestion.shape, Shape.node.injEq, List.cons.injEq] at h
  have hoptions : markupAll (p.options.mapIdx (quizOption scope i p)) =
      markupAll (q.options.mapIdx (quizOption scope' j q)) := by
    rw [markupAll_eq_flatten, markupAll_eq_flatten, map_markup_quizOptions,
      map_markup_quizOptions, h.1.2]
  simp [quizQuestion, h, hoptions]

/-- `quizQuestion` does not show the position of a question. -/
theorem map_markup_quizQuestions (scope : String) (questions : List QuizQuestion) :
    (questions.mapIdx (quizQuestion scope)).map markup =
      questions.map fun q => (quizQuestion scope 0 q).markup := by
  apply List.ext_getElem?
  intro i
  simp only [List.getElem?_map, List.getElem?_mapIdx, Option.map_map]
  apply Option.map_congr
  intro q _
  exact markup_quizQuestion_congr rfl scope scope i 0

/-- `scoring` shows the skeleton of its template, and neither scope nor number. -/
theorem markupAll_scoring {scope : String} (hscope : ∀ c ∈ scope.toList, isScopeChar c = true)
    (total : Nat) :
    markupAll (scoring scope total s) =
      enclosed 1 (enclosed 4 []) ++ enclosed 0 (skeleton scriptTemplate.toList) := by
  simp [scoring, markup, skeleton_scoreScript hscope]

/-- `quiz` shows the shapes of its questions. -/
theorem markupAll_quiz_congr {c c' : Quiz} {scope scope' : String} {scripts : Bool}
    (h : (Content.quiz c).shape = (Content.quiz c').shape)
    (hscope : ∀ c ∈ scope.toList, isScopeChar c = true)
    (hscope' : ∀ c ∈ scope'.toList, isScopeChar c = true) :
    markupAll (quiz scope c s scripts) = markupAll (quiz scope' c' t scripts) := by
  simp only [Content.shape, Shape.ofFields_inj, List.map_cons, List.cons.injEq] at h
  -- The questions have the same markup one by one, whatever the scopes are.
  have hquestions : markupAll (c.questions.mapIdx (quizQuestion scope)) =
      markupAll (c'.questions.mapIdx (quizQuestion scope')) := by
    rw [markupAll_eq_flatten, markupAll_eq_flatten, map_markup_quizQuestions,
      map_markup_quizQuestions]
    exact congrArg List.flatten
      (map_congr_of_shape (fun p q hpq => markup_quizQuestion_congr hpq scope scope' 0 0) h.2.2)
  unfold quiz
  rw [isEmpty_eq_of_shape h.2.2, markupAll_append, markupAll_append, markupAll_sectionTitle,
    markupAll_sectionTitle, h.1.1]
  congr 1
  split
  · rfl
  · rw [markupAll_append, markupAll_append, hquestions]
    split
    · rw [markupAll_scoring hscope, markupAll_scoring hscope']
    · rfl

end Fragment

open Fragment

/-! ## Blocks -/

/-- `body` of contents of one kind and one shape shows the same markup, if their own HTML does. -/
theorem Content.markupAll_body_congr {c c' : Content} (hkind : c.kind? = c'.kind?)
    (hshape : c.shape = c'.shape)
    (hraw : (c.raw?.map fun html => skeleton html.toList) =
      c'.raw?.map fun html => skeleton html.toList)
    {s t : Resolved} (halign : s.align = .center ↔ t.align = .center) {ctx ctx' : RenderContext}
    (hscripts : ctx.scripts = ctx'.scripts) {scope scope' : String}
    (hscope : ∀ c ∈ scope.toList, isScopeChar c = true)
    (hscope' : ∀ c ∈ scope'.toList, isScopeChar c = true) :
    markupAll (c.body s ctx scope) = markupAll (c'.body t ctx' scope') := by
  -- Contents of different kinds are out, and every kind has a lemma of its own.
  cases c <;> cases c' <;> cases hkind
  case header.header.refl c c' => exact markupAll_header_congr hshape
  case footer.footer.refl c c' => exact markupAll_footer_congr hshape
  case heading.heading.refl c c' => exact markupAll_heading_congr c c'
  case paragraph.paragraph.refl c c' => exact markupAll_paragraph_congr hshape
  case image.image.refl c c' => exact markupAll_image_congr hshape
  case button.button.refl c c' => exact markupAll_buttonBlock_congr c c' halign
  case divider.divider.refl => exact markupAll_divider_congr
  case spacer.spacer.refl c c' => exact markupAll_spacer_congr c c'
  case compartment.compartment.refl c c' =>
    exact markupAll_compartment_congr hshape (Option.some.inj hraw)
  case featuredArticle.featuredArticle.refl c c' => exact markupAll_featuredArticle_congr hshape
  case articleGrid.articleGrid.refl c c' => exact markupAll_articleGrid_congr hshape
  case eventCalendar.eventCalendar.refl c c' => exact markupAll_eventCalendar_congr hshape
  case quiz.quiz.refl c c' =>
    rw [body, body, hscripts]
    exact markupAll_quiz_congr hshape hscope hscope'
  case subscribe.subscribe.refl c c' => exact markupAll_subscribe_congr hshape halign
  case testimonial.testimonial.refl c c' => exact markupAll_testimonial_congr hshape
  case banner.banner.refl c c' => exact markupAll_banner_congr hshape halign
  case products.products.refl c c' => exact markupAll_productList_congr hshape
  case socialLinks.socialLinks.refl c c' => exact markupAll_socialLinks_congr hshape halign
  case video.video.refl c c' => exact markupAll_video_congr hshape
  case unknown.unknown.refl => rfl

/-- `renderScoped` gives blocks of one kind and one shape the same skeleton. -/
theorem Block.skeleton_renderScoped_congr {b b' : Block} {theme theme' : Theme}
    {ctx ctx' : RenderContext} {scope scope' : String}
    (hkind : b.content.kind? = b'.content.kind?) (hshape : b.content.shape = b'.content.shape)
    (hraw : (b.content.raw?.map fun html => skeleton html.toList) =
      b'.content.raw?.map fun html => skeleton html.toList)
    (halign : ∀ kind ∈ b.content.kind?,
      ((b.resolved kind theme).align = .center ↔ (b'.resolved kind theme').align = .center))
    (hscripts : ctx.scripts = ctx'.scripts) (hscope : ∀ c ∈ scope.toList, isScopeChar c = true)
    (hscope' : ∀ c ∈ scope'.toList, isScopeChar c = true) :
    skeleton (b.renderScoped theme ctx scope).toList =
      skeleton (b'.renderScoped theme' ctx' scope').toList := by
  have hwf : ∀ (d : Block) (theme : Theme) (ctx : RenderContext) (scope : String),
      (∀ c ∈ scope.toList, isScopeChar c = true) →
      skeleton (d.renderScoped theme ctx scope).toList = markupAll (d.draw theme ctx scope) := by
    intro d theme ctx scope hscope
    -- For the skeleton any raw HTML will do: it need not be balanced.
    have hdraw : WellFormedAll (fun _ => True) (d.draw theme ctx scope) :=
      Block.wellFormedAll_draw (fun _ _ => trivial) theme ctx hscope
    exact skeleton_html hdraw
  rw [hwf b theme ctx scope hscope, hwf b' theme' ctx' scope' hscope']
  unfold draw
  rw [← hkind]
  cases hk : b.content.kind? with
  | none => rfl
  | some kind =>
    have hbody := Content.markupAll_body_congr hkind hshape hraw (halign kind hk) hscripts hscope
      hscope'
    simp only [envelope, markupAll_cons, markup_fullTable, markup_row, markup_element, hbody]
    rfl

/-! ## Documents -/

/-- Raw fragments show their own skeletons. -/
theorem markupAll_map_raw (fragments : List String) :
    markupAll (fragments.map .raw) = fragments.flatMap fun f => skeleton f.toList := by
  induction fragments with
  | nil => rfl
  | cons f fs ih => rw [List.map_cons, markupAll, ih, List.flatMap_cons, markup]

namespace Document

@[simp] theorem markup_newline : newline.markup = [] := rfl

/-- `onLines` adds no markup. -/
@[simp] theorem markupAll_onLines (ns : List Node) : markupAll (onLines ns) = markupAll ns := by
  rw [onLines, markupAll, markup_newline, List.nil_append]
  induction ns with
  | nil => rfl
  | cons n ns ih => simp [ih]

/-- `head` shows nothing of the theme or the options. -/
theorem markup_head_congr (theme theme' : Theme) (o o' : RenderOptions) :
    (head theme o).markup = (head theme' o').markup := by
  simp [head, markup, skeleton_stylesheet]

/-- `preheader` shows whether there is one. -/
theorem markupAll_preheader (o : RenderOptions) :
    markupAll (preheader o) = if isPresent o.preheader = true then enclosed 2 [] else [] := by
  unfold preheader isPresent
  cases present o.preheader <;> simp

/-- `root` shows its content and whether there is a preheader. -/
theorem markup_root_congr {content content' : List Node} {theme theme' : Theme}
    {o o' : RenderOptions} (hcontent : markupAll content = markupAll content')
    (hpreheader : isPresent o.preheader = isPresent o'.preheader) :
    (root content theme o).markup = (root content' theme' o').markup := by
  have hhead := markup_head_congr theme theme' o o'
  simp [root, page, container, markupAll_preheader, hcontent, hpreheader, hhead]

end Document

open Document

/-- The skeleton of a root element behind the declaration of the document's type. -/
theorem skeleton_page {allow : String → Prop} {r : Node} (h : r.WellFormed allow) :
    skeleton ("<!DOCTYPE html>\n" ++ Node.html [r, newline]).toList =
      skeleton "<!DOCTYPE html>\n".toList ++ r.markup := by
  have hpage : WellFormedAll allow [r, newline] := ⟨h, trivial, trivial⟩
  rw [String.toList_append, skeleton_append, skeleton_html hpage, markupAll_cons, markupAll_cons,
    markup_newline, markupAll_nil, List.append_nil, List.append_nil]

/-- `assemble` shows, besides its fragments, only the presence of a preheader. -/
theorem skeleton_assemble_congr {fragments fragments' : List String} {theme theme' : Theme}
    {o o' : RenderOptions}
    (hfragments : (fragments.flatMap fun f => skeleton f.toList) =
      fragments'.flatMap fun f => skeleton f.toList)
    (hpreheader : isPresent o.preheader = isPresent o'.preheader) :
    skeleton (assemble fragments theme o).toList =
      skeleton (assemble fragments' theme' o').toList := by
  have hwf : ∀ (fs : List String) (theme : Theme) (o : RenderOptions),
      (root (fs.map .raw) theme o).WellFormed fun _ => True := by
    intro fs theme o
    apply wellFormed_root
    exact wellFormedAll_map (fun f => wellFormed_raw.2 trivial) fs
  have hcontent : markupAll (fragments.map .raw) = markupAll (fragments'.map .raw) := by
    rw [markupAll_map_raw, markupAll_map_raw, hfragments]
  unfold assemble
  rw [skeleton_page (hwf fragments theme o), skeleton_page (hwf fragments' theme' o'),
    markup_root_congr hcontent hpreheader]

/-! ## What the skeleton depends on -/

/-- `render` gives fragments of one kind and shape one skeleton, whatever their texts are, and
`assemble` adds nothing to its fragments but a preheader. -/
theorem no_markup_injection :
    (∀ (b b' : Block) (theme theme' : Theme) (ctx ctx' : RenderContext) (kind : Kind),
      b.content.kind? = some kind → b'.content.kind? = some kind → kind ≠ .compartment →
      b.content.shape = b'.content.shape →
      ((b.resolved kind theme).align = .center ↔ (b'.resolved kind theme').align = .center) →
      ctx.scripts = ctx'.scripts →
      skeleton (b.render theme ctx).toList = skeleton (b'.render theme' ctx').toList) ∧
    ∀ (fragments fragments' : List String) (theme theme' : Theme) (o o' : RenderOptions),
      fragments.map (fun f => skeleton f.toList) = fragments'.map (fun f => skeleton f.toList) →
      isPresent o.preheader = isPresent o'.preheader →
      skeleton (assemble fragments theme o).toList =
        skeleton (assemble fragments' theme' o').toList := by
  constructor
  · intro b b' theme theme' ctx ctx' kind hb hb' hkind hshape halign hscripts
    -- Only framed parts bring HTML along, and they are not among these kinds.
    have hraw : ∀ d : Block, d.content.kind? = some kind → d.content.raw? = none := by
      intro d hd
      cases hc : d.content with
      | compartment c => simp_all [Content.kind?]
      | _ => rfl
    apply Block.skeleton_renderScoped_congr (hb.trans hb'.symm) hshape _ _ hscripts
      (isScope_scopeOf b.id).2 (isScope_scopeOf b'.id).2
    · rw [hraw b hb, hraw b' hb']
    · intro k hk
      obtain rfl : k = kind := Option.some.inj (hk.symm.trans hb)
      exact halign
  · intro fragments fragments' theme theme' o o' hfragments hpreheader
    apply skeleton_assemble_congr _ hpreheader
    rw [List.flatMap_def, List.flatMap_def, hfragments]

/-- Two paragraphs of two lines, one of them full of markup characters, and two documents. -/
theorem no_markup_injection_paragraphs :
    let hostile : Block := ⟨"<a>", .paragraph ⟨some "<b>\n'\"", some "right"⟩, none⟩
    let plain : Block := ⟨"p", .paragraph ⟨some "one\ntwo", none⟩, some .empty⟩
    let theme : Theme := ⟨"\"", "'", "<"⟩
    let o : RenderOptions := ⟨"<title>", some "\">", 320, false, none⟩
    skeleton (hostile.render theme ⟨1999, true⟩).toList =
        skeleton (plain.render .standard ⟨2024, true⟩).toList ∧
      skeleton (assemble ["<p>a</p>"] theme o).toList =
        skeleton (assemble ["<p>b</p>"] .standard { o with preheader := some "x" }).toList := by
  intro hostile plain theme o
  obtain ⟨hblocks, hdocuments⟩ := no_markup_injection
  have hshape : hostile.content.shape = plain.content.shape := by
    rw [Content.shape, Content.shape, Shape.ofFields_inj]
    decide
  have halign : (hostile.resolved .paragraph theme).align = .center ↔
      (plain.resolved .paragraph .standard).align = .center := by
    decide
  constructor
  · exact hblocks hostile plain theme .standard ⟨1999, true⟩ ⟨2024, true⟩ .paragraph rfl rfl
      (by decide) hshape halign rfl
  · exact hdocuments ["<p>a</p>"] ["<p>b</p>"] theme .standard o { o with preheader := some "x" }
      (by decide) (by decide)

end Bulletin
