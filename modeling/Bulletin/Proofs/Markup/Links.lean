import Bulletin.Proofs.Lint.Drawing
import Bulletin.Proofs.Markup.Elements

/-!
# Where links lead

Ten places of the fragments write links, each with a test of its own for whether there is an
address to link to.  An address that is left out or blank either takes the link away or is replaced
by `#`; any other is written as it is, a bare mail address as a mail link.

The addresses a content asks for are listed apart from how it is drawn, in the order of its links.

## Main statements

- `isBlank_escape`: escaping makes no text blank, and no blank text anything else
- `Content.gather_linkTag_body`: the links of a content
- `Block.links_lead_somewhere`: every link of a fragment has one address, which is not blank
-/

namespace Bulletin

open Html Node Fragment Text

/-! ## Addresses -/

/-- The label of a link to a social network: its platform, or else its address. -/
def SocialLink.label? (link : SocialLink) : Option String :=
  (present link.platform).or (present link.url)

/-- The address of a link to a social network, which is not drawn without a label. -/
def SocialLink.href? (link : SocialLink) : Option String :=
  link.label?.map fun _ => presentOr "#" link.url

/-- The address of a contact: with an `@` and no `:` it is a mail address. -/
def contactAddress (contact : String) : String :=
  if '@' ∈ contact.toList ∧ ':' ∉ contact.toList then "mailto:" ++ trim contact else contact

/-- The addresses that the links of a content lead to, in order. -/
def Content.hrefs (ctx : RenderContext) : Content → List String
  | .footer c =>
    c.socialLinks.filterMap SocialLink.href? ++
      ((present c.contactUrl).map contactAddress).toList ++ (present c.websiteUrl).toList ++
      (present c.unsubscribeUrl).toList
  | .image c => (present c.linkUrl).toList
  | .button c => [presentOr "#" c.url]
  | .featuredArticle c => [presentOr "#" c.ctaUrl]
  | .articleGrid c => c.articles.filterMap fun a => present a.url
  | .eventCalendar c => c.events.filterMap fun e => present e.url
  | .quiz c => if ctx.scripts && !c.questions.isEmpty then ["#"] else []
  | .subscribe c => [presentOr "#" c.buttonAction]
  | .banner c => (present c.buttonText).toList.map fun _ => presentOr "#" c.buttonUrl
  | .products c => (c.products.take maxProducts).filterMap fun p => present p.link
  | .socialLinks c => c.links.filterMap SocialLink.href?
  | .video c =>
    let href := presentOr "#" c.videoUrl
    ((present c.thumbnailUrl).toList.map fun _ => href) ++ [href]
  | _ => []

/-! ## Blanks -/

/-- `escapeChar` writes blanks if and only if the character is one. -/
theorem Html.all_isBlankChar_escapeChar (c : Char) :
    (escapeChar c).all isBlankChar = isBlankChar c := by
  unfold escapeChar
  split
  case h_6 => simp
  all_goals decide

/-- `escape` makes no text blank, and no blank text anything else. -/
theorem Html.isBlank_escape (s : String) : isBlank (escape s) = isBlank s := by
  rw [isBlank, isBlank, escape, String.toList_ofList, escapeChars, List.all_flatMap]
  congr 1
  funext c
  exact all_isBlankChar_escapeChar c

/-- `present` finds no blank text. -/
theorem isBlank_of_mem_present {field : Option String} {s : String} (h : s ∈ present field) :
    isBlank s = false :=
  (present_eq_some_iff.1 h).2

/-- `presentOr` gives no blank text, if the default is none. -/
theorem isBlank_presentOr {default : String} (h : isBlank default = false)
    (field : Option String) : isBlank (presentOr default field) = false := by
  unfold presentOr
  cases hfield : present field with
  | none => exact h
  | some s => exact isBlank_of_mem_present hfield

/-- `contactAddress` makes no address blank. -/
theorem isBlank_contactAddress {contact : String} (h : isBlank contact = false) :
    isBlank (contactAddress contact) = false := by
  unfold contactAddress
  split
  · -- The word in front of a mail address is not blank, so what is left of the address may be.
    have hsign : isBlankChar 'm' = false := by decide
    simp [isBlank, hsign]
  · exact h

/-- `SocialLink.href?` gives no blank address. -/
theorem SocialLink.isBlank_of_href? {link : SocialLink} {href : String}
    (h : link.href? = some href) : isBlank href = false := by
  obtain ⟨label, -, rfl⟩ := Option.map_eq_some_iff.1 h
  exact isBlank_presentOr (by decide) link.url

/-- `hrefs` of a content are not blank. -/
theorem Content.isBlank_of_mem_hrefs {c : Content} {ctx : RenderContext} {href : String}
    (h : href ∈ c.hrefs ctx) : isBlank href = false := by
  have hor : ∀ field, isBlank (presentOr "#" field) = false := isBlank_presentOr (by decide)
  cases c with
  | footer c =>
    simp only [hrefs, List.mem_append, Option.mem_toList,
      Option.map_eq_some_iff] at h
    -- Every link of a footer has an address of its own, or there is no link.
    obtain ((hsocial | ⟨contact, hcontact, rfl⟩) | hwebsite) | hunsubscribe := h
    · obtain ⟨link, -, hlink⟩ := List.mem_filterMap.1 hsocial
      exact link.isBlank_of_href? hlink
    · exact isBlank_contactAddress (isBlank_of_mem_present hcontact)
    · exact isBlank_of_mem_present hwebsite
    · exact isBlank_of_mem_present hunsubscribe
  | image c => exact isBlank_of_mem_present (Option.mem_toList.1 h)
  | button c | featuredArticle c | subscribe c =>
    rw [List.mem_singleton.1 h]
    exact hor _
  | articleGrid c | eventCalendar c | products c =>
    obtain ⟨item, -, hitem⟩ := List.mem_filterMap.1 h
    exact isBlank_of_mem_present hitem
  | quiz c =>
    obtain ⟨-, rfl⟩ : _ ∧ href = "#" := by simpa [hrefs] using h
    decide
  | banner c =>
    obtain ⟨-, -, rfl⟩ := List.mem_map.1 h
    exact hor _
  | socialLinks c =>
    obtain ⟨link, -, hlink⟩ := List.mem_filterMap.1 h
    exact link.isBlank_of_href? hlink
  | video c =>
    -- The thumbnail and the line below it lead to the same address.
    obtain hthumbnail | hlink := List.mem_append.1 h
    · obtain ⟨-, -, rfl⟩ := List.mem_map.1 hthumbnail
      exact hor _
    · rw [List.mem_singleton.1 hlink]
      exact hor _
  | _ => simp [hrefs] at h

/-! ## Links -/

namespace Html

/-- The values that a tag gives a key. -/
def valuesOf (key : String) (attrs : List (String × String)) : List String :=
  attrs.filterMap fun a => if a.1 = key then some a.2 else none

/-- The values that the tags of a name give a key, tag by tag. -/
def Token.values? (tag key : String) : Token → Option (List String)
  | .opening tag' attrs => if tag' = tag then some (valuesOf key attrs) else none
  | _ => none

/-- The addresses of a link. -/
abbrev linkTag : Token → Option (List String) := Token.values? "a" "href"

section Values

variable {tag tag' key : String} {attrs : List (String × String)}

instance : Token.IsReader (Token.values? tag key) where
  text _ := rfl
  closing _ := rfl

@[simp] theorem Token.values?_rawText (body : String) :
    (Token.rawText body).values? tag key = none := rfl

@[simp] theorem Token.values?_of_ne (h : tag' ≠ tag) :
    (Token.opening tag' attrs).values? tag key = none := if_neg h

@[simp] theorem Token.values?_self :
    (Token.opening tag attrs).values? tag key = some (valuesOf key attrs) := if_pos rfl

end Values

end Html

namespace Fragment

/-- `forPresent` gives what is read off what it draws for a present text. -/
theorem gather_forPresent_eq {α : Type} {f : Token → Option α} (field : Option String)
    (draw : String → List Node) :
    gather f (tokensAll (forPresent field draw)) =
      (present field).toList.flatMap fun s => gather f (tokensAll (draw s)) := by
  unfold forPresent
  split <;> simp_all

/-! ## Parts -/

/-- `anchor` leads to its address, and has no other. -/
theorem gather_linkTag_anchor {more : List Attr} (hmore : ∀ a ∈ more, a.name ≠ "href")
    (href : String) (label : List Node) :
    gather linkTag (anchor href more label).tokens =
      [escape href] :: gather linkTag (tokensAll label) := by
  have hvalues : valuesOf "href" (more.map Attr.scanned) = [] := by
    simp only [valuesOf, List.filterMap_eq_nil_iff, List.mem_map]
    rintro _ ⟨a, ha, rfl⟩
    exact if_neg (hmore a ha)
  rw [anchor, gather_element, linkTag, Token.values?_self, List.map_append, valuesOf,
    List.filterMap_append, ← valuesOf, ← valuesOf, hvalues]
  rfl

/-- `textLink` leads to its address. -/
@[simp] theorem gather_linkTag_textLink (s : Resolved) (href : String) (label : List Node) :
    gather linkTag (textLink s href label).tokens =
      [escape href] :: gather linkTag (tokensAll label) :=
  gather_linkTag_anchor (by simp) href label

/-- `button` leads to its address, or to `#` without one. -/
@[simp] theorem gather_linkTag_button (s : Resolved) (align : Align) (label : String)
    (url : Option String) :
    gather linkTag (button s align label url).tokens = [[escape (presentOr "#" url)]] := by
  simp [button, tightTable, row, valuesOf, Attr.scanned]

/-- `socialAnchor?` leads to the address of its link, or to `#` without one. -/
theorem gather_linkTag_socialAnchor {s : Resolved} {css : String} {link : SocialLink} {n : Node}
    (h : socialAnchor? s css link = some n) :
    gather linkTag n.tokens = [[escape (presentOr "#" link.url)]] := by
  obtain ⟨label, -, rfl⟩ := Option.map_eq_some_iff.1 h
  rw [gather_linkTag_anchor (by simp)]
  simp

/-- `socialAnchor?` leads to the addresses of the links, those without a label left out. -/
theorem gather_linkTag_socialAnchors (s : Resolved) (css : String) (links : List SocialLink) :
    gather linkTag (tokensAll (links.filterMap (socialAnchor? s css))) =
      (links.filterMap SocialLink.href?).map fun href => [escape href] := by
  induction links with
  | nil => rfl
  | cons link links ih =>
    -- A link is drawn if and only if it has a label.
    cases hlabel : link.label? with
    | none =>
      have hanchor : socialAnchor? s css link = none := Option.map_eq_none_iff.2 hlabel
      have hhref : link.href? = none := Option.map_eq_none_iff.2 hlabel
      rw [List.filterMap_cons_none hanchor, List.filterMap_cons_none hhref, ih]
    | some label =>
      have hanchor : socialAnchor? s css link = some (anchor _ _ _) :=
        Option.map_eq_some_iff.2 ⟨label, hlabel, rfl⟩
      have hhref : link.href? = some (presentOr "#" link.url) :=
        Option.map_eq_some_iff.2 ⟨label, hlabel, rfl⟩
      rw [List.filterMap_cons_some hanchor, List.filterMap_cons_some hhref, gather_tokensAll_cons,
        gather_linkTag_socialAnchor hanchor, ih]
      rfl

@[simp] theorem gather_linkTag_wideImage (s : Resolved) (src alt : String) :
    gather linkTag (wideImage s src alt).tokens = [] := by
  simp [wideImage]

@[simp] theorem gather_linkTag_multiline (s : String) :
    gather linkTag (tokensAll (multiline s)) = [] :=
  gather_multiline (by simp) s

@[simp] theorem gather_linkTag_sectionTitle (s : Resolved) (title : Option String) :
    gather linkTag (tokensAll (sectionTitle s title)) = [] := by
  simp [sectionTitle, styled]

@[simp] theorem gather_linkTag_placeholder (message : String) :
    gather linkTag (placeholder message).tokens = [] := by
  simp [placeholder, classed]

@[simp] theorem gather_linkTag_gridSpacer : gather linkTag gridSpacer.tokens = [] := by
  simp [gridSpacer, noBreakSpace]

/-! ## Items of collections -/

/-- `articleCard` leads to the address of its article. -/
theorem gather_linkTag_articleCard (s : Resolved) (a : Article) :
    gather linkTag (articleCard s a).tokens =
      (present a.url).toList.map fun href => [escape href] := by
  simp [articleCard, fullTable, row, styled, cardImage, fieldText, gather_forPresent_eq,
    ← List.map_eq_flatMap]

/-- `eventItem` leads to the address of its event. -/
theorem gather_linkTag_eventItem (s : Resolved) (e : Event) :
    gather linkTag (eventItem s e).tokens =
      (present e.url).toList.map fun href => [escape href] := by
  simp [eventItem, fullTable, row, wideRow, detailRow, styled, gather_forPresent_eq,
    ← List.map_eq_flatMap]

/-- `productCard` leads to the address of its product. -/
theorem gather_linkTag_productCard (s : Resolved) (p : Product) :
    gather linkTag (productCard s p).tokens =
      (present p.link).toList.map fun href => [escape href] := by
  -- A button is asked to fall back here as well, but a present address never makes it do so.
  have hlink : ∀ link, present p.link = some link → presentOr "#" (some link) = link := by
    intro link hlink
    rw [presentOr, present_some_of_not_blank (isBlank_of_mem_present hlink), Option.getD_some]
  simp +contextual [productCard, fullTable, row, styled, classed, cardImage, fieldText,
    gather_forPresent_eq, ← List.map_eq_flatMap, hlink]

/-- `quizQuestion` leads nowhere. -/
theorem gather_linkTag_quizQuestion (scope : String) (index : Nat) (q : QuizQuestion) :
    gather linkTag (quizQuestion scope index q).tokens = [] := by
  have hoptions :
      gather linkTag (tokensAll (q.options.mapIdx (quizOption scope index q))) = [] := by
    apply gather_tokensAll_eq_nil
    intro n hn
    obtain ⟨i, hi, rfl⟩ := List.mem_mapIdx.1 hn
    simp [quizOption, styled]
  simp [quizQuestion, classed, styled, hoptions]

/-- Items in a row lead to the addresses of those that have one. -/
theorem gather_tokensAll_map {α β : Type} {f : Token → Option β} {draw : α → Node}
    {address : α → Option String} {value : String → β}
    (h : ∀ x, gather f (draw x).tokens = (address x).toList.map value) (xs : List α) :
    gather f (tokensAll (xs.map draw)) = (xs.filterMap address).map value := by
  induction xs with
  | nil => rfl
  | cons x xs ih =>
    rw [List.map_cons, gather_tokensAll_cons, h, ih, List.filterMap_cons]
    cases address x <;> rfl

/-! ## Contents -/

/-- `linkLine` leads where its links do. -/
theorem gather_linkTag_linkLine (cls : String) (links : List Node) :
    gather linkTag (tokensAll (linkLine cls links)) = gather linkTag (tokensAll links) := by
  have hbar : gather linkTag bar.tokens = [] := gather_text _
  unfold linkLine
  split
  · rename_i hempty
    rw [List.isEmpty_iff.1 hempty]
  · simp [classed, gather_separated hbar]

/-- `footer` leads to its social links, and then to its three addresses. -/
theorem gather_linkTag_footer (c : Footer) (s : Resolved) (ctx : RenderContext) :
    gather linkTag (tokensAll (footer c s ctx.year)) =
      ((Content.footer c).hrefs ctx).map fun href => [escape href] := by
  have hlinks : gather linkTag (tokensAll (footerLinks c s)) =
      (((present c.contactUrl).map contactAddress).toList ++ (present c.websiteUrl).toList ++
        (present c.unsubscribeUrl).toList).map fun href => [escape href] := by
    cases hcontact : present c.contactUrl <;>
      simp [footerLinks, gather_forPresent_eq, hcontact, ← List.map_eq_flatMap, contactAddress,
        contactHref]
  have hcopyright : gather linkTag (copyright c.companyName ctx.year).tokens = [] := by
    simp [copyright, classed]
  simp [footer, Content.hrefs, styled, classed, gather_linkTag_linkLine,
    gather_linkTag_socialAnchors, hlinks, hcopyright]

/-- `heading` leads nowhere. -/
theorem gather_linkTag_heading (c : Heading) : gather linkTag (tokensAll (heading c)) = [] := by
  -- The tag of a heading is chosen by its level, and none of the choices is that of a link.
  have htag : headingTag c.level ≠ "a" := by
    unfold headingTag
    split
    · decide
    · dsimp only
      split
      · decide
      · split <;> decide
  simp [heading, htag, fieldText]

/-- `image` leads to its address. -/
theorem gather_linkTag_image (c : Image) (s : Resolved) :
    gather linkTag (tokensAll (image c s)) =
      (present c.linkUrl).toList.map fun href => [escape href] := by
  unfold image
  cases present c.linkUrl <;> simp [gather_linkTag_anchor, classed]

/-- `articleGrid` leads to the addresses of its articles. -/
theorem gather_linkTag_articleGrid (c : ArticleGrid) (s : Resolved) :
    gather linkTag (tokensAll (articleGrid c s)) =
      (c.articles.filterMap fun a => present a.url).map fun href => [escape href] := by
  have hcell : ∀ a : Article, gather linkTag
      (gridCell "article-cell" (cellWidth c.articles.length) [articleCard s a]).tokens =
        (present a.url).toList.map fun href => [escape href] := by
    intro a
    simp [gridCell, gather_linkTag_articleCard]
  have hcells := gather_tokensAll_map hcell c.articles
  unfold articleGrid
  split
  · simp_all
  · simp [fullTable, row, gather_separated, hcells]

/-- `eventCalendar` leads to the addresses of its events. -/
theorem gather_linkTag_eventCalendar (c : EventCalendar) (s : Resolved) :
    gather linkTag (tokensAll (eventCalendar c s)) =
      (c.events.filterMap fun e => present e.url).map fun href => [escape href] := by
  have hevents := gather_tokensAll_map (gather_linkTag_eventItem s) c.events
  rw [eventCalendar, tokensAll_append, gather_append, gather_linkTag_sectionTitle, ← hevents]
  split <;> simp_all

/-- `productCells` hold the products that are drawn. -/
theorem gather_linkTag_productCells (s : Resolved) (products : List Product) :
    gather linkTag (tokensAll (productCells s products)) =
      gather linkTag (tokensAll ((products.take maxProducts).map (productCard s))) := by
  have hcell : ∀ slot : Nat, gather linkTag (gridCell "product-cell" 50
      (products[slot]?.toList.map (productCard s))).tokens =
        products[slot]?.toList.flatMap fun p => gather linkTag (productCard s p).tokens := by
    intro slot
    simp [gridCell, gather_tokensAll, List.flatMap_map]
  rw [productCells, gather_tokensAll, List.flatMap_map, gather_tokensAll, List.flatMap_map,
    ← flatMap_range_getElem?, List.flatMap_assoc]
  simp only [hcell]

/-- `productList` leads to the addresses of the products that are drawn. -/
theorem gather_linkTag_productList (c : ProductList) (s : Resolved) :
    gather linkTag (tokensAll (productList c s)) =
      ((c.products.take maxProducts).filterMap fun p => present p.link).map
        fun href => [escape href] := by
  have hproducts := (gather_linkTag_productCells s c.products).trans
    (gather_tokensAll_map (gather_linkTag_productCard s) (c.products.take maxProducts))
  rw [productList, tokensAll_append, gather_append, gather_linkTag_sectionTitle]
  split
  · simp_all
  · simp [fullTable, row, gather_separated, hproducts]

/-- `quiz` leads to its script, and nowhere else. -/
theorem gather_linkTag_quiz (scope : String) (c : Quiz) (s : Resolved) (scripts : Bool) :
    gather linkTag (tokensAll (quiz scope c s scripts)) =
      if scripts && !c.questions.isEmpty then [[escape "#"]] else [] := by
  have hquestions : gather linkTag (tokensAll (c.questions.mapIdx (quizQuestion scope))) = [] := by
    apply gather_tokensAll_eq_nil
    intro n hn
    obtain ⟨k, hk, rfl⟩ := List.mem_mapIdx.1 hn
    exact gather_linkTag_quizQuestion scope k _
  have hscoring : gather linkTag (tokensAll (scoring scope c.questions.length s)) =
      [[escape "#"]] := by
    simp [scoring, styled, valuesOf, Attr.scanned]
  rw [quiz, tokensAll_append, gather_append, gather_linkTag_sectionTitle]
  cases scripts <;> split <;> simp_all

/-- `socialLinks` leads to the addresses of its links. -/
theorem gather_linkTag_socialLinks (c : SocialLinks) (s : Resolved) :
    gather linkTag (tokensAll (socialLinks c s)) =
      (c.links.filterMap SocialLink.href?).map fun href => [escape href] := by
  have hspacer : gather linkTag socialSpacer.tokens = [] := by
    simp [socialSpacer, noBreakSpace]
  -- A cell adds nothing, so the anchors may be read without their cells.
  have hcells : ∀ anchors : List Node, gather linkTag
      (tokensAll (anchors.map fun a => Node.element "td" [⟨"class", "social-link"⟩] [a])) =
        gather linkTag (tokensAll anchors) := by
    intro anchors
    simp [gather_tokensAll, List.flatMap_map]
  have hlinks := (hcells _).trans (gather_linkTag_socialAnchors s "font-size: 14px;" c.links)
  rw [← hlinks]
  unfold socialLinks
  dsimp only
  split
  · rename_i hempty
    rw [List.isEmpty_iff.1 hempty]
  · simp only [tightTable, row, gather_tokensAll_cons, gather_element, gather_separated hspacer]
    simp

end Fragment

/-- `body` of a content leads to its `hrefs`. -/
theorem Content.gather_linkTag_body {c : Content} (hraw : c.raw? = none) (s : Resolved)
    (ctx : RenderContext) (scope : String) :
    gather linkTag (tokensAll (c.body s ctx scope)) =
      (c.hrefs ctx).map fun href => [escape href] := by
  cases c with
  | header c => simp [body, hrefs, Fragment.header, classed]
  | footer c => exact gather_linkTag_footer c s ctx
  | heading c => simp [body, hrefs, gather_linkTag_heading]
  | paragraph c => simp [body, hrefs, Fragment.paragraph, styled]
  | image c => exact gather_linkTag_image c s
  | button c => simp [body, hrefs, buttonBlock]
  | divider => simp [body, hrefs, Fragment.divider]
  | spacer c => simp [body, hrefs, Fragment.spacer, classed, noBreakSpace]
  | compartment c => simp [raw?] at hraw
  | featuredArticle c =>
    simp [body, hrefs, Fragment.featuredArticle, fullTable, row, styled, classed, cardImage,
      fieldText]
  | articleGrid c => exact gather_linkTag_articleGrid c s
  | eventCalendar c => exact gather_linkTag_eventCalendar c s
  | quiz c =>
    rw [body, hrefs, gather_linkTag_quiz]
    split <;> rfl
  | subscribe c => simp [body, hrefs, Fragment.subscribe, tightTable, row, styled]
  | testimonial c => simp [body, hrefs, Fragment.testimonial, styled, classed, fieldText]
  | banner c =>
    cases h : present c.buttonText <;>
      simp [body, hrefs, Fragment.banner, styled, gather_forPresent_eq, h]
  | products c => exact gather_linkTag_productList c s
  | socialLinks c => exact gather_linkTag_socialLinks c s
  | video c =>
    cases h : present c.thumbnailUrl <;>
      simp [body, hrefs, Fragment.video, styled, gather_forPresent_eq, gather_linkTag_anchor, h]
  | unknown tag => rfl

/-- `draw` of a block leads where its content does: there is no link in its envelope. -/
theorem Block.gather_linkTag_draw {b : Block} (hraw : b.content.raw? = none) (theme : Theme)
    (ctx : RenderContext) (scope : String) :
    gather linkTag (tokensAll (b.draw theme ctx scope)) =
      (b.content.hrefs ctx).map fun href => [escape href] := by
  cases hkind : b.content.kind? with
  | none =>
    have hunknown : b.content.hrefs ctx = [] := by
      cases hc : b.content <;> simp [hc, Content.kind?, Content.hrefs] at hkind ⊢
    rw [draw, hkind, hunknown]
    rfl
  | some kind =>
    rw [b.draw_of_kind? hkind]
    simp [envelope, fullTable, row, Content.gather_linkTag_body hraw]

/-- `render` writes links that have exactly one address each, which is not blank.  In order, they
are the addresses that the content asks for, each escaped. -/
theorem Block.links_lead_somewhere {b : Block} (h : b.content.kind? ≠ some .compartment)
    (theme : Theme) (ctx : RenderContext) :
    ∃ ts, scan (b.render theme ctx).toList = some ts ∧
      gather linkTag ts = (b.content.hrefs ctx).map (fun href => [escape href]) ∧
      ∀ href ∈ b.content.hrefs ctx, isBlank href = false ∧ isBlank (escape href) = false := by
  have hraw : b.content.raw? = none := by
    cases hc : b.content with
    | compartment c => simp [hc, Content.kind?] at h
    | _ => rfl
  refine ⟨_, scan_render theme ctx hraw, gather_linkTag_draw hraw theme ctx _, ?_⟩
  intro href hmem
  have hblank := Content.isBlank_of_mem_hrefs hmem
  exact ⟨hblank, (isBlank_escape href).trans hblank⟩

/-- Of the four addresses of this footer one is left out, one is a mail address between blanks, one
is a no-break space and one holds a markup character. -/
theorem Block.links_lead_somewhere_footer :
    let b : Block := ⟨"f", .footer {
      companyName := none, address := none, align := none
      socialLinks := [⟨some "Mastodon", none⟩]
      contactUrl := some " us@x.test "
      websiteUrl := some "\u00a0"
      unsubscribeUrl := some "/off?a&b" }, none⟩
    b.content.kind? ≠ some .compartment ∧
      ∃ ts, scan (b.render .standard ⟨2024, true⟩).toList = some ts ∧
        gather linkTag ts = [["#"], ["mailto:us@x.test"], ["/off?a&amp;b"]] := by
  intro b
  have hkind : b.content.kind? ≠ some .compartment := by decide
  have hhrefs : (b.content.hrefs ⟨2024, true⟩).map (fun href => [escape href]) =
      [["#"], ["mailto:us@x.test"], ["/off?a&amp;b"]] := by decide +kernel
  obtain ⟨ts, hscan, hlinks, -⟩ := Block.links_lead_somewhere hkind .standard ⟨2024, true⟩
  exact ⟨hkind, ts, hscan, hlinks.trans hhrefs⟩

end Bulletin
