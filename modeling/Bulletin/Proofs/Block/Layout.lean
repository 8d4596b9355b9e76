import Bulletin.Proofs.Block.Exhibit
import Bulletin.Proofs.Markup.Matching

/-!
# How collections are laid out

Articles and social links are cells in a row with a gap between each two, events are tables one
behind the other, and products fill two cells, of which some may be empty.  What a scanner of HTML
finds in a fragment is these pieces and no others of their classes, in the order of the items and
each with what its item shows.  No text of an item can imitate a piece.

## Main statements

- `InRow.of_pieces`: cells in a row and the gaps between them are counted
- `ArticleGrid.laidOut`, `EventCalendar.laidOut`, `ProductList.laidOut`, `SocialLinks.laidOut`: what
  is found in what a collection draws
- `Block.collections_laid_out`: the same for fragments
-/

namespace Bulletin

open Html Node Fragment Text

/-! ## Pieces -/

namespace Html

/-- A piece of a layout: the name, the class and the width of an element. -/
structure Piece where
  tag : String
  cls : String
  width : Option String
deriving DecidableEq

/-- A piece of a layout, if its class is one of some. -/
def Token.piece? (classes : List String) : Token → Option Piece
  | .opening tag attrs =>
    ((attrs.lookup "class").filter (· ∈ classes)).map fun cls => ⟨tag, cls, attrs.lookup "width"⟩
  | _ => none

instance (classes : List String) : Token.IsReader (Token.piece? classes) where
  text _ := rfl
  closing _ := rfl

@[simp] theorem Token.piece?_opening (classes : List String) (tag : String)
    (attrs : List (String × String)) :
    (Token.opening tag attrs).piece? classes =
      ((attrs.lookup "class").filter (· ∈ classes)).map
        fun cls => ⟨tag, cls, attrs.lookup "width"⟩ := rfl

/-- Cells with these contents, and a gap with a no-break space between each two. -/
structure InRow (cell gap : Piece) (contents : List (List Token)) (ts : List Token) : Prop where
  pieces : elements (Token.piece? [cell.cls, gap.cls]) ts =
    (contents.map fun content => (cell, content)).intersperse (gap, noBreakSpace.tokens)
  cells : (elements (Token.piece? [cell.cls, gap.cls]) ts).countP (fun p => p.1 = cell) =
    contents.length
  gaps : (elements (Token.piece? [cell.cls, gap.cls]) ts).countP (fun p => p.1 = gap) =
    contents.length - 1

/-- `intersperse` puts one gap less between some items than there are items. -/
theorem countP_intersperse {α : Type} (p : α → Bool) (gap : α) (xs : List α) :
    (xs.intersperse gap).countP p = xs.countP p + if p gap then xs.length - 1 else 0 := by
  induction xs with
  | nil => simp
  | cons x xs ih =>
    cases xs with
    | nil => simp
    | cons y ys =>
      -- With a second item the first one brings a gap along.
      rw [List.intersperse_cons_cons, List.countP_cons, List.countP_cons, ih, List.length_cons,
        List.length_cons, @List.countP_cons _ p x]
      cases p gap with
      | false => simp
      | true =>
        simp
        omega

/-- `InRow` from the pieces that are found: a cell for each of some items, and a gap between each
two. -/
theorem InRow.of_pieces {cell gap : Piece} (hne : cell.cls ≠ gap.cls) {α : Type} {items : List α}
    {content : α → List Token} {ts : List Token}
    (h : elements (Token.piece? [cell.cls, gap.cls]) ts =
      (items.map fun item => (cell, content item)).intersperse (gap, noBreakSpace.tokens)) :
    InRow cell gap (items.map content) ts where
  pieces := by rw [h, List.map_map]; rfl
  cells := by
    have hgap : gap ≠ cell := fun heq => hne (heq ▸ rfl)
    simp [h, countP_intersperse, hgap, List.countP_map, Function.comp_def]
  gaps := by
    have hcell : cell ≠ gap := fun heq => hne (heq ▸ rfl)
    simp [h, countP_intersperse, hcell, List.countP_map, Function.comp_def]

end Html

namespace Fragment

/-! ## Cells -/

variable {classes : List String}

/-- `envelope` passes on what is found in it. -/
theorem yields_envelope (kind : Kind) (s : Resolved) {body : List Node}
    {es : List (Piece × List Token)} (hcls : escape ("nl-block nl-" ++ kind.tag) ∉ classes)
    (h : Yields (Token.piece? classes) body es) :
    Yields (Token.piece? classes) [envelope kind s body] es := by
  have hcell : Yields (Token.piece? classes)
      [.element "td" [⟨"align", s.align.cellText⟩, ⟨"style", s.containerText⟩] body] es :=
    .wrapped (by simp [Attr.scanned, List.lookup_cons]) h
  have hrow : Yields (Token.piece? classes) [row _] es := .wrapped rfl hcell
  exact .wrapped (by simp [Attr.scanned, List.lookup_cons, hcls]) hrow

/-- `escape` leaves a percentage as it is. -/
theorem escape_percent (n : Nat) : escape (ofNat n ++ "%") = toString n ++ "%" := by
  have hsign : "%".toList.all isUnescaped = true := by decide
  apply escape_eq_self
  rw [String.toList_append, List.all_append, all_isUnescaped_ofNat, hsign]
  rfl

/-- `gridCell` is a piece, with what stands in it. -/
theorem yields_gridCell {cls : String} (hcls : escape cls = cls) (hmem : cls ∈ classes)
    (percent : Nat) {content : List Node} (hwell : WellFormedAll Balanced content)
    (h : gather (Token.piece? classes) (tokensAll content) = []) :
    Yields (Token.piece? classes) [gridCell cls percent content]
      [(⟨"td", cls, some (toString percent ++ "%")⟩, tokensAll content)] := by
  apply Yields.element _ hwell (.of_gather h)
  simp [Attr.scanned, List.lookup_cons, hcls, hmem, escape_percent]

theorem tokensAll_singleton (n : Node) : tokensAll [n] = n.tokens := List.append_nil _

/-- A gap is a piece that holds a no-break space. -/
theorem yields_gap {cls width css : String} (hcls : escape cls = cls)
    (hwidth : escape width = width) (hmem : cls ∈ classes) :
    Yields (Token.piece? classes)
      [.element "td" [⟨"class", cls⟩, ⟨"width", width⟩, ⟨"style", css⟩] [noBreakSpace]]
      [(⟨"td", cls, some width⟩, noBreakSpace.tokens)] := by
  have hspace : gather (Token.piece? classes) (tokensAll [noBreakSpace]) = [] := by
    simp [noBreakSpace]
  rw [← tokensAll_singleton]
  apply Yields.element _ (by simp) (.of_gather hspace)
  simp [Attr.scanned, List.lookup_cons, hcls, hwidth, hmem]

/-- `fullTable` is a piece, with what stands in it. -/
theorem yields_fullTable {cls : String} (hcls : escape cls = cls) (hmem : cls ∈ classes)
    {more : List Attr} {rows : List Node} (hwell : WellFormedAll Balanced rows)
    (h : gather (Token.piece? classes) (tokensAll rows) = []) :
    Yields (Token.piece? classes) [fullTable cls more rows]
      [(⟨"table", cls, some "100%"⟩, (fullTable cls more rows).inside)] := by
  have hwidth : escape "100%" = "100%" := by decide
  apply Yields.element _ hwell (.of_gather h)
  simp [Attr.scanned, List.lookup_cons, hcls, hwidth, hmem]

end Fragment

/-! ## Articles -/

/-- Articles are cells in a row. -/
structure ArticleGrid.LaidOut (c : ArticleGrid) (s : Resolved) (ts : List Token) : Prop where
  /-- A cell for each article, in order, with its card; the cells are as wide as the row allows. -/
  row : ∃ width, c.articles.length * width ≤ 100 ∧
    100 < c.articles.length * width + c.articles.length ∧
    InRow ⟨"td", "article-cell", some (toString width ++ "%")⟩ ⟨"td", "grid-spacer", some "10"⟩
      (c.articles.map fun a => (articleCard s a).tokens) ts
  /-- A card shows what its article holds. -/
  shown : ∀ a ∈ c.articles, a.exhibit.ShownBy (articleCard s a).tokens

/-- `cellWidth` fills a row, but for less than a percent for each cell. -/
theorem Fragment.cellWidth_bounds {count : Nat} (h : 0 < count) :
    count * cellWidth count ≤ 100 ∧ 100 < count * cellWidth count + count := by
  have hmax : max count 1 = count := Nat.max_eq_left h
  rw [cellWidth, hmax]
  exact ⟨Nat.mul_div_le 100 count, Nat.lt_mul_div_succ 100 h⟩

/-- `articleGrid` yields a cell for each article and a gap between each two. -/
theorem ArticleGrid.yields {c : ArticleGrid} (h : c.articles ≠ []) (s : Resolved) :
    Yields (Token.piece? ["article-cell", "grid-spacer"]) (articleGrid c s)
      ((c.articles.map fun a =>
        ((⟨"td", "article-cell", some (toString (cellWidth c.articles.length) ++ "%")⟩ : Piece),
          (articleCard s a).tokens)).intersperse
        (⟨"td", "grid-spacer", some "10"⟩, noBreakSpace.tokens)) := by
  have hcell : ∀ a, Yields (Token.piece? ["article-cell", "grid-spacer"])
      [gridCell "article-cell" (cellWidth c.articles.length) [articleCard s a]]
      [(⟨"td", "article-cell", some (toString (cellWidth c.articles.length) ++ "%")⟩,
        (articleCard s a).tokens)] := by
    intro a
    -- The classes in a card are fixed ones, whatever its article holds, and no piece is among them.
    have hcard : gather (Token.piece? ["article-cell", "grid-spacer"])
        (tokensAll [articleCard s a]) = [] := by
      simp +decide [articleCard, fullTable, Html.row, styled, cardImage, fieldText, textLink,
        anchor, noSpacing, Attr.scanned, List.lookup_cons]
    rw [← tokensAll_singleton]
    exact yields_gridCell (by decide) (by decide) _ (by simp [wellFormed_articleCard]) hcard
  have hgap : Yields (Token.piece? ["article-cell", "grid-spacer"]) [gridSpacer]
      [(⟨"td", "grid-spacer", some "10"⟩, noBreakSpace.tokens)] :=
    yields_gap (by decide) (by decide) (by decide)
  rw [articleGrid, if_neg (by simpa using h)]
  exact .wrapped (by decide) (.wrapped rfl (.separated hgap hcell _))

/-- `articleGrid` lays its articles out as cells in a row. -/
theorem ArticleGrid.laidOut {c : ArticleGrid} (h : c.articles ≠ []) (s : Resolved) :
    c.LaidOut s (tokensAll [envelope .articleGrid s (articleGrid c s)]) where
  row := by
    obtain ⟨hle, hlt⟩ := cellWidth_bounds (List.length_pos_of_ne_nil h)
    have hpieces := yields_envelope .articleGrid s (by decide) (ArticleGrid.yields h s)
    exact ⟨_, hle, hlt, .of_pieces (by simp) hpieces.elements_eq⟩
  shown a _ := shownBy_articleCard s a

/-! ## Events -/

/-- Events are tables one behind the other. -/
structure EventCalendar.LaidOut (c : EventCalendar) (s : Resolved) (ts : List Token) : Prop where
  /-- A table for each event, in order. -/
  tables : elements (Token.piece? ["event-item"]) ts =
    c.events.map fun e => (⟨"table", "event-item", some "100%"⟩, (eventItem s e).inside)
  /-- A table shows what its event holds. -/
  shown : ∀ e ∈ c.events, e.exhibit.ShownBy (eventItem s e).inside

/-- `eventCalendar` yields a table for each event. -/
theorem EventCalendar.yields {c : EventCalendar} (h : c.events ≠ []) (s : Resolved) :
    Yields (Token.piece? ["event-item"]) (eventCalendar c s)
      (c.events.map fun e => (⟨"table", "event-item", some "100%"⟩, (eventItem s e).inside)) := by
  have htitle : gather (Token.piece? ["event-item"]) (tokensAll (sectionTitle s c.title)) = [] := by
    simp [sectionTitle, styled, Attr.scanned, List.lookup_cons]
  have hitem : ∀ e, Yields (Token.piece? ["event-item"]) [eventItem s e]
      [(⟨"table", "event-item", some "100%"⟩, (eventItem s e).inside)] := by
    intro e
    apply yields_fullTable (by decide) (by decide)
    · exact (wellFormed_fullTable.1 (wellFormed_eventItem s e)).2
    · simp +decide [Html.row, wideRow, detailRow, styled, textLink, anchor, gather_multiline,
        Attr.scanned, List.lookup_cons]
  rw [eventCalendar, if_neg (by simpa using h)]
  exact (Yields.of_gather htitle).append (.map hitem _)

/-- `eventCalendar` lays its events out as tables. -/
theorem EventCalendar.laidOut {c : EventCalendar} (h : c.events ≠ []) (s : Resolved) :
    c.LaidOut s (tokensAll [envelope .eventCalendar s (eventCalendar c s)]) where
  tables := (yields_envelope .eventCalendar s (by decide) (EventCalendar.yields h s)).elements_eq
  shown e _ := (shownBy_eventItem s e).inside

/-! ## Products -/

/-- Products are two cells in a row, one product to a cell. -/
structure ProductList.LaidOut (c : ProductList) (s : Resolved) (ts : List Token) : Prop where
  /-- Two cells, each with the card of its product, or empty where there is none. -/
  row : InRow ⟨"td", "product-cell", some "50%"⟩ ⟨"td", "grid-spacer", some "10"⟩
    ([c.products[0]?, c.products[1]?].map fun p => tokensAll (p.toList.map (productCard s))) ts
  /-- A table for each of the first two products, in order. -/
  cards : elements (Token.piece? ["product-card"]) ts =
    (c.products.take 2).map fun p =>
      (⟨"table", "product-card", some "100%"⟩, (productCard s p).inside)
  /-- As many as there are, but no more than two. -/
  count : (elements (Token.piece? ["product-card"]) ts).length = min c.products.length 2
  /-- A card shows what its product holds. -/
  shown : ∀ p ∈ c.products.take 2, p.exhibit.ShownBy (productCard s p).inside

/-- `productCells` fills two cells with two products. -/
theorem Fragment.separated_productCells (s : Resolved) (products : List Product) :
    separated gridSpacer (productCells s products) =
      separated gridSpacer ([products[0]?, products[1]?].map fun p =>
        gridCell "product-cell" 50 (p.toList.map (productCard s))) := rfl

/-- `productList` yields two cells and the gap between them. -/
theorem ProductList.yields_cells {c : ProductList} (h : c.products ≠ []) (s : Resolved) :
    Yields (Token.piece? ["product-cell", "grid-spacer"]) (productList c s)
      (([c.products[0]?, c.products[1]?].map fun p =>
        ((⟨"td", "product-cell", some "50%"⟩ : Piece),
          tokensAll (p.toList.map (productCard s)))).intersperse
        (⟨"td", "grid-spacer", some "10"⟩, noBreakSpace.tokens)) := by
  have htitle : gather (Token.piece? ["product-cell", "grid-spacer"])
      (tokensAll (sectionTitle s c.title)) = [] := by
    simp [sectionTitle, styled, Attr.scanned, List.lookup_cons]
  -- Two cells, either of which may be empty, with a gap between them.
  have hcell : ∀ p : Option Product,
      Yields (Token.piece? ["product-cell", "grid-spacer"])
        [gridCell "product-cell" 50 (p.toList.map (productCard s))]
        [(⟨"td", "product-cell", some "50%"⟩, tokensAll (p.toList.map (productCard s)))] := by
    intro p
    apply yields_gridCell (by decide) (by decide) 50
    · exact wellFormedAll_map (wellFormed_productCard s) _
    · apply gather_tokensAll_eq_nil
      intro n hn
      obtain ⟨product, -, rfl⟩ := List.mem_map.1 hn
      simp +decide [productCard, fullTable, Html.row, styled, classed, cardImage, fieldText, button,
        tightTable, noSpacing, Attr.scanned, List.lookup_cons]
  have hgap : Yields (Token.piece? ["product-cell", "grid-spacer"]) [gridSpacer]
      [(⟨"td", "grid-spacer", some "10"⟩, noBreakSpace.tokens)] :=
    yields_gap (by decide) (by decide) (by decide)
  rw [productList, if_neg (by simpa using h), separated_productCells]
  exact (Yields.of_gather htitle).append
    (.wrapped (by decide) (.wrapped rfl (.separated hgap hcell _)))

/-- `productList` yields a card for each of its first two products. -/
theorem ProductList.yields_cards {c : ProductList} (h : c.products ≠ []) (s : Resolved) :
    Yields (Token.piece? ["product-card"]) (productList c s)
      ((c.products.take 2).map fun p =>
        (⟨"table", "product-card", some "100%"⟩, (productCard s p).inside)) := by
  have htitle :
      gather (Token.piece? ["product-card"]) (tokensAll (sectionTitle s c.title)) = [] := by
    simp [sectionTitle, styled, Attr.scanned, List.lookup_cons]
  have hgap : gather (Token.piece? ["product-card"]) (tokensAll [gridSpacer]) = [] := by
    decide
  have hcard : ∀ p, Yields (Token.piece? ["product-card"]) [productCard s p]
      [(⟨"table", "product-card", some "100%"⟩, (productCard s p).inside)] := by
    intro p
    apply yields_fullTable (by decide) (by decide)
    · exact (wellFormed_fullTable.1 (wellFormed_productCard s p)).2
    · simp +decide [Html.row, styled, classed, cardImage, fieldText, button, tightTable, noSpacing,
        Attr.scanned, List.lookup_cons]
  have hcell : ∀ p : Option Product, Yields (Token.piece? ["product-card"])
      [gridCell "product-cell" 50 (p.toList.map (productCard s))]
      (p.toList.map fun p => (⟨"table", "product-card", some "100%"⟩, (productCard s p).inside)) :=
    fun p => .wrapped (by decide) (.map hcard p.toList)
  -- Two cells are drawn in any case: with one product, the second one is empty.
  have htake : c.products.take 2 = c.products[0]?.toList ++ c.products[1]?.toList := by
    simpa [List.range_succ] using (flatMap_range_getElem? 2 c.products).symm
  have hcells := (hcell c.products[0]?).cons ((Yields.of_gather hgap).cons (hcell c.products[1]?))
  rw [List.nil_append, ← List.map_append, ← htake] at hcells
  rw [productList, if_neg (by simpa using h)]
  exact (Yields.of_gather htitle).append (.wrapped (by decide) (.wrapped rfl hcells))

/-- `productList` lays its products out in two cells. -/
theorem ProductList.laidOut {c : ProductList} (h : c.products ≠ []) (s : Resolved) :
    c.LaidOut s (tokensAll [envelope .products s (productList c s)]) where
  row := .of_pieces (by simp)
    (yields_envelope .products s (by decide) (ProductList.yields_cells h s)).elements_eq
  cards := (yields_envelope .products s (by decide) (ProductList.yields_cards h s)).elements_eq
  count := by
    have hcards := yields_envelope .products s (by decide) (ProductList.yields_cards h s)
    rw [hcards.elements_eq, List.length_map, List.length_take, Nat.min_comm]
  shown p _ := (shownBy_productCard s p).inside

/-! ## Social links -/

/-- Social links are cells in a row. -/
structure SocialLinks.LaidOut (c : SocialLinks) (s : Resolved) (ts : List Token) : Prop where
  /-- A cell for each link that has a label, in order. -/
  row : InRow ⟨"td", "social-link", none⟩ ⟨"td", "social-spacer", some "16"⟩
    ((c.links.filter fun link => link.label?.isSome).map fun link => (link.draw s).tokens) ts
  /-- A cell shows its link. -/
  shown : ∀ link ∈ c.links, link.exhibit.ShownBy (link.draw s).tokens

/-- `socialAnchor?` draws the links that have a label. -/
theorem filterMap_socialAnchor? (s : Resolved) (links : List SocialLink) :
    links.filterMap (socialAnchor? s "font-size: 14px;") =
      (links.filter fun link => link.label?.isSome).map fun link => link.draw s := by
  induction links with
  | nil => rfl
  | cons link links ih =>
    -- A link without a label is left out on both sides.
    cases hlabel : link.label? with
    | none =>
      have hanchor : socialAnchor? s "font-size: 14px;" link = none :=
        Option.map_eq_none_iff.2 hlabel
      rw [List.filterMap_cons_none hanchor, ih, List.filter_cons_of_neg (by simp [hlabel])]
    | some label =>
      have hanchor : socialAnchor? s "font-size: 14px;" link = some (link.draw s) := by
        rw [SocialLink.draw, hlabel]
        exact Option.map_eq_some_iff.2 ⟨label, hlabel, rfl⟩
      rw [List.filterMap_cons_some hanchor, ih, List.filter_cons_of_pos (by simp [hlabel]),
        List.map_cons]

/-- `socialLinks` yields a cell for each link with a label and a gap between each two. -/
theorem SocialLinks.yields (c : SocialLinks) (s : Resolved) :
    Yields (Token.piece? ["social-link", "social-spacer"]) (socialLinks c s)
      (((c.links.filter fun link => link.label?.isSome).map fun link =>
        ((⟨"td", "social-link", none⟩ : Piece), (link.draw s).tokens)).intersperse
        (⟨"td", "social-spacer", some "16"⟩, noBreakSpace.tokens)) := by
  have hcell : ∀ link : SocialLink,
      Yields (Token.piece? ["social-link", "social-spacer"])
        [.element "td" [⟨"class", "social-link"⟩] [link.draw s]]
        [(⟨"td", "social-link", none⟩, (link.draw s).tokens)] := by
    intro link
    have hanchor : gather (Token.piece? ["social-link", "social-spacer"])
        (tokensAll [link.draw s]) = [] := by
      simp [SocialLink.draw, anchor, Attr.scanned, List.lookup_cons]
    rw [← tokensAll_singleton]
    exact .element (by decide) (by simp +decide [SocialLink.draw]) (.of_gather hanchor)
  have hgap : Yields (Token.piece? ["social-link", "social-spacer"]) [socialSpacer]
      [(⟨"td", "social-spacer", some "16"⟩, noBreakSpace.tokens)] :=
    yields_gap (by decide) (by decide) (by decide)
  have hcells := Yields.separated hgap hcell (c.links.filter fun link => link.label?.isSome)
  -- A row may be centered, which is no class.
  have htable : ∀ align, Token.piece? ["social-link", "social-spacer"] (.opening "table"
      ((⟨"role", "presentation"⟩ :: noSpacing ++ centerAttr align : List Attr).map Attr.scanned)) =
        none := by
    intro align
    cases align <;> decide
  rw [socialLinks, filterMap_socialAnchor?, List.map_map]
  split
  · -- Without a link there is not even a row.
    rename_i hempty
    have hnone : c.links.filter (fun link => link.label?.isSome) = [] :=
      List.map_eq_nil_iff.1 (List.isEmpty_iff.1 hempty)
    rw [hnone]
    exact Yields.nil
  · exact .wrapped (htable s.align) (.wrapped rfl hcells)

/-- `socialLinks` lays its links out as cells in a row. -/
theorem SocialLinks.laidOut (c : SocialLinks) (s : Resolved) :
    c.LaidOut s (tokensAll [envelope .socialLinks s (socialLinks c s)]) where
  row := .of_pieces (by simp)
    (yields_envelope .socialLinks s (by decide) (c.yields s)).elements_eq
  shown link _ := link.shownBy_draw s

/-! ## Blocks -/

/-- What stands in the envelope of a block is laid out as its collection asks for. -/
structure Block.LaidOut (b : Block) (theme : Theme) (html : String) : Prop where
  articles : ∀ c, b.content = .articleGrid c → c.articles ≠ [] →
    ∃ ts, scan html.toList = some ts ∧ c.LaidOut (b.resolved .articleGrid theme) ts
  events : ∀ c, b.content = .eventCalendar c → c.events ≠ [] →
    ∃ ts, scan html.toList = some ts ∧ c.LaidOut (b.resolved .eventCalendar theme) ts
  products : ∀ c, b.content = .products c → c.products ≠ [] →
    ∃ ts, scan html.toList = some ts ∧ c.LaidOut (b.resolved .products theme) ts
  socialLinks : ∀ c, b.content = .socialLinks c →
    ∃ ts, scan html.toList = some ts ∧ c.LaidOut (b.resolved .socialLinks theme) ts

/-- A block with a known content is read as the envelope of that. -/
theorem Block.scan_render_of_content {b : Block} {c : Content} {kind : Kind} (hc : b.content = c)
    (hkind : c.kind? = some kind) (hraw : c.raw? = none) (theme : Theme) (ctx : RenderContext) :
    scan (b.render theme ctx).toList = some (tokensAll [envelope kind (b.resolved kind theme)
      (c.body (b.resolved kind theme) ctx (scopeOf b.id))]) := by
  subst hc
  rw [scan_render theme ctx hraw, b.draw_of_kind? hkind]

/-- Collections are laid out without loss, duplication or overflow, whatever their items hold. -/
theorem Block.collections_laid_out (b : Block) (theme : Theme) (ctx : RenderContext) :
    b.LaidOut theme (b.render theme ctx) where
  articles _ hc hne :=
    ⟨_, scan_render_of_content hc rfl rfl theme ctx, ArticleGrid.laidOut hne _⟩
  events _ hc hne :=
    ⟨_, scan_render_of_content hc rfl rfl theme ctx, EventCalendar.laidOut hne _⟩
  products _ hc hne :=
    ⟨_, scan_render_of_content hc rfl rfl theme ctx, ProductList.laidOut hne _⟩
  socialLinks c hc := ⟨_, scan_render_of_content hc rfl rfl theme ctx, c.laidOut _⟩

/-- Three articles, the first of which imitates a cell, are three cells of a third each. -/
theorem Block.collections_laid_out_thirds :
    let imitation : Article :=
      ⟨none, some "</td><td class=\"article-cell\">", none, some "/a", none⟩
    let blank : Article := ⟨some " ", none, none, none, none⟩
    let c : ArticleGrid := ⟨[imitation, blank, blank]⟩
    let b : Block := ⟨"g", .articleGrid c, none⟩
    let s := b.resolved .articleGrid .standard
    c.articles ≠ [] ∧ ∃ ts, scan (b.render .standard ⟨2024, true⟩).toList = some ts ∧
      InRow ⟨"td", "article-cell", some "33%"⟩ ⟨"td", "grid-spacer", some "10"⟩
        [(articleCard s imitation).tokens, (articleCard s blank).tokens,
          (articleCard s blank).tokens] ts := by
  intro imitation blank c b s
  have hne : c.articles ≠ [] := List.cons_ne_nil _ _
  obtain ⟨ts, hscan, hrow, -⟩ :=
    (Block.collections_laid_out b .standard ⟨2024, true⟩).articles c rfl hne
  obtain ⟨width, hle, hlt, hcells⟩ := hrow
  have hlength : c.articles.length = 3 := rfl
  rw [hlength] at hle hlt
  -- No other width fills a row of three and does not overflow it.
  have hwidth : width = 33 := by omega
  subst hwidth
  exact ⟨hne, ts, hscan, hcells⟩

end Bulletin
