import Bulletin.Proofs.Markup.Contents
import Bulletin.Proofs.Markup.Marks
import Bulletin.Proofs.Quiz.Consistency

/-!
# Blocks with a collection

Grids of articles, calendars, products and quizzes draw a placeholder if they have no items.  A
reader that passes over what stands in their items reads the placeholder off such a block, and else
no more than the products or the script.  So the placeholder can be looked for in the text of a
fragment, and products can be counted in it, whatever the items hold.

## Main statements

- `Content.gather_body`: what is read off a block with a collection
- `Block.emptyMark_infix_render_iff`: where the placeholder occurs
- `Block.length_gather_productTag_draw`: how many products are drawn
-/

namespace Bulletin

open Html Node Fragment Text

namespace Fragment

variable {α : Type} {f : Token → Option α}

/-- The tag of the placeholder of an empty collection. -/
def placeholderTag : Token :=
  .opening "p" [Attr.scanned ⟨"class", "nl-empty"⟩, Attr.scanned ⟨"style",
    "margin: 0; text-align: center; font-style: italic; opacity: 0.7;"⟩]

/-- `placeholder` gives a reader its own tag. -/
theorem gather_placeholder [Token.IsReader f] (message : String) :
    gather f (placeholder message).tokens = (f placeholderTag).toList := by
  simp [placeholder, classed, placeholderTag]

/-- As many items are taken as there are slots. -/
theorem flatMap_range_getElem? {α : Type} (m : Nat) (xs : List α) :
    ((List.range m).flatMap fun i => xs[i]?.toList) = xs.take m := by
  induction m with
  | zero => rfl
  | succ m ih => rw [List.range_succ, List.flatMap_append, ih, List.take_add_one]; simp

/-- The tag of a product. -/
def productCardTag (s : Resolved) : Token :=
  let style : Attr := ⟨"style", "border: 1px solid " ++ s.borderColor ++ "; border-radius: 4px;"⟩
  .opening "table"
    (([⟨"role", "presentation"⟩, ⟨"class", "product-card"⟩, ⟨"width", "100%"⟩] ++ noSpacing ++
      [style] : List Attr).map Attr.scanned)

/-- The tags of the elements that blocks are drawn with. -/
def drawnTags : List String :=
  ["table", "tr", "td", "div", "p", "h1", "h2", "h3", "a", "span", "label", "img", "br", "hr",
    "input"]

/-- A reader passes over paragraphs that have only a style or that hold a price, over tables that
hold no product, and over all other elements that blocks are drawn with. -/
structure Overlooks (f : Token → Option α) : Prop where
  styled : ∀ a : Attr, a.name = "style" → f (.opening "p" [a.scanned]) = none
  price : ∀ a : Attr, f (.opening "p" [Attr.scanned ⟨"class", "product-price"⟩, a.scanned]) = none
  table : ∀ attrs, ("class", "product-card") ∉ attrs → f (.opening "table" attrs) = none
  other : ∀ tag attrs, tag ∈ drawnTags → tag ≠ "p" → tag ≠ "table" → f (.opening tag attrs) = none

namespace Overlooks

variable [Token.IsReader f] (h : Overlooks f)

include h

/-- `fullTable` is passed over, unless it is a product. -/
theorem fullTable {cls : String} (hcls : escape cls ≠ "product-card") {more : List Attr}
    (hmore : ∀ a ∈ more, a.name ≠ "class") (rows : List Node) :
    gather f (fullTable cls more rows).tokens = gather f (tokensAll rows) := by
  rw [Html.fullTable, gather_element, h.table]
  · rfl
  · simp [noSpacing, Attr.scanned, hcls.symm]
    exact fun a ha hname => absurd hname (hmore a ha)

/-- `tightTable` is passed over. -/
theorem tightTable {more : List Attr} (hmore : ∀ a ∈ more, a.name ≠ "class") (rows : List Node) :
    gather f (tightTable [] more rows).tokens = gather f (tokensAll rows) := by
  rw [Html.tightTable, gather_element, h.table]
  · rfl
  · simp [noSpacing, Attr.scanned]
    exact fun a ha hname => absurd hname (hmore a ha)

/-- `button` is passed over. -/
theorem button (s : Resolved) (align : Align) (label : String) (url : Option String) :
    gather f (button s align label url).tokens = [] := by
  -- A button may be centered, which is no class.
  have hmore : ∀ a ∈ centerAttr align, a.name ≠ "class" := by
    unfold centerAttr
    split <;> simp
  rw [Fragment.button, h.tightTable hmore]
  simp +decide [row, h.other]

/-- `sectionTitle` is passed over. -/
theorem sectionTitle (s : Resolved) (title : Option String) :
    gather f (tokensAll (sectionTitle s title)) = [] := by
  simp +decide [Fragment.sectionTitle, Html.styled, h.other]

/-- `gridSpacer` is passed over. -/
theorem gridSpacer : gather f gridSpacer.tokens = [] := by
  simp +decide [Fragment.gridSpacer, noBreakSpace, h.other]

/-- `articleCard` is passed over. -/
theorem articleCard (s : Resolved) (a : Article) : gather f (articleCard s a).tokens = [] := by
  rw [Fragment.articleCard, h.fullTable (by decide) (by simp)]
  simp +decide [row, Html.styled, cardImage, textLink, anchor, fieldText, h.other, h.styled]

/-- `eventItem` is passed over. -/
theorem eventItem (s : Resolved) (e : Event) : gather f (eventItem s e).tokens = [] := by
  have hbreak : f (.opening "br" []) = none :=
    h.other "br" [] (by decide) (by decide) (by decide)
  rw [Fragment.eventItem, h.fullTable (by decide) (by simp)]
  simp +decide [row, wideRow, detailRow, textLink, anchor, Html.styled, gather_multiline hbreak,
    h.other]

/-- `productCard` gives its own tag at most. -/
theorem productCard (s : Resolved) (p : Product) :
    gather f (productCard s p).tokens = (f (productCardTag s)).toList := by
  -- A price is the one paragraph with a class in a card.
  have hprice : ∀ price, gather f (tokensAll [classed "p" "product-price"
      "margin: 0 0 10px 0; font-size: 16px; font-weight: bold;"
      (.text price :: forPresent p.discount fun discount =>
        [.text " ", classed "span" "product-discount"
          "font-size: 13px; font-weight: normal; color: #d9534f;" [.text discount]])]) = [] := by
    intro price
    simp +decide [classed, h.other, h.price]
  have hcard : f (.opening "table" _) = f (productCardTag s) := rfl
  rw [Fragment.productCard, Html.fullTable, gather_element, hcard]
  simp +decide [row, Html.styled, cardImage, fieldText, gather_forPresent hprice, h.button, h.other,
    h.styled]

/-- `quizQuestion` is passed over. -/
theorem quizQuestion (scope : String) (index : Nat) (q : QuizQuestion) :
    gather f (quizQuestion scope index q).tokens = [] := by
  have hoptions : gather f (tokensAll (q.options.mapIdx (quizOption scope index q))) = [] := by
    apply gather_tokensAll_eq_nil
    intro n hn
    obtain ⟨i, hi, rfl⟩ := List.mem_mapIdx.1 hn
    simp +decide [quizOption, Html.styled, h.other]
  simp +decide [Fragment.quizQuestion, classed, Html.styled, hoptions, h.other, h.styled]

/-- `articleGrid` gives its placeholder at most. -/
theorem articleGrid (c : ArticleGrid) (s : Resolved) :
    gather f (tokensAll (articleGrid c s)) =
      if c.articles = [] then (f placeholderTag).toList else [] := by
  have hcells : gather f (tokensAll (c.articles.map fun a =>
      gridCell "article-cell" (cellWidth c.articles.length) [Fragment.articleCard s a])) = [] := by
    apply gather_tokensAll_eq_nil
    intro n hn
    obtain ⟨a, -, rfl⟩ := List.mem_map.1 hn
    simp +decide [gridCell, h.other, h.articleCard]
  have hgrid := @fullTable _ _ _ h "article-grid" (by decide) [] (by simp)
  rw [Fragment.articleGrid]
  split <;> simp_all +decide [row, gather_placeholder, gather_separated h.gridSpacer, h.other]

/-- `eventCalendar` gives its placeholder at most. -/
theorem eventCalendar (c : EventCalendar) (s : Resolved) :
    gather f (tokensAll (eventCalendar c s)) =
      if c.events = [] then (f placeholderTag).toList else [] := by
  have hevents : gather f (tokensAll (c.events.map (Fragment.eventItem s))) = [] := by
    apply gather_tokensAll_eq_nil
    intro n hn
    obtain ⟨e, -, rfl⟩ := List.mem_map.1 hn
    exact h.eventItem s e
  rw [Fragment.eventCalendar, tokensAll_append, gather_append, h.sectionTitle]
  split <;> simp_all [gather_placeholder]

/-- `productCells` give as many products as are drawn at most. -/
theorem productCells (s : Resolved) (products : List Product) :
    gather f (tokensAll (productCells s products)) =
      gather f (List.replicate (min maxProducts products.length) (productCardTag s)) := by
  -- A cell without a product has nothing to read.
  have hcell : ∀ slot : Nat, gather f (gridCell "product-cell" 50
      (products[slot]?.toList.map (Fragment.productCard s))).tokens =
        products[slot]?.toList.flatMap fun _ => (f (productCardTag s)).toList := by
    intro slot
    rw [gridCell, gather_element, h.other _ _ (by decide) (by decide) (by decide),
      gather_tokensAll, List.flatMap_map]
    simp [h.productCard]
  rw [Fragment.productCells, gather_tokensAll, List.flatMap_map]
  simp only [hcell]
  have hcards : List.replicate (min maxProducts products.length) (productCardTag s) =
      (products.take maxProducts).map fun _ => productCardTag s := by
    rw [List.map_const', List.length_take]
  rw [hcards, gather_map, ← flatMap_range_getElem? maxProducts products, List.flatMap_assoc]

/-- `productList` gives its placeholder or its products. -/
theorem productList (c : ProductList) (s : Resolved) :
    gather f (tokensAll (productList c s)) =
      if c.products = [] then (f placeholderTag).toList
      else gather f (List.replicate (min maxProducts c.products.length) (productCardTag s)) := by
  have hgrid := @fullTable _ _ _ h "product-grid" (by decide) [] (by simp)
  rw [Fragment.productList, tokensAll_append, gather_append, h.sectionTitle]
  split <;> simp_all +decide [row, gather_placeholder, gather_separated h.gridSpacer, h.other,
    h.productCells]

/-- `quiz` gives its placeholder or its script. -/
theorem quiz (scope : String) (c : Quiz) (s : Resolved) (scripts : Bool) :
    gather f (tokensAll (quiz scope c s scripts)) =
      if c.questions = [] then (f placeholderTag).toList
      else if scripts then
        gather f (verbatim "script" (scoreScript scope c.questions.length)).tokens
      else [] := by
  have hquestions :
      gather f (tokensAll (c.questions.mapIdx (Fragment.quizQuestion scope))) = [] := by
    apply gather_tokensAll_eq_nil
    intro n hn
    obtain ⟨k, hk, rfl⟩ := List.mem_mapIdx.1 hn
    exact h.quizQuestion scope k _
  rw [Fragment.quiz, tokensAll_append, gather_append, h.sectionTitle]
  split <;> cases scripts <;>
    simp_all +decide [gather_placeholder, scoring, Html.styled, h.other, h.styled]

end Overlooks

end Fragment

/-! ## The frame of a block -/

/-- `draw` puts a block of a known kind in its envelope. -/
theorem Block.draw_of_kind? {b : Block} {kind : Kind} (h : b.content.kind? = some kind)
    (theme : Theme) (ctx : RenderContext) (scope : String) :
    b.draw theme ctx scope = [envelope kind (b.resolved kind theme)
      (b.content.body (b.resolved kind theme) ctx scope)] := by
  rw [draw, h]

/-- `draw` makes of a block without HTML of its own a tree without any. -/
theorem Block.wellFormedAll_draw_of_raw? {allow : String → Prop} {b : Block}
    (h : b.content.raw? = none) (theme : Theme) (ctx : RenderContext) :
    WellFormedAll allow (b.draw theme ctx (scopeOf b.id)) := by
  apply b.wellFormedAll_draw _ theme ctx (isScope_scopeOf b.id).2
  simp [h]

/-! ## Empty collections -/

/-- How many items the collection of a block holds, if it is one of those with a placeholder. -/
def Content.itemCount? : Content → Option Nat
  | .articleGrid c => some c.articles.length
  | .eventCalendar c => some c.events.length
  | .products c => some c.products.length
  | .quiz c => some c.questions.length
  | _ => none

/-- What the placeholder of an empty collection begins with. -/
def emptyMark : List Char := "<p class=\"nl-empty\"".toList

/-- `emptyMark` is the beginning of a tag. -/
theorem emptyMark_eq : emptyMark = tagMark "p" [("class", "nl-empty")] := by decide

/-- The tag of the placeholder begins like no other text. -/
theorem isBeginning_empty : IsBeginning "p" [("class", "nl-empty")] where
  name := by decide
  written := by simp [IsWritten]; decide
  ne_nil := by simp

/-- The tag of a placeholder. -/
abbrev emptyTag : Token → Option (List (String × String)) :=
  Token.tagged "p" [("class", "nl-empty")].isPrefixOf

/-- `emptyTag` reads nothing but the placeholder. -/
theorem overlooks_emptyTag : Overlooks emptyTag where
  styled a ha := by simp [Attr.scanned, ha]
  price a := by simp [Attr.scanned]; decide
  table _ _ := Token.tagged_opening_of_ne (by decide)
  other _ _ _ htag _ := Token.tagged_opening_of_ne htag

/-- `literal?` reads no tag. -/
theorem overlooks_literal? : Overlooks Token.literal? where
  styled _ _ := rfl
  price _ := rfl
  table _ _ := rfl
  other _ _ _ _ _ := rfl

/-- The pieces of a script have no `<`, but for the comparison in its loop. -/
theorem lt_notMem_scriptPiece {s : String}
    (hs : s ∈ [scriptHead, scriptQuery, scriptIndex, scriptTest, scriptAlert, scriptTail]) :
    '<' ∉ s.toList := by
  have hall : (s.toList.all fun c => c ≠ '<') = true := by
    simp only [List.mem_cons, List.not_mem_nil, or_false] at hs
    rcases hs with rfl | rfl | rfl | rfl | rfl | rfl
    all_goals exact all_toList_ofList (by decide)
  intro hmem
  simpa using List.all_eq_true.1 hall '<' hmem

/-- A mark with a `<` that is no comparison does not occur in `scoreScript`. -/
theorem not_infix_scoreScript {mark : String} (hmark : isFrameMark mark = true)
    (hopen : '<' ∈ mark.toList) (hloop : after mark.toList scriptLoop.toList = [])
    {scope : String} (hscope : ∀ c ∈ scope.toList, isScopeChar c = true) (total : Nat) :
    ¬mark.toList <:+: (scoreScript scope total).toList := by
  have hnil : ∀ s ∈ [scriptHead, scriptQuery, scriptIndex, scriptTest, scriptAlert, scriptTail],
      after mark.toList s.toList = [] := fun s hs => after_eq_nil hopen (lt_notMem_scriptPiece hs)
  -- The two names that are put in are made of characters of scopes.
  have hname := @isScopeChar_of_mem_replaceAll total ('_' :: scope.toList)
    (List.forall_mem_cons.2 ⟨by decide, hscope⟩)
  have hfilled := @isScopeChar_of_mem_replaceAll total _ hscope
  obtain ⟨r₁, r₂, r₃, r₄, r₅, r₆, hwords⟩ :=
    wordsAfter_scriptFrame (isScriptMark_of_isFrameMark hmark hname hfilled total) ' '
  simp only [wordsFrom, hnil, hloop, List.mem_cons, true_or, or_true, List.map_nil,
    List.append_nil] at hwords
  rw [toList_scoreScript_eq, ← after_eq_nil_iff (List.ne_nil_of_mem hopen)]
  exact List.map_eq_nil_iff.1 hwords

/-- No paragraph begins in `scoreScript`. -/
theorem paragraph_not_infix_scoreScript {scope : String}
    (hscope : ∀ c ∈ scope.toList, isScopeChar c = true) (total : Nat) :
    ¬"<p".toList <:+: (scoreScript scope total).toList :=
  not_infix_scoreScript (by decide) (by decide) (after_toList_ofList (by decide +kernel)) hscope
    total

/-- What may be read off a block with a collection that is not empty. -/
def Content.others (c : Content) (s : Resolved) (ctx : RenderContext) (scope : String) :
    List Token :=
  match c with
  | .products c => List.replicate (min maxProducts c.products.length) (productCardTag s)
  | .quiz c =>
    if ctx.scripts then (verbatim "script" (scoreScript scope c.questions.length)).tokens else []
  | _ => []

/-- `body` of a block with a collection gives the placeholder, or products, or a script. -/
theorem Content.gather_body {α : Type} {f : Token → Option α} [Token.IsReader f]
    (hf : Overlooks f) {c : Content} {n : Nat} (h : c.itemCount? = some n) (s : Resolved)
    (ctx : RenderContext) (scope : String) :
    gather f (tokensAll (c.body s ctx scope)) =
      if n = 0 then (f placeholderTag).toList else gather f (c.others s ctx scope) := by
  -- The four kinds with items, one by one; the others have no count.
  cases c with
  | articleGrid c =>
    obtain rfl := Option.some.inj h
    simp [body, hf.articleGrid, others]
  | eventCalendar c =>
    obtain rfl := Option.some.inj h
    simp [body, hf.eventCalendar, others]
  | products c =>
    obtain rfl := Option.some.inj h
    simp [body, hf.productList, others]
  | quiz c =>
    obtain rfl := Option.some.inj h
    cases hscripts : ctx.scripts <;> simp [body, hf.quiz, others, hscripts]
  | _ => simp [itemCount?] at h

/-- The blocks with a collection are of a known kind and bring no HTML of their own. -/
theorem Content.exists_kind?_of_itemCount? {c : Content} {n : Nat} (h : c.itemCount? = some n) :
    ∃ kind, c.kind? = some kind ∧ c.raw? = none := by
  cases c with
  | articleGrid c | eventCalendar c | products c | quiz c => exact ⟨_, rfl, rfl⟩
  | _ => simp [itemCount?] at h

/-- `draw` of a block with a collection gives what its content gives. -/
theorem Block.gather_draw {α : Type} {f : Token → Option α} [Token.IsReader f] (hf : Overlooks f)
    {b : Block} {n : Nat} (h : b.content.itemCount? = some n) (theme : Theme) (ctx : RenderContext)
    (scope : String) :
    ∃ s, gather f (tokensAll (b.draw theme ctx scope)) =
      if n = 0 then (f placeholderTag).toList
      else gather f (b.content.others s ctx scope) := by
  obtain ⟨kind, hkind, -⟩ := b.content.exists_kind?_of_itemCount? h
  have hcls : escape ("nl-block nl-" ++ kind.tag) ≠ "product-card" := by
    cases kind <;> decide
  refine ⟨b.resolved kind theme, ?_⟩
  rw [b.draw_of_kind? hkind, envelope, gather_tokensAll_cons, hf.fullTable hcls (by simp)]
  simp +decide [row, hf.other, b.content.gather_body hf h]

/-! ## Placeholders -/

/-- `emptyMark` does not occur in the script of a block. -/
theorem Content.emptyMark_not_infix_literal {c : Content} {s : Resolved} {ctx : RenderContext}
    {scope : String} (hscope : IsScope scope) {script : String}
    (h : script ∈ gather Token.literal? (c.others s ctx scope)) :
    ¬emptyMark <:+: script.toList := by
  have hbegins : "<p".toList <+: emptyMark := by decide
  intro hoccurs
  unfold others at h
  split at h
  · simp [gather, productCardTag] at h
  · split at h
    · obtain rfl : script = _ := by simpa [gather_cons] using h
      exact paragraph_not_infix_scoreScript hscope.2 _ (hbegins.isInfix.trans hoccurs)
    · simp at h
  · simp at h

/-- `emptyMark` occurs in a fragment if and only if the block's collection is empty. -/
theorem Block.emptyMark_infix_render_iff {b : Block} {n : Nat} (h : b.content.itemCount? = some n)
    (theme : Theme) (ctx : RenderContext) :
    emptyMark <:+: (b.render theme ctx).toList ↔ n = 0 := by
  obtain ⟨-, -, hraw⟩ := b.content.exists_kind?_of_itemCount? h
  -- The mark stands in no text that is written as it is, so it occurs only where a tag begins.
  have hwellFormed := @b.wellFormedAll_draw_of_raw? (fun _ => False) hraw theme ctx
  have hfree : ∀ body ∈ gather Token.literal? (tokensAll (b.draw theme ctx (scopeOf b.id))),
      ¬emptyMark <:+: body.toList := by
    obtain ⟨s, hgather⟩ := b.gather_draw overlooks_literal? h theme ctx (scopeOf b.id)
    rw [hgather]
    intro body hbody
    split at hbody
    · simp [placeholderTag] at hbody
    · exact b.content.emptyMark_not_infix_literal (isScope_scopeOf b.id) hbody
  obtain ⟨s, hgather⟩ := b.gather_draw overlooks_emptyTag h theme ctx (scopeOf b.id)
  have hplaceholder : emptyTag placeholderTag ≠ none := by decide
  have hothers : gather emptyTag (b.content.others s ctx (scopeOf b.id)) = [] := by
    unfold Content.others
    split
    · simp [gather, productCardTag]
    · split <;> simp
    · rfl
  rw [emptyMark_eq] at hfree ⊢
  rw [render, renderScoped, tagMark_infix_html_iff isBeginning_empty hwellFormed hfree, hgather]
  split <;> simp_all

/-! ## Products -/

/-- The attributes of a tag give a key this value. -/
def Html.carries (key value : String) (attrs : List (String × String)) : Bool :=
  attrs.lookup key = some value

/-- The tag of a product. -/
abbrev productTag : Token → Option (List (String × String)) :=
  Token.tagged "table" (carries "class" "product-card")

/-- `productTag` reads nothing but products. -/
theorem overlooks_productTag : Overlooks productTag where
  styled _ _ := Token.tagged_opening_of_ne (by decide)
  price _ := Token.tagged_opening_of_ne (by decide)
  table attrs hattrs := by
    have hclass : attrs.lookup "class" ≠ some "product-card" := by
      intro hlookup
      obtain ⟨front, back, rfl, -⟩ := List.lookup_eq_some_iff.1 hlookup
      simp at hattrs
    simp [carries, hclass]
  other _ _ _ _ htag := Token.tagged_opening_of_ne htag

/-- `draw` shows as many products as there are cells for them. -/
theorem Block.length_gather_productTag_draw {b : Block} {c : ProductList}
    (hc : b.content = .products c) (theme : Theme) (ctx : RenderContext) (scope : String) :
    (gather productTag (tokensAll (b.draw theme ctx scope))).length =
      min maxProducts c.products.length := by
  have hclass : escape "product-card" = "product-card" := by decide
  have hcount : b.content.itemCount? = some c.products.length := by rw [hc]; rfl
  obtain ⟨s, hgather⟩ := b.gather_draw overlooks_productTag hcount theme ctx scope
  have hcard : ∃ attrs, productTag (productCardTag s) = some attrs := by
    simp [productCardTag, carries, Attr.scanned, List.lookup_cons, hclass]
  obtain ⟨attrs, hattrs⟩ := hcard
  rw [hgather, hc]
  split
  · rename_i hnil
    simp [placeholderTag, hnil]
  · rw [Content.others, gather, List.filterMap_replicate_of_some hattrs, List.length_replicate]

end Bulletin
