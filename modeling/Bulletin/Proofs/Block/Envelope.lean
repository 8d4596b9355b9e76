import Bulletin.Proofs.Markup.Escaping
import Bulletin.Proofs.Markup.Fragments

/-!
# The envelope of a block

A tag decides the kind of a block, and the block's own tag is that tag again.  A block of a known
kind is drawn as a table of one cell: the table's class names the tag, and the cell carries the
alignment and the style that the block's style, its content and the defaults of its kind resolve
to.  A block of unknown kind is not drawn.

## Main statements

- `Content.tag_ofTag`, `Content.ofTag_eq_unknown_iff`: tags and kinds
- `Fragment.html_envelope`: the text of an envelope
- `tags_and_envelopes`: both, for every tag and every block
-/

namespace Bulletin

open Html

/-! ## Tags -/

/-- The tags that name a kind. -/
def knownTags : List String :=
  ["header", "footer", "heading", "paragraph", "image", "button", "divider", "spacer",
    "compartment", "featured-article", "article-grid", "event-calendar", "quiz", "subscribe-now",
    "testimonial", "cta-banner", "product-recommendation", "social-links", "video"]

namespace Kind

/-- `knownTags` are the tags of all kinds, in order. -/
theorem map_tag_all : all.map tag = knownTags := rfl

/-- `ofTag?` knows the nineteen tags only. -/
theorem ofTag?_eq_none_iff {tag : String} : ofTag? tag = none ↔ tag ∉ knownTags := by
  rw [ofTag?, List.find?_eq_none, ← map_tag_all, List.mem_map]
  simp

end Kind

namespace Content

/-- `ofTag` makes contents that have the tag they were made from. -/
theorem tag_ofTag (tag : String) (value : Json) : (ofTag tag value).tag = tag := by
  unfold ofTag
  split
  · rename_i kind hkind
    rw [tag_eq_of_kind? (kind?_ofKind kind value), Kind.tag_of_ofTag? hkind]
  · rfl

/-- `kind?` fails for unknown contents only. -/
theorem kind?_eq_none_iff {c : Content} : c.kind? = none ↔ ∃ tag, c = .unknown tag := by
  cases c <;> simp [kind?]

/-- `ofTag` makes contents of the kind that the tag names. -/
theorem kind?_ofTag (tag : String) (value : Json) : (ofTag tag value).kind? = Kind.ofTag? tag := by
  unfold ofTag
  split
  · rename_i kind hkind
    rw [kind?_ofKind, hkind]
  · rename_i hkind
    rw [hkind]
    rfl

/-- `ofTag` makes an unknown content for every other tag. -/
theorem exists_ofTag_eq_unknown_iff {tag : String} {value : Json} :
    (∃ t, ofTag tag value = .unknown t) ↔ tag ∉ knownTags := by
  rw [← kind?_eq_none_iff, kind?_ofTag, Kind.ofTag?_eq_none_iff]

end Content

/-! ## Frames -/

/-- What stands in front of the content of a block. -/
def frameFront (tag align css : String) : String :=
  "<table role=\"presentation\" class=\"nl-block nl-" ++ tag ++
    "\" width=\"100%\" cellpadding=\"0\" cellspacing=\"0\" border=\"0\">" ++
    "<tr>" ++ "<td align=\"" ++ align ++ "\" style=\"" ++ css ++ "\">"

/-- What stands behind it. -/
def frameBack : String := "</td></tr></table>"

/-- A text is read as a table of one cell, which has these attributes and balanced content. -/
def IsOneCell (align css html : String) : Prop :=
  ∃ attrs content, scan html.toList = some (.opening "table" attrs :: .opening "tr" [] ::
      .opening "td" [("align", align), ("style", css)] ::
        (content ++ [.closing "td", .closing "tr", .closing "table"])) ∧
    nest [] content = some []

/-- A text is the frame of a block around some content.  The cell has the alignment of the style and
a text without quotes that is read as its declarations; it is the only cell if the HTML that the
content brings along is balanced. -/
def Block.IsFramed (b : Block) (s : Resolved) (scope html : String) : Prop :=
  ∃ css body, html = frameFront b.content.tag s.align.cellText css ++ body ++ frameBack ∧
    '"' ∉ css.toList ∧ unescape css.toList = s.containerText.toList ∧
    (b.content.RawBalanced → (∀ c ∈ scope.toList, Fragment.isScopeChar c = true) →
      IsOneCell s.align.cellText css html)

namespace Fragment

open Node

/-- `openChars` of a block's table. -/
theorem openChars_blockTable (kind : Kind) :
    openChars "table" ([⟨"role", "presentation"⟩, ⟨"class", "nl-block nl-" ++ kind.tag⟩,
        ⟨"width", "100%"⟩] ++ noSpacing ++ []) =
      "<table role=\"presentation\" class=\"nl-block nl-".toList ++ kind.tag.toList ++
        "\" width=\"100%\" cellpadding=\"0\" cellspacing=\"0\" border=\"0\">".toList := by
  have hplain : escapeChars "nl-block nl-".toList = "nl-block nl-".toList := by decide
  have htag : escapeChars kind.tag.toList = kind.tag.toList := by
    cases kind <;> decide
  -- The parts that do not depend on the kind are evaluated, the tag stays between them.
  have hfront : "<table".toList ++ (Attr.chars ⟨"role", "presentation"⟩ ++
      (" class=\"".toList ++ "nl-block nl-".toList)) =
        "<table role=\"presentation\" class=\"nl-block nl-".toList := by
    decide
  have hback : '"' :: (Attr.chars ⟨"width", "100%"⟩ ++ (Attr.charsAll noSpacing ++ ['>'])) =
      "\" width=\"100%\" cellpadding=\"0\" cellspacing=\"0\" border=\"0\">".toList := by
    decide +kernel
  have hattr : Attr.chars ⟨"class", "nl-block nl-" ++ kind.tag⟩ =
      " class=\"".toList ++ ("nl-block nl-".toList ++ kind.tag.toList ++ ['"']) := by
    rw [Attr.chars, String.toList_append, escapeChars_append, hplain, htag]
    simp
  rw [← hfront, ← hback]
  simp [openChars, hattr]

/-- `openChars` of a block's cell. -/
theorem openChars_blockCell (align : Align) (css : String) :
    openChars "td" [⟨"align", align.cellText⟩, ⟨"style", css⟩] =
      "<td align=\"".toList ++ align.cellText.toList ++ "\" style=\"".toList ++
        (escape css).toList ++ "\">".toList := by
  have halign : escapeChars align.cellText.toList = align.cellText.toList := by
    cases align <;> decide
  rw [escape, String.toList_ofList]
  simp [openChars, Attr.chars, halign]

/-- `envelope` is written as the frame around what stands in it. -/
theorem html_envelope (kind : Kind) (s : Resolved) (body : List Node) :
    html [envelope kind s body] =
      frameFront kind.tag s.align.cellText (escape s.containerText) ++ html body ++ frameBack := by
  have hrow : openChars "tr" [] = "<tr>".toList := by decide
  have hback : closeChars "td" ++ (closeChars "tr" ++ closeChars "table") = frameBack.toList := by
    decide
  -- The proof is by characters, where a tag is its parts one after the other.
  apply String.toList_inj.1
  rw [String.toList_append, String.toList_append]
  unfold frameFront
  simp only [String.toList_append, toList_html, ← hrow, ← hback, envelope, fullTable, row, charsAll,
    chars]
  rw [openChars_blockTable, openChars_blockCell]
  simp only [List.append_nil, List.append_assoc]

/-- `envelope` around a well-formed content is one cell. -/
theorem isOneCell_envelope (kind : Kind) (s : Resolved) {body : List Node}
    (h : WellFormedAll Balanced body) :
    IsOneCell s.align.cellText (escape s.containerText) (html [envelope kind s body]) := by
  have halign : escape s.align.cellText = s.align.cellText := by
    cases s.align <;> decide
  have htree : WellFormedAll Balanced [envelope kind s body] := ⟨wellFormed_envelope.2 h, trivial⟩
  have htokens : ∃ attrs, tokensAll [envelope kind s body] =
      .opening "table" attrs :: .opening "tr" [] ::
        .opening "td" [("align", s.align.cellText), ("style", escape s.containerText)] ::
          (tokensAll body ++ [.closing "td", .closing "tr", .closing "table"]) := by
    simp [envelope, fullTable, row, tokensAll, tokens, Attr.scanned, halign]
  obtain ⟨attrs, hattrs⟩ := htokens
  refine ⟨attrs, tokensAll body, ?_, nest_tokensAll body h⟩
  rw [scan_html htree, hattrs]

end Fragment

/-! ## Blocks -/

/-- `renderScoped` draws a block of a known kind in its frame. -/
theorem Block.isFramed_renderScoped {b : Block} {kind : Kind} (hkind : b.content.kind? = some kind)
    (theme : Theme) (ctx : RenderContext) (scope : String) :
    b.IsFramed (b.resolved kind theme) scope (b.renderScoped theme ctx scope) := by
  have hdraw : b.renderScoped theme ctx scope =
      Node.html [Fragment.envelope kind (b.resolved kind theme)
        (b.content.body (b.resolved kind theme) ctx scope)] := by
    rw [renderScoped, draw, hkind]
  refine ⟨escape (b.resolved kind theme).containerText,
    Node.html (b.content.body (b.resolved kind theme) ctx scope), ?_, ?_, ?_, ?_⟩
  · rw [hdraw, Fragment.html_envelope, Content.tag_eq_of_kind? hkind]
  · -- The style has no quote, since `escape` leaves none.
    intro hquote
    rw [escape, String.toList_ofList] at hquote
    exact absurd (not_isMarkup_of_mem_escapeChars hquote) (by decide)
  · rw [escape, String.toList_ofList, unescape_escapeChars]
  · intro hraw hscope
    rw [hdraw]
    exact Fragment.isOneCell_envelope kind _ (Content.wellFormedAll_body hraw _ ctx hscope)

/-- `ofTag` keeps the tag, and the tag names a kind unless it is none of nineteen.  `renderScoped`
draws a block of a known kind in its frame, with the style that its own style, its content's
alignment and its kind's defaults resolve to; a block of unknown kind is not drawn. -/
theorem tags_and_envelopes :
    (∀ tag value, (Content.ofTag tag value).tag = tag ∧
      ((∃ t, Content.ofTag tag value = .unknown t) ↔ tag ∉ knownTags)) ∧
    ∀ (b : Block) (theme : Theme) (ctx : RenderContext) (scope : String),
      ((∃ t, b.content = .unknown t) → b.renderScoped theme ctx scope = "") ∧
      ((∀ t, b.content ≠ .unknown t) → ∃ kind : Kind, kind.tag = b.content.tag ∧
        b.IsFramed (resolve b.style b.content.align? theme kind.defaults) scope
          (b.renderScoped theme ctx scope)) := by
  refine ⟨fun tag value => ⟨Content.tag_ofTag tag value, Content.exists_ofTag_eq_unknown_iff⟩, ?_⟩
  intro b theme ctx scope
  refine ⟨?_, ?_⟩
  · intro hunknown
    rw [Block.renderScoped, Block.draw, Content.kind?_eq_none_iff.2 hunknown]
    rfl
  · intro hknown
    cases hkind : b.content.kind? with
    | none =>
      obtain ⟨t, ht⟩ := Content.kind?_eq_none_iff.1 hkind
      exact absurd ht (hknown t)
    | some kind =>
      exact ⟨kind, (Content.tag_eq_of_kind? hkind).symm,
        Block.isFramed_renderScoped hkind theme ctx scope⟩

/-- A framed part with a quote in its style, and a block of no kind. -/
theorem tags_and_envelopes_compartment :
    let framed : Block :=
      ⟨"f", .compartment ⟨none, some "<p>a<br>b</p>"⟩, some { textColor := some "\"red\"" }⟩
    let other : Block := ⟨"o", .unknown "sidebar", none⟩
    let ctx : RenderContext := ⟨2024, true⟩
    let resolved : Resolved := resolve framed.style none .standard Kind.compartment.defaults
    ((∃ t, other.content = .unknown t) ∧ other.renderScoped .standard ctx "o" = "") ∧
    (∀ t, framed.content ≠ .unknown t) ∧ framed.content.RawBalanced ∧
    ∃ css body, framed.renderScoped .standard ctx "f" =
        frameFront "compartment" "left" css ++ body ++ "</td></tr></table>" ∧
      unescape css.toList = resolved.containerText.toList ∧
      IsOneCell "left" css (framed.renderScoped .standard ctx "f") := by
  intro framed other ctx resolved
  have hother : ∃ t, other.content = .unknown t := ⟨_, rfl⟩
  have hframed : ∀ t, framed.content ≠ .unknown t := by
    intro t
    exact Content.noConfusion
  have hraw : framed.content.RawBalanced := by
    rintro html ⟨⟩
    decide +kernel
  obtain ⟨-, hblocks⟩ := tags_and_envelopes
  obtain ⟨hempty, -⟩ := hblocks other .standard ctx "o"
  obtain ⟨-, hdrawn⟩ := hblocks framed .standard ctx "f"
  obtain ⟨kind, htag, css, body, hhtml, -, hcss, hcell⟩ := hdrawn hframed
  obtain rfl : kind = .compartment := Kind.tag_inj htag
  have hscope : ∀ c ∈ "f".toList, Fragment.isScopeChar c = true := List.all_eq_true.1 rfl
  exact ⟨⟨hother, hempty hother⟩, hframed, hraw, css, body, hhtml, hcss, hcell hraw hscope⟩

end Bulletin
