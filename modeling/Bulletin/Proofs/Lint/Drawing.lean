import Bulletin.Proofs.Lint.Collections
import Bulletin.Proofs.Lint.Message

/-!
# Linting and drawing

What is reported about a block and what is drawn of it are decided apart.  They agree: whatever the
texts of a block are, what is reported about its content can be seen in its fragment.

The fragment is looked at from outside.  Its placeholder is a piece of its text; its products, its
questions and the links of its footer are what a scanner of HTML finds in it.

## Main statements

- `Block.contents_questionTag_draw`: the questions of a quiz
- `Block.contents_footerLinksTag_draw`: the line of links of a footer
- `Block.lint_agrees_with_drawing`: what is reported is what is drawn
-/

namespace Bulletin

open Html Node Fragment Text

/-- `envelope` gives what its body gives. -/
theorem Fragment.contents_envelope {α : Type} {f : Token → Option α} [Token.IsReader f]
    (hf : ∀ t ∈ ["table", "tr", "td"], ∀ attrs, f (.opening t attrs) = none) {tag : String}
    {body : List Node} {css : List (List Token)}
    (h : ∀ rest, contents f tag (tokensAll body ++ rest) = css ++ contents f tag rest) (kind : Kind)
    (s : Resolved) : contents f tag (tokensAll [envelope kind s body]) = css := by
  simp only [List.forall_mem_cons] at hf
  obtain ⟨htable, htr, htd, -⟩ := hf
  obtain ⟨outer, inner, henvelope⟩ := envelope_eq kind s body
  -- Three tags open in front of the body and close behind it, none of which is read.
  have hsplit : tokensAll [envelope kind s body] =
      [.opening "table" (outer.map Attr.scanned), .opening "tr" [],
        .opening "td" (inner.map Attr.scanned)] ++
      (tokensAll body ++ [.closing "td", .closing "tr", .closing "table"]) := by
    simp [henvelope, tokens, tokensAll]
  have hfront : gather f [.opening "table" (outer.map Attr.scanned), .opening "tr" [],
      .opening "td" (inner.map Attr.scanned)] = [] := by
    simp [gather_cons, htable, htr, htd]
  have hback : gather f [.closing "td", .closing "tr", .closing "table"] = [] := by
    simp [gather_cons, Token.IsReader.closing]
  have hnone := @contents_append_of_gather _ _ tag _ hback []
  rw [hsplit, contents_append_of_gather hfront, h]
  simpa [contents] using hnone

/-- `forPresent` closes no tag that is not closed in what it draws. -/
theorem Fragment.closing_notMem_forPresent {tag : String} {draw : String → List Node}
    (h : ∀ t, .closing tag ∉ tokensAll (draw t)) (field : Option String) :
    .closing tag ∉ tokensAll (forPresent field draw) := by
  unfold forPresent
  split
  · exact h _
  · exact closing_notMem_tokensAll_nil

/-! ## Questions -/

/-- The tag of a question. -/
abbrev questionTag : Token → Option (List (String × String)) :=
  Token.tagged "div" (carries "class" "quiz-question")

/-- The tag of a radio input. -/
abbrev radioTag : Token → Option (List (String × String)) :=
  Token.tagged "input" (carries "type" "radio")

namespace Fragment

/-- `quizQuestion` holds no radio input if and only if the question has no answers. -/
theorem gather_radioTag_inside_eq_nil_iff (scope : String) (index : Nat) (q : QuizQuestion) :
    gather radioTag (quizQuestion scope index q).inside = [] ↔ q.options = [] := by
  have hradio : escape "radio" = "radio" := by decide
  have hoption : ∀ i o, gather radioTag (quizOption scope index q i o).tokens ≠ [] := by
    intro i o
    simp [quizOption, styled, carries, Attr.scanned, hradio]
  have himage : gather radioTag (tokensAll (forPresent q.image fun image => [.void "img"
      [⟨"src", image⟩, ⟨"alt", ""⟩, ⟨"style",
        "display: block; max-width: 100%; height: auto; border: 0; margin: 0 0 8px 0;"⟩]])) = [] :=
    gather_forPresent (by simp) q.image
  rw [quizQuestion, classed, inside, tokensAll_append, tokensAll_append, gather_append,
    gather_append, himage]
  cases hoptions : q.options with
  | nil => simp [styled]
  | cons o os => simp [styled, List.mapIdx_cons, hoption]

/-- `quizQuestion` begins with its number. -/
theorem prefix_textOf_inside (scope : String) (index : Nat) (q : QuizQuestion) :
    (ofNat (index + 1) ++ ". ").toList <+: textOf (quizQuestion scope index q).inside := by
  have hstop : ". ".toList.all isUnescaped = true := by decide
  have hnumber : escapeChars (ofNat (index + 1) ++ ". ").toList =
      (ofNat (index + 1) ++ ". ").toList := by
    apply escapeChars_eq_self
    rw [String.toList_append, List.all_append, all_isUnescaped_ofNat, hstop]
    rfl
  have htext : escapeChars (ofNat (index + 1) ++ ". " ++ q.question.getD "").toList =
      (ofNat (index + 1) ++ ". ").toList ++ escapeChars (q.question.getD "").toList := by
    rw [← hnumber, ← escapeChars_append, ← String.toList_append]
  rw [quizQuestion, classed, inside, List.append_assoc, List.singleton_append,
    textOf_tokensAll_cons, styled, textOf_element, textOf_tokensAll_cons, textOf_text, htext,
    List.append_assoc, List.append_assoc]
  exact List.prefix_append _ _

/-- `quizQuestion` gives its text, its image and its answers. -/
theorem gives_quizQuestion (scope : String) (index : Nat) (q : QuizQuestion) :
    (quizQuestion scope index q).Gives questionTag "div" := by
  have hclass : escape "quiz-question" = "quiz-question" := by decide
  -- An answer opens no question and closes none.
  have hoption : ∀ n ∈ q.options.mapIdx (quizOption scope index q),
      gather questionTag n.tokens = [] ∧ .closing "div" ∉ n.tokens := by
    intro n hn
    obtain ⟨i, hi, rfl⟩ := List.mem_mapIdx.1 hn
    simp [quizOption, styled]
  have hoptions := gather_tokensAll_eq_nil fun n hn => (hoption n hn).1
  have hclosed := closing_notMem_tokensAll fun n hn => (hoption n hn).2
  apply gives_element
  · simp [carries, Attr.scanned, hclass]
  · simp [styled, hoptions]
  · simp [styled, hclosed, closing_notMem_forPresent]

end Fragment

/-- `draw` of a quiz gives its questions in order. -/
theorem Block.contents_questionTag_draw {b : Block} {c : Quiz} (hc : b.content = .quiz c)
    (theme : Theme) (ctx : RenderContext) (scope : String) :
    contents questionTag "div" (tokensAll (b.draw theme ctx scope)) =
      (c.questions.mapIdx (quizQuestion scope)).map inside := by
  have hkind : b.content.kind? = some .quiz := by rw [hc]; rfl
  have htitle : ∀ s title, gather questionTag (tokensAll (sectionTitle s title)) = [] := by
    intro s title
    exact gather_forPresent (by simp [styled]) title
  have hquestions : ∀ n ∈ c.questions.mapIdx (quizQuestion scope), n.Gives questionTag "div" := by
    intro n hn
    obtain ⟨k, hk, rfl⟩ := List.mem_mapIdx.1 hn
    exact gives_quizQuestion scope k _
  rw [b.draw_of_kind? hkind, hc]
  refine contents_envelope (by simp) ?_ _ _
  intro rest
  -- A title may come first; then there is a placeholder, or the questions and what scores them.
  rw [Content.body, quiz, tokensAll_append, List.append_assoc,
    contents_append_of_gather (htitle _ _)]
  split
  · rename_i hnil
    have hplaceholder : ∀ message, gather questionTag (tokensAll [placeholder message]) = [] := by
      intro message
      simp [placeholder, classed]
    rw [contents_append_of_gather (hplaceholder _), List.isEmpty_iff.1 hnil]
    rfl
  · have hscoring : gather questionTag (tokensAll (if ctx.scripts then
        scoring scope c.questions.length (b.resolved .quiz theme) else [])) = [] := by
      split <;> simp [scoring, styled]
    rw [tokensAll_append, List.append_assoc, contents_tokensAll_append hquestions,
      contents_append_of_gather hscoring]

/-! ## Footers -/

/-- The tag of the line of links in a footer. -/
abbrev footerLinksTag : Token → Option (List (String × String)) :=
  Token.tagged "p" (carries "class" "nl-footer-links")

/-- The tag of a link. -/
abbrev anchorTag : Token → Option (List (String × String)) := Token.tagged "a" fun _ => true

namespace Fragment

/-- `forPresent` draws nodes for a present text only. -/
theorem mem_forPresent_iff {field : Option String} {draw : String → List Node} {n : Node} :
    n ∈ forPresent field draw ↔ ∃ s, present field = some s ∧ n ∈ draw s := by
  unfold forPresent
  split <;> simp_all

/-- `footerLinks` are links within text, each with a label of its own. -/
theorem mem_footerLinks_iff {c : Footer} {s : Resolved} {n : Node} :
    n ∈ footerLinks c s ↔
      (∃ url, present c.contactUrl = some url ∧
        n = textLink s (contactHref url) [.text "Contact Us"]) ∨
      (∃ url, present c.websiteUrl = some url ∧ n = textLink s url [.text "Visit our website"]) ∨
      ∃ url, present c.unsubscribeUrl = some url ∧ n = textLink s url [.text "Unsubscribe"] := by
  simp [footerLinks, mem_forPresent_iff]

/-- `footerLinks` are links with one label each. -/
theorem exists_textLink_of_mem_footerLinks {c : Footer} {s : Resolved} {n : Node}
    (h : n ∈ footerLinks c s) : ∃ href label, n = textLink s href [.text label] := by
  obtain ⟨url, -, rfl⟩ | ⟨url, -, rfl⟩ | ⟨url, -, rfl⟩ := mem_footerLinks_iff.1 h
  all_goals exact ⟨_, _, rfl⟩

/-- `textLink` gives its label. -/
theorem gives_textLink (s : Resolved) (href label : String) :
    (textLink s href [.text label]).Gives anchorTag "a" := by
  apply gives_element
  · simp
  · simp
  · simp

/-- `textLink` shows its label. -/
theorem textOf_inside_textLink (s : Resolved) (href label : String) :
    textOf (textLink s href [.text label]).inside = escapeChars label.toList := by
  simp [textLink, anchor, inside]

/-- `footerLinks` have none that is labelled so if and only if there is no such address. -/
theorem textOf_inside_footerLinks_iff (c : Footer) (s : Resolved) :
    (∀ n ∈ footerLinks c s, textOf n.inside ≠ "Unsubscribe".toList) ↔
      present c.unsubscribeUrl = none := by
  have hcontact : escapeChars "Contact Us".toList ≠ "Unsubscribe".toList := by decide
  have hwebsite : escapeChars "Visit our website".toList ≠ "Unsubscribe".toList := by decide
  have hunsubscribe : escapeChars "Unsubscribe".toList = "Unsubscribe".toList := by decide
  constructor
  · intro hnone
    rw [← Option.not_isSome_iff_eq_none, Option.isSome_iff_exists]
    rintro ⟨url, hurl⟩
    -- An address for unsubscribing would be a link of that text.
    apply hnone _ (mem_footerLinks_iff.2 (.inr (.inr ⟨url, hurl, rfl⟩)))
    rw [textOf_inside_textLink, hunsubscribe]
  · intro hnone n hn
    obtain ⟨url, -, rfl⟩ | ⟨url, -, rfl⟩ | ⟨url, hurl, -⟩ := mem_footerLinks_iff.1 hn
    · rwa [textOf_inside_textLink]
    · rwa [textOf_inside_textLink]
    · rw [hnone] at hurl
      cases hurl

/-- The line of links gives the links in order. -/
theorem contents_anchorTag_footerLinks (c : Footer) (s : Resolved) :
    contents anchorTag "a" (tokensAll (separated bar (footerLinks c s))) =
      (footerLinks c s).map inside := by
  have hbar : gather anchorTag bar.tokens = [] := gather_text _
  have hlinks : ∀ n ∈ footerLinks c s, n.Gives anchorTag "a" := by
    intro n hn
    obtain ⟨href, label, rfl⟩ := exists_textLink_of_mem_footerLinks hn
    exact gives_textLink s href label
  simpa [contents] using contents_separated_append hbar hlinks []

/-- `anchor` with one label holds no line of footer links. -/
theorem gather_footerLinksTag_anchor (href css label : String) :
    gather footerLinksTag (anchor href [⟨"style", css⟩] [.text label]).tokens = [] := by
  simp [anchor]

/-- A line of other links is no line of footer links. -/
theorem gather_footerLinksTag_socialLine (s : Resolved) (links : List SocialLink) :
    gather footerLinksTag (tokensAll (linkLine "nl-social"
      (links.filterMap (socialAnchor? s "font-size: 12px;")))) = [] := by
  have hclass : escape "nl-social" ≠ "nl-footer-links" := by decide
  have hbar : gather footerLinksTag bar.tokens = [] := gather_text _
  have hanchors : gather footerLinksTag
      (tokensAll (links.filterMap (socialAnchor? s "font-size: 12px;"))) = [] := by
    apply gather_tokensAll_eq_nil
    intro n hn
    obtain ⟨link, -, hlink⟩ := List.mem_filterMap.1 hn
    obtain ⟨label, -, rfl⟩ := Option.map_eq_some_iff.1 hlink
    exact gather_footerLinksTag_anchor _ _ _
  rw [linkLine]
  split
  · rfl
  · simp [classed, carries, Attr.scanned, hclass, gather_separated hbar, hanchors]

/-- `linkLine` gives the links of a footer, unless there are none. -/
theorem contents_footerLinksTag_linkLine (c : Footer) (s : Resolved) (rest : List Token) :
    contents footerLinksTag "p" (tokensAll (linkLine "nl-footer-links" (footerLinks c s)) ++ rest) =
      (if footerLinks c s = [] then [] else [tokensAll (separated bar (footerLinks c s))]) ++
        contents footerLinksTag "p" rest := by
  have hclass : escape "nl-footer-links" = "nl-footer-links" := by decide
  have hbar : gather footerLinksTag bar.tokens = [] := gather_text _
  have hlink : ∀ n ∈ footerLinks c s,
      gather footerLinksTag n.tokens = [] ∧ .closing "p" ∉ n.tokens := by
    intro n hn
    obtain ⟨href, label, rfl⟩ := exists_textLink_of_mem_footerLinks hn
    exact ⟨gather_footerLinksTag_anchor _ _ _, by simp [textLink, anchor]⟩
  have hlinks := gather_tokensAll_eq_nil fun n hn => (hlink n hn).1
  -- Neither a link nor a bar closes the paragraph.
  have hclosed : .closing "p" ∉ tokensAll (separated bar (footerLinks c s)) := by
    intro hmem
    obtain hmem | hmem := mem_tokensAll_separated hmem
    · exact closing_notMem_text _ hmem
    · exact closing_notMem_tokensAll (fun n hn => (hlink n hn).2) hmem
  simp only [linkLine, List.isEmpty_iff]
  split
  · rfl
  · have hgives : (classed "p" "nl-footer-links" "margin: 0 0 10px 0; font-size: 12px;"
        (separated bar (footerLinks c s))).Gives footerLinksTag "p" := by
      apply gives_element _ (by rw [gather_separated hbar, hlinks]) hclosed
      simp [carries, Attr.scanned, hclass]
    rw [tokensAll, tokensAll, List.append_nil, hgives]
    rfl

end Fragment

/-- `draw` of a footer gives its line of links, unless it has none. -/
theorem Block.contents_footerLinksTag_draw {b : Block} {c : Footer} (hc : b.content = .footer c)
    (theme : Theme) (ctx : RenderContext) (scope : String) :
    contents footerLinksTag "p" (tokensAll (b.draw theme ctx scope)) =
      let links := footerLinks c (b.resolved .footer theme)
      if links = [] then [] else [tokensAll (separated bar links)] := by
  have hkind : b.content.kind? = some .footer := by rw [hc]; rfl
  -- Of the five parts of a footer, only the line of links is read.
  have hcompany : gather footerLinksTag (tokensAll (forPresent c.companyName fun name =>
      [styled "p" "margin: 0 0 5px 0; font-size: 14px; font-weight: bold;" [.text name]])) = [] :=
    gather_forPresent (by simp [styled, carries, Attr.scanned]) c.companyName
  have haddress : gather footerLinksTag (tokensAll (forPresent c.address fun address =>
      [classed "p" "nl-address" "margin: 0 0 10px 0; font-size: 12px; line-height: 1.5;"
        (multiline address)])) = [] := by
    have hclass : escape "nl-address" ≠ "nl-footer-links" := by decide
    apply gather_forPresent
    intro address
    simp [classed, carries, Attr.scanned, gather_multiline, hclass]
  have hcopyright : gather footerLinksTag
      (tokensAll [copyright c.companyName ctx.year]) = [] := by
    have hclass : escape "nl-copyright" ≠ "nl-footer-links" := by decide
    simp [copyright, classed, carries, Attr.scanned, hclass]
  rw [b.draw_of_kind? hkind, hc]
  refine contents_envelope (by simp) ?_ _ _
  intro rest
  rw [Content.body, footer]
  simp only [tokensAll_append, List.append_assoc]
  rw [contents_append_of_gather hcompany, contents_append_of_gather haddress,
    contents_append_of_gather (gather_footerLinksTag_socialLine _ _),
    contents_footerLinksTag_linkLine, contents_append_of_gather hcopyright]

/-! ## Agreement -/

/-- The kinds with a collection, each with the warning that it has no items. -/
def emptyWarnings : List (Kind × String) :=
  [(.articleGrid, "article grid has no articles"),
    (.eventCalendar, "event calendar has no events"),
    (.products, "product recommendation has no products"),
    (.quiz, "quiz has no questions")]

/-- What is reported about the content of a block is what its fragment shows.

The fragment is searched for the placeholder as a text.  Where elements are counted or looked into,
it is read as markup, as any reader of HTML would. -/
structure Block.LintAgrees (b : Block) (html : String) : Prop where
  /-- A block is not drawn at all if and only if it is reported as an error. -/
  undrawn : (b.Reports .error "block has no type" ∨
      ∃ tag, b.Reports .error ("unknown block type '" ++ tag ++ "' renders nothing")) ↔ html = ""
  /-- A collection has its placeholder if and only if it is reported as empty. -/
  empty : ∀ kind warning, (kind, warning) ∈ emptyWarnings →
    (b.Reports .warning warning ↔ b.content.kind? = some kind ∧ emptyMark <:+: html.toList)
  /-- The fragment is markup. -/
  scanned : b.content.raw? = none → ∃ ts, scan html.toList = some ts
  /-- Fewer products are drawn than there are if and only if that is reported. -/
  products : ∀ n, b.Reports .warning
      ("only the first 2 of " ++ ofNat n ++ " products are rendered") ↔
    ∃ c ts, b.content = .products c ∧ scan html.toList = some ts ∧ n = c.products.length ∧
      (gather productTag ts).length < n
  /-- A question is drawn without answers if and only if that is reported. -/
  questions : ∀ k, b.Reports .warning ("quiz question " ++ ofNat (k + 1) ++ " has no options") ↔
    ∃ ts question, b.content.kind? = some .quiz ∧ scan html.toList = some ts ∧
      (contents questionTag "div" ts)[k]? = some question ∧ gather radioTag question = []
  /-- Every question is drawn, in order and with its number. -/
  numbered : ∀ c ts, b.content = .quiz c → scan html.toList = some ts →
    (contents questionTag "div" ts).length = c.questions.length ∧
      ∀ k question, (contents questionTag "div" ts)[k]? = some question →
        (ofNat (k + 1) ++ ". ").toList <+: textOf question
  /-- No line of footer links holds one to unsubscribe if and only if that is reported. -/
  unsubscribe : b.Reports .warning "footer has no unsubscribe link" ↔
    ∃ ts, b.content.kind? = some .footer ∧ scan html.toList = some ts ∧
      ∀ line ∈ contents footerLinksTag "p" ts, ∀ link ∈ contents anchorTag "a" line,
        textOf link ≠ "Unsubscribe".toList

namespace Block

variable (b : Block) (theme : Theme) (ctx : RenderContext)

/-- `render` writes markup for a block without HTML of its own. -/
theorem scan_render {b : Block} (h : b.content.raw? = none) :
    scan (b.render theme ctx).toList =
      some (tokensAll (b.draw theme ctx (scopeOf b.id))) :=
  scan_html (b.wellFormedAll_draw_of_raw? h theme ctx)

/-- The tokens of a fragment are those of the drawn tree. -/
theorem eq_of_scan_render {b : Block} (h : b.content.raw? = none) {ts : List Token}
    (hscan : scan (b.render theme ctx).toList = some ts) :
    ts = tokensAll (b.draw theme ctx (scopeOf b.id)) := by
  rw [scan_render theme ctx h, Option.some.injEq] at hscan
  exact hscan.symm

/-- `render` gives an empty text for unknown contents only. -/
theorem render_eq_empty_iff : b.render theme ctx = "" ↔ ∃ tag, b.content = .unknown tag := by
  cases hkind : b.content.kind? with
  | none =>
    have hrender : b.render theme ctx = "" := by
      rw [render, renderScoped, draw, hkind]
      rfl
    have hunknown : ∃ tag, b.content = .unknown tag := by
      cases hc : b.content with
      | unknown tag => exact ⟨tag, rfl⟩
      | _ => simp [hc, Content.kind?] at hkind
    exact iff_of_true hrender hunknown
  | some kind =>
    -- Of a block of known kind there is at least the envelope.
    have hrender : b.render theme ctx ≠ "" := by
      rw [render, renderScoped, b.draw_of_kind? hkind, ← String.toList_inj.ne, toList_html]
      simp [charsAll, envelope, fullTable, chars, openChars]
    have hknown : ¬∃ tag, b.content = .unknown tag := by
      rintro ⟨tag, hc⟩
      simp [hc, Content.kind?] at hkind
    exact iff_of_false hrender hknown

/-- An error about the type of a block is reported if and only if nothing is drawn. -/
theorem reports_undrawn_iff :
    (b.Reports .error "block has no type" ∨
      ∃ tag, b.Reports .error ("unknown block type '" ++ tag ++ "' renders nothing")) ↔
      b.render theme ctx = "" := by
  have hnoType : b.Reports .error "block has no type" ↔ b.content = .unknown "" :=
    b.reports_iff (f := .noType) rfl
  have hunknown : ∀ tag, b.Reports .error ("unknown block type '" ++ tag ++ "' renders nothing") ↔
      tag ≠ "" ∧ b.content = .unknown tag := fun tag => b.reports_iff (f := .unknownType tag) rfl
  simp only [hnoType, hunknown, b.render_eq_empty_iff theme ctx]
  constructor
  · rintro (hc | ⟨tag, -, hc⟩)
    · exact ⟨"", hc⟩
    · exact ⟨tag, hc⟩
  · rintro ⟨tag, hc⟩
    rcases eq_or_ne tag "" with rfl | htag
    · exact .inl hc
    · exact .inr ⟨tag, htag, hc⟩

/-- A warning of `emptyWarnings` is reported when the collection counts no items. -/
theorem reports_iff_itemCount? {kind : Kind} {warning : String}
    (h : (kind, warning) ∈ emptyWarnings) :
    b.Reports .warning warning ↔
      b.content.kind? = some kind ∧ b.content.itemCount? = some 0 := by
  simp only [emptyWarnings, List.mem_cons, Prod.mk.injEq, List.not_mem_nil, or_false] at h
  rcases h with ⟨rfl, rfl⟩ | ⟨rfl, rfl⟩ | ⟨rfl, rfl⟩ | ⟨rfl, rfl⟩
  · -- Each of the four findings says of its own kind that it has no items.
    refine (b.reports_iff (f := .noArticles) rfl).trans ?_
    cases b.content <;> simp [Finding.Describes, Content.kind?, Content.itemCount?]
  · refine (b.reports_iff (f := .noEvents) rfl).trans ?_
    cases b.content <;> simp [Finding.Describes, Content.kind?, Content.itemCount?]
  · refine (b.reports_iff (f := .noProducts) rfl).trans ?_
    cases b.content <;> simp [Finding.Describes, Content.kind?, Content.itemCount?]
  · refine (b.reports_iff (f := .noQuestions) rfl).trans ?_
    cases b.content <;> simp [Finding.Describes, Content.kind?, Content.itemCount?]

/-- The kinds of `emptyWarnings` count their items. -/
theorem exists_itemCount?_of_kind? {b : Block} {kind : Kind} {warning : String}
    (h : (kind, warning) ∈ emptyWarnings) (hkind : b.content.kind? = some kind) :
    ∃ n, b.content.itemCount? = some n := by
  cases hc : b.content with
  | articleGrid c | eventCalendar c | products c | quiz c => exact ⟨_, rfl⟩
  | _ =>
    rw [hc] at hkind
    cases hkind <;> simp [emptyWarnings] at h

/-- A collection is reported as empty if and only if its placeholder is drawn. -/
theorem reports_empty_iff {kind : Kind} {warning : String} (h : (kind, warning) ∈ emptyWarnings) :
    b.Reports .warning warning ↔
      b.content.kind? = some kind ∧ emptyMark <:+: (b.render theme ctx).toList := by
  rw [b.reports_iff_itemCount? h]
  apply and_congr_right
  intro hkind
  obtain ⟨n, hn⟩ := exists_itemCount?_of_kind? h hkind
  rw [emptyMark_infix_render_iff hn, hn, Option.some.injEq]

/-- Products are reported as left out if and only if fewer are drawn than there are. -/
theorem reports_products_iff (n : Nat) :
    b.Reports .warning ("only the first 2 of " ++ ofNat n ++ " products are rendered") ↔
      ∃ c ts, b.content = .products c ∧ scan (b.render theme ctx).toList = some ts ∧
        n = c.products.length ∧ (gather productTag ts).length < n := by
  have hmessage : (Finding.tooManyProducts n).message =
      "only the first 2 of " ++ ofNat n ++ " products are rendered" := by
    have hfirst : "only the first " ++ ofNat maxProducts ++ " of " = "only the first 2 of " := by
      decide
    rw [Finding.message.eq_def]
    simp only [hfirst]
  -- The linter compares with the number of cells, the drawing fills them as far as it can.
  have hmin : min maxProducts n < n ↔ maxProducts < n := by omega
  have hreports := b.reports_iff (f := .tooManyProducts n) rfl
  rw [hmessage] at hreports
  refine hreports.trans (exists_congr fun c => ?_)
  constructor
  · rintro ⟨hc, hn, hlt⟩
    refine ⟨_, hc, scan_render theme ctx (by rw [hc]; rfl), hn, ?_⟩
    rwa [length_gather_productTag_draw hc, ← hn, hmin]
  · rintro ⟨ts, hc, hscan, hn, hlt⟩
    obtain rfl := eq_of_scan_render theme ctx (by rw [hc]; rfl) hscan
    rw [length_gather_productTag_draw hc, ← hn, hmin] at hlt
    exact ⟨hc, hn, hlt⟩

/-- The drawn questions of a quiz are its questions. -/
theorem getElem?_contents_questionTag {b : Block} {c : Quiz} (hc : b.content = .quiz c)
    {scope : String} {k : Nat} {question : List Token}
    (h : (contents questionTag "div" (tokensAll (b.draw theme ctx scope)))[k]? = some question) :
    ∃ q, c.questions[k]? = some q ∧ question = (quizQuestion scope k q).inside := by
  rw [contents_questionTag_draw hc, List.getElem?_map, List.getElem?_mapIdx] at h
  obtain ⟨n, hn, rfl⟩ := Option.map_eq_some_iff.1 h
  obtain ⟨q, hq, rfl⟩ := Option.map_eq_some_iff.1 hn
  exact ⟨q, hq, rfl⟩

/-- A question is reported as one without answers if and only if it is drawn without. -/
theorem reports_questions_iff (k : Nat) :
    b.Reports .warning ("quiz question " ++ ofNat (k + 1) ++ " has no options") ↔
      ∃ ts question, b.content.kind? = some .quiz ∧ scan (b.render theme ctx).toList = some ts ∧
        (contents questionTag "div" ts)[k]? = some question ∧ gather radioTag question = [] := by
  refine (b.reports_iff (f := .noOptions k) rfl).trans ?_
  constructor
  · rintro ⟨c, hc, q, hq, hoptions⟩
    refine ⟨_, (quizQuestion (scopeOf b.id) k q).inside, by rw [hc]; rfl,
      scan_render theme ctx (by rw [hc]; rfl), ?_,
      (gather_radioTag_inside_eq_nil_iff _ k q).2 hoptions⟩
    rw [contents_questionTag_draw hc, List.getElem?_map, List.getElem?_mapIdx, hq]
    rfl
  · rintro ⟨ts, question, hkind, hscan, hquestion, hradio⟩
    obtain ⟨c, hc⟩ := exists_quiz hkind
    obtain rfl := eq_of_scan_render theme ctx (by rw [hc]; rfl) hscan
    obtain ⟨q, hq, rfl⟩ := getElem?_contents_questionTag theme ctx hc hquestion
    exact ⟨c, hc, q, hq, (gather_radioTag_inside_eq_nil_iff _ k q).1 hradio⟩

/-- The questions of a quiz are drawn in order, each with its number. -/
theorem questions_numbered {b : Block} {c : Quiz} (hc : b.content = .quiz c) {ts : List Token}
    (hscan : scan (b.render theme ctx).toList = some ts) :
    (contents questionTag "div" ts).length = c.questions.length ∧
      ∀ k question, (contents questionTag "div" ts)[k]? = some question →
        (ofNat (k + 1) ++ ". ").toList <+: textOf question := by
  obtain rfl := eq_of_scan_render theme ctx (by rw [hc]; rfl) hscan
  constructor
  · rw [contents_questionTag_draw hc, List.length_map, List.length_mapIdx]
  · intro k question hquestion
    obtain ⟨q, -, rfl⟩ := getElem?_contents_questionTag theme ctx hc hquestion
    exact prefix_textOf_inside _ k q

/-- In a drawn footer, no line of links has one to unsubscribe if and only if there is no address
for it. -/
theorem contents_footer_iff {b : Block} {c : Footer} (hc : b.content = .footer c)
    (scope : String) :
    (∀ line ∈ contents footerLinksTag "p" (tokensAll (b.draw theme ctx scope)),
      ∀ link ∈ contents anchorTag "a" line, textOf link ≠ "Unsubscribe".toList) ↔
      present c.unsubscribeUrl = none := by
  rw [contents_footerLinksTag_draw hc, ← textOf_inside_footerLinks_iff c (b.resolved .footer theme)]
  dsimp only
  split
  · rename_i hnil
    simp [hnil]
  · simp [contents_anchorTag_footerLinks]

/-- A footer is reported as one without a link to unsubscribe if and only if it is drawn without. -/
theorem reports_unsubscribe_iff :
    b.Reports .warning "footer has no unsubscribe link" ↔
      ∃ ts, b.content.kind? = some .footer ∧ scan (b.render theme ctx).toList = some ts ∧
        ∀ line ∈ contents footerLinksTag "p" ts, ∀ link ∈ contents anchorTag "a" line,
          textOf link ≠ "Unsubscribe".toList := by
  refine (b.reports_iff (f := .footerWithoutUnsubscribe) rfl).trans ?_
  constructor
  · rintro ⟨c, hc, hnone⟩
    exact ⟨_, by rw [hc]; rfl, scan_render theme ctx (by rw [hc]; rfl),
      (contents_footer_iff theme ctx hc _).2 hnone⟩
  · rintro ⟨ts, hkind, hscan, hlinks⟩
    obtain ⟨c, hc⟩ : ∃ c, b.content = .footer c := by
      cases hc : b.content <;> simp [hc, Content.kind?] at hkind ⊢
    obtain rfl := eq_of_scan_render theme ctx (by rw [hc]; rfl) hscan
    exact ⟨c, hc, (contents_footer_iff theme ctx hc _).1 hlinks⟩

/-- `lint` reports about the content of a block what its fragment shows, whatever the theme and the
options are. -/
theorem lint_agrees_with_drawing : b.LintAgrees (b.render theme ctx) where
  undrawn := b.reports_undrawn_iff theme ctx
  empty _ _ h := b.reports_empty_iff theme ctx h
  scanned h := ⟨_, scan_render theme ctx h⟩
  products := b.reports_products_iff theme ctx
  questions := b.reports_questions_iff theme ctx
  numbered _ _ hc hscan := questions_numbered theme ctx hc hscan
  unsubscribe := b.reports_unsubscribe_iff theme ctx

end Block

end Bulletin
