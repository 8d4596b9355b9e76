import Bulletin.Proofs.Newsletter.Scripts

/-!
# What a newsletter does not depend on

One context and one theme are handed to every block, but each block looks at little of them: only
footers look at the year, only quizzes at their scope and at whether scripts are wanted, and no
block looks at the background of the page or at an id.  Two runs that agree in what a block looks at
draw it alike, so what differs between two runs shows in few places.

## Main statements

- `Block.LooksAlike.renderScoped_eq`: what a fragment depends on
- `renderBlocks_congr`: two runs over one list that agree in what its blocks look at
- `exists_footer_frame`: where the year stands in a footer
- `newsletter_noninterference`: year, background and ids together
-/

namespace Bulletin

open Html Node Fragment

/-- Two runs agree in what one block of each looks at. -/
structure Block.LooksAlike (b b' : Block) (theme theme' : Theme) (ctx ctx' : RenderContext)
    (scope scope' : String) : Prop where
  content : b.content = b'.content
  style : b.style = b'.style
  textColor : theme.containerTextColor = theme'.containerTextColor
  linkColor : theme.globalLinkColor = theme'.globalLinkColor
  year : b.content.kind? = some .footer → ctx.year = ctx'.year
  scripts : b.content.kind? = some .quiz → ctx.scripts = ctx'.scripts
  scope : b.content.kind? = some .quiz → scope = scope'

namespace Block.LooksAlike

variable {b b' : Block} {theme theme' : Theme} {ctx ctx' : RenderContext} {scope scope' : String}

/-- `LooksAlike` blocks resolve to the same style for every `kind`. -/
theorem resolved_eq (h : b.LooksAlike b' theme theme' ctx ctx' scope scope') (kind : Kind) :
    b.resolved kind theme = b'.resolved kind theme' := by
  simp only [resolved, resolve, h.content, h.style, h.textColor, h.linkColor]

/-- `LooksAlike` blocks have the same `Content.body`. -/
theorem body_eq (h : b.LooksAlike b' theme theme' ctx ctx' scope scope') (s : Resolved) :
    b.content.body s ctx scope = b'.content.body s ctx' scope' := by
  rw [← h.content]
  -- Of all contents two look at more than their own fields and the style.
  cases hc : b.content with
  | footer c =>
    have hyear : ctx.year = ctx'.year := h.year (by rw [hc]; rfl)
    simp only [Content.body, hyear]
  | quiz c =>
    have hscripts : ctx.scripts = ctx'.scripts := h.scripts (by rw [hc]; rfl)
    have hscope : scope = scope' := h.scope (by rw [hc]; rfl)
    simp only [Content.body, hscripts, hscope]
  | _ => rfl

/-- `renderScoped` draws `LooksAlike` blocks as the same text. -/
theorem renderScoped_eq (h : b.LooksAlike b' theme theme' ctx ctx' scope scope') :
    b.renderScoped theme ctx scope = b'.renderScoped theme' ctx' scope' := by
  simp only [renderScoped, draw, ← h.content, h.resolved_eq, h.body_eq]

end Block.LooksAlike

section Runs

variable {bs bs' : List Block} {theme theme' : Theme} {ctx ctx' : RenderContext} {i j : Nat}
  {b b' : Block}

/-- `renderBlocks` gives the same fragment at `i` and at `j` if the blocks there are `LooksAlike`.
-/
theorem getElem?_renderBlocks_eq (hb : bs[i]? = some b) (hb' : bs'[j]? = some b')
    (h : b.LooksAlike b' theme theme' ctx ctx' (scopeAt bs i) (scopeAt bs' j)) :
    (renderBlocks bs theme ctx)[i]? = (renderBlocks bs' theme' ctx')[j]? := by
  rw [getElem?_renderBlocks hb, getElem?_renderBlocks hb', h.renderScoped_eq]

/-- `renderBlocks` draws the same in two runs over one list if every block is `LooksAlike` in both.
-/
theorem renderBlocks_congr
    (h : ∀ b ∈ bs, ∀ scope, b.LooksAlike b theme theme' ctx ctx' scope scope) :
    renderBlocks bs theme ctx = renderBlocks bs theme' ctx' := by
  apply List.ext_getElem?
  intro i
  -- Behind the last block neither run has a fragment.
  cases hb : bs[i]? with
  | none =>
    have hlen : bs.length ≤ i := List.getElem?_eq_none_iff.1 hb
    simp [renderBlocks, length_scopes, hlen]
  | some b => exact getElem?_renderBlocks_eq hb hb (h b (List.mem_of_getElem? hb) _)

/-! ## The year -/

/-- `LooksAlike` holds across years for blocks that are no footers. -/
theorem looksAlike_of_not_footer (h : b.content.kind? ≠ some .footer) (theme : Theme)
    (year year' : Int) (scripts : Bool) (scope : String) :
    b.LooksAlike b theme theme ⟨year, scripts⟩ ⟨year', scripts⟩ scope scope :=
  ⟨rfl, rfl, rfl, rfl, fun hfooter => absurd hfooter h, fun _ => rfl, fun _ => rfl⟩

/-- `footer` ends with the `copyright` line, and what stands before it does not depend on the year.
-/
theorem exists_footer_eq (c : Footer) (s : Resolved) :
    ∃ front : List Node, ∀ year, footer c s year = front ++ [copyright c.companyName year] :=
  ⟨_, fun _ => rfl⟩

/-- `renderScoped` of a footer has the year in its `copyright` line and nowhere else. -/
theorem exists_footer_frame {c : Footer} (hc : b.content = .footer c) (theme : Theme)
    (scripts : Bool) (scope : String) :
    ∃ front back : String, ∀ year, b.renderScoped theme ⟨year, scripts⟩ scope =
      front ++ html [copyright c.companyName year] ++ back := by
  obtain ⟨content, hcontent⟩ := exists_footer_eq c (b.resolved .footer theme)
  obtain ⟨front, henvelope⟩ := exists_html_envelope .footer (b.resolved .footer theme)
  refine ⟨front ++ html content, "</td></tr></table>", ?_⟩
  intro year
  have hdraw : b.draw theme ⟨year, scripts⟩ scope =
      [envelope .footer (b.resolved .footer theme)
        (footer c (b.resolved .footer theme) year)] := by
    rw [Block.draw, hc]
    rfl
  rw [Block.renderScoped, hdraw, henvelope, hcontent, html_append, ← String.append_assoc]

/-- `renderNewsletter` depends on the year only through `renderBlocks`. -/
theorem exists_year_frame (bs : List Block) (theme : Theme) (o : RenderOptions) :
    ∃ front back : String, ∀ (pinned : Option Int) (currentYear : Int),
      renderNewsletter bs theme { o with copyrightYear := pinned } currentYear =
        front ++ String.join
          (renderBlocks bs theme ⟨pinned.getD currentYear, o.includeScripts⟩) ++ back := by
  -- The frame looks at no year, so that of one choice of the year is that of all.
  obtain ⟨front, back, hframe⟩ := Document.exists_frame_assemble theme o
  exact ⟨front, back, fun pinned currentYear => hframe _⟩

/-- `renderNewsletter` does not depend on the year, pinned or current, without a footer. -/
theorem renderNewsletter_year_eq (h : ∀ b ∈ bs, b.content.kind? ≠ some .footer) (theme : Theme)
    (o : RenderOptions) (pinned pinned' : Option Int) (currentYear currentYear' : Int) :
    renderNewsletter bs theme { o with copyrightYear := pinned } currentYear =
      renderNewsletter bs theme { o with copyrightYear := pinned' } currentYear' := by
  obtain ⟨front, back, hframe⟩ := exists_year_frame bs theme o
  have hfragments := @renderBlocks_congr bs theme theme
    ⟨pinned.getD currentYear, o.includeScripts⟩ ⟨pinned'.getD currentYear', o.includeScripts⟩
    fun b hb scope => looksAlike_of_not_footer (h b hb) theme _ _ _ scope
  rw [hframe, hframe, hfragments]

/-! ## The background and ids -/

/-- `LooksAlike` holds across values of `containerBackground`. -/
theorem looksAlike_background (b : Block) (theme : Theme) (color : String) (ctx : RenderContext)
    (scope : String) :
    b.LooksAlike b { theme with containerBackground := color } theme ctx ctx scope scope :=
  ⟨rfl, rfl, rfl, rfl, fun _ => rfl, fun _ => rfl, fun _ => rfl⟩

/-- `LooksAlike` holds across ids and scopes for blocks that are no quizzes. -/
theorem looksAlike_of_not_quiz (h : b.content.kind? ≠ some .quiz)
    (hcontent : b.content = b'.content) (hstyle : b.style = b'.style) (theme : Theme)
    (ctx : RenderContext) (scope scope' : String) :
    b.LooksAlike b' theme theme ctx ctx scope scope' :=
  ⟨hcontent, hstyle, rfl, rfl, fun _ => rfl, fun _ => rfl, fun hquiz => absurd hquiz h⟩

end Runs

/-- Without a footer the document does not depend on the year, pinned or current; with footers it is
a frame that does not, around fragments of which those of footers hold the year in their copyright
lines and the others not at all.  No fragment depends on the background of the theme, and those of
blocks that are no quizzes depend on no id, in a newsletter or alone. -/
theorem newsletter_noninterference :
    (∀ bs : List Block, (∀ b ∈ bs, b.content.kind? ≠ some .footer) →
      ∀ (theme : Theme) (o : RenderOptions) (pinned pinned' : Option Int) (year year' : Int),
        renderNewsletter bs theme { o with copyrightYear := pinned } year =
          renderNewsletter bs theme { o with copyrightYear := pinned' } year') ∧
    (∀ (bs : List Block) (theme : Theme) (o : RenderOptions), ∃ front back : String,
      ∀ (pinned : Option Int) (currentYear : Int),
        renderNewsletter bs theme { o with copyrightYear := pinned } currentYear =
          front ++ String.join
            (renderBlocks bs theme ⟨pinned.getD currentYear, o.includeScripts⟩) ++ back) ∧
    (∀ (bs : List Block) (theme : Theme) (scripts : Bool) (i : Nat) (b : Block),
      bs[i]? = some b →
        (b.content.kind? ≠ some .footer → ∀ year year',
          (renderBlocks bs theme ⟨year, scripts⟩)[i]? =
            (renderBlocks bs theme ⟨year', scripts⟩)[i]?) ∧
        ∀ c, b.content = .footer c → ∃ front back : String, ∀ year,
          (renderBlocks bs theme ⟨year, scripts⟩)[i]? =
            some (front ++ html [copyright c.companyName year] ++ back)) ∧
    (∀ (bs : List Block) (theme : Theme) (ctx : RenderContext) (color : String),
      renderBlocks bs { theme with containerBackground := color } ctx =
        renderBlocks bs theme ctx ∧
      ∀ b : Block, b.render { theme with containerBackground := color } ctx =
        b.render theme ctx) ∧
    ∀ (bs bs' : List Block) (theme : Theme) (ctx : RenderContext) (i j : Nat) (b b' : Block),
      bs[i]? = some b → bs'[j]? = some b' → b.content.kind? ≠ some .quiz →
        b.content = b'.content → b.style = b'.style →
          (renderBlocks bs theme ctx)[i]? = (renderBlocks bs' theme ctx)[j]? ∧
            b.render theme ctx = b'.render theme ctx := by
  refine ⟨?_, exists_year_frame, ?_, ?_, ?_⟩
  · intro bs h theme o pinned pinned' year year'
    exact renderNewsletter_year_eq h theme o pinned pinned' year year'
  · intro bs theme scripts i b hb
    constructor
    · intro hother year year'
      -- Only the year differs.
      exact getElem?_renderBlocks_eq hb hb (looksAlike_of_not_footer hother theme _ _ _ _)
    · intro c hc
      obtain ⟨front, back, hframe⟩ := exists_footer_frame hc theme scripts (scopeAt bs i)
      refine ⟨front, back, fun year => ?_⟩
      rw [getElem?_renderBlocks hb, hframe]
  · intro bs theme ctx color
    refine ⟨renderBlocks_congr fun b _ scope => looksAlike_background b theme color ctx scope, ?_⟩
    intro b
    exact (looksAlike_background b theme color ctx _).renderScoped_eq
  · intro bs bs' theme ctx i j b b' hb hb' hother hcontent hstyle
    have halike := @looksAlike_of_not_quiz b b' hother hcontent hstyle theme ctx
    exact ⟨getElem?_renderBlocks_eq hb hb' (halike _ _), (halike _ _).renderScoped_eq⟩

/-- A divider without and with a footer behind it, in two years and under two ids. -/
theorem newsletter_noninterference_footer :
    let divider : Block := ⟨"d", .divider, none⟩
    let renamed : Block := ⟨"", .divider, none⟩
    let company : Footer := ⟨some "A & B", none, [], none, none, none, none⟩
    let bs : List Block := [divider, ⟨"f", .footer company, none⟩]
    let ctx : RenderContext := ⟨2024, true⟩
    let o : RenderOptions := .standard
    (renderNewsletter [divider] .standard { o with copyrightYear := some 2024 } 2025 =
        renderNewsletter [divider] .standard { o with copyrightYear := none } 2026) ∧
      ((renderBlocks bs .standard ctx)[0]? =
          (renderBlocks bs .standard { ctx with year := 2025 })[0]? ∧
        ∃ front back : String, ∀ year,
          (renderBlocks bs .standard { ctx with year := year })[1]? =
            some (front ++ html [copyright (some "A & B") year] ++ back)) ∧
      (renderBlocks bs .standard ctx)[0]? = (renderBlocks [renamed] .standard ctx)[0]? := by
  intro divider renamed company bs ctx o
  obtain ⟨hdocument, -, hyear, -, hids⟩ := newsletter_noninterference
  have hnone : ∀ b ∈ [divider], b.content.kind? ≠ some .footer := by
    intro b hb
    rw [List.mem_singleton.1 hb]
    exact nofun
  have hother : divider.content.kind? ≠ some .quiz := nofun
  exact ⟨hdocument [divider] hnone .standard o _ _ _ _,
    ⟨(hyear bs .standard true 0 divider rfl).1 nofun _ _,
      (hyear bs .standard true 1 _ rfl).2 company rfl⟩,
    (hids bs [renamed] .standard ctx 0 0 divider renamed rfl rfl hother rfl rfl).1⟩

end Bulletin
