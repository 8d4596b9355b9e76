import Bulletin.Proofs.Markup.Pages
import Bulletin.Proofs.Quiz.Scope

/-!
# Integrity of the markup

The fragment of a block is one `table` element, or nothing for a block of unknown kind.  A document
around balanced fragments is one `html` element with a declaration before it.  Neither depends on
what the texts, the addresses, the theme or the options are.

## Main statements

- `markup_integrity`: fragments alone, fragments of a newsletter, and documents
- `isPage_renderNewsletter`: the document of a newsletter
-/

namespace Bulletin

open Html Fragment Node

/-- A text is the drawing of a block: one table, or nothing if the kind is not known. -/
def Block.IsDrawing (b : Block) (html : String) : Prop :=
  match b.content.kind? with
  | some _ => ∃ ts, scan html.toList = some ts ∧ IsElement "table" ts
  | none => html = ""

/-- A text is a document: one `html` element, and nothing around it but declarations. -/
def IsPage (html : String) : Prop := ∃ ts, scan html.toList = some ts ∧ IsDocument "html" ts

/-! ## Fragments -/

/-- `renderScoped` draws a block as one table. -/
theorem Block.isDrawing_renderScoped {b : Block} (hraw : b.content.RawBalanced) (theme : Theme)
    (ctx : RenderContext) {scope : String} (hscope : ∀ c ∈ scope.toList, isScopeChar c = true) :
    b.IsDrawing (b.renderScoped theme ctx scope) := by
  have hwf := Block.wellFormedAll_draw hraw theme ctx hscope
  -- A block of a known kind is drawn as its envelope, which is a table.
  unfold IsDrawing renderScoped
  split
  · rename_i kind hkind
    simp only [draw, hkind] at hwf ⊢
    refine ⟨_, scan_html hwf, ?_⟩
    rw [tokensAll, tokensAll, List.append_nil]
    exact isElement_tokens hwf.1
  · rename_i hkind
    simp only [draw, hkind]
    rfl

/-- What `IsDrawing` of a block is balanced. -/
theorem Block.IsDrawing.balanced {b : Block} {html : String} (h : b.IsDrawing html) :
    Balanced html := by
  unfold IsDrawing at h
  split at h
  · obtain ⟨ts, hts, helement⟩ := h
    exact ⟨ts, hts, helement.nest_eq []⟩
  · subst h
    exact ⟨[], rfl, rfl⟩

/-- `render` draws a block as one table. -/
theorem Block.isDrawing_render {b : Block} (hraw : b.content.RawBalanced) (theme : Theme)
    (ctx : RenderContext) : b.IsDrawing (b.render theme ctx) :=
  b.isDrawing_renderScoped hraw theme ctx (isScope_scopeOf b.id).2

/-- `renderBlocks` draws each block of a newsletter as one table. -/
theorem forall₂_isDrawing_renderBlocks (bs : List Block) (theme : Theme) (ctx : RenderContext) :
    List.Forall₂ (fun b html => b.content.RawBalanced → b.IsDrawing html) bs
      (renderBlocks bs theme ctx) := by
  have hlen : (renderBlocks bs theme ctx).length = bs.length := by
    simp [renderBlocks, length_scopes]
  -- The scopes of a newsletter are scopes, so each block may be looked at on its own.
  rw [List.forall₂_iff_get]
  refine ⟨hlen.symm, ?_⟩
  intro i hi hi' hraw
  have hscopes : i < (scopes [] bs).length := by rwa [length_scopes]
  simp only [renderBlocks, List.get_eq_getElem, List.getElem_zipWith] at hraw ⊢
  apply Block.isDrawing_renderScoped hraw
  intro c hc
  exact isScopeChar_of_mem_scopes (List.getElem_mem hscopes) hc

/-! ## Documents -/

open Document

/-- The scanner reads the line before the root. -/
theorem run_doctype :
    Scanner.run .text "<!DOCTYPE html>\n".toList =
      some (.text, [.declaration "DOCTYPE html", .text '\n']) := by
  decide

/-- A root element behind the declaration of the document's type is a document. -/
theorem isPage_of_isElement {r : Node} (hwf : r.WellFormed Balanced)
    (helement : IsElement "html" r.tokens) :
    IsPage ("<!DOCTYPE html>\n" ++ Node.html [r, newline]) := by
  -- The declaration is read first, and the root from text on, as it was.
  have hrest := scan_eq_some_iff.1 (@scan_html [r, newline] ⟨hwf, trivial, trivial⟩)
  have hline : newline.tokens = [.text '\n'] := by
    rw [newline, tokens]
    decide
  refine ⟨[.declaration "DOCTYPE html", .text '\n'] ++ tokensAll [r, newline], ?_,
    [.declaration "DOCTYPE html", .text '\n'], r.tokens, [.text '\n'], ?_, helement, ?_⟩
  · rw [String.toList_append]
    exact scan_eq_some_iff.2 (Scanner.run_append_of_run run_doctype hrest)
  · rw [tokensAll, tokensAll, tokensAll, hline, List.append_nil, List.append_assoc]
  · have hblank : (Token.text '\n').IsAround := by
      rw [Token.IsAround]
      decide
    simp only [List.mem_append, List.mem_cons, List.not_mem_nil, or_false]
    rintro t ((rfl | rfl) | rfl)
    · trivial
    · exact hblank
    · exact hblank

/-- `assemble` makes one element around balanced fragments. -/
theorem isPage_assemble {fragments : List String} (h : ∀ f ∈ fragments, Balanced f) (theme : Theme)
    (o : RenderOptions) : IsPage (assemble fragments theme o) := by
  -- The fragments go into the document as raw HTML, which is allowed when it is balanced.
  have hcontent : WellFormedAll Balanced (fragments.map .raw) := by
    rw [wellFormedAll_iff]
    intro n hn
    obtain ⟨f, hf, rfl⟩ := List.mem_map.1 hn
    exact h f hf
  have hroot := wellFormed_root hcontent theme o
  exact isPage_of_isElement hroot (isElement_tokens hroot)

/-- `renderNewsletter` makes one element. -/
theorem isPage_renderNewsletter {bs : List Block} (h : ∀ b ∈ bs, b.content.RawBalanced)
    (theme : Theme) (o : RenderOptions) (currentYear : Int) :
    IsPage (renderNewsletter bs theme o currentYear) := by
  apply isPage_assemble
  intro f hf
  obtain ⟨i, hi, rfl⟩ := List.mem_iff_getElem.1 hf
  have hall := forall₂_isDrawing_renderBlocks bs theme (o.context currentYear)
  have hlen := hall.length_eq
  exact (hall.get (by omega) hi (h _ (List.getElem_mem _))).balanced

/-- `render` and `renderBlocks` draw every block as one table, and `assemble` makes of fragments one
`html` element, whatever is drawn. -/
theorem markup_integrity (theme : Theme) (ctx : RenderContext) :
    (∀ b : Block, b.content.RawBalanced → b.IsDrawing (b.render theme ctx)) ∧
    (∀ bs : List Block,
      List.Forall₂ (fun b html => b.content.RawBalanced → b.IsDrawing html) bs
        (renderBlocks bs theme ctx)) ∧
    ∀ (o : RenderOptions) (fragments : List String),
      (∀ f ∈ fragments, Balanced f) → IsPage (assemble fragments theme o) := by
  refine ⟨?_, ?_, ?_⟩
  · intro b hraw
    exact b.isDrawing_render hraw theme ctx
  · intro bs
    exact forall₂_isDrawing_renderBlocks bs theme ctx
  · intro o fragments hfragments
    exact isPage_assemble hfragments theme o

/-- A framed part with a line break in it, alone and in a document. -/
theorem markup_integrity_framed :
    let framed : Block := ⟨"f", .compartment ⟨none, some "<p>a<br>b</p>"⟩, none⟩
    let ctx : RenderContext := ⟨2024, true⟩
    (Balanced "<p>a<br>b</p>" ∧ framed.IsDrawing (framed.render .standard ctx)) ∧
      IsPage (assemble ["<p>a<br>b</p>"] .standard .standard) := by
  have hbalanced : Balanced "<p>a<br>b</p>" := by decide +kernel
  obtain ⟨halone, -, hpage⟩ := markup_integrity .standard ⟨2024, true⟩
  refine ⟨⟨hbalanced, halone _ ?_⟩, hpage .standard _ ?_⟩
  · rintro html ⟨⟩
    exact hbalanced
  · rintro f (_ | _)
    · exact hbalanced
    · contradiction

end Bulletin
