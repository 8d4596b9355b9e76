import Bulletin.Document
import Bulletin.Proofs.Quiz.Isolation
import Mathlib.Data.Fintype.Card
import Mathlib.Data.List.FinRange

/-!
# Blocks keep to themselves

The fragments of a newsletter are drawn in one pass that carries the scopes already taken, so a
fragment might depend on every block before it.  It does not depend on much: only quizzes look at
their scope, and a quiz's scope depends on the quizzes before it alone.  Where no two quizzes ask
for one scope, it depends on nothing.

The document is a frame around the fragments, and the frame does not look at them.

## Main statements

- `getElem?_renderBlocks_congr`: what a fragment depends on
- `renderBlocks_eq_map`: without collisions every block is drawn on its own
- `exists_frame_assemble`: the document is a frame around its fragments
- `newsletter_order_locality`: order, locality and neutrality together
-/

namespace Bulletin

open Html Node Fragment

/-- A block of a known kind. -/
def Block.isKnown (b : Block) : Bool := b.content.kind?.isSome

/-- The quizzes among some blocks, in order. -/
def quizzes (bs : List Block) : List Block := bs.filter fun b => b.content.kind? = some .quiz

/-- `quizzes` keeps a quiz at the front. -/
theorem quizzes_cons_quiz {b : Block} (hquiz : b.content.kind? = some .quiz) (bs : List Block) :
    quizzes (b :: bs) = b :: quizzes bs := List.filter_cons_of_pos (by simpa using hquiz)

/-- `quizzes` leaves out a block of another kind at the front. -/
theorem quizzes_cons_other {b : Block} (hother : b.content.kind? ≠ some .quiz) (bs : List Block) :
    quizzes (b :: bs) = quizzes bs := List.filter_cons_of_neg (by simpa using hother)

/-- How many quizzes stand before a position. -/
def rank (bs : List Block) (i : Nat) : Nat := (quizzes (bs.take i)).length

/-- `rank` grows by one behind a quiz. -/
theorem rank_cons_quiz {b : Block} (hquiz : b.content.kind? = some .quiz) (bs : List Block)
    (i : Nat) : rank (b :: bs) (i + 1) = rank bs i + 1 := by
  rw [rank, List.take_succ_cons, quizzes_cons_quiz hquiz, List.length_cons, rank]

/-- `rank` stays the same behind a block of another kind. -/
theorem rank_cons_other {b : Block} (hother : b.content.kind? ≠ some .quiz) (bs : List Block)
    (i : Nat) : rank (b :: bs) (i + 1) = rank bs i := by
  rw [rank, List.take_succ_cons, quizzes_cons_other hother, rank]

/-- The fragments of blocks that stand behind quizzes whose scopes are taken. -/
def renderFrom (taken : List String) (bs : List Block) (theme : Theme) (ctx : RenderContext) :
    List String :=
  List.zipWith (fun b scope => b.renderScoped theme ctx scope) bs (scopes taken bs)

/-- `renderBlocks` is `renderFrom` with no scope taken. -/
theorem renderBlocks_eq_renderFrom (bs : List Block) (theme : Theme) (ctx : RenderContext) :
    renderBlocks bs theme ctx = renderFrom [] bs theme ctx := rfl

/-! ## What a fragment depends on -/

/-- `scopes` gives a quiz the scope it has among the `quizzes` alone, at its `rank`. -/
theorem getElem?_scopes_quizzes {taken : List String} {bs : List Block} {i : Nat} {b : Block}
    (hb : bs[i]? = some b) (hquiz : b.content.kind? = some .quiz) :
    (scopes taken bs)[i]? = (scopes taken (quizzes bs))[rank bs i]? := by
  induction bs generalizing taken i with
  | nil => simp at hb
  | cons first bs ih =>
    by_cases hfirst : first.content.kind? = some .quiz
    · -- The first quiz counts, and its scope is taken on both sides.
      rw [quizzes_cons_quiz hfirst, scopes_cons_quiz hfirst, scopes_cons_quiz hfirst]
      cases i with
      | zero => rfl
      | succ i =>
        rw [rank_cons_quiz hfirst, List.getElem?_cons_succ, List.getElem?_cons_succ, ih hb]
    · rw [quizzes_cons_other hfirst, scopes_cons_other hfirst]
      cases i with
      | zero =>
        obtain rfl : first = b := by simpa using hb
        exact absurd hquiz hfirst
      | succ i => rw [rank_cons_other hfirst, List.getElem?_cons_succ, ih hb]

/-- `renderBlocks` gives a block the same fragment in two lists with the same `quizzes`, a quiz if
it has the same `rank` in both. -/
theorem getElem?_renderBlocks_congr {bs bs' : List Block} (hquizzes : quizzes bs = quizzes bs')
    {i j : Nat} {b : Block} (hi : bs[i]? = some b) (hj : bs'[j]? = some b)
    (hrank : b.content.kind? = some .quiz → rank bs i = rank bs' j) (theme : Theme)
    (ctx : RenderContext) :
    (renderBlocks bs theme ctx)[i]? = (renderBlocks bs' theme ctx)[j]? := by
  rw [getElem?_renderBlocks hi, getElem?_renderBlocks hj]
  -- A quiz is drawn with its scope, which its place among the quizzes decides; no other block is.
  by_cases hquiz : b.content.kind? = some .quiz
  · have hscope : scopeAt bs i = scopeAt bs' j := by
      apply Option.some.inj
      rw [← getElem?_scopes hi, ← getElem?_scopes hj, getElem?_scopes_quizzes hi hquiz,
        getElem?_scopes_quizzes hj hquiz, hquizzes, hrank hquiz]
    rw [hscope]
  · rw [b.renderScoped_eq_render hquiz, b.renderScoped_eq_render hquiz]

/-- `scopes` of `xs ++ ys` begins with the scopes of `xs`, whatever `ys` is. -/
theorem exists_scopes_append (taken : List String) (xs ys : List Block) :
    ∃ taken', scopes taken (xs ++ ys) = scopes taken xs ++ scopes taken' ys := by
  -- What is taken behind the front is what its quizzes add, one by one.
  induction xs generalizing taken with
  | nil => exact ⟨taken, rfl⟩
  | cons b xs ih =>
    by_cases hquiz : b.content.kind? = some .quiz
    · obtain ⟨taken', htaken⟩ := ih (uniqueScope (scopeOf b.id) taken :: taken)
      refine ⟨taken', ?_⟩
      rw [List.cons_append, scopes_cons_quiz hquiz, scopes_cons_quiz hquiz, htaken,
        List.cons_append]
    · obtain ⟨taken', htaken⟩ := ih taken
      refine ⟨taken', ?_⟩
      rw [List.cons_append, scopes_cons_other hquiz, scopes_cons_other hquiz, htaken,
        List.cons_append]

/-- `renderBlocks` of `xs` is a prefix of that of `xs ++ ys`. -/
theorem renderBlocks_prefix_append (xs ys : List Block) (theme : Theme) (ctx : RenderContext) :
    renderBlocks xs theme ctx <+: renderBlocks (xs ++ ys) theme ctx := by
  obtain ⟨taken', htaken⟩ := exists_scopes_append [] xs ys
  refine ⟨renderFrom taken' ys theme ctx, ?_⟩
  rw [renderBlocks_eq_renderFrom, renderBlocks_eq_renderFrom, renderFrom, renderFrom, renderFrom,
    htaken, List.zipWith_append (length_scopes [] xs).symm]

/-! ## Blocks that are not drawn -/

/-- `renderScoped` draws a block of unknown kind as the empty text. -/
theorem Block.renderScoped_of_unknown {b : Block} (h : b.content.kind? = none) (theme : Theme)
    (ctx : RenderContext) (scope : String) : b.renderScoped theme ctx scope = "" := by
  rw [renderScoped, draw, h]
  rfl

/-- `scopes` gives the first block a scope that does not depend on the blocks behind it, and neither
does what is taken then. -/
theorem exists_scopes_cons (taken : List String) (b : Block) :
    ∃ scope taken', ∀ bs : List Block, scopes taken (b :: bs) = scope :: scopes taken' bs := by
  by_cases hquiz : b.content.kind? = some .quiz
  · exact ⟨_, _, scopes_cons_quiz hquiz taken⟩
  · exact ⟨_, _, scopes_cons_other hquiz taken⟩

/-- `renderFrom` adds up to the same text with and without the blocks that are not `isKnown`. -/
theorem join_renderFrom_filter (taken : List String) (bs : List Block) (theme : Theme)
    (ctx : RenderContext) :
    String.join (renderFrom taken (bs.filter Block.isKnown) theme ctx) =
      String.join (renderFrom taken bs theme ctx) := by
  induction bs generalizing taken with
  | nil => rfl
  | cons b bs ih =>
    cases hkind : b.content.kind? with
    | none =>
      -- Such a block takes no scope and has no text.
      have hunknown : ¬b.isKnown = true := by simp [Block.isKnown, hkind]
      have hscopes : scopes taken (b :: bs) = "" :: scopes taken bs :=
        scopes_cons_other (by simp [hkind]) taken bs
      rw [List.filter_cons_of_neg hunknown, ih, renderFrom, renderFrom, hscopes,
        List.zipWith_cons_cons, b.renderScoped_of_unknown hkind, String.join_cons,
        String.empty_append]
    | some kind =>
      -- Such a block stays on both sides, with the scope it takes.
      have hknown : b.isKnown = true := by simp [Block.isKnown, hkind]
      obtain ⟨scope, taken', hscopes⟩ := exists_scopes_cons taken b
      have hrest := ih taken'
      rw [renderFrom, renderFrom] at hrest
      rw [List.filter_cons_of_pos hknown, renderFrom, renderFrom, hscopes, hscopes,
        List.zipWith_cons_cons, List.zipWith_cons_cons, String.join_cons, String.join_cons, hrest]

/-! ## No collisions -/

/-- `uniqueScope` is the scope asked for if that is not taken. -/
theorem uniqueScope_of_notMem {base : String} {taken : List String} (h : base ∉ taken) :
    uniqueScope base taken = base := by
  simp [uniqueScope, h]

/-- `scopes` gives every quiz the scope it asks for, if no two ask for the same and none is taken.
-/
theorem getElem?_scopes_of_nodup {taken : List String} {bs : List Block}
    (hnodup : (taken ++ (quizzes bs).map fun b => scopeOf b.id).Nodup) {i : Nat} {b : Block}
    (hb : bs[i]? = some b) (hquiz : b.content.kind? = some .quiz) :
    (scopes taken bs)[i]? = some (scopeOf b.id) := by
  induction bs generalizing taken i with
  | nil => simp at hb
  | cons first bs ih =>
    by_cases hfirst : first.content.kind? = some .quiz
    · -- What the first quiz asks for moves to what is taken.
      rw [quizzes_cons_quiz hfirst, List.map_cons, List.nodup_middle] at hnodup
      have hfree : scopeOf first.id ∉ taken := by
        rw [List.nodup_cons, List.mem_append, not_or] at hnodup
        exact hnodup.1.1
      rw [scopes_cons_quiz hfirst, uniqueScope_of_notMem hfree]
      cases i with
      | zero =>
        obtain rfl : first = b := by simpa using hb
        rfl
      | succ i => exact ih hnodup hb
    · rw [quizzes_cons_other hfirst] at hnodup
      rw [scopes_cons_other hfirst]
      cases i with
      | zero =>
        obtain rfl : first = b := by simpa using hb
        exact absurd hquiz hfirst
      | succ i => exact ih hnodup hb

/-- `renderBlocks` draws every block as `Block.render` does, if no two quizzes ask for the same
scope. -/
theorem renderBlocks_eq_map {bs : List Block}
    (hnodup : ((quizzes bs).map fun b => scopeOf b.id).Nodup) (theme : Theme)
    (ctx : RenderContext) : renderBlocks bs theme ctx = bs.map fun b => b.render theme ctx := by
  apply List.ext_getElem?
  intro i
  rw [List.getElem?_map]
  cases hb : bs[i]? with
  | none =>
    have hlen : bs.length ≤ i := List.getElem?_eq_none_iff.1 hb
    simp [renderBlocks, length_scopes, hlen]
  | some b =>
    rw [getElem?_renderBlocks hb, Option.map_some]
    -- A quiz has the scope it asks for; other blocks do not look at theirs.
    by_cases hquiz : b.content.kind? = some .quiz
    · have hscope : scopeAt bs i = scopeOf b.id :=
        Option.some.inj ((getElem?_scopes hb).symm.trans (getElem?_scopes_of_nodup hnodup hb hquiz))
      rw [hscope]
      rfl
    · rw [b.renderScoped_eq_render hquiz]

/-- `ys` is a permutation of `xs` if it is `xs` read at the positions that `σ` gives. -/
theorem perm_of_getElem_eq {α : Type} {xs ys : List α} {σ : Fin ys.length ≃ Fin xs.length}
    (hσ : ∀ i, ys[i] = xs[σ i]) : ys.Perm xs := by
  -- The lists are of one length, so σ is a permutation of the positions of one of them.
  have hlen : ys.length = xs.length := Fin.equiv_iff_eq.1 ⟨σ⟩
  let τ : Equiv.Perm (Fin xs.length) := (finCongr hlen.symm).trans σ
  have hys : ys = List.ofFn (xs.get ∘ τ) := by
    apply List.ext_getElem
    · simp [hlen]
    · intro i hi hi'
      rw [List.getElem_ofFn]
      exact hσ ⟨i, hi⟩
  have hperm := Equiv.Perm.ofFn_comp_perm τ xs.get
  rwa [← hys, List.ofFn_get] at hperm

/-- `renderBlocks` of a permuted list is permuted in the same way, if no two quizzes ask for the
same scope. -/
theorem getElem?_renderBlocks_perm {bs bs' : List Block} (σ : Fin bs'.length ≃ Fin bs.length)
    (hσ : ∀ i, bs'[i] = bs[σ i]) (hnodup : ((quizzes bs).map fun b => scopeOf b.id).Nodup)
    (theme : Theme) (ctx : RenderContext) (i : Fin bs'.length) :
    (renderBlocks bs' theme ctx)[i.1]? = (renderBlocks bs theme ctx)[(σ i).1]? := by
  have hperm : bs'.Perm bs := perm_of_getElem_eq hσ
  have hnodup' : ((quizzes bs').map fun b => scopeOf b.id).Nodup :=
    ((hperm.filter _).map _).nodup_iff.2 hnodup
  -- Both lists are drawn block by block, so equal blocks have equal fragments.
  have hi := hσ i
  rw [renderBlocks_eq_map hnodup, renderBlocks_eq_map hnodup', List.getElem?_map,
    List.getElem?_map, List.getElem?_eq_getElem i.2, List.getElem?_eq_getElem (σ i).2]
  exact congrArg (fun b => some (Block.render b theme ctx)) hi

/-! ## The frame of a document -/

namespace Html.Node

/-- Nodes around a gap: whatever stands in the gap, its text stands between the same two texts. -/
def Frames (f : List Node → List Node) : Prop :=
  ∃ front back, ∀ content, charsAll (f content) = front ++ (charsAll content ++ back)

/-- `Frames` holds for the gap itself. -/
theorem frames_id : Frames fun content => content := ⟨[], [], fun content => by simp⟩

variable {f : List Node → List Node}

/-- `Frames` is kept when nodes are put before and behind. -/
theorem Frames.between (h : Frames f) (before behind : List Node) :
    Frames fun content => before ++ (f content ++ behind) := by
  obtain ⟨front, back, hf⟩ := h
  refine ⟨charsAll before ++ front, back ++ charsAll behind, ?_⟩
  intro content
  simp [hf]

/-- `Frames` is kept when an element is put around. -/
theorem Frames.within (h : Frames f) (tag : String) (attrs : List Attr) :
    Frames fun content => [element tag attrs (f content)] := by
  obtain ⟨front, back, hf⟩ := h
  refine ⟨openChars tag attrs ++ front, back ++ closeChars tag, ?_⟩
  intro content
  simp [charsAll, chars, hf]

/-- `Frames` is kept when the nodes are put on lines of their own. -/
theorem Frames.onLines {g : List Node → Node} (h : Frames fun content => [g content])
    (before : List Node) : Frames fun content => Document.onLines (before ++ [g content]) := by
  have hlines : ∀ n, Document.onLines (before ++ [n]) =
      Document.onLines before ++ ([n] ++ [Document.newline]) := by
    intro n
    simp [Document.onLines]
  simp only [hlines]
  exact h.between _ _

end Html.Node

namespace Document

/-- `root` frames the content of a document. -/
theorem frames_root (theme : Theme) (o : RenderOptions) :
    Frames fun content => [root content theme o] := by
  -- From the gap outwards: the cell, its table, the table across the page, the body, the root.
  have hcell : Frames fun content => [container theme o.width content] := by
    have hgap : Frames fun content => [newline] ++ content ++ [newline] := by
      simpa using frames_id.between [newline] [newline]
    exact ((hgap.within _ _).within _ _).within _ _
  have hpage : Frames fun content => [page theme (container theme o.width content)] :=
    (((hcell.onLines []).within _ _).within _ _).within _ _
  have hbody := (hpage.onLines (preheader o)).within "body"
    [⟨"style", "margin: 0; padding: 0; background-color: " ++ theme.containerBackground ++ ";"⟩]
  exact (hbody.onLines [head theme o]).within "html" rootAttrs

/-- `raw` nodes in a row are written as the fragments they hold. -/
theorem charsAll_map_raw (fragments : List String) :
    charsAll (fragments.map .raw) = (String.join fragments).toList := by
  induction fragments with
  | nil => rfl
  | cons f fs ih => simp [charsAll, chars, ih]

/-- `assemble` puts its fragments between two texts that depend on the theme and the options only.
-/
theorem exists_frame_assemble (theme : Theme) (o : RenderOptions) :
    ∃ front back : String, ∀ fragments : List String,
      assemble fragments theme o = front ++ String.join fragments ++ back := by
  obtain ⟨front, back, hroot⟩ := (frames_root theme o).between [] [newline]
  refine ⟨"<!DOCTYPE html>\n" ++ String.ofList front, String.ofList back, ?_⟩
  intro fragments
  have hchars : charsAll [root (fragments.map .raw) theme o, newline] =
      front ++ ((String.join fragments).toList ++ back) := by
    rw [← charsAll_map_raw]
    exact hroot _
  rw [assemble, Node.html, hchars, String.ofList_append, String.ofList_append,
    String.ofList_toList, String.append_assoc, String.append_assoc]

end Document

/-! ## Whole newsletters -/

/-- `renderNewsletter` draws the same without the blocks that are not `isKnown`. -/
theorem renderNewsletter_filter (bs : List Block) (theme : Theme) (o : RenderOptions)
    (currentYear : Int) :
    renderNewsletter (bs.filter Block.isKnown) theme o currentYear =
      renderNewsletter bs theme o currentYear := by
  obtain ⟨front, back, hframe⟩ := Document.exists_frame_assemble theme o
  rw [renderNewsletter, renderNewsletter, hframe, hframe, renderBlocks_eq_renderFrom,
    renderBlocks_eq_renderFrom, join_renderFrom_filter]

/-- A newsletter is a frame around the fragments of its blocks in order, and blocks of unknown kind
leave no trace in it.  Changes to blocks that are no quizzes, as long as the quizzes stay as they
are, change no other block's fragment; the fragments of the front of a list come first; and where no
two quizzes ask for one scope, a change of order changes the order of the fragments only. -/
theorem newsletter_order_locality :
    (∀ (theme : Theme) (o : RenderOptions), ∃ front back : String,
      ∀ (bs : List Block) (currentYear : Int),
        renderNewsletter bs theme o currentYear =
          front ++ String.join (renderBlocks bs theme (o.context currentYear)) ++ back) ∧
    (∀ (bs : List Block) (theme : Theme) (o : RenderOptions) (currentYear : Int),
      renderNewsletter (bs.filter Block.isKnown) theme o currentYear =
        renderNewsletter bs theme o currentYear) ∧
    ∀ (theme : Theme) (ctx : RenderContext),
      (∀ bs bs' : List Block, quizzes bs = quizzes bs' →
        ∀ (i j : Nat) (b : Block), bs[i]? = some b → bs'[j]? = some b →
          (b.content.kind? = some .quiz → rank bs i = rank bs' j) →
          (renderBlocks bs theme ctx)[i]? = (renderBlocks bs' theme ctx)[j]?) ∧
      (∀ xs ys : List Block, renderBlocks xs theme ctx <+: renderBlocks (xs ++ ys) theme ctx) ∧
      ∀ (bs bs' : List Block) (σ : Fin bs'.length ≃ Fin bs.length),
        ((quizzes bs).map fun b => scopeOf b.id).Nodup → (∀ i, bs'[i] = bs[σ i]) →
        ∀ i, (renderBlocks bs' theme ctx)[i.1]? = (renderBlocks bs theme ctx)[(σ i).1]? := by
  refine ⟨?_, renderNewsletter_filter, ?_⟩
  · intro theme o
    obtain ⟨front, back, hframe⟩ := Document.exists_frame_assemble theme o
    exact ⟨front, back, fun bs currentYear => hframe _⟩
  · intro theme ctx
    refine ⟨?_, ?_, ?_⟩
    · intro bs bs' hquizzes i j b hi hj hrank
      exact getElem?_renderBlocks_congr hquizzes hi hj hrank theme ctx
    · intro xs ys
      exact renderBlocks_prefix_append xs ys theme ctx
    · intro bs bs' σ hnodup hσ i
      exact getElem?_renderBlocks_perm σ hσ hnodup theme ctx i

/-- Two quizzes with one id keep their fragments when a divider comes between them, and a divider
and a quiz that change places take theirs along. -/
theorem newsletter_order_locality_divider :
    let divider : Block := ⟨"d", .divider, none⟩
    let quiz : Block :=
      ⟨"q", .quiz ⟨none, [⟨some "1 + 1?", none, [⟨"2", true⟩], none⟩]⟩, none⟩
    let ctx : RenderContext := ⟨2024, true⟩
    (quizzes [quiz, quiz] = quizzes [quiz, divider, quiz] ∧
      (renderBlocks [quiz, quiz] .standard ctx)[1]? =
        (renderBlocks [quiz, divider, quiz] .standard ctx)[2]?) ∧
    ((quizzes [divider, quiz]).map fun b => scopeOf b.id).Nodup ∧
      (renderBlocks [quiz, divider] .standard ctx)[0]? =
        (renderBlocks [divider, quiz] .standard ctx)[1]? := by
  intro divider quiz ctx
  obtain ⟨-, -, hlaws⟩ := newsletter_order_locality
  obtain ⟨hlocal, -, hperm⟩ := hlaws .standard ctx
  have hquizzes : quizzes [quiz, quiz] = quizzes [quiz, divider, quiz] := rfl
  have hnodup : ((quizzes [divider, quiz]).map fun b => scopeOf b.id).Nodup :=
    List.nodup_singleton _
  refine ⟨⟨hquizzes, hlocal _ _ hquizzes 1 2 quiz rfl rfl fun _ => rfl⟩, hnodup, ?_⟩
  have hswap : ∀ i : Fin 2, [quiz, divider][i] = [divider, quiz][Equiv.swap (0 : Fin 2) 1 i] := by
    rw [Fin.forall_fin_two]
    exact ⟨rfl, rfl⟩
  exact hperm [divider, quiz] [quiz, divider] (Equiv.swap (0 : Fin 2) 1) hnodup hswap 0

end Bulletin
