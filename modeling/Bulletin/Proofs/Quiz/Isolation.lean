import Bulletin.Proofs.Quiz.Radio

/-!
# Quizzes of one newsletter do not interfere

Every quiz of a newsletter is drawn as if its scope were its id, and no two have the same scope.  So
a radio input belongs to one question of one quiz, however the ids repeat or collide.

## Main statements

- `renderBlocks_eq_mapIdx`: every fragment is that of a block that stands alone
- `radioGroupsOf_render`: the names of the radio inputs in a quiz's text
- `quiz_isolation`: scopes, fragments and names together
-/

namespace Bulletin

open Html Node Fragment

/-- The names of the radio inputs in a text, before the first question and in every question. -/
def Html.radioGroupsOf (html : String) : List (List String) :=
  ((scan html.toList).map radioGroups).getD []

/-- A quiz stands at a position of a newsletter. -/
def IsQuizAt (bs : List Block) (i : Nat) (b : Block) : Prop :=
  bs[i]? = some b ∧ b.content.kind? = some .quiz

/-- `kind?` is `some .quiz` for quizzes only. -/
theorem exists_quiz {c : Content} (h : c.kind? = some .quiz) : ∃ q, c = .quiz q := by
  cases c with
  | quiz q => exact ⟨q, rfl⟩
  | _ => simp [Content.kind?] at h

/-- The scope of the block at a position. -/
def scopeAt (bs : List Block) (i : Nat) : String := (scopes [] bs).getD i ""

/-- `scopeAt` is the entry of `scopes` at a position that holds a block. -/
theorem getElem?_scopes {bs : List Block} {i : Nat} {b : Block} (hb : bs[i]? = some b) :
    (scopes [] bs)[i]? = some (scopeAt bs i) := by
  have hlt : i < (scopes [] bs).length := by
    rw [length_scopes]
    exact (List.getElem?_eq_some_iff.1 hb).1
  rw [scopeAt, List.getD_eq_getElem?_getD, List.getElem?_eq_getElem hlt, Option.getD_some]

/-- `scopeAt` a quiz is a variant of what its id asks for. -/
theorem isVariant_scopeAt {bs : List Block} {i : Nat} {b : Block} (hb : bs[i]? = some b)
    (hquiz : b.content.kind? = some .quiz) : IsVariant (scopeOf b.id) (scopeAt bs i) := by
  obtain ⟨scope, hscope, -, hvariant⟩ := exists_scope hb hquiz
  obtain rfl : scope = scopeAt bs i := Option.some.inj (hscope.symm.trans (getElem?_scopes hb))
  exact hvariant

/-- `scopeAt` a quiz is a scope. -/
theorem isScope_scopeAt {bs : List Block} {i : Nat} {b : Block} (hb : bs[i]? = some b)
    (hquiz : b.content.kind? = some .quiz) : IsScope (scopeAt bs i) :=
  (isVariant_scopeAt hb hquiz).isScope (isScope_scopeOf b.id)

/-! ## Fragments -/

/-- `renderBlocks` draws the block at `i` with the scope `scopeAt bs i`. -/
theorem getElem?_renderBlocks {bs : List Block} {i : Nat} {b : Block} (hb : bs[i]? = some b)
    (theme : Theme) (ctx : RenderContext) :
    (renderBlocks bs theme ctx)[i]? = some (b.renderScoped theme ctx (scopeAt bs i)) := by
  rw [renderBlocks, List.getElem?_zipWith, hb, getElem?_scopes hb]

/-- `renderScoped` draws a block that is no quiz as `render` does, whatever the scope. -/
theorem Block.renderScoped_eq_render {b : Block} (hother : b.content.kind? ≠ some .quiz)
    (theme : Theme) (ctx : RenderContext) (scope : String) :
    b.renderScoped theme ctx scope = b.render theme ctx := by
  have hbody : ∀ s, b.content.body s ctx scope = b.content.body s ctx (scopeOf b.id) := by
    intro s
    cases hc : b.content with
    | quiz c => exact absurd (by rw [hc]; rfl) hother
    | _ => rfl
  -- The scope goes nowhere but into the body.
  unfold render renderScoped draw
  simp only [hbody]

/-- `renderScoped` draws a block as `render` draws the block that has the scope as its id. -/
theorem Block.renderScoped_eq_render_id {scope : String} (h : IsScope scope) (b : Block)
    (theme : Theme) (ctx : RenderContext) :
    b.renderScoped theme ctx scope = render { b with id := scope } theme ctx := by
  rw [render, scopeOf_of_isScope h]
  rfl

/-- `renderBlocks` draws every block as it stands alone, a quiz with its scope as its id. -/
theorem renderBlocks_eq_mapIdx (bs : List Block) (theme : Theme) (ctx : RenderContext) :
    renderBlocks bs theme ctx = bs.mapIdx fun i b =>
      if b.content.kind? = some .quiz then
        Block.render { b with id := scopeAt bs i } theme ctx
      else b.render theme ctx := by
  apply List.ext_getElem?
  intro i
  rw [List.getElem?_mapIdx]
  cases hb : bs[i]? with
  | none =>
    -- Behind the last block there is no fragment either.
    have hlen : bs.length ≤ i := List.getElem?_eq_none_iff.1 hb
    simp [renderBlocks, length_scopes, hlen]
  | some b =>
    rw [getElem?_renderBlocks hb, Option.map_some]
    split
    · rename_i hquiz
      rw [b.renderScoped_eq_render_id (isScope_scopeAt hb hquiz)]
    · rename_i hother
      rw [Block.renderScoped_eq_render hother]

/-! ## Names -/

/-- `scan` reads a quiz's text as the tokens of its nodes. -/
theorem Block.scan_renderScoped_quiz {b : Block} {c : Quiz} (hc : b.content = .quiz c)
    (theme : Theme) (ctx : RenderContext) {scope : String} (h : IsScope scope) :
    scan (b.renderScoped theme ctx scope).toList = some (tokensAll (b.draw theme ctx scope)) := by
  apply scan_html
  apply Block.wellFormedAll_draw _ theme ctx h.2
  rw [hc]
  rintro html ⟨⟩

/-- `radioGroupsOf` a quiz's text is no name in front, and the group's name for every option of each
question. -/
theorem radioGroupsOf_renderScoped {b : Block} {c : Quiz} (hc : b.content = .quiz c)
    (theme : Theme) (ctx : RenderContext) {scope : String} (h : IsScope scope) :
    radioGroupsOf (b.renderScoped theme ctx scope) =
      [] :: c.questions.mapIdx fun k q => List.replicate q.options.length (groupName scope k) := by
  rw [radioGroupsOf, b.scan_renderScoped_quiz hc theme ctx h, Option.map_some, Option.getD_some,
    Block.radioGroups_draw hc theme ctx h]

/-- A name in part `k` of a quiz is `groupName scope m` for the question `m` that the part is. -/
theorem exists_of_mem_groups {name scope : String} {questions : List QuizQuestion} {k : Nat}
    (h : name ∈ ([] :: questions.mapIdx fun k q =>
      List.replicate q.options.length (groupName scope k)).getD k []) :
    ∃ m, k = m + 1 ∧ name = groupName scope m := by
  cases k with
  | zero => simp at h
  | succ m =>
    refine ⟨m, rfl, ?_⟩
    rw [List.getD_cons_succ, List.getD_eq_getElem?_getD, List.getElem?_mapIdx] at h
    cases hq : questions[m]? with
    | none => simp [hq] at h
    | some q =>
      rw [hq, Option.map_some, Option.getD_some] at h
      exact List.eq_of_mem_replicate h

/-- `scopeAt` tells the quizzes of a newsletter apart. -/
theorem scopeAt_inj {bs : List Block} {i j : Nat} {a b : Block} (ha : IsQuizAt bs i a)
    (hb : IsQuizAt bs j b) (h : scopeAt bs i = scopeAt bs j) : i = j := by
  -- Both positions hold one scope of the list, and quizzes have no scope in common.
  have hj := getElem?_scopes hb.1
  rw [← h] at hj
  exact scopes_inj ha.1 hb.1 ha.2 hb.2 (getElem?_scopes ha.1) hj

/-- `radioGroupsOf` shows a name in one question of one quiz only. -/
theorem eq_of_mem_radioGroupsOf {bs : List Block} {i j : Nat} {a b : Block} {f g : String}
    (ha : IsQuizAt bs i a) (hb : IsQuizAt bs j b) {theme : Theme} {ctx : RenderContext}
    (hf : (renderBlocks bs theme ctx)[i]? = some f) (hg : (renderBlocks bs theme ctx)[j]? = some g)
    {k l : Nat} {name : String} (hk : name ∈ (radioGroupsOf f).getD k [])
    (hl : name ∈ (radioGroupsOf g).getD l []) : i = j ∧ k = l := by
  have hscope := isScope_scopeAt ha.1 ha.2
  have hscope' := isScope_scopeAt hb.1 hb.2
  obtain ⟨c, hc⟩ := exists_quiz ha.2
  obtain ⟨d, hd⟩ := exists_quiz hb.2
  obtain rfl := Option.some.inj (hf.symm.trans (getElem?_renderBlocks ha.1 theme ctx))
  obtain rfl := Option.some.inj (hg.symm.trans (getElem?_renderBlocks hb.1 theme ctx))
  rw [radioGroupsOf_renderScoped hc theme ctx hscope] at hk
  rw [radioGroupsOf_renderScoped hd theme ctx hscope'] at hl
  obtain ⟨m, rfl, rfl⟩ := exists_of_mem_groups hk
  obtain ⟨n, rfl, hname⟩ := exists_of_mem_groups hl
  -- The name tells scope and question, and the scope tells the quiz.
  obtain ⟨heq, rfl⟩ := groupName_inj hscope hscope' hname
  exact ⟨scopeAt_inj ha hb heq, rfl⟩

/-- The quizzes of a newsletter have scopes of their own: each is drawn alone under its scope, and
no name of a radio input stands in two questions. -/
theorem quiz_isolation (bs : List Block) (theme : Theme) (ctx : RenderContext) :
    ∃ scope : Nat → String,
      (∀ (i j : Nat) (a b : Block), IsQuizAt bs i a → IsQuizAt bs j b →
        scope i = scope j → i = j) ∧
      (∀ (i : Nat) (b : Block), IsQuizAt bs i b →
        IsScope (scope i) ∧ IsVariant (scopeOf b.id) (scope i)) ∧
      (renderBlocks bs theme ctx = bs.mapIdx fun i b =>
        if b.content.kind? = some .quiz then Block.render { b with id := scope i } theme ctx
        else b.render theme ctx) ∧
      (∀ (i : Nat) (b : Block) (c : Quiz), bs[i]? = some b → b.content = .quiz c →
        (renderBlocks bs theme ctx)[i]?.map radioGroupsOf =
          some ([] :: c.questions.mapIdx fun k q =>
            List.replicate q.options.length (groupName (scope i) k))) ∧
      ∀ (i j : Nat) (a b : Block) (f g : String), IsQuizAt bs i a → IsQuizAt bs j b →
        (renderBlocks bs theme ctx)[i]? = some f → (renderBlocks bs theme ctx)[j]? = some g →
        ∀ (k l : Nat) (name : String), name ∈ (radioGroupsOf f).getD k [] →
          name ∈ (radioGroupsOf g).getD l [] → i = j ∧ k = l := by
  refine ⟨scopeAt bs, ?_, ?_, renderBlocks_eq_mapIdx bs theme ctx, ?_, ?_⟩
  · intro i j a b ha hb heq
    exact scopeAt_inj ha hb heq
  · intro i b hb
    exact ⟨isScope_scopeAt hb.1 hb.2, isVariant_scopeAt hb.1 hb.2⟩
  · intro i b c hb hc
    have hquiz : b.content.kind? = some .quiz := by
      rw [hc]
      rfl
    rw [getElem?_renderBlocks hb, Option.map_some,
      radioGroupsOf_renderScoped hc theme ctx (isScope_scopeAt hb hquiz)]
  · intro i j a b f g ha hb hf hg k l name hk hl
    exact eq_of_mem_radioGroupsOf ha hb hf hg hk hl

end Bulletin
