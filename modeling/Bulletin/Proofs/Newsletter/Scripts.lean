import Bulletin.Proofs.Block.Envelope
import Bulletin.Proofs.Markup.Elements
import Bulletin.Proofs.Markup.Names
import Bulletin.Proofs.Markup.Pages
import Bulletin.Proofs.Newsletter.Order

/-!
# Scripts of a newsletter

The only scripts of a newsletter are those of its quizzes with questions, and these are only there
when scripts are wanted.  So `<script` occurs as often in a document as there are such quizzes, or
not at all: no text, no address, no color and no title brings a script of its own, and none is put
together from pieces that stand side by side.  Framed HTML could hold anything and is left out.

Wanting scripts changes nothing else.  A quiz with questions has a link and the script in front of
its last three tags, and all other fragments are the same with and without.

## Main statements

- `occurrences_script_renderNewsletter`: how often a script begins in a document
- `Block.renderScoped_quiz_eq`: what scripts add to a quiz
- `script_emission`: both together
-/

namespace Bulletin

open Html Node Fragment Text

/-- A block with a quiz that has questions. -/
def Block.asks (b : Block) : Bool :=
  match b.content with
  | .quiz c => !c.questions.isEmpty
  | _ => false

/-- `asks` holds for quizzes with questions. -/
theorem Block.asks_iff {b : Block} :
    b.asks = true ↔ ∃ c, b.content = .quiz c ∧ c.questions ≠ [] := by
  unfold asks
  split
  · rename_i c hc
    simp [hc]
  · rename_i hother
    simp only [Bool.false_eq_true, false_iff, not_exists, not_and]
    intro c hc
    exact absurd hc (hother c)

/-! ## The nodes of a newsletter -/

/-- The nodes of blocks that stand behind quizzes whose scopes are taken. -/
def drawFrom (taken : List String) (bs : List Block) (theme : Theme) (ctx : RenderContext) :
    List Node :=
  (List.zipWith (fun b scope => b.draw theme ctx scope) bs (scopes taken bs)).flatten

/-- `drawFrom` gives the nodes whose text `renderFrom` gives. -/
theorem charsAll_drawFrom (taken : List String) (bs : List Block) (theme : Theme)
    (ctx : RenderContext) :
    charsAll (drawFrom taken bs theme ctx) =
      (String.join (renderFrom taken bs theme ctx)).toList := by
  -- The texts of lists of nodes add up to the text of all nodes.
  have hjoin : ∀ nss : List (List Node),
      charsAll nss.flatten = (String.join (nss.map Node.html)).toList := by
    intro nss
    induction nss with
    | nil => rfl
    | cons ns nss ih => simp [toList_html, ih]
  rw [drawFrom, hjoin, List.map_zipWith]
  rfl

/-- `drawFrom` draws the first block with a plain scope, and the others behind it. -/
theorem exists_drawFrom_cons (taken : List String) (b : Block) (bs : List Block) (theme : Theme)
    (ctx : RenderContext) :
    ∃ scope taken', (∀ c ∈ scope.toList, isScopeChar c = true) ∧
      drawFrom taken (b :: bs) theme ctx =
        b.draw theme ctx scope ++ drawFrom taken' bs theme ctx := by
  obtain ⟨scope, taken', hscopes⟩ := exists_scopes_cons taken b
  refine ⟨scope, taken', ?_, ?_⟩
  · intro c hc
    apply isScopeChar_of_mem_scopes _ hc
    · exact taken
    · exact b :: bs
    · rw [hscopes]
      exact List.mem_cons_self
  · rw [drawFrom, hscopes, List.zipWith_cons_cons, List.flatten_cons, drawFrom]

/-- `raw?` is `none` for every content but framed HTML. -/
theorem Content.raw?_eq_none {c : Content} (h : c.kind? ≠ some .compartment) : c.raw? = none := by
  cases c with
  | compartment c => exact absurd rfl h
  | _ => rfl

/-- `Token.named` finds no script in a tag whose name does not begin like `script`. -/
theorem named_script_eq_none {tags : List String}
    (h : (tags.all fun tag => !"script".toList.isPrefixOf tag.toList) = true) :
    ∀ tag ∈ tags, ∀ attrs, (Token.opening tag attrs).named "script" = none := by
  intro tag htag attrs
  rw [Token.named_opening, if_neg]
  rw [Bool.not_eq_true, ← Bool.not_eq_true']
  exact List.all_eq_true.1 h tag htag

section Blocks

variable {bs : List Block} (hplain : ∀ b ∈ bs, b.content.kind? ≠ some .compartment)

include hplain

/-- `drawFrom` gives well-formed nodes if no block is a compartment. -/
theorem wellFormedAll_drawFrom (taken : List String) (theme : Theme) (ctx : RenderContext) :
    WellFormedAll (fun _ => False) (drawFrom taken bs theme ctx) := by
  induction bs generalizing taken with
  | nil => trivial
  | cons b bs ih =>
    rw [List.forall_mem_cons] at hplain
    obtain ⟨scope, taken', hscope, hdraw⟩ := exists_drawFrom_cons taken b bs theme ctx
    rw [hdraw, wellFormedAll_append]
    refine ⟨b.wellFormedAll_draw ?_ theme ctx hscope, ih hplain.2 taken'⟩
    simp [b.content.raw?_eq_none hplain.1]

/-- `drawFrom` has one opening `script` tag for each block that `asks`, or none without scripts. -/
theorem length_gather_script_drawFrom (taken : List String) (theme : Theme)
    (ctx : RenderContext) :
    (gather (Token.named "script") (tokensAll (drawFrom taken bs theme ctx))).length =
      if ctx.scripts then bs.countP Block.asks else 0 := by
  have hpasses : PassesOver (Token.named "script") := named_script_eq_none (by decide)
  induction bs generalizing taken with
  | nil => simp [drawFrom]
  | cons b bs ih =>
    rw [List.forall_mem_cons] at hplain
    obtain ⟨scope, taken', -, hdraw⟩ := exists_drawFrom_cons taken b bs theme ctx
    -- What a block adds is one script if it `asks` and scripts are wanted.
    have hblock : (gather (Token.named "script")
        (tokensAll (b.content.scripts ctx scope))).length =
          if ctx.scripts ∧ b.asks then 1 else 0 := by
      unfold Content.scripts Block.asks
      split <;> cases ctx.scripts <;> simp
      split <;> simp_all
    rw [hdraw, tokensAll_append, gather_append, List.length_append, ih hplain.2,
      b.gather_draw_of_passesOver hpasses (b.content.raw?_eq_none hplain.1), hblock,
      List.countP_cons]
    -- Only the order of the two summands is left.
    cases ctx.scripts <;> simp [Nat.add_comm]

/-- `drawFrom` has no `<script` in what it writes as it is. -/
theorem script_not_infix_literal_drawFrom (taken : List String) (theme : Theme)
    (ctx : RenderContext) :
    ∀ body ∈ gather Token.literal? (tokensAll (drawFrom taken bs theme ctx)),
      ¬"<script".toList <:+: body.toList := by
  have hpasses : PassesOver Token.literal? := fun _ _ _ => rfl
  induction bs generalizing taken with
  | nil => simp [drawFrom]
  | cons b bs ih =>
    rw [List.forall_mem_cons] at hplain
    obtain ⟨scope, taken', hscope, hdraw⟩ := exists_drawFrom_cons taken b bs theme ctx
    rw [hdraw, tokensAll_append, gather_append,
      b.gather_draw_of_passesOver hpasses (b.content.raw?_eq_none hplain.1), List.forall_mem_append]
    refine ⟨?_, ih hplain.2 taken'⟩
    intro body hbody
    unfold Content.scripts at hbody
    split at hbody
    · split at hbody
      · obtain rfl : body = _ := by simpa using hbody
        -- The one literal of a block is its own script, which holds no second one.
        exact not_infix_scoreScript (by decide) (by decide)
          (after_toList_ofList (by decide +kernel)) hscope _
      · simp at hbody
    · simp at hbody

end Blocks

/-! ## The document -/

namespace Document

/-- The tags of the elements around the content of a document that are no tags of blocks. -/
def frameTags : List String := ["html", "head", "meta", "title", "style", "body"]

/-- `onLines` adds nothing that a reader of tags reads. -/
theorem gather_onLines {α : Type} {f : Token → Option α} [Token.IsReader f] (ns : List Node) :
    gather f (tokensAll (onLines ns)) = gather f (tokensAll ns) := by
  have hline : gather f newline.tokens = [] := gather_text _
  have hlines : gather f (tokensAll (ns.flatMap fun n => [n, newline])) =
      gather f (tokensAll ns) := by
    induction ns with
    | nil => rfl
    | cons n ns ih => simp [hline, ih]
  simp [onLines, hline, hlines]

/-- `gather` reads off `root` the settings, the style sheet and the content, if it passes over the
elements of the document. -/
theorem gather_root {α : Type} {f : Token → Option α} [Token.IsReader f] (h : PassesOver f)
    (hframe : ∀ tag ∈ frameTags, ∀ attrs, f (.opening tag attrs) = none) (content : List Node)
    (theme : Theme) (o : RenderOptions) :
    gather f (root content theme o).tokens =
      gather f (comment officeSettings).tokens ++
        ((f (.rawText (stylesheet theme o.width))).toList ++ gather f (tokensAll content)) := by
  have hline : gather f newline.tokens = [] := gather_text _
  -- The preheader, the page around the content, and the head, each on its own.
  have hpreheader : gather f (tokensAll (preheader o)) = [] := by
    unfold preheader
    split
    · simp +decide [h.classed]
    · rfl
  have htable : gather f (page theme (container theme o.width content)).tokens =
      gather f (tokensAll content) := by
    have hdrawn := @PassesOver.element _ _ h _
    simp +decide [page, container, gather_onLines, h.row, hdrawn, hline, -gather_element]
  have hhead : gather f (head theme o).tokens = gather f (comment officeSettings).tokens ++
      (f (.rawText (stylesheet theme o.width))).toList := by
    simp +decide [head, gather_onLines, hframe]
  simp +decide [root, gather_onLines, styled, hframe, hpreheader, htable, hhead]

/-- `renderNewsletter` writes the document type, the `root` around the nodes of the blocks, and a
line end. -/
theorem toList_renderNewsletter (bs : List Block) (theme : Theme) (o : RenderOptions)
    (currentYear : Int) :
    (renderNewsletter bs theme o currentYear).toList =
      "<!DOCTYPE html>\n".toList ++
        charsAll [root (drawFrom [] bs theme (o.context currentYear)) theme o, newline] := by
  -- The root is written around its content, be that raw fragments or the nodes they come from.
  obtain ⟨front, back, hroot⟩ := (frames_root theme o).between [] [newline]
  have hchars : ∀ content, charsAll [root content theme o, newline] =
      front ++ (charsAll content ++ back) := hroot
  rw [renderNewsletter, assemble, String.toList_append, toList_html, hchars, hchars,
    charsAll_map_raw, charsAll_drawFrom, renderBlocks_eq_renderFrom]

end Document

/-- `root` has no `<script` in what it writes as it is, if its content has none. -/
theorem Document.script_not_infix_literal_root {content : List Node}
    (hcontent : ∀ body ∈ gather Token.literal? (tokensAll content),
      ¬"<script".toList <:+: body.toList) (theme : Theme) (o : RenderOptions) :
    ∀ body ∈ gather Token.literal? (root content theme o).tokens,
      ¬"<script".toList <:+: body.toList := by
  have hp : 'p' ∈ "<script".toList := by decide
  -- No name in the settings has the letter, and no rule of the style sheet the sign.
  have hsettings : 'p' ∉ officeSettings.toList := by
    have hall : (officeSettings.toList.all fun c => c ≠ 'p') = true := by
      unfold officeSettings
      simp only [String.toList_append, List.all_append, Bool.and_eq_true]
      constructor
      all_goals exact all_toList_ofList (by decide)
    intro hmem
    simpa using List.all_eq_true.1 hall 'p' hmem
  rw [gather_root (fun _ _ _ => rfl) (fun _ _ _ => rfl), List.forall_mem_append,
    List.forall_mem_append]
  refine ⟨?_, ?_, hcontent⟩
  · intro body hbody hoccurs
    obtain rfl : body = "--" ++ officeSettings ++ "--" := by
      simpa [tokens, gather_cons] using hbody
    have hmem := hoccurs.mem hp
    simp only [String.toList_append, List.mem_append] at hmem
    rcases hmem with (hdash | hmem) | hdash
    · exact absurd hdash (by decide)
    · exact hsettings hmem
    · exact absurd hdash (by decide)
  · -- A style sheet has no tags.
    intro body hbody hoccurs
    obtain rfl : body = stylesheet theme o.width := by simpa using hbody
    exact lt_notMem_stylesheet theme o.width (hoccurs.mem (by decide))

open Document in
/-- `renderNewsletter` holds `<script` once for each block that `asks`, or not at all without
scripts. -/
theorem occurrences_script_renderNewsletter {bs : List Block}
    (hplain : ∀ b ∈ bs, b.content.kind? ≠ some .compartment) (theme : Theme) (o : RenderOptions)
    (currentYear : Int) :
    occurrences "<script".toList (renderNewsletter bs theme o currentYear).toList =
      if o.includeScripts then bs.countP Block.asks else 0 := by
  have hname : isTagName "script" = true := by decide
  -- The document type opens with a sign of its own, and is left out of the count.
  have hmark : "<script".toList = nameMark "script" := by decide
  have hdoctype : "<!DOCTYPE html>\n".toList = '<' :: '!' :: "DOCTYPE html>\n".toList := by decide
  have hroot : WellFormedAll (fun _ => False)
      [root (drawFrom [] bs theme (o.context currentYear)) theme o, newline] :=
    ⟨wellFormed_root (wellFormedAll_drawFrom hplain [] theme _) theme o, trivial, trivial⟩
  have hgather : ∀ {α : Type} (f : Token → Option α) [Token.IsReader f] (r : Node),
      gather f (tokensAll [r, newline]) = gather f r.tokens := by
    intro α f _ r
    simp [newline]
  have hfree := script_not_infix_literal_root
    (script_not_infix_literal_drawFrom hplain [] theme (o.context currentYear)) theme o
  -- Free of the mark in its literals, a document has it once for every tag of that name.
  rw [← hgather, hmark] at hfree
  have hcount := occurrences_charsAll hname hroot hfree
  rw [toList_renderNewsletter, hmark, hdoctype, List.cons_append, List.cons_append,
    occurrences_sign hname (by decide) (by decide), nameMark,
    occurrences_append_of_notMem (by decide), ← nameMark, hcount, hgather,
    gather_root (named_script_eq_none (by decide)) (named_script_eq_none (by decide))]
  have hsettings : gather (Token.named "script") (comment officeSettings).tokens = [] := by
    simp [tokens, gather_cons]
  rw [hsettings, List.nil_append, Token.named_rawText, Option.toList_none, List.nil_append,
    length_gather_script_drawFrom hplain]
  rfl

/-! ## What scripts add to a quiz -/

/-- `html` turns `++` of nodes into `++` of texts. -/
theorem html_append (xs ys : List Node) : html (xs ++ ys) = html xs ++ html ys := by
  rw [html, charsAll_append, String.ofList_append, html, html]

/-- `envelope` ends with the same three closing tags around every body. -/
theorem exists_html_envelope (kind : Kind) (s : Resolved) :
    ∃ front : String, ∀ body : List Node,
      html [envelope kind s body] = front ++ html body ++ "</td></tr></table>" :=
  ⟨_, html_envelope kind s⟩

/-- The text of the link that runs the script of a quiz, and of the script. -/
def scoringText (scope : String) (total : Nat) (s : Resolved) : String :=
  "<p style=\"margin: 10px 0 0 0;\"><a href=\"#\" class=\"button\" onclick=\"" ++
    quizHandler scope ++ "\" style=\"" ++ escape s.buttonText ++
    "\">Check Answers</a></p><script>" ++ scoreScript scope total ++ "</script>"

/-- `openChars` writes the tag of the link with `quizHandler` as it is. -/
theorem openChars_scoring {scope : String} (h : IsScope scope) (s : Resolved) :
    openChars "a"
      [⟨"href", "#"⟩, ⟨"class", "button"⟩, ⟨"onclick", quizHandler scope⟩,
        ⟨"style", s.buttonText⟩] =
      "<a href=\"#\" class=\"button\" onclick=\"".toList ++ (quizHandler scope).toList ++
        "\" style=\"".toList ++ (escape s.buttonText).toList ++ "\">".toList := by
  have hhandler : escapeChars (quizHandler scope).toList = (quizHandler scope).toList := by
    conv_rhs => rw [← escape_quizHandler h, escape, String.toList_ofList]
  have hfront : "<a".toList ++ (Attr.chars ⟨"href", "#"⟩ ++ (Attr.chars ⟨"class", "button"⟩ ++
      " onclick=\"".toList)) = "<a href=\"#\" class=\"button\" onclick=\"".toList := by decide
  rw [← hfront, escape, String.toList_ofList]
  simp [openChars, Attr.chars, hhandler]

/-- `html` writes `scoring` as `scoringText`. -/
theorem html_scoring {scope : String} (h : IsScope scope) (total : Nat) (s : Resolved) :
    html (scoring scope total s) = scoringText scope total s := by
  have hfront : openChars "p" [⟨"style", "margin: 10px 0 0 0;"⟩] ++
      "<a href=\"#\" class=\"button\" onclick=\"".toList =
        "<p style=\"margin: 10px 0 0 0;\"><a href=\"#\" class=\"button\" onclick=\"".toList := by
    decide +kernel
  have hback : "\">".toList ++ (escapeChars "Check Answers".toList ++ (closeChars "a" ++
      (closeChars "p" ++ openChars "script" []))) =
        "\">Check Answers</a></p><script>".toList := by
    decide +kernel
  have hend : closeChars "script" = "</script>".toList := by decide
  -- The literals are cut where the link's tag begins and ends.
  have hchars := congrArg charsAll (scoring_eq scope total s)
  simp only [styled, charsAll, chars, List.append_nil] at hchars
  apply String.toList_inj.1
  unfold scoringText
  simp only [toList_html, hchars, openChars_scoring h, String.toList_append, ← hfront, ← hback,
    ← hend, List.append_assoc]

/-- `renderScoped` of a quiz with questions differs with scripts by `scoringText` in front of its
last three tags. -/
theorem Block.renderScoped_quiz_eq {b : Block} {c : Quiz} (hc : b.content = .quiz c)
    (hne : c.questions ≠ []) {scope : String} (h : IsScope scope) (theme : Theme) (year : Int) :
    ∃ front, b.renderScoped theme ⟨year, false⟩ scope = front ++ "</td></tr></table>" ∧
      b.renderScoped theme ⟨year, true⟩ scope =
        front ++ scoringText scope c.questions.length (b.resolved .quiz theme) ++
          "</td></tr></table>" := by
  have hkind : b.content.kind? = some .quiz := by
    rw [hc]
    rfl
  obtain ⟨front, hfront⟩ := exists_html_envelope .quiz (b.resolved .quiz theme)
  -- The body of the quiz ends with the link and the script.
  have hbody : Fragment.quiz scope c (b.resolved .quiz theme) true =
      Fragment.quiz scope c (b.resolved .quiz theme) false ++
        scoring scope c.questions.length (b.resolved .quiz theme) := by
    simp [Fragment.quiz, hne]
  refine ⟨front ++ html (Fragment.quiz scope c (b.resolved .quiz theme) false), ?_, ?_⟩
  · rw [renderScoped, b.draw_of_kind? hkind, hfront, hc, Content.body]
  · rw [renderScoped, b.draw_of_kind? hkind, hfront, hc, Content.body, hbody, html_append,
      html_scoring h]
    simp only [String.append_assoc]

/-- `draw` does not look at whether scripts are wanted for a block that does not ask. -/
theorem Block.draw_scripts_eq {b : Block} (h : b.asks = false) (theme : Theme) (year : Int)
    (scope : String) : b.draw theme ⟨year, true⟩ scope = b.draw theme ⟨year, false⟩ scope := by
  have hbody : ∀ s, b.content.body s ⟨year, true⟩ scope = b.content.body s ⟨year, false⟩ scope := by
    intro s
    cases hc : b.content with
    | quiz c =>
      have hempty : c.questions = [] := by simpa [asks, hc] using h
      simp [Content.body, Fragment.quiz, hempty]
    | _ => rfl
  unfold draw
  simp only [hbody]

/-- In a document without framed HTML a script begins for every quiz with questions if scripts are
wanted, and nowhere else.  What scripts add to the fragment of such a quiz is a link and a script
in front of its last three tags, and to any other fragment they add nothing. -/
theorem script_emission (bs : List Block) (theme : Theme) :
    ((∀ b ∈ bs, b.content.kind? ≠ some .compartment) →
      ∀ (o : RenderOptions) (currentYear : Int),
        occurrences "<script".toList (renderNewsletter bs theme o currentYear).toList =
          if o.includeScripts then bs.countP Block.asks else 0) ∧
    ∀ (year : Int) (i : Nat) (b : Block), bs[i]? = some b →
      (b.asks = true → ∃ c front, b.content = .quiz c ∧
        (renderBlocks bs theme ⟨year, false⟩)[i]? = some (front ++ "</td></tr></table>") ∧
        (renderBlocks bs theme ⟨year, true⟩)[i]? =
          some (front ++ scoringText (scopeAt bs i) c.questions.length (b.resolved .quiz theme) ++
            "</td></tr></table>")) ∧
      (b.asks = false → ∃ fragment,
        (renderBlocks bs theme ⟨year, false⟩)[i]? = some fragment ∧
        (renderBlocks bs theme ⟨year, true⟩)[i]? = some fragment) := by
  refine ⟨fun hplain => occurrences_script_renderNewsletter hplain theme, ?_⟩
  intro year i b hb
  rw [getElem?_renderBlocks hb, getElem?_renderBlocks hb]
  constructor
  · intro hasks
    obtain ⟨c, hc, hne⟩ := Block.asks_iff.1 hasks
    have hquiz : b.content.kind? = some .quiz := by
      rw [hc]
      rfl
    obtain ⟨front, hplain, hscored⟩ :=
      b.renderScoped_quiz_eq hc hne (isScope_scopeAt hb hquiz) theme year
    exact ⟨c, front, hc, by rw [hplain], by rw [hscored]⟩
  · intro hasks
    refine ⟨_, rfl, ?_⟩
    rw [Block.renderScoped, b.draw_scripts_eq hasks, ← Block.renderScoped]

/-- A paragraph that reads like a script brings none, and the quiz behind it brings one. -/
theorem script_emission_sampleQuiz :
    let text : Block := ⟨"t", .paragraph ⟨some "<script>alert(1)</script>", none⟩, none⟩
    let quiz : Block := ⟨"q", .quiz sampleQuiz, none⟩
    (∀ b ∈ [text, quiz], b.content.kind? ≠ some .compartment) ∧
      occurrences "<script".toList (renderNewsletter [text, quiz] .standard .standard 2024).toList =
        1 ∧
      (text.asks = false ∧ ∃ fragment,
        (renderBlocks [text, quiz] .standard ⟨2024, false⟩)[0]? = some fragment ∧
        (renderBlocks [text, quiz] .standard ⟨2024, true⟩)[0]? = some fragment) ∧
      (quiz.asks = true ∧ ∃ c front, quiz.content = .quiz c ∧
        (renderBlocks [text, quiz] .standard ⟨2024, false⟩)[1]? =
          some (front ++ "</td></tr></table>") ∧
        (renderBlocks [text, quiz] .standard ⟨2024, true⟩)[1]? =
          some (front ++ scoringText (scopeAt [text, quiz] 1) c.questions.length
            (quiz.resolved .quiz .standard) ++ "</td></tr></table>")) := by
  intro text quiz
  obtain ⟨hcount, hfragments⟩ := script_emission [text, quiz] .standard
  have hplain : ∀ b ∈ [text, quiz], b.content.kind? ≠ some .compartment := by
    simp [text, quiz, Content.kind?]
  refine ⟨hplain, hcount hplain .standard 2024, ?_, ?_⟩
  · exact ⟨rfl, (hfragments 2024 0 text rfl).2 rfl⟩
  · exact ⟨rfl, (hfragments 2024 1 quiz rfl).1 rfl⟩

end Bulletin
