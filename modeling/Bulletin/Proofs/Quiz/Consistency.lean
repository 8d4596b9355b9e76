import Bulletin.Proofs.Quiz.Isolation
import Bulletin.Proofs.Quiz.Script

/-!
# When a quiz and its script agree

The link below a quiz calls a function, and the script defines one; the script looks for inputs by
name, and the questions name theirs.  Both sides are written from the scope, but the script's side
goes through two replacements, and the second one looks at what the first one has put in.

So the two sides agree unless the mark of the number of questions occurs in the scope with the
underscore that stands before it.

## Main statements

- `scoresQuestions_renderScoped_iff`: when a quiz and its script agree
- `scoresQuestions_iff`: the same for quizzes alone and in a newsletter
-/

namespace Bulletin

open Html Node Fragment Text

namespace Html

/-- The handler of a link. -/
def Token.handler? : Token → Option String
  | .opening tag attrs => if tag = "a" then attrs.lookup "onclick" else none
  | _ => none

/-- The text of a script. -/
def Token.script? : Token → Option String
  | .rawText body => some body
  | _ => none

instance : Token.IsReader Token.handler? where
  text _ := rfl
  closing _ := rfl

instance : Token.IsReader Token.script? where
  text _ := rfl
  closing _ := rfl

/-- `handler?` reads nothing off a tag that is no `a`. -/
@[simp] theorem Token.handler?_opening {tag : String} {attrs : List (String × String)}
    (htag : tag ≠ "a") : (Token.opening tag attrs).handler? = none := by
  simp [handler?, htag]

/-- `handler?` reads nothing off raw text. -/
@[simp] theorem Token.handler?_rawText (body : String) :
    (Token.rawText body).handler? = none := rfl

/-- `script?` reads nothing off a tag. -/
@[simp] theorem Token.script?_opening (tag : String) (attrs : List (String × String)) :
    (Token.opening tag attrs).script? = none := rfl

/-- `script?` reads raw text. -/
@[simp] theorem Token.script?_rawText (body : String) :
    (Token.rawText body).script? = some body := rfl

end Html

/-- A text holds one link with a handler and one script.  The script defines the function that the
handler calls, counts to the number of questions, and asks of every question for the name that all
its radio inputs carry. -/
def ScoresQuestions (html : String) (total : Nat) : Prop :=
  ∃ ts handler script called stem, scan html.toList = some ts ∧
    gather Token.handler? ts = [handler] ∧ gather Token.script? ts = [script] ∧
    wordsAfter "return " '(' handler.toList = [called] ∧
    wordsAfter "function " '(' script.toList = [called] ∧
    wordsAfter "i < " ';' script.toList = [digitsOf total] ∧
    wordsAfter "out of " '!' script.toList = [digitsOf total] ∧
    wordsAfter "input[name=\"" '\'' script.toList = [stem] ∧
    ∀ k < total, ∃ names, (radioGroups ts)[k + 1]? = some names ∧
      ∀ name ∈ names, name.toList = stem ++ digitsOf k

/-! ## Reading the fragment -/

namespace Fragment

variable {α : Type} {f : Token → Option α} [Token.IsReader f]

/-- `gather` reads nothing off `quizQuestion` if it passes over its tags. -/
theorem gather_quizQuestion
    (hf : ∀ tag ∈ ["div", "p", "img", "label", "input"], ∀ attrs, f (.opening tag attrs) = none)
    (scope : String) (index : Nat) (q : QuizQuestion) :
    gather f (quizQuestion scope index q).tokens = [] := by
  -- The tags of a question, one by one.
  simp only [List.forall_mem_cons] at hf
  obtain ⟨hdiv, hp, himg, hlabel, hinput, -⟩ := hf
  have hoptions : gather f (tokensAll (q.options.mapIdx (quizOption scope index q))) = [] := by
    apply gather_tokensAll_eq_nil
    intro n hn
    obtain ⟨i, hi, rfl⟩ := List.mem_mapIdx.1 hn
    simp [quizOption, styled, hlabel, hinput]
  simp [quizQuestion, classed, styled, hdiv, hp, himg, hoptions]

/-- `gather` reads off a quiz what it reads off `scoring`, if it passes over all other tags. -/
theorem gather_draw_quiz
    (hf : ∀ tag ∈ ["table", "tr", "td", "h2", "div", "p", "img", "label", "input"],
      ∀ attrs, f (.opening tag attrs) = none)
    {b : Block} {c : Quiz} (hc : b.content = .quiz c) (hne : c.questions ≠ []) (theme : Theme)
    {ctx : RenderContext} (hscripts : ctx.scripts = true) (scope : String) :
    gather f (tokensAll (b.draw theme ctx scope)) =
      gather f (tokensAll (scoring scope c.questions.length (b.resolved .quiz theme))) := by
  have hquestions : gather f (tokensAll (c.questions.mapIdx (quizQuestion scope))) = [] := by
    apply gather_tokensAll_eq_nil
    intro n hn
    obtain ⟨k, hk, rfl⟩ := List.mem_mapIdx.1 hn
    apply gather_quizQuestion
    intro tag htag
    exact hf tag (by simp_all)
  simp only [List.forall_mem_cons] at hf
  obtain ⟨htable, htr, htd, hh2, -⟩ := hf
  have htitle : gather f (tokensAll (sectionTitle (b.resolved .quiz theme) c.title)) = [] :=
    gather_forPresent (by simp [styled, hh2]) c.title
  -- With questions and with scripts, a quiz is a title, its questions, a link and a script.
  have hbody : quiz scope c (b.resolved .quiz theme) ctx.scripts =
      sectionTitle (b.resolved .quiz theme) c.title ++
        (c.questions.mapIdx (quizQuestion scope) ++
          scoring scope c.questions.length (b.resolved .quiz theme)) := by
    rw [quiz, if_neg (by simpa using hne), if_pos hscripts]
  obtain ⟨outer, inner, henvelope⟩ := envelope_eq .quiz (b.resolved .quiz theme)
    (quiz scope c (b.resolved .quiz theme) ctx.scripts)
  have hdraw : b.draw theme ctx scope =
      [envelope .quiz (b.resolved .quiz theme)
        (quiz scope c (b.resolved .quiz theme) ctx.scripts)] := by
    rw [Block.draw, hc]
    rfl
  rw [hdraw, henvelope, hbody]
  simp [htable, htr, htd, htitle, hquestions]

end Fragment

/-- What the link of a quiz does. -/
def quizHandler (scope : String) : String := "return scoreQuiz_" ++ scope ++ "();"

/-- `quizHandler` is cut at the characters around the name it calls. -/
theorem toList_quizHandler (scope : String) :
    (quizHandler scope).toList =
      "return scoreQui".toList ++ 'z' :: ('_' :: scope.toList ++ '(' :: ");".toList) := by
  have hfront : "return scoreQuiz_" = "return scoreQui" ++ "z_" := by rfl
  have hname : "z_".toList = ['z', '_'] := by rfl
  have hcall : "();".toList = '(' :: ");".toList := by rfl
  unfold quizHandler
  rw [hfront]
  simp only [String.toList_append, hname, hcall, List.append_assoc, List.cons_append,
    List.nil_append]

/-- `isScopeChar` holds of an underscore and of the characters of a scope. -/
theorem isScopeChar_of_mem_cons {scope : String} (h : IsScope scope) :
    ∀ c ∈ '_' :: scope.toList, isScopeChar c = true := by
  rw [List.forall_mem_cons]
  exact ⟨by decide, h.2⟩

/-- `escape` leaves `quizHandler` as it is. -/
theorem escape_quizHandler {scope : String} (h : IsScope scope) :
    escape (quizHandler scope) = quizHandler scope := by
  have hfront : "return scoreQui".toList.all isUnescaped = true := all_toList_ofList (by decide)
  have hz : isUnescaped 'z' = true := by decide
  have hname : ('_' :: scope.toList).all isUnescaped = true :=
    all_isUnescaped (isScopeChar_of_mem_cons h)
  have hback : ('(' :: ");".toList).all isUnescaped = true := by decide
  apply escape_eq_self
  rw [toList_quizHandler, List.all_append, List.all_cons, List.all_append, hfront, hz, hname, hback]
  rfl

/-- `scoring` is the link and the script.  The handler keeps its name, so that escaping it is one
step. -/
theorem scoring_eq (scope : String) (total : Nat) (s : Resolved) :
    scoring scope total s =
      [styled "p" "margin: 10px 0 0 0;"
        [.element "a"
          [⟨"href", "#"⟩, ⟨"class", "button"⟩, ⟨"onclick", quizHandler scope⟩,
            ⟨"style", s.buttonText⟩]
          [.text "Check Answers"]],
      .verbatim "script" (scoreScript scope total)] := rfl

/-- `draw` of a quiz with questions has one handler, `quizHandler`. -/
theorem Block.gather_handler_draw {b : Block} {c : Quiz} (hc : b.content = .quiz c)
    (hne : c.questions ≠ []) (theme : Theme) {ctx : RenderContext} (hscripts : ctx.scripts = true)
    {scope : String} (h : IsScope scope) :
    gather Token.handler? (tokensAll (b.draw theme ctx scope)) = [quizHandler scope] := by
  have hlink : ∀ handler style, (Token.opening "a"
      [Attr.scanned ⟨"href", "#"⟩, Attr.scanned ⟨"class", "button"⟩,
        Attr.scanned ⟨"onclick", handler⟩, Attr.scanned ⟨"style", style⟩]).handler? =
      some (escape handler) := by
    intro handler style
    simp [Token.handler?, Attr.scanned, List.lookup_cons]
  rw [gather_draw_quiz (by simp) hc hne theme hscripts, scoring_eq]
  simp [styled, hlink, escape_quizHandler h]

/-- `quizHandler` calls the function of its scope. -/
theorem wordsAfter_quizHandler {scope : String} (h : IsScope scope) :
    wordsAfter "return " '(' (quizHandler scope).toList =
      ["scoreQuiz".toList ++ '_' :: scope.toList] := by
  -- The mark ends with a space, which stands in the first piece only.
  have hpiece : after "return ".toList "return scoreQui".toList = ["scoreQui".toList] :=
    after_toList_ofList (by decide +kernel)
  have hspace : ' ' ∈ "return ".toList := by decide
  have hname : after "return ".toList ('_' :: scope.toList) = [] :=
    after_eq_nil hspace (notMem_of_isScopeChar (isScopeChar_of_mem_cons h) (by decide))
  have hend : after "return ".toList ");".toList = [] := after_eq_nil hspace (by decide)
  have hstop : '(' ∉ "scoreQuiz".toList ++ '_' :: scope.toList := by
    rw [List.mem_append, not_or]
    exact ⟨by decide, notMem_of_isScopeChar (isScopeChar_of_mem_cons h) (by decide)⟩
  have hword : "scoreQui".toList ++ 'z' :: ('_' :: scope.toList ++ '(' :: ");".toList) =
      "scoreQuiz".toList ++ '_' :: scope.toList ++ '(' :: ");".toList := by rfl
  rw [toList_quizHandler, wordsAfter_cut (by decide) (by decide),
    wordsAfter_cut (by decide) (by decide), wordsFrom_eq_nil hname, wordsAfter_eq_wordsFrom,
    wordsFrom_eq_nil hend, wordsFrom, hpiece, List.map_cons, hword, takeWhile_append_cons hstop]
  rfl

/-- `draw` of a quiz with questions has one script, `scoreScript`. -/
theorem Block.gather_script_draw {b : Block} {c : Quiz} (hc : b.content = .quiz c)
    (hne : c.questions ≠ []) (theme : Theme) {ctx : RenderContext} (hscripts : ctx.scripts = true)
    (scope : String) :
    gather Token.script? (tokensAll (b.draw theme ctx scope)) =
      [scoreScript scope c.questions.length] := by
  rw [gather_draw_quiz (by simp) hc hne theme hscripts]
  simp [scoring, styled]

/-! ## Agreement -/

/-- `replaceAll totalMark` leaves a text alone if and only if the mark does not occur in it. -/
theorem replaceAll_totalMark_eq_self_iff (total : Nat) (cs : List Char) :
    replaceAll totalMark (digitsOf total) cs = cs ↔ ¬totalMark <:+: cs := by
  -- The mark begins with an underscore and a number with a digit.
  have hmark : totalMark = '_' :: "_TOTAL__".toList := by decide
  obtain ⟨d, ds, hdigits⟩ := List.exists_cons_of_ne_nil (digitsOf_ne_nil total)
  have hd : d.isDigit = true := isDigit_of_mem_digitsOf (by rw [hdigits]; exact List.mem_cons_self)
  have hne : '_' ≠ d := by
    rintro rfl
    exact absurd hd (by decide)
  rw [hmark, hdigits]
  exact replaceAll_eq_self_iff hne

/-- `replaceAll totalMark` with a number makes scopes of scopes. -/
theorem isScopeChar_of_mem_replaceAll {total : Nat} {cs : List Char}
    (hcs : ∀ c ∈ cs, isScopeChar c = true) :
    ∀ c ∈ replaceAll totalMark (digitsOf total) cs, isScopeChar c = true := by
  intro c hc
  rcases mem_replaceAll hc with hdigit | hmem
  · exact isScopeChar_of_isDigit (isDigit_of_mem_digitsOf hdigit)
  · exact hcs c hmem

section Agreement

variable {b : Block} {c : Quiz} (hc : b.content = .quiz c) (hne : c.questions ≠ [])
  (theme : Theme) {ctx : RenderContext} (hscripts : ctx.scripts = true) {scope : String}
  (h : IsScope scope)

include hc hne hscripts h

/-- `ScoresQuestions` holds only if the second replacement leaves the scope as it is: the link is
written with the scope, the script with what `replaceAll` makes of it. -/
theorem replaceAll_eq_self_of_scoresQuestions
    (hscores : ScoresQuestions (b.renderScoped theme ctx scope) c.questions.length) :
    replaceAll totalMark (digitsOf c.questions.length) ('_' :: scope.toList) =
      '_' :: scope.toList := by
  obtain ⟨ts, handler, script, called, stem, hts, hhandler, hscript, hcalled, hdefined, -⟩ :=
    hscores
  -- There is one link and one script, so these are the ones that the quiz writes.
  obtain rfl := Option.some.inj (hts.symm.trans (b.scan_renderScoped_quiz hc theme ctx h))
  obtain rfl := List.singleton_injective
    (hhandler.symm.trans (b.gather_handler_draw hc hne theme hscripts h))
  obtain rfl := List.singleton_injective
    (hscript.symm.trans (b.gather_script_draw hc hne theme hscripts scope))
  rw [wordsAfter_quizHandler h] at hcalled
  rw [toList_scoreScript_eq, wordsAfter_function
    (isScopeChar_of_mem_replaceAll (isScopeChar_of_mem_cons h))
    (isScopeChar_of_mem_replaceAll h.2)] at hdefined
  exact List.append_cancel_left (List.singleton_injective (hdefined.trans hcalled.symm))

/-- `ScoresQuestions` holds if the second replacement leaves the scope as it is: link, script and
inputs are all written with it. -/
theorem scoresQuestions_of_replaceAll_eq_self
    (hname : replaceAll totalMark (digitsOf c.questions.length) ('_' :: scope.toList) =
      '_' :: scope.toList)
    (hscope : replaceAll totalMark (digitsOf c.questions.length) scope.toList = scope.toList) :
    ScoresQuestions (b.renderScoped theme ctx scope) c.questions.length := by
  have hfree := isScopeChar_of_mem_cons h
  -- The link, the script, and the name without the number of the question.
  refine ⟨_, _, _, _, "quiz-".toList ++ (scope.toList ++ "-q".toList),
    b.scan_renderScoped_quiz hc theme ctx h, b.gather_handler_draw hc hne theme hscripts h,
    b.gather_script_draw hc hne theme hscripts scope, wordsAfter_quizHandler h, ?_⟩
  rw [toList_scoreScript_eq, hname, hscope]
  refine ⟨wordsAfter_function hfree h.2 _, wordsAfter_bound hfree h.2 _,
    wordsAfter_total hfree h.2 _, wordsAfter_input hfree h.2 _, ?_⟩
  -- Every input of a question carries the group's name, the stem with the position behind it.
  intro k hk
  refine ⟨List.replicate c.questions[k].options.length (groupName scope k), ?_, ?_⟩
  · rw [Block.radioGroups_draw hc theme ctx h, List.getElem?_cons_succ, List.getElem?_mapIdx,
      List.getElem?_eq_getElem hk, Option.map_some]
  · intro name hmem
    rw [List.eq_of_mem_replicate hmem, toList_groupName]
    simp

/-- `ScoresQuestions` holds of a drawn quiz if and only if `totalMark` does not occur in its scope.
-/
theorem scoresQuestions_renderScoped_iff :
    ScoresQuestions (b.renderScoped theme ctx scope) c.questions.length ↔
      ¬totalMark <:+: '_' :: scope.toList := by
  constructor
  · intro hscores
    rw [← replaceAll_totalMark_eq_self_iff c.questions.length]
    exact replaceAll_eq_self_of_scoresQuestions hc hne theme hscripts h hscores
  · intro hfree
    -- A mark in the scope is one behind the underscore as well.
    have hscope : ¬totalMark <:+: scope.toList := fun hoccurs =>
      hfree (hoccurs.trans (List.suffix_cons '_' scope.toList).isInfix)
    rw [← replaceAll_totalMark_eq_self_iff c.questions.length] at hfree hscope
    exact scoresQuestions_of_replaceAll_eq_self hc hne theme hscripts h hfree hscope

end Agreement

/-- A quiz with questions agrees with its script, alone and in a newsletter, unless the mark of the
number of questions occurs in its scope with the underscore that stands before it. -/
theorem scoresQuestions_iff {b : Block} {c : Quiz} (hc : b.content = .quiz c)
    (hne : c.questions ≠ []) (theme : Theme) {ctx : RenderContext} (hscripts : ctx.scripts = true) :
    (ScoresQuestions (b.render theme ctx) c.questions.length ↔
      ¬totalMark <:+: '_' :: (scopeOf b.id).toList) ∧
    ∀ (bs : List Block) (i : Nat), bs[i]? = some b →
      ∃ html, (renderBlocks bs theme ctx)[i]? = some html ∧
        (ScoresQuestions html c.questions.length ↔
          ¬totalMark <:+: '_' :: (scopeAt bs i).toList) := by
  constructor
  · exact scoresQuestions_renderScoped_iff hc hne theme hscripts (isScope_scopeOf b.id)
  · intro bs i hb
    have hquiz : b.content.kind? = some .quiz := by
      rw [hc]
      rfl
    exact ⟨_, getElem?_renderBlocks hb theme ctx,
      scoresQuestions_renderScoped_iff hc hne theme hscripts (isScope_scopeAt hb hquiz)⟩

/-- A quiz that asks one question, with two answers. -/
def sampleQuiz : Quiz where
  title := some "Sums"
  questions := [⟨some "2 + 2?", none, [⟨"3", false⟩, ⟨"4", true⟩], none⟩]

/-- Two quizzes that ask for the same scope: both agree with their scripts. -/
theorem scoresQuestions_sampleQuiz :
    let b : Block := ⟨"q-1", .quiz sampleQuiz, none⟩
    ∃ html, (renderBlocks [b, b] .standard ⟨2024, true⟩)[1]? = some html ∧
      ScoresQuestions html 1 := by
  intro b
  have hscripts : (⟨2024, true⟩ : RenderContext).scripts = true := rfl
  obtain ⟨-, hlisted⟩ := scoresQuestions_iff (b := b) rfl (by decide) .standard hscripts
  obtain ⟨html, hhtml, hiff⟩ := hlisted [b, b] 1 rfl
  -- The mark has a letter that the scope, a variant of the one asked for, does not hold.
  have hfree : ¬totalMark <:+: '_' :: (scopeAt [b, b] 1).toList := by
    have hmark : 'T' ∈ totalMark := by decide
    intro hoccurs
    exact absurd (hoccurs.mem hmark) (by decide)
  exact ⟨html, hhtml, hiff.2 hfree⟩

/-- The script of a quiz whose id is the second mark defines another function than its link
calls. -/
theorem not_scoresQuestions_totalMark :
    ¬ScoresQuestions
      (Block.render ⟨"__TOTAL__", .quiz sampleQuiz, none⟩ .standard ⟨2024, true⟩) 1 := by
  have hscope : IsScope "__TOTAL__" := ⟨by decide, List.all_eq_true.1 (by decide)⟩
  have hoccurs : totalMark <:+: '_' :: "__TOTAL__".toList :=
    (List.suffix_cons '_' "__TOTAL__".toList).isInfix
  have hscripts : (⟨2024, true⟩ : RenderContext).scripts = true := rfl
  have hasked : sampleQuiz.questions ≠ [] := by decide
  rw [Block.render, scopeOf_of_isScope hscope]
  intro hscores
  exact (scoresQuestions_renderScoped_iff rfl hasked .standard hscripts hscope).1 hscores hoccurs

end Bulletin
