import Bulletin.Proofs.Markup.Fragments
import Bulletin.Proofs.Markup.Reading
import Bulletin.Proofs.Markup.Skeleton
import Bulletin.Proofs.Quiz.Scope

/-!
# Radio inputs of a quiz

The radio inputs of a text are read off its tokens, question by question: a question begins with the
`div` that carries its class.  In the fragment of a quiz every answer has one input, and all inputs
of a question carry the name of its group.

## Main statements

- `radioGroups_draw`: the names of the radio inputs of a quiz
-/

namespace Bulletin

open Html Text

namespace Html

/-- The name of a radio input. -/
def Token.radioName? : Token → Option String
  | .opening tag attrs =>
    if tag = "input" ∧ attrs.lookup "type" = some "radio" then attrs.lookup "name" else none
  | _ => none

/-- The token that a question begins with. -/
def Token.opensQuestion : Token → Bool
  | .opening tag attrs => tag = "div" && attrs.lookup "class" = some "quiz-question"
  | _ => false

instance : Token.IsReader Token.radioName? where
  text _ := rfl
  closing _ := rfl

/-- The names of the radio inputs before the first question and in every question. -/
def radioGroups (ts : List Token) : List (List String) :=
  (ts.splitOnP Token.opensQuestion).map (gather Token.radioName?)

/-- No question begins. -/
def Unasked (ts : List Token) : Prop := ∀ t ∈ ts, t.opensQuestion = false

/-- `opensQuestion` is false of a tag that is no `div`. -/
@[simp] theorem Token.opensQuestion_opening {tag : String} {attrs : List (String × String)}
    (htag : tag ≠ "div") : (Token.opening tag attrs).opensQuestion = false := by
  simp [opensQuestion, htag]

/-- `radioName?` reads nothing off a tag that is no `input`. -/
@[simp] theorem Token.radioName?_opening {tag : String} {attrs : List (String × String)}
    (htag : tag ≠ "input") : (Token.opening tag attrs).radioName? = none := by
  simp [radioName?, htag]

/-- `radioName?` reads nothing off raw text. -/
@[simp] theorem Token.radioName?_rawText (body : String) :
    (Token.rawText body).radioName? = none := rfl

/-- `radioGroups` begins a group with a token that `opensQuestion`. -/
theorem radioGroups_append_cons {t : Token} (ht : t.opensQuestion = true) (xs ys : List Token) :
    radioGroups (xs ++ t :: ys) = radioGroups xs ++ radioGroups ys := by
  rw [radioGroups, List.splitOnP_append_cons xs ys ht, List.map_append]
  rfl

/-- `radioGroups` of `Unasked` tokens is one group. -/
theorem Unasked.radioGroups_eq {ts : List Token} (h : Unasked ts) :
    radioGroups ts = [gather Token.radioName? ts] := by
  rw [radioGroups, List.splitOnP_eq_singleton h]
  rfl

/-- `Unasked` holds of tokens in a row if it holds of both parts. -/
theorem unasked_append {xs ys : List Token} : Unasked (xs ++ ys) ↔ Unasked xs ∧ Unasked ys := by
  simp only [Unasked, List.mem_append, or_imp, forall_and]

namespace Node

/-- `Unasked` holds of no tokens. -/
@[simp] theorem unasked_tokensAll_nil : Unasked (tokensAll []) := by simp [tokensAll, Unasked]

/-- `Unasked` holds of nodes in a row if it holds of the first and of the others. -/
@[simp] theorem unasked_tokensAll_cons {n : Node} {ns : List Node} :
    Unasked (tokensAll (n :: ns)) ↔ Unasked n.tokens ∧ Unasked (tokensAll ns) := unasked_append

/-- `Unasked` holds of nodes if it holds of each. -/
theorem unasked_tokensAll {ns : List Node} (h : ∀ n ∈ ns, Unasked n.tokens) :
    Unasked (tokensAll ns) := by
  induction ns with
  | nil => exact unasked_tokensAll_nil
  | cons n ns ih =>
    rw [List.forall_mem_cons] at h
    exact unasked_tokensAll_cons.2 ⟨h.1, ih h.2⟩

/-- `Unasked` holds of text. -/
@[simp] theorem unasked_text (s : String) : Unasked (text s).tokens := by
  intro t ht
  obtain ⟨c, -, rfl⟩ := List.mem_map.1 ht
  rfl

/-- `Unasked` holds of an empty element if its tag does not open a question. -/
@[simp] theorem unasked_void {tag : String} {attrs : List Attr} :
    Unasked (void tag attrs).tokens ↔
      (Token.opening tag (attrs.map Attr.scanned)).opensQuestion = false := by
  simp [tokens, Unasked]

/-- `Unasked` holds of an element if its tag does not open a question and it holds of the children.
-/
@[simp] theorem unasked_element {tag : String} {attrs : List Attr} {children : List Node} :
    Unasked (element tag attrs children).tokens ↔
      (Token.opening tag (attrs.map Attr.scanned)).opensQuestion = false ∧
        Unasked (tokensAll children) := by
  have hclosing : (Token.closing tag).opensQuestion = false := rfl
  simp [tokens, Unasked, or_imp, forall_and, hclosing]

/-- `Unasked` holds of raw text if its tag does not open a question. -/
@[simp] theorem unasked_verbatim {tag body : String} :
    Unasked (verbatim tag body).tokens ↔ (Token.opening tag []).opensQuestion = false := by
  have hclosing : (Token.closing tag).opensQuestion = false := rfl
  have hraw : (Token.rawText body).opensQuestion = false := rfl
  simp [tokens, Unasked, hclosing, hraw]

/-- A node that is one question. -/
def IsQuestion (n : Node) : Prop :=
  ∃ t ts, n.tokens = t :: ts ∧ t.opensQuestion = true ∧ t.radioName? = none ∧ Unasked ts

/-- `radioGroups` gives questions in a row one group each, and what stands in front another. -/
theorem radioGroups_questions {ns : List Node} (hns : ∀ n ∈ ns, n.IsQuestion)
    {front back : List Token} (hfront : Unasked front) (hback : Unasked back)
    (hnames : gather Token.radioName? back = []) :
    radioGroups (front ++ (tokensAll ns ++ back)) =
      gather Token.radioName? front :: ns.map fun n => gather Token.radioName? n.tokens := by
  -- What stands behind a question's own first token is the front for the questions that follow.
  induction ns generalizing front with
  | nil =>
    have hall : Unasked (front ++ back) := unasked_append.2 ⟨hfront, hback⟩
    rw [tokensAll, List.nil_append, hall.radioGroups_eq, gather_append, hnames,
      List.append_nil, List.map_nil]
  | cons n ns ih =>
    rw [List.forall_mem_cons] at hns
    obtain ⟨t, ts, htokens, hopens, hname, hts⟩ := hns.1
    have hgroup : gather Token.radioName? n.tokens = gather Token.radioName? ts := by
      rw [htokens, gather_cons, hname, Option.toList_none, List.nil_append]
    rw [tokensAll, List.append_assoc, htokens, List.cons_append, radioGroups_append_cons hopens,
      hfront.radioGroups_eq, ih hns.2 hts, List.map_cons, hgroup]
    rfl

end Node

/-- `radioName?` reads the name of a radio input, as it is escaped. -/
theorem radioName?_input (name : String) (more : List Attr) :
    (Token.opening "input"
      ((⟨"type", "radio"⟩ :: ⟨"name", name⟩ :: more).map Attr.scanned)).radioName? =
      some (escape name) := by
  have htype : escape "radio" = "radio" := by decide
  simp [Token.radioName?, Attr.scanned, List.lookup_cons, htype]

end Html

namespace Fragment

open Node

/-! ## Questions -/

/-- `isUnescaped` holds of the characters of scopes. -/
theorem all_isUnescaped {cs : List Char} (h : ∀ c ∈ cs, isScopeChar c = true) :
    cs.all isUnescaped = true := by
  rw [List.all_eq_true]
  intro c hc
  have hamp : c ≠ '&' := by
    rintro rfl
    exact absurd (h '&' hc) (by decide)
  simp [isUnescaped, isMarkup_of_isScopeChar (h c hc), hamp]

/-- `isUnescaped` holds of the digits of a number. -/
theorem all_isUnescaped_ofNat (n : Nat) : (ofNat n).toList.all isUnescaped = true := by
  rw [toList_ofNat]
  exact all_isUnescaped fun c hc => isScopeChar_of_isDigit (isDigit_of_mem_digitsOf hc)

/-- `escape` leaves `groupName` as it is. -/
theorem escape_groupName {scope : String} (h : IsScope scope) (index : Nat) :
    escape (groupName scope index) = groupName scope index := by
  have hfront : "quiz-".toList.all isUnescaped = true := by decide
  have hscope : scope.toList.all isUnescaped = true := all_isUnescaped h.2
  have hbetween : (isUnescaped '-' && isUnescaped 'q') = true := by decide
  have hindex : (digitsOf index).all isUnescaped = true :=
    all_isUnescaped fun c hc => isScopeChar_of_isDigit (isDigit_of_mem_digitsOf hc)
  apply escape_eq_self
  rw [toList_groupName, List.all_append, List.all_append, List.all_cons, List.all_cons, hfront,
    hscope, hindex, Bool.and_true, hbetween]
  rfl

/-- `quizOption` opens no question. -/
theorem unasked_quizOption (scope : String) (index : Nat) (q : QuizQuestion) (i : Nat)
    (o : QuizOption) : Unasked (quizOption scope index q i o).tokens := by
  unfold quizOption
  dsimp only [styled]
  simp

/-- `quizOption` has one radio input, which carries the name of the group. -/
theorem radioNames_quizOption {scope : String} (h : IsScope scope) (index : Nat) (q : QuizQuestion)
    (i : Nat) (o : QuizOption) :
    gather Token.radioName? (quizOption scope index q i o).tokens = [groupName scope index] := by
  unfold quizOption
  dsimp only [styled]
  rw [gather_element, gather_tokensAll_cons, gather_tokensAll_cons, gather_void,
    List.cons_append, List.cons_append, radioName?_input, escape_groupName h]
  simp

/-- Options in a row open no question. -/
theorem unasked_quizOptions (scope : String) (index : Nat) (q : QuizQuestion) :
    Unasked (tokensAll (q.options.mapIdx (quizOption scope index q))) := by
  apply unasked_tokensAll
  intro n hn
  obtain ⟨i, hi, rfl⟩ := List.mem_mapIdx.1 hn
  exact unasked_quizOption scope index q i _

/-- Options in a row carry the name of the group as often as there are options. -/
theorem radioNames_quizOptions {scope : String} (h : IsScope scope) (index : Nat)
    (q : QuizQuestion) :
    gather Token.radioName? (tokensAll (q.options.mapIdx (quizOption scope index q))) =
      List.replicate q.options.length (groupName scope index) := by
  -- Every answer gives the same name, so the names are as many copies of it as there are answers.
  have hname : ∀ n ∈ q.options.mapIdx (quizOption scope index q),
      gather Token.radioName? n.tokens = [groupName scope index] := by
    intro n hn
    obtain ⟨i, hi, rfl⟩ := List.mem_mapIdx.1 hn
    exact radioNames_quizOption h index q i _
  rw [gather_tokensAll, List.flatMap_congr hname, ← List.map_eq_flatMap, List.map_const',
    List.length_mapIdx]

/-- `forPresent` opens no question if what it draws opens none. -/
@[simp] theorem unasked_forPresent {draw : String → List Node}
    (h : ∀ t, Unasked (tokensAll (draw t))) (field : Option String) :
    Unasked (tokensAll (forPresent field draw)) := by
  unfold forPresent
  split
  · exact h _
  · exact unasked_tokensAll_nil

/-- `gather` reads nothing off `forPresent` if it reads nothing off what that draws. -/
@[simp] theorem gather_forPresent {α : Type} {f : Token → Option α} {draw : String → List Node}
    (h : ∀ t, gather f (tokensAll (draw t)) = []) (field : Option String) :
    gather f (tokensAll (forPresent field draw)) = [] := by
  unfold forPresent
  split
  · exact h _
  · rfl

/-- `opensQuestion` holds of the `div` of a question. -/
theorem opensQuestion_div (more : List Attr) :
    (Token.opening "div" ((⟨"class", "quiz-question"⟩ :: more).map Attr.scanned)).opensQuestion =
      true := by
  have hclass : escape "quiz-question" = "quiz-question" := by decide
  simp [Token.opensQuestion, Attr.scanned, hclass]

/-- `quizQuestion` is one question. -/
theorem isQuestion_quizQuestion (scope : String) (index : Nat) (q : QuizQuestion) :
    (quizQuestion scope index q).IsQuestion := by
  -- Text, image and answers stand inside of the tag that opens the question.
  refine ⟨_, _, rfl, opensQuestion_div _, rfl, ?_⟩
  have hclosing : Unasked [Token.closing "div"] := by simp [Unasked, Token.opensQuestion]
  rw [unasked_append, tokensAll_append, unasked_append, tokensAll_append, unasked_append]
  refine ⟨⟨⟨?_, unasked_forPresent ?_ q.image⟩, unasked_quizOptions scope index q⟩, hclosing⟩
  · simp [styled]
  · simp

/-- `quizQuestion` has one radio input for each option, which carries the name of the group. -/
theorem radioNames_quizQuestion {scope : String} (h : IsScope scope) (index : Nat)
    (q : QuizQuestion) :
    gather Token.radioName? (quizQuestion scope index q).tokens =
      List.replicate q.options.length (groupName scope index) := by
  unfold quizQuestion
  rw [classed, gather_element, tokensAll_append, tokensAll_append, gather_append,
    gather_append, radioNames_quizOptions h, gather_forPresent]
  · simp [styled]
  · simp

/-- `quizQuestion` gives every question the names of its own group. -/
theorem map_radioNames_quizQuestions {scope : String} (h : IsScope scope)
    (questions : List QuizQuestion) :
    ((questions.mapIdx (quizQuestion scope)).map fun n => gather Token.radioName? n.tokens) =
      questions.mapIdx fun k q => List.replicate q.options.length (groupName scope k) := by
  apply List.ext_getElem?
  intro k
  rw [List.getElem?_map, List.getElem?_mapIdx, List.getElem?_mapIdx, Option.map_map]
  apply Option.map_congr
  intro q _
  rw [Function.comp_apply, radioNames_quizQuestion h]

/-! ## The fragment of a quiz -/

/-- `quiz` is its title, its questions, and a rest that opens no question and has no radio input. -/
theorem quiz_eq (scope : String) (c : Quiz) (s : Resolved) (scripts : Bool) :
    ∃ rest, quiz scope c s scripts =
        sectionTitle s c.title ++ (c.questions.mapIdx (quizQuestion scope) ++ rest) ∧
      Unasked (tokensAll rest) ∧ gather Token.radioName? (tokensAll rest) = [] := by
  unfold quiz
  -- Behind the questions come the link and the script, or a remark if there are none.
  cases hquestions : c.questions with
  | nil =>
    refine ⟨[placeholder "No quiz questions available"], rfl, ?_⟩
    simp [placeholder, classed]
  | cons q qs =>
    refine ⟨if scripts then scoring scope (q :: qs).length s else [], rfl, ?_⟩
    split
    · simp [scoring, styled]
    · simp

/-- `envelope` is a table of one cell around the body. -/
theorem envelope_eq (kind : Kind) (s : Resolved) (body : List Node) :
    ∃ outer inner, envelope kind s body =
      .element "table" outer [.element "tr" [] [.element "td" inner body]] := ⟨_, _, rfl⟩

end Fragment

open Node Fragment

/-- `radioGroups` of a quiz are no name in front, and the name of its group for every option of each
question. -/
theorem Block.radioGroups_draw {b : Block} {c : Quiz} (hc : b.content = .quiz c) (theme : Theme)
    (ctx : RenderContext) {scope : String} (h : IsScope scope) :
    radioGroups (tokensAll (b.draw theme ctx scope)) =
      [] :: c.questions.mapIdx fun k q => List.replicate q.options.length (groupName scope k) := by
  obtain ⟨rest, hquiz, hrest, hnames⟩ := quiz_eq scope c (b.resolved .quiz theme) ctx.scripts
  obtain ⟨outer, inner, henvelope⟩ := envelope_eq .quiz (b.resolved .quiz theme)
    (quiz scope c (b.resolved .quiz theme) ctx.scripts)
  have hdraw : b.draw theme ctx scope =
      [.element "table" outer [.element "tr" [] [.element "td" inner
        (sectionTitle (b.resolved .quiz theme) c.title ++
          (c.questions.mapIdx (quizQuestion scope) ++ rest))]]] := by
    rw [← hquiz, ← henvelope, draw, hc]
    rfl
  have hsplit : tokensAll (b.draw theme ctx scope) =
      [.opening "table" (outer.map Attr.scanned), .opening "tr" [],
          .opening "td" (inner.map Attr.scanned)] ++
        tokensAll (sectionTitle (b.resolved .quiz theme) c.title) ++
      (tokensAll (c.questions.mapIdx (quizQuestion scope)) ++
        (tokensAll rest ++ [.closing "td", .closing "tr", .closing "table"])) := by
    simp [hdraw, tokens, tokensAll]
  have htitle : Unasked (tokensAll (sectionTitle (b.resolved .quiz theme) c.title)) :=
    unasked_forPresent (by simp [styled]) c.title
  have htitleNames :
      gather Token.radioName? (tokensAll (sectionTitle (b.resolved .quiz theme) c.title)) = [] :=
    gather_forPresent (by simp [styled]) c.title
  -- The questions, with the title in front of them and the link and the script behind.
  rw [hsplit, radioGroups_questions]
  · rw [gather_append, htitleNames, List.append_nil]
    exact congrArg _ (map_radioNames_quizQuestions h c.questions)
  · intro n hn
    obtain ⟨k, hk, rfl⟩ := List.mem_mapIdx.1 hn
    exact isQuestion_quizQuestion scope k _
  · rw [unasked_append]
    exact ⟨by simp [Unasked], htitle⟩
  · rw [unasked_append]
    exact ⟨hrest, by simp [Unasked, Token.opensQuestion]⟩
  · rw [gather_append, hnames]
    rfl

end Bulletin
