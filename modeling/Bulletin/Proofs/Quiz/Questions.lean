import Bulletin.Proofs.Double.Value
import Bulletin.Proofs.Lint.Drawing
import Bulletin.Proofs.Markup.Escaping
import Bulletin.Proofs.Markup.Matching

/-!
# The questions of a quiz

A quiz is drawn as one element for each question, and each question has one radio input for each of
its answers.  What a scanner of HTML finds in the fragment is these elements and inputs and no
others, whatever the texts of the quiz are.

An answer is right if it is marked, or if its position is what is left of the number the question
names when the fraction is cut off.  That number may be negative or too large, and then it is the
position of no answer.

## Main statements

- `QuizQuestion.isCorrect_iff`: which answers are right
- `QuizQuestion.drawnBy_inside`: the answers of a question
- `Block.quiz_drawn_completely`: the questions of a quiz
-/

namespace Bulletin

open Html Node Fragment Text

/-! ## Right answers -/

namespace QuizQuestion

variable {q : QuizQuestion} {i j : Nat}

/-- The question names this position: it is the whole part of a number that is not negative. -/
def Names (q : QuizQuestion) (j : Nat) : Prop :=
  ∃ a, q.correctAnswer = some a ∧ 0 ≤ a.value ∧ ⌊a.value⌋ = j

/-- The option at this position is marked. -/
def Marks (q : QuizQuestion) (j : Nat) : Prop := ∃ o, q.options[j]? = some o ∧ o.correct = true

/-- `isCorrect` holds of the positions that are marked or named. -/
theorem isCorrect_iff : q.isCorrect j = true ↔ q.Marks j ∨ q.Names j := by
  have hnames : ∀ a : Double, (a.nonneg && a.whole == j) = true ↔ 0 ≤ a.value ∧ ⌊a.value⌋ = j := by
    intro a
    rw [Bool.and_eq_true, beq_iff_eq, Double.nonneg_iff]
    apply and_congr_right
    intro hnonneg
    rw [Double.floor_value hnonneg, Nat.cast_inj]
  -- The program asks for the named position first.
  rw [isCorrect, Bool.or_eq_true, or_comm]
  apply or_congr
  · cases ho : q.options[j]? <;> simp [Marks, ho]
  · cases ha : q.correctAnswer with
    | none => simp [Names, ha]
    | some a => simp [Names, ha, hnames a]

/-- `Names` holds of one position at most. -/
theorem Names.unique (hi : q.Names i) (hj : q.Names j) : i = j := by
  obtain ⟨a, ha, -, hi⟩ := hi
  obtain ⟨a', ha', -, hj⟩ := hj
  obtain rfl := Option.some.inj (ha.symm.trans ha')
  exact Nat.cast_inj.1 (hi.symm.trans hj)

/-- `Names` holds of no option's position if the number is negative or too large. -/
theorem not_names_of_outside {a : Double} (ha : q.correctAnswer = some a)
    (hout : a.value < 0 ∨ (q.options.length : ℚ) ≤ a.value) (hj : j < q.options.length) :
    ¬q.Names j := by
  rintro ⟨a', ha', hnonneg, hfloor⟩
  obtain rfl := Option.some.inj (ha.symm.trans ha')
  obtain hneg | hlarge := hout
  · exact absurd hnonneg (not_le.2 hneg)
  · -- The whole part of a number is still as large as any whole number below it.
    have hlength : (q.options.length : ℤ) ≤ ⌊a.value⌋ := Int.le_floor.2 (by exact_mod_cast hlarge)
    omega

end QuizQuestion

/-! ## Questions and answers -/

/-- The tag of a paragraph. -/
abbrev Html.paragraphTag : Token → Option (List (String × String)) := Token.tagged "p" fun _ => true

/-- What stands in a question, as a scanner sees it. -/
structure QuizQuestion.DrawnBy (q : QuizQuestion) (scope : String) (k : Nat) (ts : List Token) :
    Prop where
  /-- The one paragraph holds the number of the question, from one, and its text. -/
  text : (contents paragraphTag "p" ts).map textOf =
    [escapeChars (toString (k + 1) ++ ". " ++ q.question.getD "").toList]
  /-- A radio input for each option, in order: its group, its value, and the text behind it. -/
  inputs : (elements radioTag ts).map (fun input =>
      (input.1.lookup "name", input.1.lookup "value", input.2)) =
    q.options.mapIdx fun j o => (some ("quiz-" ++ scope ++ "-q" ++ toString k), some (toString j),
      (' ' :: escapeChars o.text.toList).map .text)
  /-- The right answers are marked, and the others are not. -/
  marks : ∀ j input, (elements radioTag ts)[j]? = some input →
    (input.1.lookup "data-correct" = some "true" ↔ q.Marks j ∨ q.Names j) ∧
      (input.1.lookup "data-correct" = none ↔ ¬(q.Marks j ∨ q.Names j))
  /-- If only the question itself says what is right, it says so of one answer at most. -/
  single : (∀ o ∈ q.options, o.correct = false) →
    (elements radioTag ts).countP (fun input => input.1.lookup "data-correct" ≠ none) ≤ 1
  /-- It says so of none if the number it names is negative or too large. -/
  unanswered : (∀ o ∈ q.options, o.correct = false) → ∀ a, q.correctAnswer = some a →
    a.value < 0 ∨ (q.options.length : ℚ) ≤ a.value →
    ∀ input ∈ elements radioTag ts, input.1.lookup "data-correct" = none

/-- `countP p` is one at most if `p` holds at one position at most. -/
theorem countP_le_one {α : Type} {p : α → Bool} {xs : List α}
    (h : ∀ (i j : Nat) (x y : α), xs[i]? = some x → xs[j]? = some y → p x = true → p y = true →
      i = j) : xs.countP p ≤ 1 := by
  induction xs with
  | nil => simp
  | cons x xs ih =>
    by_cases hx : p x = true
    · have hnone : ∀ y ∈ xs, ¬p y = true := by
        intro y hy hpy
        obtain ⟨j, hj⟩ := List.getElem?_of_mem hy
        exact absurd (h 0 (j + 1) x y rfl hj hx hpy) (Nat.succ_ne_zero j).symm
      rw [List.countP_cons_of_pos hx, List.countP_eq_zero.2 hnone]
    · rw [List.countP_cons_of_neg hx]
      apply ih
      intro i j y z hy hz hpy hpz
      exact Nat.succ.inj (h (i + 1) (j + 1) y z hy hz hpy hpz)

namespace Fragment

/-- The attributes of a radio input, as they are scanned. -/
def radioAttrs (scope : String) (index : Nat) (q : QuizQuestion) (j : Nat) :
    List (String × String) :=
  [("type", "radio"), ("name", groupName scope index), ("value", toString j)] ++
    if q.isCorrect j then [("data-correct", "true")] else []

/-- `escape` leaves a number as it is. -/
theorem escape_ofNat (n : Nat) : escape (ofNat n) = toString n :=
  escape_eq_self (all_isUnescaped_ofNat n)

/-- `quizOption` yields one radio input, with its text behind it. -/
theorem yields_quizOption {scope : String} (hscope : IsScope scope) (index : Nat)
    (q : QuizQuestion) (j : Nat) (o : QuizOption) :
    Yields radioTag [quizOption scope index q j o]
      [(radioAttrs scope index q j, (' ' :: escapeChars o.text.toList).map .text)] := by
  have hradio : escape "radio" = "radio" := by decide
  have htrue : escape "true" = "true" := by decide
  have hattrs : (([⟨"type", "radio"⟩, ⟨"name", groupName scope index⟩, ⟨"value", ofNat j⟩] ++
      if q.isCorrect j then [⟨"data-correct", "true"⟩] else [] : List Attr).map Attr.scanned) =
        radioAttrs scope index q j := by
    cases hcorrect : q.isCorrect j <;>
      simp [radioAttrs, Attr.scanned, hcorrect, hradio, htrue, escape_groupName hscope,
        escape_ofNat]
  -- The text of an option follows its input, and both stand in one label.
  have hread : radioTag (.opening "input" (radioAttrs scope index q j)) =
      some (radioAttrs scope index q j) := by
    simp [radioAttrs, carries]
  have htext : tokensAll [text (" " ++ o.text)] =
      (' ' :: escapeChars o.text.toList).map .text := by
    simp [tokensAll, tokens, escapeChars_cons]
    rfl
  rw [← htext]
  apply Yields.wrapped_void
  · simp
  · rw [hattrs, hread]
  · simp
  · exact .of_gather (by simp)

/-- `quizQuestion` yields the inputs of its options, in order. -/
theorem exists_yields_quizQuestion {scope : String} (hscope : IsScope scope) (index : Nat)
    (q : QuizQuestion) :
    ∃ attrs children, quizQuestion scope index q = .element "div" attrs children ∧
      Yields radioTag children (q.options.mapIdx fun j o =>
        (radioAttrs scope index q j, (' ' :: escapeChars o.text.toList).map .text)) := by
  have hoptions := Yields.mapIdx (yields_quizOption hscope index q) q.options
  -- In front of the options is the paragraph of the question, which holds no input.
  refine ⟨_, _, rfl, (Yields.of_gather ?_).append hoptions⟩
  simp [styled]

/-- `elements` of a question are the inputs of its options, in order. -/
theorem elements_inside {scope : String} (hscope : IsScope scope) (index : Nat)
    (q : QuizQuestion) :
    elements radioTag (quizQuestion scope index q).inside = q.options.mapIdx fun j o =>
      (radioAttrs scope index q j, (' ' :: escapeChars o.text.toList).map .text) := by
  obtain ⟨attrs, children, hquestion, hchildren⟩ := exists_yields_quizQuestion hscope index q
  rw [hquestion]
  exact hchildren.elements_eq

/-- `quizQuestion` has one paragraph, with its number and its text. -/
theorem textOf_paragraph (scope : String) (k : Nat) (q : QuizQuestion) :
    (contents paragraphTag "p" (quizQuestion scope k q).inside).map textOf =
      [escapeChars (toString (k + 1) ++ ". " ++ q.question.getD "").toList] := by
  have hoptions :
      gather paragraphTag (tokensAll (q.options.mapIdx (quizOption scope k q))) = [] := by
    apply gather_tokensAll_eq_nil
    intro n hn
    obtain ⟨i, hi, rfl⟩ := List.mem_mapIdx.1 hn
    simp [quizOption, styled]
  have hgives : (styled "p" "margin: 0 0 8px 0; font-size: 16px; font-weight: bold;"
      [.text (ofNat (k + 1) ++ ". " ++ q.question.getD "")]).Gives paragraphTag "p" :=
    gives_element (by simp) (by simp) (by simp)
  rw [quizQuestion, classed, inside, List.append_assoc, List.singleton_append, tokensAll, hgives]
  -- Behind the paragraph there are only options, and they hold none.
  rw [contents_eq_nil_of_gather (by simp [hoptions])]
  simp only [styled, inside, List.map_cons, textOf_tokensAll_cons, textOf_text,
    textOf_tokensAll_nil, List.append_nil, List.map_nil]
  rfl

end Fragment

namespace QuizQuestion

variable {scope : String} {k : Nat} {input : List (String × String) × List Token}

/-- `data-correct` stands on the input of an option for which `isCorrect` holds, and on no other. -/
theorem lookup_correct_inside (hscope : IsScope scope)
    (h : (elements radioTag (quizQuestion scope k q).inside)[j]? = some input) :
    input.1.lookup "data-correct" = if q.isCorrect j then some "true" else none := by
  rw [elements_inside hscope, List.getElem?_mapIdx, Option.map_eq_some_iff] at h
  obtain ⟨o, -, rfl⟩ := h
  cases hcorrect : q.isCorrect j <;> simp [radioAttrs, hcorrect, List.lookup_cons]

/-- `data-correct` stands only on the option the question names, if no option is marked. -/
theorem names_of_lookup_correct (hscope : IsScope scope)
    (hplain : ∀ o ∈ q.options, o.correct = false)
    (h : (elements radioTag (quizQuestion scope k q).inside)[j]? = some input)
    (hmark : input.1.lookup "data-correct" ≠ none) : q.Names j := by
  have hcorrect : q.isCorrect j = true := by
    by_contra hwrong
    exact hmark (by rw [lookup_correct_inside hscope h, if_neg hwrong])
  obtain ⟨o, ho, hmarked⟩ | hnames := isCorrect_iff.1 hcorrect
  · rw [hplain o (List.mem_of_getElem? ho)] at hmarked
    cases hmarked
  · exact hnames

/-- `quizQuestion` satisfies `DrawnBy`. -/
theorem drawnBy_inside (q : QuizQuestion) (hscope : IsScope scope) (k : Nat) :
    q.DrawnBy scope k (quizQuestion scope k q).inside where
  text := textOf_paragraph scope k q
  inputs := by
    rw [elements_inside hscope]
    apply List.ext_getElem?
    intro j
    rw [List.getElem?_map, List.getElem?_mapIdx, List.getElem?_mapIdx, Option.map_map]
    apply Option.map_congr
    intro o _
    simp [radioAttrs, List.lookup_cons]
    rfl
  marks j input hinput := by
    rw [lookup_correct_inside hscope hinput, ← isCorrect_iff]
    cases q.isCorrect j <;> simp
  single hplain := by
    apply countP_le_one
    intro i j x y hi hj hx hy
    -- Two marked inputs would be two positions that the question names.
    have hnames := names_of_lookup_correct hscope hplain hi (of_decide_eq_true hx)
    exact hnames.unique (names_of_lookup_correct hscope hplain hj (of_decide_eq_true hy))
  unanswered hplain a ha hout input hinput := by
    by_contra hmark
    obtain ⟨j, hj⟩ := List.getElem?_of_mem hinput
    have hlt : j < q.options.length := by
      rw [elements_inside hscope] at hj
      simpa using (List.getElem?_eq_some_iff.1 hj).1
    exact not_names_of_outside ha hout hlt (names_of_lookup_correct hscope hplain hj hmark)

end QuizQuestion

/-! ## Quizzes -/

/-- The questions of a quiz, as a scanner sees them. -/
structure Quiz.DrawnBy (c : Quiz) (scope : String) (ts : List Token) : Prop where
  /-- There are as many as the quiz has. -/
  count : (contents questionTag "div" ts).length = c.questions.length
  /-- They come in order, each with its answers. -/
  questions : ∀ (k : Nat) (q : QuizQuestion), c.questions[k]? = some q →
    ∃ question, (contents questionTag "div" ts)[k]? = some question ∧ q.DrawnBy scope k question
  /-- No radio input stands elsewhere. -/
  inputs : elements radioTag ts = (contents questionTag "div" ts).flatMap (elements radioTag)

/-- `quiz` yields the inputs of its questions and no others. -/
theorem Fragment.yields_quiz {scope : String} (hscope : IsScope scope) (c : Quiz) (s : Resolved)
    (scripts : Bool) :
    Yields radioTag (quiz scope c s scripts)
      ((c.questions.mapIdx (quizQuestion scope)).flatMap fun n => elements radioTag n.inside) := by
  have htitle : gather radioTag (tokensAll (sectionTitle s c.title)) = [] :=
    gather_forPresent (by simp [styled]) c.title
  have hquestion : ∀ n ∈ c.questions.mapIdx (quizQuestion scope),
      Yields radioTag [n] (elements radioTag n.inside) := by
    intro n hn
    obtain ⟨k, hk, rfl⟩ := List.mem_mapIdx.1 hn
    rw [elements_inside hscope]
    obtain ⟨attrs, children, hquestion, hchildren⟩ :=
      exists_yields_quizQuestion hscope k c.questions[k]
    rw [hquestion]
    exact .wrapped (by simp) hchildren
  rw [quiz]
  refine (Yields.of_gather htitle).append ?_
  split
  · rename_i hempty
    rw [List.isEmpty_iff.1 hempty]
    exact .of_gather (by simp [placeholder, classed])
  · -- The link and the script come behind the questions and hold no input.
    have hscoring : gather radioTag (tokensAll (if scripts then
        scoring scope c.questions.length s else [])) = [] := by
      split <;> simp [scoring, styled]
    have hall := (Yields.flatMap hquestion).append (.of_gather hscoring)
    rwa [List.append_nil] at hall

/-- A quiz is drawn with all its questions, and each of them with all its answers. -/
theorem Block.quiz_drawn_completely {b : Block} {c : Quiz} (hc : b.content = .quiz c)
    (theme : Theme) (ctx : RenderContext) :
    ∃ ts, scan (b.render theme ctx).toList = some ts ∧ c.DrawnBy (scopeOf b.id) ts := by
  have hscope := isScope_scopeOf b.id
  have hkind : b.content.kind? = some .quiz := by rw [hc]; rfl
  -- The questions that the scanner finds are those of the quiz, in order.
  have hquestions := b.contents_questionTag_draw hc theme ctx (scopeOf b.id)
  refine ⟨_, scan_render theme ctx (by rw [hc]; rfl), ?_, ?_, ?_⟩
  · rw [hquestions, List.length_map, List.length_mapIdx]
  · intro k q hq
    refine ⟨_, ?_, q.drawnBy_inside hscope k⟩
    rw [hquestions, List.getElem?_map, List.getElem?_mapIdx, hq]
    rfl
  · -- The envelope has no input of its own.
    rw [hquestions, List.flatMap_map, b.draw_of_kind? hkind, hc]
    have hbody := yields_quiz hscope c (b.resolved .quiz theme) ctx.scripts
    refine Yields.elements_eq (.wrapped ?_ (.wrapped ?_ (.wrapped ?_ hbody)))
    · simp
    · simp
    · simp

/-- The text of the first answer is no input, and one and a half names the second one. -/
theorem Block.quiz_drawn_completely_half :
    let half : Double := ⟨false, 1023 * twoPow 52 + twoPow 51, by decide⟩
    let q : QuizQuestion :=
      ⟨some "1 + 1?", none, [⟨"<input type=\"radio\">", false⟩, ⟨"2", false⟩], some half⟩
    let b : Block := ⟨"q 1", .quiz ⟨none, [q]⟩, none⟩
    b.content = .quiz ⟨none, [q]⟩ ∧ ∃ ts question input,
      scan (b.render .standard ⟨2024, true⟩).toList = some ts ∧
      (contents questionTag "div" ts)[0]? = some question ∧
      (elements radioTag question).length = 2 ∧ (elements radioTag question)[1]? = some input ∧
      input.1.lookup "data-correct" = some "true" := by
  intro half q b
  obtain ⟨ts, hscan, hdrawn⟩ := Block.quiz_drawn_completely (b := b) rfl .standard ⟨2024, true⟩
  obtain ⟨question, hquestion, hanswers⟩ := hdrawn.questions 0 q rfl
  have hlength : (elements radioTag question).length = 2 := by
    have hoptions : q.options.length = 2 := rfl
    simpa [hoptions] using congrArg List.length hanswers.inputs
  have hinput : (elements radioTag question)[1]? = some (elements radioTag question)[1] :=
    List.getElem?_eq_getElem _
  have hcorrect : q.isCorrect 1 = true := by decide +kernel
  exact ⟨rfl, ts, question, _, hscan, hquestion, hlength, hinput,
    (hanswers.marks 1 _ hinput).1.2 (QuizQuestion.isCorrect_iff.1 hcorrect)⟩

end Bulletin
