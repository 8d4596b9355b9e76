import Bulletin.Proofs.Quiz.Scope
import Bulletin.Proofs.Text.Literal
import Bulletin.Proofs.Text.Occurrence

/-!
# The scoring script

The script is a frame with gaps: the end of the function's name, the number of questions, which
stands twice, and the scope in the names of the groups.  Filling a mark fills each gap on its own,
since the characters around the gaps do not occur in a mark.  The second mark is looked for in the
scope as well, which the first one has put there.

## Main statements

- `toList_scoreScript_eq`: the script is the frame, with the second mark filled in its gaps
- `wordsAfter_function`, `wordsAfter_bound`, `wordsAfter_total`, `wordsAfter_input`: what the script
  names and counts
-/

namespace Bulletin.Fragment

open Text

/-- `scoreScript` is the template with `scopeMark` replaced first and `totalMark` then. -/
theorem toList_scoreScript (scope : String) (total : Nat) :
    (scoreScript scope total).toList = replaceAll totalMark (digitsOf total)
      (replaceAll scopeMark scope.toList scriptTemplate.toList) := String.toList_ofList

/-- `scoreScript` holds characters of the template, of the scope, and digits. -/
theorem mem_scoreScript {scope : String} {total : Nat} {c : Char}
    (h : c ∈ (scoreScript scope total).toList) :
    c ∈ scriptTemplate.toList ∨ c ∈ scope.toList ∨ c.isDigit = true := by
  rw [toList_scoreScript] at h
  rcases mem_replaceAll h with hdigit | hfilled
  · exact .inr (.inr (isDigit_of_mem_digitsOf hdigit))
  · rcases mem_replaceAll hfilled with hscope | htemplate
    · exact .inr (.inl hscope)
    · exact .inl htemplate

/-- `scriptTemplate` holds no slash. -/
theorem slash_notMem_scriptTemplate : '/' ∉ scriptTemplate.toList := by
  -- The template is joined from nine literals, which are looked at one by one.
  have hall : (scriptTemplate.toList.all fun c => c ≠ '/') = true := by
    unfold scriptTemplate
    simp only [String.toList_append, List.all_append, Bool.and_eq_true, and_assoc]
    refine ⟨?_, ?_, ?_, ?_, ?_, ?_, ?_, ?_, ?_⟩
    all_goals exact all_toList_ofList (by decide)
  intro hmem
  simpa using List.all_eq_true.1 hall '/' hmem

/-- `scoreScript` holds no slash. -/
theorem slash_notMem_scoreScript {scope : String}
    (hscope : ∀ c ∈ scope.toList, isScopeChar c = true) (total : Nat) :
    '/' ∉ (scoreScript scope total).toList := by
  intro hmem
  rcases mem_scoreScript hmem with htemplate | hin | hdigit
  · exact slash_notMem_scriptTemplate htemplate
  · exact notMem_of_isScopeChar hscope (by decide) hin
  · exact absurd hdigit (by decide)

/-! ## The frame of the script -/

/-- The script up to its function's name. -/
def scriptHead : String := "function scoreQui"

/-- From the function's name to the bound of its loop. -/
def scriptLoop : String := ") \x7bvar score = 0;for (var i = 0; i < "

/-- From there to the scope in the name of a group. -/
def scriptQuery : String := " i++) \x7bvar picked = document.querySelector('input[name=\"quiz"

/-- From there to the end of the query. -/
def scriptIndex : String := "q' + i + '\"]:checked')"

/-- From there to the end of the test. -/
def scriptTest : String :=
  "if (picked && picked.getAttribute('data-correct') === 'true') \x7b score++"

/-- From there to the number that the score is out of. -/
def scriptAlert : String := " \x7d\x7dalert('You scored ' + score + ' out of "

/-- The end of the script. -/
def scriptTail : String := "');return false;\x7d"

/-- The characters around the gaps. -/
def scriptCuts : List Char := ['z', '(', ';', '-', '!']

/-- A script with the gaps filled: the end of the function's name, the number, and the scope. -/
def scriptFrame (name total scope : List Char) : List Char :=
  scriptHead.toList ++ 'z' :: (name ++ '(' :: (scriptLoop.toList ++ (total ++ ';' ::
    (scriptQuery.toList ++ '-' :: (scope ++ '-' :: (scriptIndex.toList ++ ';' ::
      (scriptTest.toList ++ ';' :: (scriptAlert.toList ++ (total ++ '!' ::
        scriptTail.toList)))))))))

/-- `scriptTemplate` is the frame with the marks in its gaps. -/
theorem toList_scriptTemplate :
    scriptTemplate.toList = scriptFrame ('_' :: scopeMark) totalMark scopeMark := by
  have hsplit : scriptTemplate =
      scriptHead ++ "z___ID__(" ++ scriptLoop ++ "__TOTAL__;" ++ scriptQuery ++ "-__ID__-" ++
        scriptIndex ++ ";" ++ scriptTest ++ ";" ++ scriptAlert ++ "__TOTAL__!" ++ scriptTail := by
    -- Each line of the template is cut around its marks, and the pieces between the marks joined.
    have hhead : "function scoreQuiz___ID__() \x7b" =
        scriptHead ++ "z___ID__(" ++ ") \x7b" := by rfl
    have hbound : "for (var i = 0; i < __TOTAL__; i++) \x7b" =
        "for (var i = 0; i < " ++ "__TOTAL__;" ++ " i++) \x7b" := by rfl
    have hscope :
        "var picked = document.querySelector('input[name=\"quiz-__ID__-q' + i + '\"]:checked');" =
        "var picked = document.querySelector('input[name=\"quiz" ++ "-__ID__-" ++ scriptIndex ++
          ";" := by rfl
    have htest :
        "if (picked && picked.getAttribute('data-correct') === 'true') \x7b score++; \x7d" =
          scriptTest ++ ";" ++ " \x7d" := by rfl
    have hcount : "alert('You scored ' + score + ' out of __TOTAL__!');" =
        "alert('You scored ' + score + ' out of " ++ "__TOTAL__!" ++ "');" := by rfl
    have hloop : scriptLoop = ") \x7b" ++ "var score = 0;" ++ "for (var i = 0; i < " := by rfl
    have hquery : scriptQuery =
        " i++) \x7b" ++ "var picked = document.querySelector('input[name=\"quiz" := by rfl
    have halert : scriptAlert = " \x7d" ++ "\x7d" ++ "alert('You scored ' + score + ' out of " := by
      rfl
    have htail : scriptTail = "');" ++ "return false;" ++ "\x7d" := by rfl
    unfold scriptTemplate
    rw [hhead, hbound, hscope, htest, hcount, hloop, hquery, halert, htail]
    simp only [String.append_assoc]
  have hname : "z___ID__(".toList = 'z' :: ('_' :: scopeMark ++ ['(']) := by rfl
  have hbound : "__TOTAL__;".toList = totalMark ++ [';'] := by rfl
  have hscope : "-__ID__-".toList = '-' :: (scopeMark ++ ['-']) := by rfl
  have hcount : "__TOTAL__!".toList = totalMark ++ ['!'] := by rfl
  have hend : ";".toList = [';'] := by rfl
  rw [hsplit]
  simp only [scriptFrame, String.toList_append, hname, hbound, hscope, hcount, hend,
    List.append_assoc, List.cons_append, List.nil_append]

/-- The pieces of the frame hold no underscore, so no mark begins in them. -/
theorem underscore_notMem {s : String}
    (hs : s ∈ [scriptHead, scriptLoop, scriptQuery, scriptIndex, scriptTest, scriptAlert,
      scriptTail]) : '_' ∉ s.toList := by
  have hall : (s.toList.all fun c => c ≠ '_') = true := by
    simp only [List.mem_cons, List.not_mem_nil, or_false] at hs
    rcases hs with rfl | rfl | rfl | rfl | rfl | rfl | rfl
    all_goals exact all_toList_ofList (by decide)
  intro hmem
  simpa using List.all_eq_true.1 hall '_' hmem

/-- `scriptCuts` hold no character of `pattern`, so no mark reaches across them. -/
theorem cuts_notMem {pattern : List Char}
    (h : (scriptCuts.all fun c => !pattern.contains c) = true) : ∀ c ∈ scriptCuts, c ∉ pattern := by
  intro c hc
  simpa using List.all_eq_true.1 h c hc

/-- `replaceAll` fills the gaps of `scriptFrame` one by one. -/
theorem replaceAll_scriptFrame {pattern replacement ps : List Char} (hpattern : pattern = '_' :: ps)
    (hcuts : ∀ c ∈ scriptCuts, c ∉ pattern) (name total scope : List Char) :
    replaceAll pattern replacement (scriptFrame name total scope) =
      scriptFrame (replaceAll pattern replacement name) (replaceAll pattern replacement total)
        (replaceAll pattern replacement scope) := by
  have hpiece : ∀ s ∈ [scriptHead, scriptLoop, scriptQuery, scriptIndex, scriptTest, scriptAlert,
      scriptTail], ∀ ys, replaceAll pattern replacement (s.toList ++ ys) =
        s.toList ++ replaceAll pattern replacement ys := by
    intro s hs ys
    rw [hpattern]
    exact replaceAll_append_of_notMem (underscore_notMem hs) ys
  -- Every cut splits the frame: what is left are pieces without a mark and the three gaps.
  have htail : replaceAll pattern replacement scriptTail.toList = scriptTail.toList := by
    have hnil := hpiece scriptTail (by simp) []
    simpa [replaceAll] using hnil
  have hz := hcuts 'z' (by decide)
  have hparen := hcuts '(' (by decide)
  have hsemicolon := hcuts ';' (by decide)
  have hdash := hcuts '-' (by decide)
  have hbang := hcuts '!' (by decide)
  unfold scriptFrame
  rw [hpiece scriptHead (by simp), replaceAll_cons_of_notMem hz, replaceAll_append_cons hparen,
    hpiece scriptLoop (by simp), replaceAll_append_cons hsemicolon,
    hpiece scriptQuery (by simp), replaceAll_cons_of_notMem hdash, replaceAll_append_cons hdash,
    hpiece scriptIndex (by simp), replaceAll_cons_of_notMem hsemicolon,
    hpiece scriptTest (by simp), replaceAll_cons_of_notMem hsemicolon,
    hpiece scriptAlert (by simp), replaceAll_append_cons hbang, htail]

/-- `scoreScript` is `scriptFrame`, with `totalMark` replaced in the gaps that the scope has filled.
-/
theorem toList_scoreScript_eq (scope : String) (total : Nat) :
    (scoreScript scope total).toList =
      scriptFrame (replaceAll totalMark (digitsOf total) ('_' :: scope.toList)) (digitsOf total)
        (replaceAll totalMark (digitsOf total) scope.toList) := by
  have hscopeMark : scopeMark = '_' :: "_ID__".toList := by decide
  have htotalMark : totalMark = '_' :: "_TOTAL__".toList := by decide
  have hname : replaceAll scopeMark scope.toList ('_' :: scopeMark) = '_' :: scope.toList := by
    rw [replaceAll, if_neg (by decide), replaceAll_self (by decide)]
  -- The mark of the number is not one of the scope, so it is still there for the second pass.
  have htotal : replaceAll scopeMark scope.toList totalMark = totalMark := by
    have hmark : 'I' ∈ scopeMark := by decide
    apply replaceAll_of_not_infix
    intro hoccurs
    exact absurd (hoccurs.mem hmark) (by decide)
  have hscopeCuts : ∀ c ∈ scriptCuts, c ∉ scopeMark := cuts_notMem (by decide)
  have htotalCuts : ∀ c ∈ scriptCuts, c ∉ totalMark := cuts_notMem (by decide)
  rw [toList_scoreScript, toList_scriptTemplate, replaceAll_scriptFrame hscopeMark hscopeCuts,
    hname, htotal, replaceAll_self (by decide), replaceAll_scriptFrame htotalMark htotalCuts,
    replaceAll_self (by decide)]

/-! ## The words of the script -/

/-- A mark that stands in the pieces of the frame only. -/
structure IsScriptMark (mark : String) (name total scope : List Char) : Prop where
  ne_nil : mark.toList ≠ []
  cuts : ∀ c ∈ scriptCuts, c ∉ mark.toList
  name : after mark.toList name = []
  total : ∀ c ∈ total, c ∉ mark.toList
  scope : after mark.toList scope = []

/-- `wordsAfter` finds in `scriptFrame` what it finds in its pieces. -/
theorem wordsAfter_scriptFrame {mark : String} {name total scope : List Char}
    (h : IsScriptMark mark name total scope) (stop : Char) :
    ∃ r₁ r₂ r₃ r₄ r₅ r₆, wordsAfter mark stop (scriptFrame name total scope) =
      wordsFrom mark stop scriptHead.toList ('z' :: (name ++ '(' :: r₁)) ++
      (wordsFrom mark stop scriptLoop.toList (total ++ ';' :: r₂) ++
      (wordsFrom mark stop scriptQuery.toList
        ('-' :: (scope ++ '-' :: (scriptIndex.toList ++ r₃))) ++
      (wordsFrom mark stop scriptIndex.toList r₄ ++
      (wordsFrom mark stop scriptTest.toList r₅ ++
      (wordsFrom mark stop scriptAlert.toList (total ++ '!' :: r₆) ++
      wordsFrom mark stop scriptTail.toList []))))) := by
  have hz := h.cuts 'z' (by decide)
  have hparen := h.cuts '(' (by decide)
  have hsemicolon := h.cuts ';' (by decide)
  have hdash := h.cuts '-' (by decide)
  have hbang := h.cuts '!' (by decide)
  unfold scriptFrame
  -- A number is a gap that goes with its piece; a name or a scope is a piece without words.
  rw [wordsAfter_cut h.ne_nil hz, wordsAfter_cut h.ne_nil hparen, wordsFrom_eq_nil h.name,
    wordsAfter_piece h.ne_nil hsemicolon h.total, wordsAfter_cut h.ne_nil hdash,
    wordsAfter_cut h.ne_nil hdash, wordsFrom_eq_nil h.scope, wordsAfter_cut h.ne_nil hsemicolon,
    wordsAfter_cut h.ne_nil hsemicolon, wordsAfter_piece h.ne_nil hbang h.total,
    wordsAfter_eq_wordsFrom, List.nil_append, List.nil_append]
  exact ⟨_, _, _, _, _, _, rfl⟩

/-- A mark without digits and cuts, and with a character that no scope holds. -/
def isFrameMark (mark : String) : Bool :=
  mark.toList.any (fun c => !isScopeChar c) &&
    mark.toList.all fun c => !c.isDigit && !scriptCuts.contains c

/-- `IsScriptMark` holds of a frame mark if the gaps are filled with scopes and numbers. -/
theorem isScriptMark_of_isFrameMark {mark : String} (h : isFrameMark mark = true)
    {name scope : List Char} (hname : ∀ c ∈ name, isScopeChar c = true)
    (hscope : ∀ c ∈ scope, isScopeChar c = true) (n : Nat) :
    IsScriptMark mark name (digitsOf n) scope := by
  rw [isFrameMark, Bool.and_eq_true, List.any_eq_true, List.all_eq_true] at h
  obtain ⟨⟨c, hc, hfree⟩, hall⟩ := h
  rw [Bool.not_eq_true'] at hfree
  refine ⟨List.ne_nil_of_mem hc, ?_, after_eq_nil hc (notMem_of_isScopeChar hname hfree), ?_,
    after_eq_nil hc (notMem_of_isScopeChar hscope hfree)⟩
  · intro d hd hmem
    have hd' := hall d hmem
    simp [hd] at hd'
  · intro d hd hmem
    have hd' := hall d hmem
    simp [isDigit_of_mem_digitsOf hd] at hd'

section Words

variable {name scope : List Char} (hname : ∀ c ∈ name, isScopeChar c = true)
  (hscope : ∀ c ∈ scope, isScopeChar c = true) (n : Nat)

include hname hscope

/-- `scriptFrame` defines one function, whose name ends with the first gap. -/
theorem wordsAfter_function :
    wordsAfter "function " '(' (scriptFrame name (digitsOf n) scope) =
      ["scoreQuiz".toList ++ name] := by
  have hmark : isFrameMark "function " = true := by decide
  have hhead : after "function ".toList scriptHead.toList = ["scoreQui".toList] :=
    after_toList_ofList (by decide +kernel)
  have hnil : ∀ s ∈ [scriptLoop, scriptQuery, scriptIndex, scriptTest, scriptAlert, scriptTail],
      after "function ".toList s.toList = [] := by
    simp only [List.forall_mem_cons]
    refine ⟨?_, ?_, ?_, ?_, ?_, ?_, List.forall_mem_nil _⟩
    all_goals exact after_toList_ofList (by decide +kernel)
  have hstop : '(' ∉ "scoreQuiz".toList ++ name := by
    rw [List.mem_append, not_or]
    exact ⟨by decide, notMem_of_isScopeChar hname (by decide)⟩
  have hsplit : "scoreQui".toList ++ 'z' :: name = "scoreQuiz".toList ++ name := by rfl
  -- Of the words of all pieces the one of the head is left.
  obtain ⟨r₁, r₂, r₃, r₄, r₅, r₆, hwords⟩ :=
    wordsAfter_scriptFrame (isScriptMark_of_isFrameMark hmark hname hscope n) '('
  rw [hwords]
  simp only [wordsFrom, hhead, hnil, List.mem_cons, true_or, or_true, List.map_nil, List.map_cons,
    List.append_nil]
  rw [← List.cons_append, ← List.append_assoc, hsplit, takeWhile_append_cons hstop]

/-- `scriptFrame` has one bound for its loop, the number. -/
theorem wordsAfter_bound :
    wordsAfter "i < " ';' (scriptFrame name (digitsOf n) scope) = [digitsOf n] := by
  have hmark : isFrameMark "i < " = true := by decide
  have hloop : after "i < ".toList scriptLoop.toList = [[]] :=
    after_toList_ofList (by decide +kernel)
  have hnil : ∀ s ∈ [scriptHead, scriptQuery, scriptIndex, scriptTest, scriptAlert, scriptTail],
      after "i < ".toList s.toList = [] := by
    simp only [List.forall_mem_cons]
    refine ⟨?_, ?_, ?_, ?_, ?_, ?_, List.forall_mem_nil _⟩
    all_goals exact after_toList_ofList (by decide +kernel)
  have hstop : ';' ∉ digitsOf n := fun h => absurd (isDigit_of_mem_digitsOf h) (by decide)
  obtain ⟨r₁, r₂, r₃, r₄, r₅, r₆, hwords⟩ :=
    wordsAfter_scriptFrame (isScriptMark_of_isFrameMark hmark hname hscope n) ';'
  rw [hwords]
  simp only [wordsFrom, hloop, hnil, List.mem_cons, true_or, or_true, List.map_nil, List.map_cons,
    List.append_nil, List.nil_append]
  rw [takeWhile_append_cons hstop]

/-- `scriptFrame` says one number that the score is out of. -/
theorem wordsAfter_total :
    wordsAfter "out of " '!' (scriptFrame name (digitsOf n) scope) = [digitsOf n] := by
  have hmark : isFrameMark "out of " = true := by decide
  have halert : after "out of ".toList scriptAlert.toList = [[]] :=
    after_toList_ofList (by decide +kernel)
  have hnil : ∀ s ∈ [scriptHead, scriptLoop, scriptQuery, scriptIndex, scriptTest, scriptTail],
      after "out of ".toList s.toList = [] := by
    simp only [List.forall_mem_cons]
    refine ⟨?_, ?_, ?_, ?_, ?_, ?_, List.forall_mem_nil _⟩
    all_goals exact after_toList_ofList (by decide +kernel)
  have hstop : '!' ∉ digitsOf n := fun h => absurd (isDigit_of_mem_digitsOf h) (by decide)
  obtain ⟨r₁, r₂, r₃, r₄, r₅, r₆, hwords⟩ :=
    wordsAfter_scriptFrame (isScriptMark_of_isFrameMark hmark hname hscope n) '!'
  rw [hwords]
  simp only [wordsFrom, halert, hnil, List.mem_cons, true_or, or_true, List.map_nil, List.map_cons,
    List.append_nil, List.nil_append]
  rw [takeWhile_append_cons hstop]

/-- `scriptFrame` asks for one name, up to the position of the question. -/
theorem wordsAfter_input :
    wordsAfter "input[name=\"" '\'' (scriptFrame name (digitsOf n) scope) =
      ["quiz-".toList ++ (scope ++ "-q".toList)] := by
  have hmark : isFrameMark "input[name=\"" = true := by decide
  have hquery : after "input[name=\"".toList scriptQuery.toList = ["quiz".toList] :=
    after_toList_ofList (by decide +kernel)
  have hnil : ∀ s ∈ [scriptHead, scriptLoop, scriptIndex, scriptTest, scriptAlert, scriptTail],
      after "input[name=\"".toList s.toList = [] := by
    simp only [List.forall_mem_cons]
    refine ⟨?_, ?_, ?_, ?_, ?_, ?_, List.forall_mem_nil _⟩
    all_goals exact after_toList_ofList (by decide +kernel)
  have hstop : '\'' ∉ "quiz-".toList ++ (scope ++ "-q".toList) := by
    simp only [List.mem_append, not_or]
    exact ⟨by decide, notMem_of_isScopeChar hscope (by decide), by decide⟩
  -- The name goes on behind the scope, up to the quote that ends the literal.
  have hindex : scriptIndex.toList = "q".toList ++ '\'' :: " + i + '\"]:checked')".toList := by
    have hquote : "q'".toList = "q".toList ++ ['\''] := by rfl
    have hliteral : scriptIndex = "q'" ++ " + i + '\"]:checked')" := by rfl
    rw [hliteral, String.toList_append, hquote]
    rfl
  have hsplit : ∀ rest : List Char, "quiz".toList ++ '-' :: (scope ++ '-' :: ("q".toList ++ rest)) =
      "quiz-".toList ++ (scope ++ "-q".toList) ++ rest := by
    intro rest
    simp
  obtain ⟨r₁, r₂, r₃, r₄, r₅, r₆, hwords⟩ :=
    wordsAfter_scriptFrame (isScriptMark_of_isFrameMark hmark hname hscope n) '\''
  rw [hwords]
  simp only [wordsFrom, hquery, hnil, List.mem_cons, true_or, or_true, List.map_nil, List.map_cons,
    List.append_nil, List.nil_append]
  rw [hindex, List.append_assoc, List.cons_append, hsplit, takeWhile_append_cons hstop]

end Words

end Bulletin.Fragment
