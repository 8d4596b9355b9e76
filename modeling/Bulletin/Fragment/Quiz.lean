import Bulletin.Block.Content
import Bulletin.Fragment.Envelope
import Bulletin.Text.Replace

/-!
# Quizzes

A question is a group of radio inputs, and a script counts the groups where a right one is picked.
The names of the groups and of the script's function hold the quiz's *scope*, a name made of
letters, digits and underscores; two quizzes of one newsletter must have different scopes, or they
would share their groups.

The script is a text with two placeholders, which are filled one after the other.
-/

namespace Bulletin.Fragment

open Html Text

/-- A character that may stand in a scope. -/
def isScopeChar (c : Char) : Bool := c.isAlphanum || c = '_'

/-- The scope a block's id asks for. -/
def scopeOf (id : String) : String :=
  let scope := id.toList.map fun c => if isScopeChar c then c else '_'
  if scope.isEmpty then "quiz" else String.ofList scope

/-- The name of a question's radio group. -/
def groupName (scope : String) (index : Nat) : String := "quiz-" ++ scope ++ "-q" ++ ofNat index

/-- Stands in the script for the scope. -/
def scopeMark : List Char := "__ID__".toList

/-- Stands in the script for the number of questions. -/
def totalMark : List Char := "__TOTAL__".toList

/-- The scoring script before its marks are filled. -/
def scriptTemplate : String :=
  "function scoreQuiz___ID__() \x7b" ++
  "var score = 0;" ++
  "for (var i = 0; i < __TOTAL__; i++) \x7b" ++
  "var picked = document.querySelector('input[name=\"quiz-__ID__-q' + i + '\"]:checked');" ++
  "if (picked && picked.getAttribute('data-correct') === 'true') \x7b score++; \x7d" ++
  "\x7d" ++
  "alert('You scored ' + score + ' out of __TOTAL__!');" ++
  "return false;" ++
  "\x7d"

/-- The scoring script of a quiz. -/
def scoreScript (scope : String) (total : Nat) : String :=
  String.ofList (replaceAll totalMark (digitsOf total)
    (replaceAll scopeMark scope.toList scriptTemplate.toList))

/-- One answer to choose. -/
def quizOption (scope : String) (index : Nat) (q : QuizQuestion) (i : Nat) (o : QuizOption) :
    Node :=
  let mark : List Attr := if q.isCorrect i then [⟨"data-correct", "true"⟩] else []
  styled "label" "display: block; margin: 4px 0; font-size: 15px;"
    [.void "input"
      ([⟨"type", "radio"⟩, ⟨"name", groupName scope index⟩, ⟨"value", ofNat i⟩] ++ mark),
    .text (" " ++ o.text)]

/-- One question with its answers. -/
def quizQuestion (scope : String) (index : Nat) (q : QuizQuestion) : Node :=
  classed "div" "quiz-question" "margin-bottom: 15px;"
    ([styled "p" "margin: 0 0 8px 0; font-size: 16px; font-weight: bold;"
      [.text (ofNat (index + 1) ++ ". " ++ q.question.getD "")]] ++
    (forPresent q.image fun image =>
      [.void "img"
        [⟨"src", image⟩, ⟨"alt", ""⟩,
          ⟨"style",
            "display: block; max-width: 100%; height: auto; border: 0; margin: 0 0 8px 0;"⟩]]) ++
    q.options.mapIdx (quizOption scope index q))

/-- The link that runs the script, and the script. -/
def scoring (scope : String) (total : Nat) (s : Resolved) : List Node :=
  [styled "p" "margin: 10px 0 0 0;"
    [.element "a"
      [⟨"href", "#"⟩, ⟨"class", "button"⟩, ⟨"onclick", "return scoreQuiz_" ++ scope ++ "();"⟩,
        ⟨"style", s.buttonText⟩]
      [.text "Check Answers"]],
  .verbatim "script" (scoreScript scope total)]

/-- The content of a quiz. -/
def quiz (scope : String) (c : Quiz) (s : Resolved) (scripts : Bool) : List Node :=
  sectionTitle s c.title ++
  if c.questions.isEmpty then [placeholder "No quiz questions available"]
  else
    c.questions.mapIdx (quizQuestion scope) ++
    if scripts then scoring scope c.questions.length s else []

end Bulletin.Fragment
