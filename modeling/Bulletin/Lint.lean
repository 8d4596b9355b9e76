import Bulletin.Fragment.Draw

/-!
# Linting blocks

Drawing never fails, so what an author would want to know is reported apart from it: errors for a
block that is not drawn or an id that is used twice, warnings for the rest.  Findings come in the
order of the blocks, and for one block in the order id, content, style.
-/

namespace Bulletin

open Text

/-- How bad a finding is. -/
inductive Severity where
  | warning
  | error
deriving DecidableEq

/-- The name of a severity. -/
def Severity.text : Severity → String
  | .warning => "warning"
  | .error => "error"

/-- What can be wrong with a block. -/
inductive Finding where
  | noId
  | duplicateId (id : String)
  | noType
  | unknownType (tag : String)
  | imageWithoutUrl
  | buttonWithoutUrl
  | footerWithoutUnsubscribe
  | noArticles
  | noEvents
  | noProducts
  | tooManyProducts (count : Nat)
  | noQuestions
  | quizNeedsScript
  /-- The position of the question counts from zero. -/
  | noOptions (question : Nat)
  | opacityOutOfRange (opacity : Double)
  | opacityIgnored (color : String)
deriving DecidableEq

namespace Finding

/-- How bad a finding is. -/
def severity : Finding → Severity
  | .duplicateId _ => .error
  | .noType => .error
  | .unknownType _ => .error
  | _ => .warning

/-- The wording of a finding. -/
def message : Finding → String
  | .noId => "block has no id"
  | .duplicateId id => "duplicate block id '" ++ id ++ "'"
  | .noType => "block has no type"
  | .unknownType tag => "unknown block type '" ++ tag ++ "' renders nothing"
  | .imageWithoutUrl => "image has no url"
  | .buttonWithoutUrl => "button has no url and links to '#'"
  | .footerWithoutUnsubscribe => "footer has no unsubscribe link"
  | .noArticles => "article grid has no articles"
  | .noEvents => "event calendar has no events"
  | .noProducts => "product recommendation has no products"
  | .tooManyProducts count =>
    "only the first " ++ ofNat Fragment.maxProducts ++ " of " ++ ofNat count ++
      " products are rendered"
  | .noQuestions => "quiz has no questions"
  | .quizNeedsScript => "quiz scoring relies on a script most mail clients strip"
  | .noOptions question => "quiz question " ++ ofNat (question + 1) ++ " has no options"
  | .opacityOutOfRange opacity =>
    "background opacity " ++ NumberLayout.css.write opacity ++ " is outside 0..=1"
  | .opacityIgnored color => "background opacity ignored for color '" ++ color ++ "'"

end Finding

/-- A finding about the block at some position. -/
structure Diagnostic where
  index : Nat
  blockId : String
  finding : Finding
deriving DecidableEq

namespace Diagnostic

/-- How bad a finding is. -/
def severity (d : Diagnostic) : Severity := d.finding.severity

/-- Does a finding make its template invalid? -/
def isError (d : Diagnostic) : Bool := d.severity = .error

/-- The wording of a finding. -/
def message (d : Diagnostic) : String := d.finding.message

/-- A finding with the block it is about. -/
def text (d : Diagnostic) : String :=
  let block := "#" ++ ofNat d.index ++ (if d.blockId.isEmpty then "" else " '" ++ d.blockId ++ "'")
  d.severity.text ++ " [block " ++ block ++ "]: " ++ d.message

end Diagnostic

namespace Lint

/-- Findings about an id, given those of the blocks before. -/
def idFindings (before : List String) (id : String) : List Finding :=
  if isBlank id then [.noId] else if id ∈ before then [.duplicateId id] else []

/-- A finding when a field is not present. -/
def unlessPresent (field : Option String) (finding : Finding) : List Finding :=
  if (present field).isNone then [finding] else []

/-- Findings about the questions of a quiz. -/
def questionFindings (qs : List QuizQuestion) : List Finding :=
  (qs.mapIdx fun i q => if q.options.isEmpty then [Finding.noOptions i] else []).flatten

/-- Findings about a block's content. -/
def contentFindings : Content → List Finding
  | .unknown tag => if tag.isEmpty then [.noType] else [.unknownType tag]
  | .image c => unlessPresent c.url .imageWithoutUrl
  | .button c => unlessPresent c.url .buttonWithoutUrl
  | .footer c => unlessPresent c.unsubscribeUrl .footerWithoutUnsubscribe
  | .articleGrid c => if c.articles.isEmpty then [.noArticles] else []
  | .eventCalendar c => if c.events.isEmpty then [.noEvents] else []
  | .products c =>
    if c.products.isEmpty then [.noProducts]
    else if Fragment.maxProducts < c.products.length then [.tooManyProducts c.products.length]
    else []
  | .quiz c =>
    if c.questions.isEmpty then [.noQuestions] else .quizNeedsScript :: questionFindings c.questions
  | _ => []

/-- Findings about an opacity and the color it is meant for. -/
def opacityFindings (opacity : Double) (color : Option String) : List Finding :=
  (if opacity.nonneg && opacity.leOne then [] else [.opacityOutOfRange opacity]) ++
  match present color with
  | some c => if opacity.ltOne && (Rgb.parse? c).isNone then [.opacityIgnored c] else []
  | none => []

/-- Findings about a block's style. -/
def styleFindings : Option Style → List Finding
  | some s =>
    match s.backgroundOpacity with
    | some opacity => opacityFindings opacity s.backgroundColor
    | none => []
  | none => []

/-- Findings about one block, given the ids of the blocks before. -/
def blockFindings (before : List String) (b : Block) : List Finding :=
  idFindings before b.id ++ contentFindings b.content ++ styleFindings b.style

/-- Findings about blocks from some position on, given the ids of those before. -/
def diagnosticsFrom (index : Nat) (before : List String) : List Block → List Diagnostic
  | [] => []
  | b :: bs =>
    (blockFindings before b).map (⟨index, b.id, ·⟩) ++
      diagnosticsFrom (index + 1) (b.id :: before) bs

end Lint

/-- All findings about a list of blocks. -/
def lint (bs : List Block) : List Diagnostic := Lint.diagnosticsFrom 0 [] bs

end Bulletin
