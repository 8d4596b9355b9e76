import Bulletin.Lint
import Bulletin.Proofs.Text.Digit

/-!
# Which finding a message reports

Findings about the content of a block have messages of their own: the first words tell the kinds of
findings apart, and what a message quotes or counts can be read off it.  So a message is reported
about a block if and only if it is true of its content.

## Main statements

- `Finding.eq_of_message_eq`: no two findings share a message about content
- `Lint.mem_contentFindings_iff`: what the findings about a content say of it
- `Block.reports_iff`: a message is reported when it is true
- `Diagnostic.text_eq`, `Diagnostic.text_inj`: what stands in the text of a finding, and what can be
  read off it
-/

namespace Bulletin

open Text Lint

/-- A block on its own is reported with this severity and message. -/
def Block.Reports (b : Block) (severity : Severity) (message : String) : Prop :=
  ∃ d ∈ lint [b], d.severity = severity ∧ d.message = message

namespace Finding

/-- Findings about the content, as opposed to those about the id and the style. -/
def aboutContent : Finding → Bool
  | .noId | .duplicateId _ | .opacityOutOfRange _ | .opacityIgnored _ => false
  | _ => true

/-- The first words of a message, cut off after as many characters for each. -/
def firstWords : Finding → String
  | .noId => "block has no i"
  | .duplicateId _ => "duplicate bloc"
  | .noType => "block has no t"
  | .unknownType _ => "unknown block "
  | .imageWithoutUrl => "image has no u"
  | .buttonWithoutUrl => "button has no "
  | .footerWithoutUnsubscribe => "footer has no "
  | .noArticles => "article grid h"
  | .noEvents => "event calendar"
  | .noProducts => "product recomm"
  | .tooManyProducts _ => "only the first"
  | .noQuestions => "quiz has no qu"
  | .quizNeedsScript => "quiz scoring r"
  | .noOptions _ => "quiz question "
  | .opacityOutOfRange _ => "background opa"
  | .opacityIgnored _ => "background opa"

/-- `message` begins with `firstWords`. -/
theorem take_message (f : Finding) : f.message.toList.take 14 = f.firstWords.toList := by
  rw [message.eq_def]
  cases f <;> simp [firstWords]

/-- `ofNat` is injective. -/
theorem ofNat_inj {m n : Nat} (h : ofNat m = ofNat n) : m = n := by
  apply digitsOf_inj
  rw [← toList_ofNat, ← toList_ofNat, h]

/-- `message` tells the findings about content apart. -/
theorem eq_of_message_eq {f g : Finding} (hg : g.aboutContent = true)
    (h : f.message = g.message) : f = g := by
  have hwords : f.firstWords = g.firstWords := by
    rw [← String.toList_inj, ← take_message, ← take_message, h]
  -- Findings of different kinds begin differently, and of one kind the rest of the message tells.
  rw [message.eq_def, message.eq_def] at h
  cases g with
  | noId | duplicateId _ | opacityOutOfRange _ | opacityIgnored _ => simp [aboutContent] at hg
  | unknownType tag =>
    cases f with
    | unknownType tag' => simpa using h
    | _ => simp [firstWords] at hwords
  | tooManyProducts count =>
    cases f with
    | tooManyProducts count' =>
      have hcount : ofNat count' = ofNat count := by simpa using h
      rw [ofNat_inj hcount]
    | _ => simp [firstWords] at hwords
  | noOptions question =>
    cases f with
    | noOptions question' =>
      have hquestion : ofNat (question' + 1) = ofNat (question + 1) := by simpa using h
      rw [Nat.succ.inj (ofNat_inj hquestion)]
    | _ => simp [firstWords] at hwords
  | _ => cases f <;> simp [firstWords] at hwords ⊢

/-- What a finding says of a content. -/
def Describes (c : Content) : Finding → Prop
  | .noType => c = .unknown ""
  | .unknownType tag => tag ≠ "" ∧ c = .unknown tag
  | .imageWithoutUrl => ∃ i, c = .image i ∧ present i.url = none
  | .buttonWithoutUrl => ∃ b, c = .button b ∧ present b.url = none
  | .footerWithoutUnsubscribe => ∃ g, c = .footer g ∧ present g.unsubscribeUrl = none
  | .noArticles => ∃ g, c = .articleGrid g ∧ g.articles = []
  | .noEvents => ∃ e, c = .eventCalendar e ∧ e.events = []
  | .noProducts => ∃ p, c = .products p ∧ p.products = []
  | .tooManyProducts count =>
    ∃ p, c = .products p ∧ count = p.products.length ∧ Fragment.maxProducts < count
  | .noQuestions => ∃ q, c = .quiz q ∧ q.questions = []
  | .quizNeedsScript => ∃ q, c = .quiz q ∧ q.questions ≠ []
  | .noOptions k => ∃ q, c = .quiz q ∧ ∃ question, q.questions[k]? = some question ∧
      question.options = []
  | .noId | .duplicateId _ | .opacityOutOfRange _ | .opacityIgnored _ => False

end Finding

/-! ## Findings about content -/

namespace Lint

/-- `blockFindings` about content are `contentFindings`. -/
theorem mem_blockFindings_iff {f : Finding} (hf : f.aboutContent = true) (b : Block) :
    f ∈ blockFindings [] b ↔ f ∈ contentFindings b.content := by
  -- The findings about ids and styles are none of those about content.
  have hid : f ∉ idFindings [] b.id := by
    intro hmem
    rw [idFindings] at hmem
    split at hmem
    · rw [List.mem_singleton.1 hmem] at hf
      simp [Finding.aboutContent] at hf
    · simp at hmem
  have hstyle : f ∉ styleFindings b.style := by
    intro hmem
    unfold styleFindings opacityFindings at hmem
    grind [Finding.aboutContent]
  simp [blockFindings, hid, hstyle]

/-- `unlessPresent` gives its finding when the field is not present. -/
theorem mem_unlessPresent_iff {f g : Finding} {field : Option String} :
    f ∈ unlessPresent field g ↔ present field = none ∧ f = g := by
  unfold unlessPresent
  cases present field <;> simp

/-- `questionFindings` name the questions without answers. -/
theorem mem_questionFindings_iff {f : Finding} {qs : List QuizQuestion} :
    f ∈ questionFindings qs ↔ ∃ k q, qs[k]? = some q ∧ q.options = [] ∧ f = .noOptions k := by
  constructor
  · intro hmem
    obtain ⟨fs, hfs, hf⟩ := List.mem_flatten.1 hmem
    obtain ⟨k, hk, rfl⟩ := List.mem_mapIdx.1 hfs
    have hnil : qs[k].options = [] ∧ f = .noOptions k := by simpa using hf
    exact ⟨k, qs[k], List.getElem?_eq_getElem hk, hnil⟩
  · rintro ⟨k, q, hq, hnil, rfl⟩
    obtain ⟨hk, rfl⟩ := List.getElem?_eq_some_iff.1 hq
    refine List.mem_flatten.2 ⟨_, List.mem_mapIdx.2 ⟨k, hk, rfl⟩, ?_⟩
    simp [hnil]

/-- `contentFindings` say of a content what is true of it. -/
theorem mem_contentFindings_iff {f : Finding} {c : Content} :
    f ∈ contentFindings c ↔ f.Describes c := by
  -- One case for each kind of content, and in it one for each finding.
  cases c with
  | unknown tag =>
    simp only [contentFindings, String.isEmpty_iff]
    split <;> cases f <;> grind [Finding.Describes]
  | image c | button c | footer c =>
    rw [contentFindings, mem_unlessPresent_iff]
    cases f <;> simp [Finding.Describes]
  | articleGrid c | eventCalendar c =>
    rw [contentFindings]
    split <;> cases f <;> simp_all [Finding.Describes]
  | products c =>
    rw [contentFindings]
    split
    · cases f <;> simp_all [Finding.Describes]
    · split <;> cases f <;> simp_all [Finding.Describes]
  | quiz c =>
    rw [contentFindings]
    split
    · cases f <;> simp_all [Finding.Describes]
    · rw [List.mem_cons, mem_questionFindings_iff]
      cases f with
      | noOptions k =>
        -- The finding tells the position, so it is this question that has no answers.
        have hquestion : (∃ k' q, c.questions[k']? = some q ∧ q.options = [] ∧
            Finding.noOptions k = .noOptions k') ↔
            ∃ q, c.questions[k]? = some q ∧ q.options = [] := by
          constructor
          · rintro ⟨_, q, hq, hnil, ⟨⟩⟩
            exact ⟨q, hq, hnil⟩
          · rintro ⟨q, hq, hnil⟩
            exact ⟨k, q, hq, hnil, rfl⟩
        rw [hquestion]
        simp [Finding.Describes]
      | _ => simp_all [Finding.Describes]
  | _ => cases f <;> simp [contentFindings, Finding.Describes]

end Lint

/-- A message about content is reported about a block if and only if it is true of its content. -/
theorem Block.reports_iff {f : Finding} (hf : f.aboutContent = true) (b : Block) :
    b.Reports f.severity f.message ↔ f.Describes b.content := by
  rw [← mem_contentFindings_iff, ← mem_blockFindings_iff hf]
  constructor
  · rintro ⟨d, hd, -, hmessage⟩
    obtain ⟨g, hg, rfl⟩ : ∃ g ∈ blockFindings [] b, ⟨0, b.id, g⟩ = d := by
      simpa [lint, diagnosticsFrom] using hd
    rwa [← Finding.eq_of_message_eq hf hmessage]
  · intro hmem
    refine ⟨⟨0, b.id, f⟩, ?_, rfl, rfl⟩
    simpa [lint, diagnosticsFrom] using hmem

/-! ## Whole findings -/

namespace Diagnostic

/-- `text` tells how bad a finding is, where its block stands, which id the block has unless that is
empty, and what the finding says. -/
theorem text_eq (d : Diagnostic) :
    d.text = (if d.severity = .error then "error" else "warning") ++ (" [block #" ++
      (ofNat d.index ++ ((if d.blockId = "" then "" else " '" ++ d.blockId ++ "'") ++
        ("]: " ++ d.message)))) := by
  have hopen (s : String) : " [block #" ++ s = " [block " ++ ("#" ++ s) := by
    rw [← String.append_assoc]
    rfl
  have hseverity : d.severity.text = if d.severity = .error then "error" else "warning" := by
    cases d.severity <;> rfl
  unfold text
  simp only [hseverity, hopen, String.isEmpty_iff, String.append_assoc]

/-- `text` of two findings is the same only if they are equally bad and about blocks at the same
place; if the blocks have the same id too, they say the same. -/
theorem text_inj {d e : Diagnostic} (h : d.text = e.text) :
    d.severity = e.severity ∧ d.index = e.index ∧
      (d.blockId = e.blockId → d.message = e.message) := by
  -- The word before the position begins with a letter of its own for each severity.
  have hseverity : d.severity = e.severity := by
    have hhead := congrArg (fun s : String => s.toList.head?) h
    simp only [text_eq, String.toList_append, List.head?_append] at hhead
    cases hd : d.severity <;> cases he : e.severity <;> simp [hd, he] at hhead ⊢
  rw [text_eq, text_eq, hseverity, String.append_right_inj, String.append_right_inj] at h
  -- Behind the position stands a blank or a bracket.
  have hbehind (d : Diagnostic) :
      ∀ c ∈ ((if d.blockId = "" then "" else " '" ++ d.blockId ++ "'") ++
        ("]: " ++ d.message)).toList.head?, c.isDigit = false := by
    by_cases hid : d.blockId = "" <;> simp [hid, String.toList_append]
  obtain ⟨hindex, hrest⟩ := ofNat_append_inj (hbehind d) (hbehind e) h
  refine ⟨hseverity, hindex, fun hid => ?_⟩
  rwa [hid, String.append_right_inj, String.append_right_inj] at hrest

end Diagnostic

end Bulletin
