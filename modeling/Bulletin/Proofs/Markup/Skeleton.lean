import Bulletin.Proofs.Text.Digit
import Bulletin.Stylesheet

/-!
# The skeleton of a text

The skeleton of a text is what is left when everything but the characters that markup is made of is
taken away.  Escaped text has none, and neither have numbers and the style sheet of a document.
-/

namespace Bulletin.Html

open Text

/-- The characters that markup is made of, in order. -/
def skeleton (cs : List Char) : List Char := cs.filter isMarkup

/-- A text without markup characters. -/
def isPlain (s : String) : Bool := s.toList.all fun c => !isMarkup c

@[simp] theorem skeleton_nil : skeleton [] = [] := rfl

/-- `skeleton` goes character by character. -/
@[simp] theorem skeleton_append (xs ys : List Char) :
    skeleton (xs ++ ys) = skeleton xs ++ skeleton ys := List.filter_append ..

/-- `skeleton` is empty if no character is one of markup. -/
theorem skeleton_eq_nil_iff {cs : List Char} :
    skeleton cs = [] ↔ ∀ c ∈ cs, isMarkup c = false := by
  simp [skeleton, List.filter_eq_nil_iff]

/-- `skeleton` of an escaped text is empty. -/
@[simp] theorem skeleton_escapeChars (cs : List Char) : skeleton (escapeChars cs) = [] :=
  skeleton_eq_nil_iff.2 fun _ h => not_isMarkup_of_mem_escapeChars h

/-- `skeleton` of what `escape` writes is empty. -/
theorem skeleton_escape (s : String) : skeleton (escape s).toList = [] := by
  rw [escape, String.toList_ofList, skeleton_escapeChars]

/-- A character that is written as it is. -/
def isUnescaped (c : Char) : Bool := !isMarkup c && c ≠ '&'

/-- `escapeChars` changes markup characters and ampersands only. -/
theorem escapeChars_eq_self {cs : List Char} (h : cs.all isUnescaped = true) :
    escapeChars cs = cs := by
  induction cs with
  | nil => rfl
  | cons c cs ih =>
    rw [List.all_cons, Bool.and_eq_true, isUnescaped, Bool.and_eq_true, decide_eq_true_eq,
      Bool.not_eq_true'] at h
    obtain ⟨⟨hmarkup, hamp⟩, hcs⟩ := h
    simp only [isMarkup, Bool.or_eq_false_iff, decide_eq_false_iff_not] at hmarkup
    obtain ⟨⟨⟨hopen, hclose⟩, hquote⟩, hsingle⟩ := hmarkup
    -- The five characters that are escaped are the markup characters and the ampersand.
    have hc : escapeChar c = [c] := by
      unfold escapeChar
      split <;> first | contradiction | rfl
    have hcons : escapeChars (c :: cs) = escapeChar c ++ escapeChars cs := rfl
    rw [hcons, hc, ih hcs]
    rfl

/-- `escape` changes markup characters and ampersands only. -/
theorem escape_eq_self {s : String} (h : s.toList.all isUnescaped = true) : escape s = s := by
  rw [escape, escapeChars_eq_self h, String.ofList_toList]

/-- `skeleton` of a plain text is empty. -/
theorem skeleton_of_isPlain {s : String} (h : isPlain s = true) : skeleton s.toList = [] := by
  rw [skeleton_eq_nil_iff]
  intro c hc
  simpa using List.all_eq_true.1 h c hc

/-- Digits are no markup characters. -/
theorem not_isMarkup_of_isDigit {c : Char} (h : c.isDigit = true) : isMarkup c = false := by
  rw [Bool.eq_false_iff]
  intro hc
  simp only [isMarkup, Bool.or_eq_true, decide_eq_true_eq] at hc
  rcases hc with ((rfl | rfl) | rfl) | rfl <;> simp at h

/-- `skeleton` of a number is empty. -/
@[simp] theorem skeleton_digitsOf (n : Nat) : skeleton (digitsOf n) = [] :=
  skeleton_eq_nil_iff.2 fun _ h => not_isMarkup_of_isDigit (isDigit_of_mem_digitsOf h)

/-! ## Style sheets -/

/-- A rule without markup characters. -/
def isPlainRule (r : StyleRule) : Bool :=
  isPlain r.selector && r.declarations.all fun d => isPlain d.property && isPlain d.value

/-- `skeleton` of joined texts is empty if that of each is. -/
theorem skeleton_join {ss : List String} (h : ∀ s ∈ ss, skeleton s.toList = []) :
    skeleton (String.join ss).toList = [] := by
  rw [String.toList_join, skeleton_eq_nil_iff]
  intro c hc
  obtain ⟨s, hs, hcs⟩ := List.mem_flatMap.1 hc
  exact skeleton_eq_nil_iff.1 (h s hs) c hcs

/-- `skeleton` of what stands in braces is empty if that of the body is. -/
theorem skeleton_braced {body : String} (h : skeleton body.toList = []) :
    skeleton (StyleRule.braced body).toList = [] := by
  simp only [StyleRule.braced, String.toList_append, skeleton_append, h]
  decide

/-- `skeleton` of a rule is empty if those of its selector and its declarations are. -/
theorem skeleton_ruleText {selector : String} {ds : List Declaration}
    (hselector : skeleton selector.toList = [])
    (hdecls : ∀ d ∈ ds, skeleton d.property.toList = [] ∧ skeleton d.value.toList = []) :
    skeleton (StyleRule.text ⟨selector, ds⟩).toList = [] := by
  rw [StyleRule.text, String.toList_append, skeleton_append, hselector, List.nil_append]
  -- The declarations stand in braces behind the selector.
  apply skeleton_braced
  apply skeleton_join
  intro s hs
  obtain ⟨d, hd, rfl⟩ := List.mem_map.1 hs
  obtain ⟨hproperty, hvalue⟩ := hdecls d hd
  simp only [StyleRule.declarationText, String.toList_append, skeleton_append, hproperty, hvalue]
  decide

/-- `skeleton` of some rules is empty if that of each is. -/
theorem skeleton_textAll {rs : List StyleRule} (h : ∀ r ∈ rs, skeleton r.text.toList = []) :
    skeleton (StyleRule.textAll rs).toList = [] := by
  apply skeleton_join
  intro s hs
  obtain ⟨r, hr, rfl⟩ := List.mem_map.1 hs
  exact h r hr

/-- `skeleton` of a plain rule is empty. -/
theorem skeleton_ruleText_of_isPlain {r : StyleRule} (h : isPlainRule r = true) :
    skeleton r.text.toList = [] := by
  rw [isPlainRule, Bool.and_eq_true, List.all_eq_true] at h
  apply skeleton_ruleText (skeleton_of_isPlain h.1)
  intro d hd
  have hd' := h.2 d hd
  rw [Bool.and_eq_true] at hd'
  exact ⟨skeleton_of_isPlain hd'.1, skeleton_of_isPlain hd'.2⟩

/-- The rules that no theme has a say in are plain. -/
theorem isPlainRule_base : Stylesheet.base.all isPlainRule = true := by decide +kernel

/-- The rules for narrow screens are plain. -/
theorem isPlainRule_narrow : Stylesheet.narrow.all isPlainRule = true := by decide +kernel

/-- `skeleton` of a rule with a color of the theme is empty, since the color is escaped. -/
theorem skeleton_themed (theme : Theme) {r : StyleRule} (h : r ∈ Stylesheet.themed theme) :
    skeleton r.text.toList = [] := by
  have hproperty : skeleton "color".toList = [] := by decide
  -- The two rules with a color of the theme in them, which is escaped.
  simp only [Stylesheet.themed, List.mem_cons, List.not_mem_nil, or_false] at h
  obtain rfl | rfl := h
  · have hselector : skeleton ".nl-block a".toList = [] := by decide
    apply skeleton_ruleText hselector
    simp only [List.mem_singleton, forall_eq]
    exact ⟨hproperty, skeleton_escape _⟩
  · have hselector : isPlain ".nl-heading h1,.nl-heading h2,.nl-heading h3" = true := by
      decide +kernel
    apply skeleton_ruleText (skeleton_of_isPlain hselector)
    simp only [List.mem_singleton, forall_eq]
    exact ⟨hproperty, skeleton_escape _⟩

/-- `skeleton` of a style sheet is empty, whatever the theme's colors are. -/
theorem skeleton_stylesheet (theme : Theme) (width : Nat) :
    skeleton (stylesheet theme width).toList = [] := by
  have hrules : skeleton (StyleRule.textAll (Stylesheet.base ++ Stylesheet.themed theme)).toList =
      [] := by
    apply skeleton_textAll
    intro r hr
    rcases List.mem_append.1 hr with hbase | hthemed
    · exact skeleton_ruleText_of_isPlain (List.all_eq_true.1 isPlainRule_base r hbase)
    · exact skeleton_themed theme hthemed
  -- The rules for narrow screens stand in braces of their own.
  have hnarrow : skeleton (StyleRule.braced (StyleRule.textAll Stylesheet.narrow)).toList = [] := by
    apply skeleton_braced
    apply skeleton_textAll
    intro r hr
    exact skeleton_ruleText_of_isPlain (List.all_eq_true.1 isPlainRule_narrow r hr)
  simp only [stylesheet, String.toList_append, skeleton_append, hrules, hnarrow, toList_ofNat,
    skeleton_digitsOf]
  decide +kernel

end Bulletin.Html
