import Bulletin.Text.Lines

/-!
# Escaping text for HTML

The five characters that markup is made of are written as entities, wherever they stand: in text,
in attribute values and in style sheets.  What is escaped therefore holds no character that could
open, close or quote anything.
-/

namespace Bulletin.Html

/-- The characters that stand for one character of text. -/
def escapeChar (c : Char) : List Char :=
  match c with
  | '&' => "&amp;".toList
  | '<' => "&lt;".toList
  | '>' => "&gt;".toList
  | '"' => "&quot;".toList
  | '\'' => "&#39;".toList
  | c => [c]

/-- The characters that stand for a text. -/
def escapeChars (cs : List Char) : List Char := cs.flatMap escapeChar

/-- The text with its markup characters as entities. -/
def escape (s : String) : String := String.ofList (escapeChars s.toList)

/-- A character that markup is made of. -/
def isMarkup (c : Char) : Bool := c = '<' || c = '>' || c = '"' || c = '\''

@[simp] theorem escapeChars_nil : escapeChars [] = [] := rfl

/-- `escapeChars` escapes texts in a row one by one. -/
@[simp] theorem escapeChars_append (xs ys : List Char) :
    escapeChars (xs ++ ys) = escapeChars xs ++ escapeChars ys := List.flatMap_append

/-- What stands for a character holds no markup character. -/
theorem not_isMarkup_of_all {cs : List Char} (h : (cs.all fun d => !isMarkup d) = true) {d : Char}
    (hd : d ∈ cs) : isMarkup d = false := by
  simpa using List.all_eq_true.mp h d hd

/-- `escapeChar` writes no markup character. -/
theorem not_isMarkup_of_mem_escapeChar {c d : Char} (h : d ∈ escapeChar c) :
    isMarkup d = false := by
  unfold escapeChar at h
  split at h
  case h_6 h₁ h₂ h₃ h₄ h₅ =>
    obtain rfl : d = c := by simpa using h
    simp_all [isMarkup]
  all_goals exact not_isMarkup_of_all (by decide) h

/-- Escaped text holds no markup character. -/
theorem not_isMarkup_of_mem_escapeChars {cs : List Char} {d : Char} (h : d ∈ escapeChars cs) :
    isMarkup d = false := by
  obtain ⟨c, _, hd⟩ := List.mem_flatMap.1 h
  exact not_isMarkup_of_mem_escapeChar hd

end Bulletin.Html
