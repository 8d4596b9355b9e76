/-!
# Replacing a part of a text

Every occurrence is replaced, from the left, and what was put in is not looked at again.
-/

namespace Bulletin.Text

/-- The text with every occurrence of a pattern replaced; an empty pattern occurs nowhere. -/
def replaceAll (pattern replacement : List Char) : List Char → List Char
  | [] => []
  | c :: cs =>
    if pattern ≠ [] ∧ pattern.isPrefixOf (c :: cs) then
      replacement ++ replaceAll pattern replacement (cs.drop (pattern.length - 1))
    else c :: replaceAll pattern replacement cs
termination_by cs => cs.length
decreasing_by
  · simp only [List.length_drop, List.length_cons]; omega
  · simp

end Bulletin.Text
