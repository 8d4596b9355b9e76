/-!
# Characters of literals

What holds of every character of a literal is decided on the literal's list of characters: unifying
`String.ofList cs` with the literal gives that list without computing it.
-/

namespace Bulletin.Text

/-- What is decided on the list of characters that a literal stands for holds of the literal. -/
theorem all_toList_ofList {p : Char → Bool} {cs : List Char} (h : cs.all p = true) :
    (String.ofList cs).toList.all p = true := by
  rwa [String.toList_ofList]

end Bulletin.Text
