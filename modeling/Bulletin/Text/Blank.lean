/-!
# Blank characters and trimming

The white space of this library is Unicode's `White_Space` property, wider than the ASCII blanks
of `Char.isWhitespace`: no-break spaces, the typographic spaces and the line and paragraph
separators count, zero-width characters do not.  Two views of the same table:

* `isBlank s` holds when `s` has no other character (the empty text included);
* `trim s` is `s` less its blanks at both ends.

A field of a newsletter is *present* when it is given and not blank; `present` is the one test
every renderer, the style resolver and the linter share.
-/

namespace Bulletin.Text

/-- Ranges of Unicode's `White_Space` property, ends included. -/
def blankRanges : List (Nat × Nat) :=
  [(0x09, 0x0D), (0x20, 0x20), (0x85, 0x85), (0xA0, 0xA0), (0x1680, 0x1680), (0x2000, 0x200A),
    (0x2028, 0x2029), (0x202F, 0x202F), (0x205F, 0x205F), (0x3000, 0x3000)]

/-- A white space character. -/
def isBlankChar (c : Char) : Bool :=
  blankRanges.any fun r => r.1 ≤ c.toNat && c.toNat ≤ r.2

/-- No character other than white space. -/
def isBlank (s : String) : Bool := s.toList.all isBlankChar

/-- The characters without the blanks in front. -/
def trimStart (cs : List Char) : List Char := cs.dropWhile isBlankChar

/-- The characters without the blanks at the end. -/
def trimEnd (cs : List Char) : List Char := (trimStart cs.reverse).reverse

/-- The text without blanks at either end. -/
def trim (s : String) : String := String.ofList (trimEnd (trimStart s.toList))

/-- A field counts when it holds some non-blank text; the text itself stays as written. -/
def present (field : Option String) : Option String := field.filter fun s => !isBlank s

/-- `trim` takes the blanks in front first, and then those behind. -/
theorem toList_trim (s : String) : (trim s).toList = trimEnd (trimStart s.toList) :=
  String.toList_ofList

/-- `present` hands on a text that is given and not blank, and nothing else. -/
theorem present_eq_some_iff {field : Option String} {s : String} :
    present field = some s ↔ field = some s ∧ isBlank s = false := by
  simp [present, Option.filter_eq_some_iff]

/-- `present` has nothing to hand on of a field that is not given. -/
theorem present_none : present none = none := rfl

/-- `present` hands on a text that is not blank as it is. -/
theorem present_some_of_not_blank {s : String} (h : isBlank s = false) :
    present (some s) = some s :=
  present_eq_some_iff.2 ⟨rfl, h⟩

/-- `present` takes a blank text for none. -/
theorem present_some_of_blank {s : String} (h : isBlank s = true) : present (some s) = none := by
  simp [present, h]

end Bulletin.Text
