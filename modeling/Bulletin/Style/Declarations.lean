/-!
# Style declarations

A declaration is a property with a value.  A list of them is written as `name: value;`, one space
between two.
-/

namespace Bulletin

/-- A property of an element and its value. -/
structure Declaration where
  property : String
  value : String
deriving DecidableEq

namespace Declaration

/-- The text of one declaration. -/
def text (d : Declaration) : String := d.property ++ ": " ++ d.value ++ ";"

/-- The text of a list of declarations. -/
def textAll (ds : List Declaration) : String := " ".intercalate (ds.map text)

end Declaration

/-- A declaration of a property whose value may be absent. -/
def declare? (property : String) (value : Option String) : List Declaration :=
  match value with
  | some v => [⟨property, v⟩]
  | none => []

end Bulletin
