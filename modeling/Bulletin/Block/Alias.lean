import Bulletin.Block.Kind
import Bulletin.Json.Basic

/-!
# Other names of fields

Templates have spelled some fields in more than one way.  Each kind of block has a short table of
aliases and the key each stands for; `foldAliases` renames them in every object of a value, however
deep.  Where both spellings are given the field's own key wins unless it is null, and the alias is
dropped in any case.
-/

namespace Bulletin

/-- The aliases of a kind's fields, each with the key it stands for. -/
def Kind.aliases : Kind → List (String × String)
  | .header => [("logo", "logoUrl")]
  | .footer => [("contactEmail", "contactUrl")]
  | .image => [("src", "url")]
  | .featuredArticle => [("image", "imageUrl")]
  | .articleGrid => [("image", "imageUrl"), ("link", "url")]
  | .eventCalendar => [("link", "url")]
  | .quiz => [("imageUrl", "image"), ("label", "text"), ("isCorrect", "correct")]
  | .subscribe => [("action", "buttonAction")]
  | .testimonial => [("image", "imageUrl"), ("author", "attribution")]
  | .products => [("image", "imageUrl"), ("url", "link")]
  | .video => [("thumbnail", "thumbnailUrl"), ("url", "videoUrl")]
  | _ => []

namespace Members

/-- Is the key there, with something other than null? -/
def isSet (ms : Members) (key : String) : Bool :=
  match ms.lookup key with
  | some v => !v.isNull
  | none => false

/-- The members with one alias renamed to its key. -/
def rename (ms : Members) (entry : String × String) : Members :=
  match ms.lookup entry.1 with
  | none => ms
  | some v =>
    let rest := ms.erase entry.1
    if rest.isSet entry.2 then rest else rest.insert entry.2 v

end Members

namespace Json

mutual

/-- A value with every alias in it renamed. -/
def foldAliases (aliases : List (String × String)) : Json → Json
  | .array xs => .array (foldItems aliases xs)
  | .object ms => .object (aliases.foldl Members.rename (foldMembers aliases ms))
  | v => v

/-- The items of a list with every alias in them renamed. -/
def foldItems (aliases : List (String × String)) : List Json → List Json
  | [] => []
  | v :: vs => foldAliases aliases v :: foldItems aliases vs

/-- The members of an object with every alias in their values renamed. -/
def foldMembers (aliases : List (String × String)) : Members → Members
  | [] => []
  | (k, v) :: ms => (k, foldAliases aliases v) :: foldMembers aliases ms

end

/-- `foldItems` folds every item. -/
theorem foldItems_eq_map (aliases : List (String × String)) (xs : List Json) :
    foldItems aliases xs = xs.map (foldAliases aliases) := by
  induction xs with
  | nil => simp [foldItems]
  | cons v vs ih => simp [foldItems, ih]

/-- `foldMembers` folds every value. -/
theorem foldMembers_eq_map (aliases : List (String × String)) (ms : Members) :
    foldMembers aliases ms = ms.map fun m => (m.1, foldAliases aliases m.2) := by
  induction ms with
  | nil => simp [foldMembers]
  | cons m ms ih => simp [foldMembers, ih]

end Json

end Bulletin
