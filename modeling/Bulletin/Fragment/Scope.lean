import Bulletin.Block.Basic
import Bulletin.Fragment.Quiz

/-!
# The scopes of a newsletter's quizzes

Ids may repeat, and different ids may ask for one scope.  `uniqueScope` takes the scope asked for
if nobody has it, and else the first of its numbered variants that is free.  Among one more variant
than there are scopes taken one must be free, so the search is over a list of that length.

The numbers of the variants are natural numbers.  A signed counter of 32 bits runs through the same
ones as long as fewer than `2 ^ 31 - 1` scopes are taken, since no number above `taken.length + 1`
is tried; more quizzes than that are not considered.
-/

namespace Bulletin.Fragment

open Text

/-- The `n`-th variant of a scope.  The number is assumed to fit a signed counter of 32 bits. -/
def numbered (base : String) (n : Nat) : String := base ++ "_" ++ ofNat n

/-- The numbered variants of a scope, from the second on. -/
def variants (base : String) (count : Nat) : List String :=
  (List.range count).map fun i => numbered base (i + 2)

/-- A scope that nobody has, as close as can be to the one asked for. -/
def uniqueScope (base : String) (taken : List String) : String :=
  ((base :: variants base (taken.length + 1)).find? fun s => s ∉ taken).getD base

/-- The scope of each block, in order; blocks other than quizzes have the empty one.  `taken` are
the scopes of the quizzes before. -/
def scopes (taken : List String) : List Block → List String
  | [] => []
  | b :: bs =>
    match b.content with
    | .quiz _ =>
      let scope := uniqueScope (scopeOf b.id) taken
      scope :: scopes (scope :: taken) bs
    | _ => "" :: scopes taken bs

/-- `scopes` has a scope for each block. -/
theorem length_scopes (taken : List String) (bs : List Block) :
    (scopes taken bs).length = bs.length := by
  fun_induction scopes taken bs <;> simp_all

end Bulletin.Fragment
