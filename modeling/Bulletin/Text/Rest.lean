/-!
# What a reader leaves

A reader takes the front of a text, or of a list of tokens, and returns what it read with the rest.
That the rest is shorter travels with it, so readers that call each other recurse on the length of
what they are given and need no other bound.
-/

namespace Bulletin

/-- A proper remainder of a list. -/
abbrev Rest {α : Type} (xs : List α) := { r : List α // r.length < xs.length }

/-- A remainder of a list that may be all of it. -/
abbrev Left {α : Type} (xs : List α) := { r : List α // r.length ≤ xs.length }

namespace Rest

variable {α : Type} {x : α} {xs ys : List α}

/-- A shorter list's remainder is one of the longer list. -/
def widen (r : Rest ys) (h : ys.length ≤ xs.length) : Rest xs := ⟨r.1, Nat.lt_of_lt_of_le r.2 h⟩

/-- What follows the head of a list. -/
def tail : Rest (x :: xs) := ⟨xs, Nat.lt_succ_self _⟩

/-- A remainder is something left. -/
def toLeft (r : Rest xs) : Left xs := ⟨r.1, Nat.le_of_lt r.2⟩

/-- A remainder of a remainder. -/
def trans (r : Rest xs) (s : Rest r.1) : Rest xs := ⟨s.1, Nat.lt_trans s.2 r.2⟩

/-- What is left of a remainder. -/
def transLeft (r : Rest xs) (s : Left r.1) : Rest xs := ⟨s.1, Nat.lt_of_le_of_lt s.2 r.2⟩

/-- A remainder of a remainder and the item before it. -/
def transCons (r : Rest xs) (s : Rest (x :: r.1)) : Rest xs :=
  ⟨s.1, Nat.lt_of_le_of_lt (Nat.le_of_lt_succ s.2) r.2⟩

/-- What follows the head of a `Rest` is shorter than the whole. -/
theorem length_tail_lt {tail : List α} (r : Rest xs) (h : r.1 = x :: tail) :
    tail.length < xs.length := by
  have := r.2
  rw [h, List.length_cons] at this
  omega

end Rest

namespace Left

variable {α : Type} {x : α} {xs : List α}

/-- Nothing is taken. -/
def all : Left xs := ⟨xs, Nat.le_refl _⟩

/-- What is left of a tail is a remainder. -/
def behind (r : Left xs) : Rest (x :: xs) := ⟨r.1, Nat.lt_succ_of_le r.2⟩

/-- What follows the head of what is `Left` is shorter than the whole. -/
theorem length_tail_lt {tail : List α} (r : Left xs) (h : r.1 = x :: tail) :
    tail.length < xs.length := by
  have := r.2
  rw [h, List.length_cons] at this
  omega

end Left

end Bulletin
