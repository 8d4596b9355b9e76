import Bulletin.Proofs.Quiz.Scope
import Mathlib.Data.Finset.Card
import Mathlib.Data.Nat.Find

/-!
# The search for a free scope ends

A scope is found by putting candidates among those that are taken, one after the other, until one
was not there before.  Nothing bounds the number of attempts.  The search ends because a candidate
that was there leaves the taken scopes as they are, and no two candidates are equal: when there has
been one attempt more than there are scopes taken, one of them was free.

`Attempt.next` is one turn of the loop, and `Attempt.Ends` says that the loop ends and with what; a
loop that goes on for ever ends with nothing.

## Main statements

- `Attempt.next_of_mem`, `Attempt.next_of_notMem`: one attempt
- `Attempt.Ends.unique`: a search ends in one way
- `ends_of_mem`: the attempts before the first free candidate
- `exists_candidate_notMem`: there is a free candidate, and not far out
- `uniqueScope_eq_candidate`: the scope of a quiz is the first free candidate
- `scope_search_ends`: the search ends, how soon and with what, for one quiz and for a newsletter
-/

namespace Bulletin.Fragment

/-! ## The loop -/

/-- Puts a scope among those that are taken, and says whether it was not there before. -/
def insertNew (scope : String) (taken : Finset String) : Bool × Finset String :=
  (decide (scope ∉ taken), insert scope taken)

/-- What a search ends with: the scope, what is taken then, and how many attempts it took. -/
structure Found where
  scope : String
  taken : Finset String
  attempts : Nat
deriving DecidableEq

/-- Where a search stands: the scope that is tried next, its number, what is taken, and how many
attempts have been made. -/
structure Attempt where
  scope : String
  /-- At most one more than there are scopes taken, so a counter of 32 bits holds it unless there
  are `2 ^ 31 - 1` of them. -/
  number : Nat
  taken : Finset String
  made : Nat
deriving DecidableEq

namespace Attempt

/-- A search begins with the scope asked for. -/
def first (base : String) (taken : Finset String) : Attempt := ⟨base, 1, taken, 0⟩

/-- One attempt ends the search, or the next number is tried. -/
def next (base : String) (a : Attempt) : Found ⊕ Attempt :=
  let inserted := insertNew a.scope a.taken
  if inserted.1 then .inl ⟨a.scope, inserted.2, a.made + 1⟩
  else .inr ⟨numbered base (a.number + 1), a.number + 1, inserted.2, a.made + 1⟩

/-- A search ends after some more attempts. -/
inductive Ends (base : String) : Attempt → Found → Prop
  | found {a found} (h : a.next base = .inl found) : Ends base a found
  | again {a a' found} (h : a.next base = .inr a') (hends : Ends base a' found) :
      Ends base a found

end Attempt

/-- The search for a scope ends. -/
def Finds (base : String) (taken : Finset String) (found : Found) : Prop :=
  Attempt.Ends base (.first base taken) found

/-- The searches of all quizzes end, each with what the ones before it have left; there are the
scopes of all blocks and what is taken in the end. -/
inductive FindsAll : Finset String → List Block → List String → Finset String → Prop
  | nil {taken} : FindsAll taken [] [] taken
  | quiz {taken b bs found scopes left} (hquiz : b.content.kind? = some .quiz)
      (hfinds : Finds (scopeOf b.id) taken found) (hall : FindsAll found.taken bs scopes left) :
      FindsAll taken (b :: bs) (found.scope :: scopes) left
  | other {taken b bs scopes left} (hother : b.content.kind? ≠ some .quiz)
      (hall : FindsAll taken bs scopes left) : FindsAll taken (b :: bs) ("" :: scopes) left

variable {base : String} {taken : Finset String}

namespace Attempt

/-- `next` ends the search at a scope that is not taken. -/
theorem next_of_notMem {a : Attempt} (h : a.scope ∉ a.taken) :
    a.next base = .inl ⟨a.scope, insert a.scope a.taken, a.made + 1⟩ := by
  simp [next, insertNew, h]

/-- `next` goes on at a scope that is taken, and leaves what is taken as it is. -/
theorem next_of_mem {a : Attempt} (h : a.scope ∈ a.taken) :
    a.next base = .inr ⟨numbered base (a.number + 1), a.number + 1, a.taken, a.made + 1⟩ := by
  simp [next, insertNew, h]

/-- `Ends` holds of one result at most. -/
theorem Ends.unique {a : Attempt} {found found' : Found} (h : Ends base a found)
    (h' : Ends base a found') : found = found' := by
  induction h with
  | found hnext =>
    cases h' with
    | found hnext' => exact Sum.inl.inj (hnext.symm.trans hnext')
    | again hnext' _ => cases hnext.symm.trans hnext'
  | again hnext _ ih =>
    cases h' with
    | found hnext' => cases hnext.symm.trans hnext'
    | again hnext' hends' =>
      obtain rfl := Sum.inr.inj (hnext.symm.trans hnext')
      exact ih hends'

end Attempt

/-! ## The candidates -/

/-- The scopes that are tried, in their order. -/
def candidate (base : String) : Nat → String
  | 0 => base
  | i + 1 => numbered base (i + 2)

/-- `candidate` tells the attempts apart. -/
theorem candidate_injective (base : String) : Function.Injective (candidate base) := by
  -- A numbered variant is longer than what it is a variant of.
  have hne : ∀ n, base ≠ numbered base n := by
    intro n h
    have hlength := congrArg (fun s => s.toList.length) h
    simp only [toList_numbered, List.length_append, List.length_cons] at hlength
    omega
  intro i j h
  cases i with
  | zero =>
    cases j with
    | zero => rfl
    | succ j => exact absurd h (hne _)
  | succ i =>
    cases j with
    | zero => exact absurd h.symm (hne _)
    | succ j =>
      have hnumber := numbered_inj h
      omega

/-- `candidate` is free for one of the first `taken.card + 1` attempts. -/
theorem exists_candidate_notMem (base : String) (taken : Finset String) :
    ∃ i ≤ taken.card, candidate base i ∉ taken := by
  by_contra hall
  simp only [not_exists, not_and, not_not] at hall
  -- Otherwise so many candidates, no two of them equal, would all be among the scopes taken.
  have hsubset : (Finset.range (taken.card + 1)).image (candidate base) ⊆ taken := by
    intro s hs
    obtain ⟨i, hi, rfl⟩ := Finset.mem_image.1 hs
    exact hall i (Nat.le_of_lt_succ (Finset.mem_range.1 hi))
  have hcard := Finset.card_le_card hsubset
  rw [Finset.card_image_of_injective _ (candidate_injective base), Finset.card_range] at hcard
  omega

/-- The attempt at a candidate. -/
def attemptAt (base : String) (taken : Finset String) (i : Nat) : Attempt :=
  ⟨candidate base i, i + 1, taken, i⟩

/-- `Finds` follows from `Ends` at attempt `k` if the candidates before `k` are taken. -/
theorem ends_of_mem {k : Nat} (h : ∀ i < k, candidate base i ∈ taken) {found : Found}
    (hends : Attempt.Ends base (attemptAt base taken k) found) : Finds base taken found := by
  induction k with
  | zero => exact hends
  | succ k ih =>
    refine ih (fun i hi => h i (Nat.lt_succ_of_lt hi)) (.again ?_ hends)
    exact Attempt.next_of_mem (a := attemptAt base taken k) (h k (Nat.lt_succ_self k))

/-- `Finds` ends with the first candidate that is free. -/
theorem finds_candidate {k : Nat} (h : ∀ i < k, candidate base i ∈ taken)
    (hfree : candidate base k ∉ taken) :
    Finds base taken ⟨candidate base k, insert (candidate base k) taken, k + 1⟩ :=
  ends_of_mem h (.found (Attempt.next_of_notMem hfree))

/-- `candidate` has a first place that is free, at `taken.card` or before. -/
theorem exists_first_notMem (base : String) (taken : Finset String) :
    ∃ k ≤ taken.card, candidate base k ∉ taken ∧ ∀ i < k, candidate base i ∈ taken := by
  obtain ⟨i, hi, hfree⟩ := exists_candidate_notMem base taken
  have hex : ∃ k, candidate base k ∉ taken := ⟨i, hfree⟩
  refine ⟨Nat.find hex, (Nat.find_min' hex hfree).trans hi, Nat.find_spec hex, ?_⟩
  intro j hj
  exact not_not.1 (Nat.find_min hex hj)

/-! ## The scope of a quiz -/

/-- `variants` with the scope asked for in front are the first candidates. -/
theorem cons_variants (base : String) (count : Nat) :
    base :: variants base count = (List.range (count + 1)).map (candidate base) := by
  rw [List.range_succ_eq_map, List.map_cons, List.map_map]
  rfl

/-- `uniqueScope` is the first candidate that is free. -/
theorem uniqueScope_eq_candidate {l : List String} {k : Nat} (hk : k ≤ l.length)
    (h : ∀ i < k, candidate base i ∈ l) (hfree : candidate base k ∉ l) :
    uniqueScope base l = candidate base k := by
  have hfind : (List.range (l.length + 1 + 1)).find?
      ((fun s => decide (s ∉ l)) ∘ candidate base) = some k := by
    rw [List.find?_range_eq_some, List.mem_range]
    refine ⟨by simpa using hfree, by omega, ?_⟩
    intro i hi
    simpa using h i hi
  rw [uniqueScope, cons_variants, List.find?_map, hfind, Option.map_some, Option.getD_some]

/-- `Finds` ends with `uniqueScope`, which is added to what is taken. -/
theorem exists_finds_toFinset (base : String) (l : List String) :
    ∃ attempts, Finds base l.toFinset
      ⟨uniqueScope base l, (uniqueScope base l :: l).toFinset, attempts⟩ := by
  obtain ⟨k, hk, hfree, htaken⟩ := exists_first_notMem base l.toFinset
  have hscope : uniqueScope base l = candidate base k := by
    simp only [List.mem_toFinset] at hfree htaken
    exact uniqueScope_eq_candidate (hk.trans l.toFinset_card_le) htaken hfree
  refine ⟨k + 1, ?_⟩
  rw [hscope, List.toFinset_cons]
  exact finds_candidate htaken hfree

/-- `candidate` has the least free number from two on, if the scope asked for is taken. -/
theorem exists_numbered {k : Nat} (h : ∀ i < k, candidate base i ∈ taken)
    (hfree : candidate base k ∉ taken) (hbase : base ∈ taken) :
    ∃ n ≥ 2, candidate base k = numbered base n ∧ ∀ m, 2 ≤ m → m < n → numbered base m ∈ taken := by
  cases k with
  | zero => exact absurd hbase hfree
  | succ k =>
    refine ⟨k + 2, Nat.le_add_left 2 k, rfl, ?_⟩
    intro m hm hlt
    obtain ⟨i, rfl⟩ : ∃ i, m = i + 2 := ⟨m - 2, by omega⟩
    exact h (i + 1) (by omega)

/-! ## The scopes of a newsletter -/

/-- Is a block a quiz? -/
def isQuiz (b : Block) : Bool := b.content.kind? = some .quiz

/-- `FindsAll` ends with the `scopes` of the blocks, and every quiz takes one scope more. -/
theorem exists_findsAll (l : List String) (bs : List Block) :
    ∃ left, FindsAll l.toFinset bs (scopes l bs) left ∧
      left.card = l.toFinset.card + bs.countP isQuiz := by
  -- A search leaves what the next one finds taken, so the induction is over all that may be taken.
  induction bs generalizing l with
  | nil => exact ⟨l.toFinset, .nil, rfl⟩
  | cons b bs ih =>
    by_cases hquiz : b.content.kind? = some .quiz
    · obtain ⟨attempts, hfinds⟩ := exists_finds_toFinset (scopeOf b.id) l
      obtain ⟨left, hall, hcard⟩ := ih (uniqueScope (scopeOf b.id) l :: l)
      refine ⟨left, ?_, ?_⟩
      · rw [scopes_cons_quiz hquiz]
        exact .quiz hquiz hfinds hall
      · have hfree : uniqueScope (scopeOf b.id) l ∉ l.toFinset := by
          simpa using uniqueScope_notMem (scopeOf b.id) l
        rw [hcard, List.toFinset_cons, Finset.card_insert_of_notMem hfree,
          List.countP_cons_of_pos (by simpa [isQuiz] using hquiz)]
        omega
    · obtain ⟨left, hall, hcard⟩ := ih l
      refine ⟨left, ?_, ?_⟩
      · rw [scopes_cons_other hquiz]
        exact .other hquiz hall
      · rw [hcard, List.countP_cons_of_neg (by simpa [isQuiz] using hquiz)]

/-- The search for a scope ends, in one way and with no more than one attempt more than there are
scopes taken: it finds the scope asked for if that is free, and else the variant with the least free
number from two on, which is the scope of the quiz, and adds it to those that are taken and nothing
else.  So do the searches of all quizzes of a newsletter, one after the other. -/
theorem scope_search_ends :
    (∀ (base : String) (taken : Finset String), ∃ found,
      (∀ r, Finds base taken r ↔ r = found) ∧ found.attempts ≤ taken.card + 1 ∧
        found.scope ∉ taken ∧ found.taken = insert found.scope taken ∧
        (base ∉ taken → found.scope = base) ∧
        (base ∈ taken → ∃ n ≥ 2, found.scope = numbered base n ∧
          ∀ m, 2 ≤ m → m < n → numbered base m ∈ taken) ∧
        ∀ l : List String, l.toFinset = taken → uniqueScope base l = found.scope) ∧
    ∀ bs : List Block, ∃ left, FindsAll ∅ bs (scopes [] bs) left ∧
      left.card = bs.countP isQuiz := by
  constructor
  · intro base taken
    obtain ⟨k, hk, hfree, htaken⟩ := exists_first_notMem base taken
    have hfinds := finds_candidate htaken hfree
    refine ⟨⟨candidate base k, insert (candidate base k) taken, k + 1⟩, ?_, Nat.succ_le_succ hk,
      hfree, rfl, ?_, exists_numbered htaken hfree, ?_⟩
    · intro r
      exact ⟨fun hr => hr.unique hfinds, fun hr => hr ▸ hfinds⟩
    · intro hbase
      -- The scope asked for is the first candidate.
      cases k with
      | zero => rfl
      | succ k => exact absurd (htaken 0 (Nat.succ_pos k)) hbase
    · rintro l rfl
      obtain ⟨attempts, hscope⟩ := exists_finds_toFinset base l
      exact congrArg Found.scope (hscope.unique hfinds)
  · intro bs
    obtain ⟨left, hall, hcard⟩ := exists_findsAll [] bs
    refine ⟨left, hall, ?_⟩
    rwa [List.toFinset_nil, Finset.card_empty, Nat.zero_add] at hcard

/-- A scope that is taken together with its second variant, and one that is free. -/
theorem scope_search_ends_third :
    let taken : Finset String := {"q", "q_2"}
    ("q" ∈ taken ∧ ∃ found, Finds "q" taken found ∧ found.attempts ≤ 3 ∧
      found.scope = "q_3" ∧ found.taken = insert found.scope taken) ∧
    "a" ∉ taken ∧ ∃ found, Finds "a" taken found ∧ found.scope = "a" := by
  intro taken
  have hmem : "q" ∈ taken := by decide
  have hnotMem : "a" ∉ taken := by decide
  have hthird : uniqueScope "q" ["q", "q_2"] = "q_3" := by decide
  obtain ⟨hsearch, -⟩ := scope_search_ends
  obtain ⟨found, hfound, hattempts, -, hinsert, -, -, hscope⟩ := hsearch "q" taken
  obtain ⟨found', hfound', -, -, -, hfree, -, -⟩ := hsearch "a" taken
  exact ⟨⟨hmem, found, (hfound found).2 rfl, hattempts,
    (hscope _ (by decide)).symm.trans hthird, hinsert⟩, hnotMem, found', (hfound' found').2 rfl,
    hfree hnotMem⟩

end Bulletin.Fragment
