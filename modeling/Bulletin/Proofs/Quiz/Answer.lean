import Bulletin.Block.Content
import Bulletin.Proofs.Double.Units

/-!
# The answer a question names by its position

A question may say by a position which of its options is right.  The position counts the items of
the list that the options are read from, and the options that are kept are counted anew: an item
that stands for no option leaves no gap.  So an option moves to the front by as many places as there
are such items before it, and the position of the question does not move with it.

## Main statements

- `getElem?_filterMap_keptBefore`: where the option from a place in the list ends up
- `answer_kept_iff`: when the question still names the option that its author named
-/

namespace Bulletin

open Record (ofJson?)

/-! ## Where an item ends up -/

/-- How many items in front of a place stand for an option. -/
def keptBefore (xs : List Json) (k : Nat) : Nat :=
  ((xs.take k).filterMap QuizOption.ofJson?).length

section Places

variable {xs : List Json} {k : Nat} {v : Json} {o : QuizOption}

/-- `keptBefore xs k` is the place of the option that is read from the item at `k`. -/
theorem getElem?_filterMap_keptBefore (hv : xs[k]? = some v) (ho : QuizOption.ofJson? v = some o) :
    (xs.filterMap QuizOption.ofJson?)[keptBefore xs k]? = some o := by
  obtain ⟨hk, rfl⟩ := List.getElem?_eq_some_iff.1 hv
  -- The items kept fall into those before, the option itself and those behind.
  have hsplit : xs.filterMap QuizOption.ofJson? =
      (xs.take k).filterMap QuizOption.ofJson? ++
        o :: (xs.drop (k + 1)).filterMap QuizOption.ofJson? := by
    calc xs.filterMap QuizOption.ofJson? =
        (xs.take k ++ xs[k] :: xs.drop (k + 1)).filterMap QuizOption.ofJson? := by
          rw [← List.drop_eq_getElem_cons hk, List.take_append_drop]
      _ = _ := by rw [List.filterMap_append, List.filterMap_cons_some ho]
  rw [hsplit, keptBefore, List.getElem?_append_right (Nat.le_refl _), Nat.sub_self,
    List.getElem?_cons_zero]

/-- `keptBefore xs k` is `k` if and only if all items before `k` are options. -/
theorem keptBefore_eq_iff (hk : k < xs.length) :
    keptBefore xs k = k ↔ ∀ v ∈ xs.take k, QuizOption.ofJson? v ≠ none := by
  have hlength : (xs.take k).length = k := List.length_take_of_le (by omega)
  have hall := List.filterMap_length_eq_length (f := QuizOption.ofJson?) (l := xs.take k)
  rw [hlength] at hall
  simp only [keptBefore, hall, Option.isSome_iff_ne_none]

end Places

/-! ## The position a question names -/

namespace QuizQuestion

/-- The question with all marks of its options taken off. -/
def unmarked (q : QuizQuestion) : QuizQuestion :=
  { q with options := q.options.map fun o => { o with correct := false } }

/-- The question itself, marks aside, says that the option at this place is right, and says so of no
other. -/
def NamesOnly (q : QuizQuestion) (place : Nat) : Prop :=
  ∀ j < q.options.length, q.unmarked.isCorrect j = true ↔ j = place

/-- `isCorrect` of a question without marks holds at the whole part of its `correctAnswer`, if that
is not negative. -/
theorem isCorrect_unmarked_iff {q : QuizQuestion} {j : Nat} :
    q.unmarked.isCorrect j = true ↔
      ∃ x, q.correctAnswer = some x ∧ x.nonneg = true ∧ x.whole = j := by
  have hmark : ∀ o ∈ q.unmarked.options[j]?, o.correct = false := by
    intro o ho
    obtain ⟨o', -, rfl⟩ := List.mem_map.1 (List.mem_of_getElem? ho)
    rfl
  have hanswer : q.unmarked.correctAnswer = q.correctAnswer := rfl
  -- There may be no option at this place; the rule asks for the position all the same.
  rw [isCorrect, hanswer]
  cases ho : q.unmarked.options[j]? with
  | none => cases q.correctAnswer <;> simp
  | some o => cases q.correctAnswer <;> simp [hmark o ho]

/-- `NamesOnly` holds of the place `k` that the question names, and of no other. -/
theorem namesOnly_iff {q : QuizQuestion} {k place : Nat}
    (hnames : ∀ j, q.unmarked.isCorrect j = true ↔ j = k) (hplace : place < q.options.length) :
    q.NamesOnly place ↔ place = k := by
  constructor
  · intro h
    exact (hnames place).1 ((h place hplace).2 rfl)
  · rintro rfl j -
    exact hnames j

end QuizQuestion

/-- A value that is read as a number, and is this whole number. -/
def Json.IsPosition (v : Json) (k : Nat) : Prop :=
  ∃ x, v.asNumber? = some x ∧ x.nonneg = true ∧ x.units = k * Double.unit

/-- `IsPosition` holds of a number that is written as the integer `k`, up to `2 ^ 53`. -/
theorem Json.isPosition_integer {k : Nat} (h : k ≤ twoPow 53) :
    (Json.number (.integer k)).IsPosition k := by
  obtain ⟨x, hx, hsign, hunits⟩ := Double.exists_ofNat?_eq h
  refine ⟨x, ?_, ?_, hunits⟩
  · have hneg : ¬(k : Int) < 0 := by omega
    rw [asNumber?, Number.toDouble?, decide_eq_false hneg, Int.natAbs_natCast, ← Double.ofNat?, hx]
  · rw [Double.nonneg, hsign]
    rfl

/-! ## Questions that are read -/

section Reading

variable {ms : Members} {xs : List Json} {answer v : Json} {k : Nat} {o : QuizOption}

/-- `Record.ofMembers` keeps those items of the list that are options, in order. -/
theorem options_ofMembers (hoptions : ms.lookup "options" = some (.array xs)) :
    (Record.ofMembers ms : QuizQuestion).options = xs.filterMap QuizOption.ofJson? := by
  show Members.list QuizOption.ofJson? ms "options" = _
  rw [Members.list, hoptions]
  rfl

/-- `Record.ofMembers` makes a question that names the position `k` its member gives, and no other.
-/
theorem isCorrect_unmarked_ofMembers (hanswer : ms.lookup "correctAnswer" = some answer)
    (hposition : answer.IsPosition k) (j : Nat) :
    (Record.ofMembers ms : QuizQuestion).unmarked.isCorrect j = true ↔ j = k := by
  obtain ⟨x, hx, hnonneg, hunits⟩ := hposition
  -- The number is the position itself, so cutting off a fraction changes nothing.
  have hposition : x.whole = k := by
    rw [Double.whole, hunits]
    exact Nat.mul_div_cancel k Double.unit_pos
  have hread : (Record.ofMembers ms : QuizQuestion).correctAnswer = some x := by
    show Members.number ms "correctAnswer" = _
    rw [Members.number, hanswer]
    exact hx
  rw [QuizQuestion.isCorrect_unmarked_iff, hread]
  constructor
  · rintro ⟨y, hy, -, hj⟩
    obtain rfl := Option.some.inj hy
    rw [← hj, hposition]
  · rintro rfl
    exact ⟨x, rfl, hnonneg, hposition⟩

/-- The position of a right answer that a question is read with names the option it named in the
list of its source if and only if every item before that option is one.  If not, the option has
moved to the front, and the question names the place where it was. -/
theorem answer_kept_iff (hoptions : ms.lookup "options" = some (.array xs))
    (hanswer : ms.lookup "correctAnswer" = some answer) (hposition : answer.IsPosition k)
    (hv : xs[k]? = some v) (ho : QuizOption.ofJson? v = some o) :
    ∃ q : QuizQuestion, ofJson? (.object ms) = some q ∧
      q.options = xs.filterMap QuizOption.ofJson? ∧
      q.options[keptBefore xs k]? = some o ∧
      (∀ j, q.unmarked.isCorrect j = true ↔ j = k) ∧
      (q.NamesOnly (keptBefore xs k) ↔ ∀ w ∈ xs.take k, QuizOption.ofJson? w ≠ none) := by
  have hnames := isCorrect_unmarked_ofMembers hanswer hposition
  have hplace : (Record.ofMembers ms : QuizQuestion).options[keptBefore xs k]? = some o := by
    rw [options_ofMembers hoptions]
    exact getElem?_filterMap_keptBefore hv ho
  have hinside := (List.getElem?_eq_some_iff.1 hplace).1
  have hk : k < xs.length := (List.getElem?_eq_some_iff.1 hv).1
  refine ⟨Record.ofMembers ms, rfl, options_ofMembers hoptions, hplace, hnames, ?_⟩
  rw [QuizQuestion.namesOnly_iff hnames hinside, keptBefore_eq_iff hk]

end Reading

/-- Numbers and marks that are texts behind the answer do not move it. -/
theorem answer_kept_iff_behind :
    let xs : List Json := [.string "3", .string "4", .number (.integer 5),
      .object [("text", .string "6"), ("correct", .string "no")]]
    let ms : Members := [("options", .array xs), ("correctAnswer", .number (.integer 1))]
    (ms.lookup "options" = some (.array xs) ∧
      ms.lookup "correctAnswer" = some (.number (.integer 1)) ∧
      (Json.number (.integer 1)).IsPosition 1 ∧ xs[1]? = some (.string "4") ∧
      QuizOption.ofJson? (.string "4") = some ⟨"4", false⟩) ∧
    ∃ q : QuizQuestion, ofJson? (.object ms) = some q ∧
      q.options = [⟨"3", false⟩, ⟨"4", false⟩] ∧ q.NamesOnly 1 := by
  intro xs ms
  have hposition : (Json.number (.integer 1)).IsPosition 1 := Json.isPosition_integer (by decide)
  obtain ⟨q, hq, hoptions, -, -, hiff⟩ :=
    @answer_kept_iff ms xs _ (.string "4") 1 ⟨"4", false⟩ rfl rfl hposition rfl rfl
  refine ⟨⟨rfl, rfl, hposition, rfl, rfl⟩, q, hq, hoptions, hiff.2 ?_⟩
  -- The one item before the answer is a text.
  intro w hw
  rw [List.mem_singleton.1 hw]
  exact Option.some_ne_none _

/-- A number before the answer is no option, and the answer moves into its place: the question,
which named the second item, now names the option from the third. -/
theorem not_namesOnly_behind_number :
    let xs : List Json := [.number (.integer 3), .string "4", .string "5"]
    let ms : Members := [("options", .array xs), ("correctAnswer", .number (.integer 1))]
    (Json.number (.integer 1)).IsPosition 1 ∧ xs[1]? = some (.string "4") ∧
    QuizOption.ofJson? (.string "4") = some ⟨"4", false⟩ ∧
    ∃ q : QuizQuestion, ofJson? (.object ms) = some q ∧
      q.options = [⟨"4", false⟩, ⟨"5", false⟩] ∧ q.options[keptBefore xs 1]? = some ⟨"4", false⟩ ∧
      ¬q.NamesOnly (keptBefore xs 1) ∧ q.NamesOnly 1 := by
  intro xs ms
  have hposition : (Json.number (.integer 1)).IsPosition 1 := Json.isPosition_integer (by decide)
  have hnames := @isCorrect_unmarked_ofMembers ms _ 1 rfl hposition
  refine ⟨hposition, rfl, rfl, Record.ofMembers ms, rfl, rfl, rfl, ?_, ?_⟩
  · rw [QuizQuestion.namesOnly_iff hnames (by decide)]
    decide
  · rw [QuizQuestion.namesOnly_iff hnames (by decide)]

end Bulletin
