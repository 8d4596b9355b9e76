import Bulletin.Proofs.Text.Replace

/-!
# Occurrences of a mark in a text

What follows every occurrence of a mark, and the word that it begins with.  A character that the
mark does not hold cuts a text in two for this purpose, as it does for replacing.

## Main statements

- `after_append_cons`: occurrences on both sides of such a character
- `after_eq_nil`: no occurrence without all characters of the mark
- `infix_append_cons_iff`, `infix_append_head_iff`: where a mark may occur
- `occurrences_append_cons`, `occurrences_append_head`: how often it occurs
-/

namespace Bulletin.Text

/-- What follows each occurrence of a mark. -/
def after (mark : List Char) : List Char → List (List Char)
  | [] => []
  | c :: cs =>
    if mark.isPrefixOf (c :: cs) then (c :: cs).drop mark.length :: after mark cs
    else after mark cs

/-- The word behind each occurrence of a mark, up to a stop. -/
def wordsAfter (mark : String) (stop : Char) (text : List Char) : List (List Char) :=
  (after mark.toList text).map (List.takeWhile fun c => c ≠ stop)

variable {mark : List Char}

/-- `after` finds nothing in a text that lacks a character of the mark. -/
theorem after_eq_nil {c : Char} {cs : List Char} (hmark : c ∈ mark) (hcs : c ∉ cs) :
    after mark cs = [] := by
  induction cs with
  | nil => rfl
  | cons d cs ih =>
    rw [after, if_neg, ih (fun h => hcs (List.mem_cons_of_mem d h))]
    -- An occurrence at the front would hold the character.
    intro hbegins
    exact hcs ((List.isPrefixOf_iff_prefix.1 hbegins).subset hmark)

/-- `after` looks at the two sides of a character that the mark does not hold one by one: no
occurrence reaches across it. -/
theorem after_append_cons {c : Char} (hne : mark ≠ []) (hc : c ∉ mark) (xs ys : List Char) :
    after mark (xs ++ c :: ys) =
      ((after mark xs).map fun rest => rest ++ c :: ys) ++ after mark ys := by
  -- An occurrence that begins in front of the character lies in front of it as a whole.
  induction xs with
  | nil =>
    have hstep : after mark (c :: ys) = after mark ys := by
      rw [after, if_neg]
      intro hbegins
      rw [← List.nil_append (c :: ys), isPrefixOf_append_cons hc] at hbegins
      exact hne (List.prefix_nil.1 (List.isPrefixOf_iff_prefix.1 hbegins))
    rw [List.nil_append, hstep]
    rfl
  | cons d xs ih =>
    rw [List.cons_append, after, ← List.cons_append, isPrefixOf_append_cons hc, after, ih]
    -- An occurrence that begins here ends here, so what follows it is what followed before, and the
    -- rest.
    split
    · rename_i hbegins
      have hlong : mark.length ≤ (d :: xs).length :=
        (List.isPrefixOf_iff_prefix.1 hbegins).length_le
      rw [List.drop_append_of_le_length hlong, List.map_cons, List.cons_append]
    · rfl

/-- `after` finds nothing more in characters that the mark does not hold; they only follow what was
found. -/
theorem after_append_of_notMem (hne : mark ≠ []) {ys : List Char} (hys : ∀ c ∈ ys, c ∉ mark)
    (xs : List Char) :
    after mark (xs ++ ys) = (after mark xs).map fun rest => rest ++ ys := by
  cases ys with
  | nil => simp
  | cons c ys =>
    rw [List.forall_mem_cons] at hys
    obtain ⟨d, hd⟩ := List.exists_mem_of_ne_nil mark hne
    have hnil : after mark ys = [] := after_eq_nil hd fun hmem => hys.2 d hmem hd
    rw [after_append_cons hne hys.1, hnil, List.append_nil]

/-! ## Whether a mark occurs -/

/-- A mark at the front does not reach across a character that it does not hold. -/
theorem prefix_append_cons_iff {c : Char} (hc : c ∉ mark) (xs ys : List Char) :
    mark <+: xs ++ c :: ys ↔ mark <+: xs := by
  rw [← List.isPrefixOf_iff_prefix, ← List.isPrefixOf_iff_prefix, isPrefixOf_append_cons hc]

/-- A mark occurs on one of the two sides of a character that it does not hold, or not at all. -/
theorem infix_append_cons_iff {c : Char} (hc : c ∉ mark) (xs ys : List Char) :
    mark <:+: xs ++ c :: ys ↔ mark <:+: xs ∨ mark <:+: ys := by
  -- By induction on the first side, at whose front the mark may stand each time.
  induction xs with
  | nil =>
    have hprefix := prefix_append_cons_iff hc [] ys
    rw [List.nil_append] at hprefix
    rw [List.nil_append, List.infix_cons_iff, hprefix, List.prefix_nil, List.infix_nil]
  | cons d xs ih =>
    have hprefix := prefix_append_cons_iff hc (d :: xs) ys
    rw [List.cons_append] at hprefix
    rw [List.cons_append, List.infix_cons_iff, hprefix, ih, List.infix_cons_iff, or_assoc]

/-- A mark that holds its first character once cannot reach across that character. -/
theorem infix_append_head_iff {c : Char} {tail : List Char} (hc : c ∉ tail) (xs ys : List Char) :
    c :: tail <:+: xs ++ c :: ys ↔ c :: tail <:+: xs ∨ c :: tail <:+: c :: ys := by
  induction xs with
  | nil => simp
  | cons d xs ih =>
    rw [List.cons_append, List.infix_cons_iff, ih, List.cons_prefix_cons, prefix_append_cons_iff hc,
      ← List.cons_prefix_cons, ← or_assoc, ← List.infix_cons_iff]

/-- Where the first character of the mark does not stand, the mark does not begin. -/
theorem infix_append_of_notMem {c : Char} {tail xs : List Char} (hc : c ∉ xs) (ys : List Char) :
    c :: tail <:+: xs ++ ys ↔ c :: tail <:+: ys := by
  induction xs with
  | nil => rfl
  | cons d xs ih =>
    rw [List.mem_cons, not_or] at hc
    rw [List.cons_append, List.infix_cons_iff, List.cons_prefix_cons, ih hc.2]
    simp [hc.1]

/-- `after` finds nothing if and only if the mark does not occur. -/
theorem after_eq_nil_iff {cs : List Char} (hne : mark ≠ []) :
    after mark cs = [] ↔ ¬mark <:+: cs := by
  induction cs with
  | nil => simp [after, hne]
  | cons c cs ih =>
    rw [after, List.infix_cons_iff, not_or, ← ih, ← List.isPrefixOf_iff_prefix]
    split <;> simp_all

/-! ## How often a mark occurs -/

/-- How often a mark occurs in a text. -/
def occurrences (mark text : List Char) : Nat := (after mark text).length

@[simp] theorem occurrences_nil (mark : List Char) : occurrences mark [] = 0 := rfl

/-- `occurrences` counts one more where the mark stands at the front. -/
theorem occurrences_cons (c : Char) (cs : List Char) :
    occurrences mark (c :: cs) =
      (if mark.isPrefixOf (c :: cs) then 1 else 0) + occurrences mark cs := by
  unfold occurrences
  rw [after]
  split
  · rw [List.length_cons, Nat.add_comm]
  · rw [Nat.zero_add]

/-- `occurrences` is zero if and only if the mark does not occur. -/
theorem occurrences_eq_zero_iff {cs : List Char} (hne : mark ≠ []) :
    occurrences mark cs = 0 ↔ ¬mark <:+: cs := by
  rw [occurrences, List.length_eq_zero_iff, after_eq_nil_iff hne]

/-- `occurrences` on the two sides of a character that the mark does not hold add up. -/
theorem occurrences_append_cons {c : Char} (hne : mark ≠ []) (hc : c ∉ mark) (xs ys : List Char) :
    occurrences mark (xs ++ c :: ys) = occurrences mark xs + occurrences mark ys := by
  rw [occurrences, after_append_cons hne hc, List.length_append, List.length_map, occurrences,
    occurrences]

/-- `occurrences` add up where the first character of a mark stands that holds it once. -/
theorem occurrences_append_head {c : Char} {tail : List Char} (hc : c ∉ tail) (xs ys : List Char) :
    occurrences (c :: tail) (xs ++ c :: ys) =
      occurrences (c :: tail) xs + occurrences (c :: tail) (c :: ys) := by
  induction xs with
  | nil => simp
  | cons d xs ih =>
    -- An occurrence that begins in the first part ends there.
    have hbegins : (c :: tail).isPrefixOf (d :: (xs ++ c :: ys)) =
        (c :: tail).isPrefixOf (d :: xs) := by
      rw [List.isPrefixOf_cons_cons, List.isPrefixOf_cons_cons, isPrefixOf_append_cons hc]
    rw [List.cons_append, occurrences_cons, hbegins, ih, ← Nat.add_assoc, ← occurrences_cons]

/-- `occurrences` does not change by characters in front that the mark does not begin with. -/
theorem occurrences_append_of_notMem {c : Char} {tail xs : List Char} (hc : c ∉ xs)
    (ys : List Char) : occurrences (c :: tail) (xs ++ ys) = occurrences (c :: tail) ys := by
  induction xs with
  | nil => rfl
  | cons d xs ih =>
    rw [List.mem_cons, not_or] at hc
    have hbegins : ¬(c :: tail).isPrefixOf (d :: (xs ++ ys)) = true := by
      simp [hc.1]
    rw [List.cons_append, occurrences_cons, if_neg hbegins, ih hc.2, Nat.zero_add]

/-! ## Words behind a mark -/

/-- `after` of a literal, from the list of characters that the literal stands for. -/
theorem after_toList_ofList {cs : List Char} {rests : List (List Char)}
    (h : after mark cs = rests) : after mark (String.ofList cs).toList = rests := by
  rwa [String.toList_ofList]

/-- The words behind the occurrences in a piece, with what follows the piece. -/
def wordsFrom (mark : String) (stop : Char) (piece rest : List Char) : List (List Char) :=
  (after mark.toList piece).map fun word => (word ++ rest).takeWhile fun c => c ≠ stop

/-- `wordsFrom` finds no word in a piece without the mark. -/
theorem wordsFrom_eq_nil {mark : String} {piece : List Char} (h : after mark.toList piece = [])
    (stop : Char) (rest : List Char) : wordsFrom mark stop piece rest = [] := by
  rw [wordsFrom, h, List.map_nil]

/-- `wordsAfter` of a text is `wordsFrom` with nothing behind it. -/
theorem wordsAfter_eq_wordsFrom (mark : String) (stop : Char) (text : List Char) :
    wordsAfter mark stop text = wordsFrom mark stop text [] := by
  simp [wordsAfter, wordsFrom]

/-- `wordsAfter` goes through a piece, over a gap that holds nothing of the mark, and on behind a
cut. -/
theorem wordsAfter_piece {mark : String} (hne : mark.toList ≠ []) {c : Char}
    (hc : c ∉ mark.toList) {gap : List Char} (hgap : ∀ d ∈ gap, d ∉ mark.toList) (stop : Char)
    (piece rest : List Char) :
    wordsAfter mark stop (piece ++ (gap ++ c :: rest)) =
      wordsFrom mark stop piece (gap ++ c :: rest) ++ wordsAfter mark stop rest := by
  unfold wordsAfter wordsFrom
  rw [← List.append_assoc, after_append_cons hne hc, after_append_of_notMem hne hgap,
    List.map_append, List.map_map, List.map_map]
  -- On both sides the same words follow; only how the text behind them is put together differs.
  congr 1
  apply List.map_congr_left
  intro word _
  simp

/-- `wordsAfter` goes through a piece and on behind a cut. -/
theorem wordsAfter_cut {mark : String} (hne : mark.toList ≠ []) {c : Char} (hc : c ∉ mark.toList)
    (stop : Char) (piece rest : List Char) :
    wordsAfter mark stop (piece ++ c :: rest) =
      wordsFrom mark stop piece (c :: rest) ++ wordsAfter mark stop rest :=
  wordsAfter_piece hne hc (List.forall_mem_nil _) stop piece rest

/-- A word ends where the stop stands first. -/
theorem takeWhile_append_cons {stop : Char} {word : List Char} (hword : stop ∉ word)
    (rest : List Char) : (word ++ stop :: rest).takeWhile (fun c => c ≠ stop) = word := by
  induction word with
  | nil => simp
  | cons c word ih =>
    rw [List.mem_cons, not_or] at hword
    have hc : c ≠ stop := fun h => hword.1 h.symm
    rw [List.cons_append, List.takeWhile_cons_of_pos (by simpa using hc), ih hword.2]

end Bulletin.Text
