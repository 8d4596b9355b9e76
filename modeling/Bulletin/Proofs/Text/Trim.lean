import Bulletin.Text.Blank

/-!
# Trimming

A text is what trimming leaves of it, with blanks at both ends; and what begins and ends with
something else than a blank is what trimming leaves of it with any blanks at its ends.

## Main statements

- `exists_eq_append_trim`: a text is blanks, what trimming leaves, and blanks
- `toList_trim_of_append`: blanks at both ends are all that trimming takes
-/

namespace Bulletin.Text

/-- Characters that are all blank. -/
def Blanks (cs : List Char) : Prop := ∀ c ∈ cs, isBlankChar c = true

variable {gap cs : List Char} {c : Char}

/-- `Blanks` does not depend on the order of the characters. -/
theorem Blanks.reverse (h : Blanks gap) : Blanks gap.reverse :=
  fun c hc => h c (List.mem_reverse.1 hc)

/-! ## In front -/

/-- `trimStart` takes any blanks in front. -/
theorem trimStart_append (hgap : Blanks gap) (cs : List Char) :
    trimStart (gap ++ cs) = trimStart cs :=
  List.dropWhile_append_of_pos hgap

/-- `trimStart` takes nothing from a text that begins with something else than a blank. -/
theorem trimStart_of_head? (h : ∀ c ∈ cs.head?, isBlankChar c = false) : trimStart cs = cs := by
  cases cs with
  | nil => rfl
  | cons c cs =>
    have hc : ¬isBlankChar c = true := by
      rw [h c rfl]
      decide
    exact List.dropWhile_cons_of_neg hc

/-- `trimStart` takes nothing but blanks. -/
theorem exists_eq_append_trimStart (cs : List Char) :
    ∃ gap, Blanks gap ∧ cs = gap ++ trimStart cs := by
  refine ⟨cs.takeWhile isBlankChar, ?_, List.takeWhile_append_dropWhile.symm⟩
  intro c hc
  exact List.all_eq_true.1 List.all_takeWhile c hc

/-! ## Behind -/

/-- `trimEnd` takes any blanks behind. -/
theorem trimEnd_append (hgap : Blanks gap) (cs : List Char) : trimEnd (cs ++ gap) = trimEnd cs := by
  rw [trimEnd, List.reverse_append, trimStart_append hgap.reverse, trimEnd]

/-- `trimEnd` takes nothing from a text that ends with something else than a blank. -/
theorem trimEnd_of_getLast? (h : ∀ c ∈ cs.getLast?, isBlankChar c = false) : trimEnd cs = cs := by
  rw [trimEnd, trimStart_of_head?, List.reverse_reverse]
  rwa [List.head?_reverse]

/-- `trimEnd` takes nothing but blanks. -/
theorem exists_eq_trimEnd_append (cs : List Char) : ∃ gap, Blanks gap ∧ cs = trimEnd cs ++ gap := by
  -- The end of a text is the front of its reverse.
  obtain ⟨gap, hgap, hcs⟩ := exists_eq_append_trimStart cs.reverse
  refine ⟨gap.reverse, hgap.reverse, ?_⟩
  rw [trimEnd, ← List.reverse_append, ← hcs, List.reverse_reverse]

/-! ## At both ends -/

/-- A text is what `trim` leaves of it, with blanks before and behind. -/
theorem exists_eq_append_trim (s : String) :
    ∃ before after, Blanks before ∧ Blanks after ∧
      s.toList = before ++ (trim s).toList ++ after := by
  obtain ⟨before, hbefore, hs⟩ := exists_eq_append_trimStart s.toList
  obtain ⟨after, hafter, hstart⟩ := exists_eq_trimEnd_append (trimStart s.toList)
  refine ⟨before, after, hbefore, hafter, ?_⟩
  rw [toList_trim, List.append_assoc, ← hstart, ← hs]

/-- `trim` takes the blanks before and behind a text that begins and ends with none. -/
theorem toList_trim_of_append {s : String} {before text after : List Char}
    (hs : s.toList = before ++ text ++ after) (hbefore : Blanks before) (hafter : Blanks after)
    (hne : text ≠ []) (hhead : ∀ c ∈ text.head?, isBlankChar c = false)
    (hlast : ∀ c ∈ text.getLast?, isBlankChar c = false) : (trim s).toList = text := by
  -- The blanks behind do not change how the text begins.
  have hstart : trimStart (text ++ after) = text ++ after :=
    trimStart_of_head? (by rwa [List.head?_append, Option.or_of_isSome (List.isSome_head?.2 hne)])
  rw [toList_trim, hs, List.append_assoc, trimStart_append hbefore, hstart, trimEnd_append hafter,
    trimEnd_of_getLast? hlast]

end Bulletin.Text
