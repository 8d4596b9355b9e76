import Bulletin.Text.Replace

/-!
# Replacing, piece by piece

A character that the pattern does not hold cuts a text into pieces that are replaced on their own,
since no occurrence reaches across it.  A text stays as it is exactly when the pattern does not
occur in it, unless the replacement begins like the pattern.

## Main statements

- `replaceAll_append_cons`: replacing on both sides of such a character
- `replaceAll_eq_self_iff`: when nothing is replaced
-/

namespace Bulletin.Text

variable {pattern replacement cs : List Char}

/-- `replaceAll` brings in no characters but those of the replacement. -/
theorem mem_replaceAll {c : Char} (h : c ∈ replaceAll pattern replacement cs) :
    c ∈ replacement ∨ c ∈ cs := by
  fun_induction replaceAll pattern replacement cs with
  | case1 => simp at h
  | case2 d cs hfound ih =>
    rcases List.mem_append.1 h with hnew | hrest
    · exact .inl hnew
    · rcases ih hrest with hnew | hold
      · exact .inl hnew
      · exact .inr (List.mem_cons_of_mem d (List.mem_of_mem_drop hold))
  | case3 d cs hfound ih =>
    rcases List.mem_cons.1 h with rfl | hrest
    · exact .inr List.mem_cons_self
    · exact (ih hrest).imp_right (List.mem_cons_of_mem d)

/-- `replaceAll` replaces the pattern at the front of a text. -/
theorem replaceAll_self_append (hne : pattern ≠ []) (cs : List Char) :
    replaceAll pattern replacement (pattern ++ cs) =
      replacement ++ replaceAll pattern replacement cs := by
  obtain ⟨p, ps, rfl⟩ := List.exists_cons_of_ne_nil hne
  rw [List.cons_append, replaceAll, if_pos ⟨hne, by simp⟩]
  simp

/-- `replaceAll` turns the pattern itself into the replacement. -/
theorem replaceAll_self (hne : pattern ≠ []) :
    replaceAll pattern replacement pattern = replacement := by
  have hnil : replaceAll pattern replacement [] = [] := by rw [replaceAll]
  have hself : replaceAll pattern replacement (pattern ++ []) = replacement := by
    rw [replaceAll_self_append hne, hnil, List.append_nil]
  rwa [List.append_nil] at hself

/-- A pattern at the front of a text does not reach across a character that it does not hold. -/
theorem isPrefixOf_append_cons {c : Char} (hc : c ∉ pattern) (xs ys : List Char) :
    pattern.isPrefixOf (xs ++ c :: ys) = pattern.isPrefixOf xs := by
  rw [Bool.eq_iff_iff, List.isPrefixOf_iff_prefix, List.isPrefixOf_iff_prefix]
  constructor
  · intro h
    -- If the pattern reached beyond the first part, it would hold the character.
    rcases List.prefix_or_prefix_of_prefix h (List.prefix_append xs (c :: ys)) with h' | ⟨ps, rfl⟩
    · exact h'
    · cases ps with
      | nil => simp
      | cons p ps =>
        obtain ⟨rfl, -⟩ : p = c ∧ _ := by simpa using (List.prefix_append_right_inj xs).1 h
        simp at hc
  · intro h
    exact h.trans (List.prefix_append xs _)

/-- `replaceAll` treats the two sides of a character that the pattern does not hold one by one. -/
theorem replaceAll_append_cons {c : Char} (hc : c ∉ pattern) (xs ys : List Char) :
    replaceAll pattern replacement (xs ++ c :: ys) =
      replaceAll pattern replacement xs ++ c :: replaceAll pattern replacement ys := by
  fun_induction replaceAll pattern replacement xs with
  | case1 =>
    rw [List.nil_append, replaceAll, if_neg]
    · rfl
    · rintro ⟨hne, hbegins⟩
      rw [← List.nil_append (c :: ys), isPrefixOf_append_cons hc] at hbegins
      exact hne (List.prefix_nil.1 (List.isPrefixOf_iff_prefix.1 hbegins))
  | case2 d xs hfound ih =>
    -- The pattern lies in the first side as a whole, so what is dropped does too.
    have hlong : pattern.length ≤ xs.length + 1 := by
      simpa using (List.isPrefixOf_iff_prefix.1 hfound.2).length_le
    rw [List.cons_append, replaceAll, if_pos, List.append_assoc, ← ih,
      List.drop_append_of_le_length (by omega)]
    rw [← List.cons_append, isPrefixOf_append_cons hc]
    exact hfound
  | case3 d xs hfound ih =>
    rw [List.cons_append, replaceAll, if_neg, ih, List.cons_append]
    rw [← List.cons_append, isPrefixOf_append_cons hc]
    exact hfound

/-- `replaceAll` keeps a character that the pattern does not hold. -/
theorem replaceAll_cons_of_notMem {c : Char} (hc : c ∉ pattern) (cs : List Char) :
    replaceAll pattern replacement (c :: cs) = c :: replaceAll pattern replacement cs := by
  have hnil : replaceAll pattern replacement [] = [] := by rw [replaceAll]
  rw [← List.nil_append (c :: cs), replaceAll_append_cons hc, hnil, List.nil_append]

/-- `replaceAll` keeps everything in front of the first character that the pattern may begin at. -/
theorem replaceAll_append_of_notMem {p : Char} {ps : List Char} {xs : List Char} (hp : p ∉ xs)
    (ys : List Char) :
    replaceAll (p :: ps) replacement (xs ++ ys) = xs ++ replaceAll (p :: ps) replacement ys := by
  induction xs with
  | nil => rfl
  | cons x xs ih =>
    rw [List.mem_cons, not_or] at hp
    rw [List.cons_append, replaceAll, if_neg, ih hp.2]
    · rfl
    · rintro ⟨-, hbegins⟩
      obtain ⟨hpx, -⟩ : p = x ∧ _ := by simpa using hbegins
      exact hp.1 hpx

/-- `replaceAll` keeps a text in which the pattern does not occur. -/
theorem replaceAll_of_not_infix (h : ¬pattern <:+: cs) :
    replaceAll pattern replacement cs = cs := by
  fun_induction replaceAll pattern replacement cs with
  | case1 => rfl
  | case2 c cs hfound ih => exact absurd (List.isPrefixOf_iff_prefix.1 hfound.2).isInfix h
  | case3 c cs hfound ih =>
    -- The rest has no occurrence either.
    rw [ih]
    intro hoccurs
    exact h (hoccurs.trans (List.suffix_cons c cs).isInfix)

/-- `replaceAll` keeps a text only if the pattern does not occur in it, unless the replacement
begins like the pattern. -/
theorem replaceAll_eq_self_iff {p r : Char} {ps rs : List Char} (hne : p ≠ r) :
    replaceAll (p :: ps) (r :: rs) cs = cs ↔ ¬(p :: ps) <:+: cs := by
  refine ⟨fun h => ?_, replaceAll_of_not_infix⟩
  -- Where nothing is replaced, nothing is replaced behind the first character.
  fun_induction replaceAll (p :: ps) (r :: rs) cs with
  | case1 => simp
  | case2 c cs hfound ih =>
    -- The text would begin with the pattern and with the replacement.
    obtain ⟨hp, -⟩ : p = c ∧ _ := by simpa using hfound.2
    obtain ⟨hr, -⟩ : r = c ∧ _ := by simpa using h
    exact absurd (hp.trans hr.symm) hne
  | case3 c cs hfound ih =>
    rw [List.infix_cons_iff, not_or]
    constructor
    · intro hbegins
      exact hfound ⟨List.cons_ne_nil p ps, List.isPrefixOf_iff_prefix.2 hbegins⟩
    · exact ih (List.cons.inj h).2

end Bulletin.Text
