import Bulletin.Json.Record
import Bulletin.Proofs.Double.Numeral
import Bulletin.Proofs.Text.Trim

/-!
# Texts that stand for numbers

Where a number is due a text will do as well.  It must be a decimal numeral, perhaps with `px` behind
it, and there may be blanks before, between and behind these.  Neither the blanks nor the unit have a
say in the number.

## Main statements

- `measure?_eq_some_iff`: which texts stand for numbers, and for which
- `Numeral.Measures.chars`: what every such text has, and what none has
-/

namespace Bulletin

open Text
open Double (RoundsTo)

namespace Numeral

/-! ## Characters of numerals -/

/-- A character that stands in numerals. -/
def isChar (c : Char) : Bool := Json.isNumberChar c || c = '+' || c = '-'

variable {n : Numeral} {cs : List Char} {e : Int}

/-- `isChar` holds of digits. -/
theorem isChar_of_isDigit {c : Char} (h : c.isDigit = true) : isChar c = true := by
  simp [isChar, Json.isNumberChar, Json.isDecimal, h]

/-- `isChar` holds of no blank. -/
theorem isBlankChar_of_isChar {c : Char} (h : isChar c = true) : isBlankChar c = false := by
  simp only [isChar, Json.isNumberChar, Json.isDecimal, Json.isPowerMark, Bool.or_eq_true,
    decide_eq_true_eq] at h
  obtain (((hdigit | rfl) | rfl | rfl) | rfl) | rfl := h
  · -- A digit lies in none of the ranges of blanks.
    obtain ⟨hlow, hhigh⟩ := toNat_of_isDigit hdigit
    simp only [isBlankChar, blankRanges, List.any_eq_false, List.mem_cons, List.not_mem_nil,
      or_false, Bool.and_eq_true, decide_eq_true_eq]
    rintro _ (rfl | rfl | rfl | rfl | rfl | rfl | rfl | rfl | rfl | rfl) ⟨hfirst, hlast⟩
    all_goals
      dsimp only at hfirst hlast
      omega
  all_goals decide

/-- `isChar` holds of the signs. -/
theorem isChar_of_mem_sign {sign : List Char} {negative : Bool}
    (h : (sign, negative) ∈ Json.powerSigns) : ∀ c ∈ sign, isChar c = true := by
  simp only [Json.powerSigns, List.mem_cons, Prod.mk.injEq, List.not_mem_nil, or_false] at h
  obtain ⟨rfl, -⟩ | ⟨rfl, -⟩ | ⟨rfl, -⟩ := h <;> simp [isChar]

/-- `isChar` holds of what stands in a power of ten. -/
theorem IsPower.isChar (h : IsPower cs e) : ∀ c ∈ cs, isChar c = true := by
  obtain ⟨rfl, -⟩ | ⟨mark, rest, rfl, hmark, sign, down, ds, rfl, hsign, -, hds, -⟩ := h
  · exact List.forall_mem_nil _
  · rw [List.forall_mem_cons, List.forall_mem_append]
    refine ⟨?_, isChar_of_mem_sign hsign, fun d hd => isChar_of_isDigit (hds d hd)⟩
    simp [Numeral.isChar, Json.isNumberChar, hmark]

/-- `isChar` holds of everything that stands in a numeral. -/
theorem Spells.isChar (h : n.Spells cs) : ∀ c ∈ cs, isChar c = true := by
  obtain ⟨sign, point, power, rfl, hsign, hdigits, -, hpoint, hpower⟩ := h
  obtain ⟨hwhole, hfraction⟩ := List.forall_mem_append.1 hdigits
  simp only [List.forall_mem_append]
  refine ⟨isChar_of_mem_sign hsign, fun d hd => isChar_of_isDigit (hwhole d hd), ?_,
    fun d hd => isChar_of_isDigit (hfraction d hd), hpower.isChar⟩
  obtain rfl | ⟨rfl, -⟩ := hpoint <;> simp [Numeral.isChar, Json.isNumberChar, Json.isDecimal]

/-- A numeral has a digit. -/
theorem Spells.exists_isDigit (h : n.Spells cs) : ∃ d ∈ cs, d.isDigit = true := by
  obtain ⟨sign, point, power, rfl, -, hdigits, hne, -⟩ := h
  obtain ⟨d, hd⟩ := List.exists_mem_of_ne_nil _ hne
  refine ⟨d, ?_, hdigits d hd⟩
  simp only [List.mem_append] at hd ⊢
  obtain hd | hd := hd
  · exact .inr (.inl hd)
  · exact .inr (.inr (.inr (.inl hd)))

theorem Spells.ne_nil (h : n.Spells cs) : cs ≠ [] := by
  obtain ⟨d, hd, -⟩ := h.exists_isDigit
  exact List.ne_nil_of_mem hd

/-- `trimStart` takes nothing from a numeral, nor from what stands behind it. -/
theorem Spells.trimStart_append (h : n.Spells cs) (rest : List Char) :
    trimStart (cs ++ rest) = cs ++ rest := by
  apply trimStart_of_head?
  rw [List.head?_append, Option.or_of_isSome (List.isSome_head?.2 h.ne_nil)]
  intro c hc
  exact isBlankChar_of_isChar (h.isChar c (List.mem_of_mem_head? hc))

/-- `trimEnd` takes nothing from a numeral. -/
theorem Spells.trimEnd_eq (h : n.Spells cs) : trimEnd cs = cs := by
  apply trimEnd_of_getLast?
  intro c hc
  exact isBlankChar_of_isChar (h.isChar c (List.mem_of_mem_getLast? hc))

/-! ## Numerals with blanks and a unit -/

/-- A text is a numeral with blanks around it, and perhaps with `px` behind it and blanks behind
that. -/
def Measures (n : Numeral) (s : String) : Prop :=
  ∃ before numeral gap, n.Spells numeral ∧ Blanks before ∧ Blanks gap ∧
    (s.toList = before ++ numeral ++ gap ∨
      ∃ after, Blanks after ∧ s.toList = before ++ numeral ++ gap ++ ['p', 'x'] ++ after)

variable {s : String}

/-- A text that stands for a number has a digit, no second unit, and nothing but blanks, what
numerals are made of, and a unit in small letters. -/
theorem Measures.chars (h : n.Measures s) :
    (∃ d ∈ s.toList, d.isDigit = true) ∧ s.toList.count 'p' ≤ 1 ∧
      ∀ c ∈ s.toList, isBlankChar c = true ∨ isChar c = true ∨ c = 'p' ∨ c = 'x' := by
  obtain ⟨before, numeral, gap, hspells, hbefore, hgap, hs⟩ := h
  obtain ⟨d, hd, hdigit⟩ := hspells.exists_isDigit
  -- The only letter that could be a unit's is in none of the other parts.
  have hnumeral : numeral.count 'p' = 0 :=
    List.count_eq_zero.2 fun hp => absurd (hspells.isChar _ hp) (by decide)
  have hblanks : ∀ {cs : List Char}, Blanks cs → cs.count 'p' = 0 := fun h =>
    List.count_eq_zero.2 fun hp => absurd (h _ hp) (by decide)
  have hchars : ∀ c ∈ before ++ numeral ++ gap, isBlankChar c = true ∨ isChar c = true := by
    simp only [List.forall_mem_append]
    exact ⟨⟨fun c hc => .inl (hbefore c hc), fun c hc => .inr (hspells.isChar c hc)⟩,
      fun c hc => .inl (hgap c hc)⟩
  obtain hs | ⟨after, hafter, hs⟩ := hs
  · rw [hs]
    refine ⟨⟨d, by simp [hd], hdigit⟩, ?_, fun c hc => (hchars c hc).imp_right .inl⟩
    simp [hnumeral, hblanks hbefore, hblanks hgap]
  · rw [hs]
    refine ⟨⟨d, by simp [hd], hdigit⟩, ?_, ?_⟩
    · simp [hnumeral, hblanks hbefore, hblanks hgap, hblanks hafter]
    · rw [List.forall_mem_append, List.forall_mem_append]
      exact ⟨⟨fun c hc => (hchars c hc).imp_right .inl,
        fun c hc => .inr (.inr (by simpa using hc))⟩, fun c hc => .inl (hafter c hc)⟩

/-- Texts that stand for no number: those without a digit, those with two units, and those with any
other character, such as a capital letter of a unit or a letter of a word. -/
theorem not_measures (h : (∀ d ∈ s.toList, d.isDigit = false) ∨ 2 ≤ s.toList.count 'p' ∨
    ∃ c ∈ s.toList, isBlankChar c = false ∧ isChar c = false ∧ c ≠ 'p' ∧ c ≠ 'x') :
    ¬n.Measures s := by
  intro hmeasures
  obtain ⟨⟨d, hd, hdigit⟩, hcount, hchars⟩ := hmeasures.chars
  obtain hdigits | htwice | ⟨c, hc, hblank, hchar, hp, hx⟩ := h
  · exact Bool.eq_false_iff.1 (hdigits d hd) hdigit
  · omega
  · obtain h | h | h | h := hchars c hc
    · exact Bool.eq_false_iff.1 hblank h
    · exact Bool.eq_false_iff.1 hchar h
    · exact hp h
    · exact hx h

end Numeral

/-! ## What is left without blanks and unit -/

/-- The text without a unit at its end. -/
def withoutUnit (cs : List Char) : List Char :=
  match cs.reverse with
  | 'x' :: 'p' :: rest => rest.reverse
  | _ => cs

/-- `withoutUnit` takes the unit off. -/
theorem withoutUnit_append (cs : List Char) : withoutUnit (cs ++ ['p', 'x']) = cs := by
  rw [withoutUnit, List.reverse_append]
  exact List.reverse_reverse cs

/-- `withoutUnit` takes nothing off a text without the last letter of the unit. -/
theorem withoutUnit_of_notMem {cs : List Char} (h : 'x' ∉ cs) : withoutUnit cs = cs := by
  unfold withoutUnit
  split
  · rename_i rest hrest
    have hx : 'x' ∈ cs.reverse := by
      rw [hrest]
      exact List.mem_cons_self
    exact absurd (List.mem_reverse.1 hx) h
  · rfl

/-- `withoutUnit` takes the unit off or there is none. -/
theorem eq_withoutUnit_or (cs : List Char) :
    cs = withoutUnit cs ++ ['p', 'x'] ∨ cs = withoutUnit cs := by
  unfold withoutUnit
  split
  · rename_i rest hrest
    left
    rw [← List.reverse_reverse cs, hrest]
    simp
  · exact .inr rfl

/-- The part of a text that must be a numeral. -/
def numeralPart (s : String) : List Char :=
  trimEnd (withoutUnit (trimEnd (trimStart s.toList)))

theorem measure?_eq (s : String) : measure? s = Double.ofNumeral? (numeralPart s) := rfl

/-- `numeralPart` leaves out the blanks around the part, and the unit behind it if there is one. -/
theorem exists_eq_append_numeralPart (s : String) : ∃ before gap, Blanks before ∧ Blanks gap ∧
    (s.toList = before ++ numeralPart s ++ gap ∨
      ∃ after, Blanks after ∧ s.toList = before ++ numeralPart s ++ gap ++ ['p', 'x'] ++ after) := by
  obtain ⟨before, hbefore, hs⟩ := exists_eq_append_trimStart s.toList
  obtain ⟨after, hafter, hstart⟩ := exists_eq_trimEnd_append (trimStart s.toList)
  obtain ⟨gap, hgap, hunit⟩ := exists_eq_trimEnd_append (withoutUnit (trimEnd (trimStart s.toList)))
  rw [← numeralPart] at hunit
  refine ⟨before, ?_⟩
  obtain htrim | htrim := eq_withoutUnit_or (trimEnd (trimStart s.toList))
  · refine ⟨gap, hbefore, hgap, .inr ⟨after, hafter, ?_⟩⟩
    rw [hs, hstart, htrim, hunit]
    simp only [List.append_assoc]
  · -- Without a unit the two gaps behind the part are one.
    refine ⟨gap ++ after, hbefore, List.forall_mem_append.2 ⟨hgap, hafter⟩, .inl ?_⟩
    rw [hs, hstart, htrim, hunit]
    simp only [List.append_assoc]

/-- `numeralPart` of a text that stands for a numeral is the numeral. -/
theorem Numeral.Spells.numeralPart_eq {n : Numeral} {s : String} {before numeral gap : List Char}
    (h : n.Spells numeral) (hbefore : Blanks before) (hgap : Blanks gap)
    (hs : s.toList = before ++ numeral ++ gap ∨
      ∃ after, Blanks after ∧ s.toList = before ++ numeral ++ gap ++ ['p', 'x'] ++ after) :
    numeralPart s = numeral := by
  have hx : 'x' ∉ numeral := fun hx => absurd (h.isChar _ hx) (by decide)
  obtain hs | ⟨after, hafter, hs⟩ := hs
  · rw [numeralPart, hs, List.append_assoc, Text.trimStart_append hbefore, h.trimStart_append,
      trimEnd_append hgap, h.trimEnd_eq, withoutUnit_of_notMem hx, h.trimEnd_eq]
  · -- Behind the unit the text ends in a letter, so that only the outer blanks are trimmed.
    have hunit : trimEnd (numeral ++ gap ++ ['p', 'x']) = numeral ++ gap ++ ['p', 'x'] := by
      apply trimEnd_of_getLast?
      rw [List.getLast?_append]
      rintro c ⟨⟩
      decide
    have hstart : trimStart s.toList = numeral ++ gap ++ ['p', 'x'] ++ after := by
      rw [hs]
      simp only [List.append_assoc]
      rw [Text.trimStart_append hbefore, h.trimStart_append]
    rw [numeralPart, hstart, trimEnd_append hafter, hunit, withoutUnit_append, trimEnd_append hgap,
      h.trimEnd_eq]

/-- A text stands for a numeral exactly if its `numeralPart` spells it. -/
theorem Numeral.measures_iff {n : Numeral} {s : String} :
    n.Measures s ↔ n.Spells (numeralPart s) := by
  constructor
  · rintro ⟨before, numeral, gap, hspells, hbefore, hgap, hs⟩
    rwa [hspells.numeralPart_eq hbefore hgap hs]
  · intro hspells
    obtain ⟨before, gap, hbefore, hgap, hs⟩ := exists_eq_append_numeralPart s
    exact ⟨before, _, gap, hspells, hbefore, hgap, hs⟩

/-- `measure?` finds the double that a numeral with blanks and perhaps a unit rounds to. -/
theorem measure?_eq_some_iff {s : String} {x : Double} :
    measure? s = some x ↔ ∃ n : Numeral, n.Measures s ∧ RoundsTo n.negative n.value x := by
  simp only [measure?_eq, Double.ofNumeral?_eq_some_iff, Double.IsSpelled, Numeral.measures_iff]

end Bulletin
