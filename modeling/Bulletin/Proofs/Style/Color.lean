import Bulletin.Color
import Bulletin.Proofs.Text.Digit
import Bulletin.Proofs.Text.Trim

/-!
# The grammar of colors

The channels of a color are known when it is spelled in one of two ways, blanks at its ends aside.
What a color with an opacity looks like is neither of them, so an opacity is given once.

## Main statements

- `Rgb.hexValue?_eq_some_iff`: the hexadecimal digits and their values
- `Rgb.exists_of_channel?_eq_some`, `Rgb.channel?_append`: a decimal channel is one to three digits
  among blanks, no less and no more of a text
- `Rgb.parse?_eq_some_iff`: the colors whose channels are known are the ones that are spelled
- `color_grammar`: what is spelled, how large the channels are, and what an opacity makes of a color
-/

namespace Bulletin

open Text

namespace Rgb

/-! ## Spellings -/

/-- A hexadecimal digit of either case, and its value. -/
def IsHexDigit (c : Char) (v : Nat) : Prop :=
  v < 16 ∧ (c = Nat.digitChar v ∨ c = (Nat.digitChar v).toUpper)
deriving Decidable

/-- Two hexadecimal digits, and the number they are. -/
def IsHexChannel (text : List Char) (n : Nat) : Prop :=
  ∃ high low h l, text = [high, low] ∧ IsHexDigit high h ∧ IsHexDigit low l ∧ n = 16 * h + l

/-- One to three decimal digits among blanks, and the number they are. -/
def IsDecimalChannel (text : List Char) (n : Nat) : Prop :=
  ∃ gap digits gap', text = gap ++ digits ++ gap' ∧ Blanks gap ∧ Blanks gap' ∧
    1 ≤ digits.length ∧ digits.length ≤ 3 ∧ (∀ d ∈ digits, d.isDigit = true) ∧
    n = Nat.ofDigitChars 10 digits 0

/-- The spelling `#rrggbb`. -/
def HexSpelling (text : List Char) (c : Rgb) : Prop :=
  ∃ r g b, text = '#' :: (r ++ g ++ b) ∧
    IsHexChannel r c.red ∧ IsHexChannel g c.green ∧ IsHexChannel b c.blue

/-- The spelling `rgb(r,g,b)`. -/
def DecimalSpelling (text : List Char) (c : Rgb) : Prop :=
  ∃ r g b, text = "rgb(".toList ++ (r ++ ',' :: (g ++ ',' :: (b ++ [')']))) ∧
    IsDecimalChannel r c.red ∧ IsDecimalChannel g c.green ∧ IsDecimalChannel b c.blue

/-- One of the two spellings. -/
def Spelling (text : List Char) (c : Rgb) : Prop := HexSpelling text c ∨ DecimalSpelling text c

variable {text rest : List Char} {n : Nat}

/-! ## Hexadecimal channels -/

/-- `hexValue?` reads the digit of `v` in either case as `v`. -/
theorem hexValue?_digitChar {v : Nat} (h : v < 16) :
    hexValue? (Nat.digitChar v) = some v ∧ hexValue? (Nat.digitChar v).toUpper = some v := by
  have hall : ∀ v : Fin 16, hexValue? (Nat.digitChar v) = some v.val ∧
      hexValue? (Nat.digitChar v).toUpper = some v.val := by decide
  exact hall ⟨v, h⟩

/-- `isBlankChar` is false of hexadecimal digits. -/
theorem not_isBlankChar_of_isHexDigit {c : Char} {v : Nat} (h : IsHexDigit c v) :
    isBlankChar c = false := by
  have hall : ∀ v : Fin 16, isBlankChar (Nat.digitChar v) = false ∧
      isBlankChar (Nat.digitChar v).toUpper = false := by decide
  obtain ⟨hv, rfl | rfl⟩ := h
  · exact (hall ⟨v, hv⟩).1
  · exact (hall ⟨v, hv⟩).2

/-- `IsHexDigit` holds of a run of characters from `first` on, if it holds of each by its place. -/
theorem isHexDigit_of_run {first c : Char} {count least : Nat}
    (hrun : ∀ v : Fin count, IsHexDigit (Char.ofNat (first.toNat + v)) (v + least))
    (hlow : first.toNat ≤ c.toNat) (hhigh : c.toNat < first.toNat + count) :
    IsHexDigit c (c.toNat - first.toNat + least) := by
  have hdigit := hrun ⟨c.toNat - first.toNat, by omega⟩
  have hplace : first.toNat + (c.toNat - first.toNat) = c.toNat := by omega
  rwa [hplace, Char.ofNat_toNat] at hdigit

/-- `IsHexDigit` holds of decimal digits. -/
theorem isHexDigit_of_isDigit {c : Char} (h : c.isDigit = true) : IsHexDigit c (digitValue c) := by
  have hrun : ∀ v : Fin 10, IsHexDigit (Char.ofNat ('0'.toNat + v)) (v + 0) := by decide
  obtain ⟨hlow, hhigh⟩ := toNat_of_isDigit h
  exact isHexDigit_of_run hrun hlow (Nat.lt_succ_of_le hhigh)

/-- `hexValue?` reads the hexadecimal digits, with their values. -/
theorem hexValue?_eq_some_iff {c : Char} {v : Nat} : hexValue? c = some v ↔ IsHexDigit c v := by
  constructor
  · intro h
    -- The three runs of characters: digits, small letters, capitals.
    unfold hexValue? at h
    split at h
    · rename_i hdigit
      cases h
      exact isHexDigit_of_isDigit hdigit
    · split at h
      · rename_i hlower
        cases h
        have hrun : ∀ v : Fin 6, IsHexDigit (Char.ofNat ('a'.toNat + v)) (v + 10) := by decide
        obtain ⟨hlow, hhigh⟩ : 'a' ≤ c ∧ c ≤ 'f' := by simpa using hlower
        exact isHexDigit_of_run hrun hlow (Nat.lt_succ_of_le hhigh)
      · split at h
        · rename_i hupper
          cases h
          have hrun : ∀ v : Fin 6, IsHexDigit (Char.ofNat ('A'.toNat + v)) (v + 10) := by decide
          obtain ⟨hlow, hhigh⟩ : 'A' ≤ c ∧ c ≤ 'F' := by simpa using hupper
          exact isHexDigit_of_run hrun hlow (Nat.lt_succ_of_le hhigh)
        · cases h
  · rintro ⟨hv, rfl | rfl⟩
    · exact (hexValue?_digitChar hv).1
    · exact (hexValue?_digitChar hv).2

/-- `hexChannel?` reads two hexadecimal digits only. -/
theorem isHexChannel_of_hexChannel? {a b : Char} (h : hexChannel? a b = some n) :
    IsHexChannel [a, b] n := by
  obtain ⟨x, hx, hlow⟩ := Option.bind_eq_some_iff.1 h
  obtain ⟨y, hy, hsum⟩ := Option.bind_eq_some_iff.1 hlow
  exact ⟨a, b, x, y, rfl, hexValue?_eq_some_iff.1 hx, hexValue?_eq_some_iff.1 hy,
    (Option.some.inj hsum).symm⟩

/-- `hexChannel?` reads every two hexadecimal digits, the second of which is no blank. -/
theorem IsHexChannel.exists_digits (h : IsHexChannel text n) :
    ∃ a b, text = [a, b] ∧ isBlankChar b = false ∧ hexChannel? a b = some n := by
  obtain ⟨a, b, x, y, rfl, hx, hy, rfl⟩ := h
  refine ⟨a, b, rfl, not_isBlankChar_of_isHexDigit hy, ?_⟩
  rw [hexChannel?, hexValue?_eq_some_iff.2 hx, hexValue?_eq_some_iff.2 hy]
  rfl

/-- A channel of two hexadecimal digits is 255 at most. -/
theorem IsHexChannel.le (h : IsHexChannel text n) : n ≤ 255 := by
  obtain ⟨_, _, h, l, -, ⟨hh, -⟩, ⟨hl, -⟩, rfl⟩ := h
  omega

/-! ## Decimal channels -/

/-- `isDigit` is false of blanks. -/
theorem not_isDigit_of_isBlankChar {c : Char} (h : isBlankChar c = true) : c.isDigit = false := by
  rw [Bool.eq_false_iff]
  intro hdigit
  rw [not_isBlankChar_of_isHexDigit (isHexDigit_of_isDigit hdigit)] at h
  contradiction

/-- `channel?` reads a decimal channel from the front of a text. -/
theorem exists_of_channel?_eq_some {cs : List Char} (h : channel? cs = some (n, rest)) :
    ∃ text, cs = text ++ rest ∧ IsDecimalChannel text n := by
  obtain ⟨gap, hgap, hcs⟩ := exists_eq_append_trimStart cs
  obtain ⟨gap', hgap', hrun⟩ := exists_eq_append_trimStart (digitRun (trimStart cs)).2
  -- The blanks in front, the run of digits, and the blanks behind it make up the channel.
  by_cases hlength : 1 ≤ (digitRun (trimStart cs)).1.length ∧ (digitRun (trimStart cs)).1.length ≤ 3
  · simp only [channel?, hlength, decide_true, Bool.and_self, if_true] at h
    cases h
    refine ⟨gap ++ (digitRun (trimStart cs)).1 ++ gap', ?_, _, _, _, rfl, hgap, hgap', hlength.1,
      hlength.2, fun d hd => isDigit_of_mem_digitRun hd, rfl⟩
    rw [List.append_assoc, ← hrun, List.append_assoc, digitRun_append, ← hcs]
  · simp [channel?, hlength] at h

/-- `channel?` reads a decimal channel up to a character that is neither a blank nor a digit. -/
theorem channel?_append {c : Char} (h : IsDecimalChannel text n) (hblank : isBlankChar c = false)
    (hdigit : c.isDigit = false) : channel? (text ++ c :: rest) = some (n, c :: rest) := by
  obtain ⟨gap, digits, gap', rfl, hgap, hgap', hone, hthree, hdigits, rfl⟩ := h
  -- The digits stop the blanks in front, and what follows them stops the digits.
  have hfront : ∀ d ∈ (digits ++ (gap' ++ c :: rest)).head?, isBlankChar d = false := by
    intro d hd
    cases digits with
    | nil => contradiction
    | cons d' ds =>
      cases hd
      exact not_isBlankChar_of_isHexDigit (isHexDigit_of_isDigit (hdigits _ List.mem_cons_self))
  have hbehind : ∀ d ∈ (gap' ++ c :: rest).head?, d.isDigit = false := by
    intro d hd
    cases gap' with
    | nil =>
      cases hd
      exact hdigit
    | cons b bs =>
      cases hd
      exact not_isDigit_of_isBlankChar (hgap' _ List.mem_cons_self)
  have hrun : digitRun (trimStart (gap ++ digits ++ gap' ++ c :: rest)) =
      (digits, gap' ++ c :: rest) := by
    rw [List.append_assoc, List.append_assoc, trimStart_append hgap, trimStart_of_head? hfront,
      digitRun_of_append hdigits hbehind]
  have hrest : trimStart (gap' ++ c :: rest) = c :: rest := by
    rw [trimStart_append hgap', trimStart_of_head?]
    intro d hd
    cases hd
    exact hblank
  simp only [channel?, hrun, hone, hthree, decide_true, Bool.and_self, if_true, hrest]
  rfl

/-- A channel of one to three decimal digits is 999 at most. -/
theorem IsDecimalChannel.le (h : IsDecimalChannel text n) : n ≤ 999 := by
  obtain ⟨_, digits, _, -, -, -, -, hthree, hdigits, rfl⟩ := h
  have hlt := ofDigitChars_lt hdigits 0
  have hpow : tenPow digits.length ≤ 1000 := Nat.pow_le_pow_right (by decide : 0 < 10) hthree
  omega

/-! ## Colors -/

/-- `channels?` reads three decimal channels with commas between them and a bracket behind. -/
theorem exists_of_channels?_eq_some {cs : List Char} {c : Rgb} (h : channels? cs = some c) :
    ∃ r g b, cs = r ++ ',' :: (g ++ ',' :: (b ++ [')'])) ∧
      IsDecimalChannel r c.red ∧ IsDecimalChannel g c.green ∧ IsDecimalChannel b c.blue := by
  -- Channel by channel, each followed by the sign that the reader asks for.
  unfold channels? at h
  obtain ⟨⟨red, rest⟩, hred, hafterRed⟩ := Option.bind_eq_some_iff.1 h
  obtain ⟨r, rfl, hr⟩ := exists_of_channel?_eq_some hred
  dsimp only at hafterRed
  split at hafterRed
  · obtain ⟨⟨green, rest⟩, hgreen, hafterGreen⟩ := Option.bind_eq_some_iff.1 hafterRed
    obtain ⟨g, rfl, hg⟩ := exists_of_channel?_eq_some hgreen
    dsimp only at hafterGreen
    split at hafterGreen
    · obtain ⟨⟨blue, rest⟩, hblue, hafterBlue⟩ := Option.bind_eq_some_iff.1 hafterGreen
      obtain ⟨b, rfl, hb⟩ := exists_of_channel?_eq_some hblue
      dsimp only at hafterBlue
      split at hafterBlue
      · rename_i hclose
        cases hafterBlue
        cases hclose
        exact ⟨r, g, b, rfl, hr, hg, hb⟩
      · cases hafterBlue
    · cases hafterGreen
  · cases hafterRed

/-- `channels?` reads every three decimal channels that are written so. -/
theorem channels?_append {r g b : List Char} {c : Rgb} (hr : IsDecimalChannel r c.red)
    (hg : IsDecimalChannel g c.green) (hb : IsDecimalChannel b c.blue) :
    channels? (r ++ ',' :: (g ++ ',' :: (b ++ [')']))) = some c := by
  unfold channels?
  rw [channel?_append hr (by decide) (by decide)]
  simp only [Option.bind_eq_bind, Option.bind_some]
  rw [channel?_append hg (by decide) (by decide)]
  simp only [Option.bind_some]
  rw [channel?_append hb (by decide) (by decide)]
  rfl

/-- `parse?` reads the two spellings and nothing else, once blanks at the ends are gone. -/
theorem parse?_eq_some_iff_spelling {color : String} {c : Rgb} :
    parse? color = some c ↔ c.Spelling (trim color).toList := by
  unfold parse?
  generalize (trim color).toList = text
  constructor
  · intro h
    -- The reader tells the two spellings apart by how the text begins.
    split at h
    · obtain ⟨red, hred, hafterRed⟩ := Option.bind_eq_some_iff.1 h
      obtain ⟨green, hgreen, hafterGreen⟩ := Option.bind_eq_some_iff.1 hafterRed
      obtain ⟨blue, hblue, hafterBlue⟩ := Option.bind_eq_some_iff.1 hafterGreen
      cases hafterBlue
      exact .inl ⟨_, _, _, rfl, isHexChannel_of_hexChannel? hred,
        isHexChannel_of_hexChannel? hgreen, isHexChannel_of_hexChannel? hblue⟩
    · obtain ⟨r, g, b, rfl, hr, hg, hb⟩ := exists_of_channels?_eq_some h
      exact .inr ⟨r, g, b, rfl, hr, hg, hb⟩
    · cases h
  · intro h
    cases h with
    | inl h =>
      obtain ⟨r, g, b, rfl, hr, hg, hb⟩ := h
      obtain ⟨_, _, rfl, -, hred⟩ := hr.exists_digits
      obtain ⟨_, _, rfl, -, hgreen⟩ := hg.exists_digits
      obtain ⟨_, _, rfl, -, hblue⟩ := hb.exists_digits
      show (hexChannel? _ _).bind _ = some c
      rw [hred, Option.bind_some, hgreen, Option.bind_eq_bind, Option.bind_some, hblue]
      rfl
    | inr h =>
      obtain ⟨r, g, b, rfl, hr, hg, hb⟩ := h
      exact channels?_append hr hg hb

/-- A `Spelling` has no blanks at its ends. -/
theorem Spelling.ends {c : Rgb} (h : c.Spelling text) : text ≠ [] ∧
    (∀ d ∈ text.head?, isBlankChar d = false) ∧ ∀ d ∈ text.getLast?, isBlankChar d = false := by
  cases h with
  | inl h =>
    obtain ⟨r, g, b, rfl, hr, hg, hb⟩ := h
    obtain ⟨_, _, rfl, -, -⟩ := hr.exists_digits
    obtain ⟨_, _, rfl, -, -⟩ := hg.exists_digits
    obtain ⟨_, low, rfl, hlow, -⟩ := hb.exists_digits
    refine ⟨List.cons_ne_nil _ _, ?_, ?_⟩
    · intro d hd
      cases hd
      decide
    · intro d hd
      cases hd
      exact hlow
  | inr h =>
    obtain ⟨r, g, b, rfl, -⟩ := h
    -- The last character is the bracket, behind all three channels.
    have hclose : "rgb(".toList ++ (r ++ ',' :: (g ++ ',' :: (b ++ [')']))) =
        "rgb(".toList ++ (r ++ ',' :: (g ++ ',' :: b)) ++ [')'] := by
      simp only [List.append_assoc, List.cons_append]
    refine ⟨List.cons_ne_nil _ _, ?_, ?_⟩
    · intro d hd
      cases hd
      decide
    · intro d hd
      rw [hclose, List.getLast?_concat] at hd
      cases hd
      decide

/-- `parse?` reads a color if it is one of the two spellings among blanks. -/
theorem parse?_eq_some_iff {color : String} {c : Rgb} :
    parse? color = some c ↔ ∃ before text after, color.toList = before ++ text ++ after ∧
      Blanks before ∧ Blanks after ∧ c.Spelling text := by
  rw [parse?_eq_some_iff_spelling]
  constructor
  · intro h
    obtain ⟨before, after, hbefore, hafter, hcolor⟩ := exists_eq_append_trim color
    exact ⟨before, _, after, hcolor, hbefore, hafter, h⟩
  · rintro ⟨before, text, after, hcolor, hbefore, hafter, h⟩
    obtain ⟨hne, hhead, hlast⟩ := h.ends
    rwa [toList_trim_of_append hcolor hbefore hafter hne hhead hlast]

/-- `parse?` reads no text that begins with `rgba(`. -/
theorem parse?_rgba (rest : String) : parse? ("rgba(" ++ rest) = none := by
  rw [Option.eq_none_iff_forall_ne_some]
  intro c hc
  obtain ⟨before, text, after, hcolor, hbefore, -, hspelling⟩ := parse?_eq_some_iff.1 hc
  rw [String.toList_append] at hcolor
  have hfront : "rgba(".toList ++ rest.toList =
      'r' :: 'g' :: 'b' :: 'a' :: '(' :: rest.toList := rfl
  rw [hfront] at hcolor
  cases before with
  | nil =>
    -- The fourth character tells it from the one spelling, the first from the other.
    cases hspelling with
    | inl h =>
      obtain ⟨r, g, b, rfl, -⟩ := h
      have hfirst : some 'r' = some '#' := congrArg List.head? hcolor
      exact absurd hfirst (by decide)
    | inr h =>
      obtain ⟨r, g, b, rfl, -⟩ := h
      have hfourth : some 'a' = some '(' := congrArg (·[3]?) hcolor
      exact absurd hfourth (by decide)
  | cons d before =>
    obtain ⟨rfl, -⟩ := List.cons.inj hcolor
    exact absurd (hbefore 'r' List.mem_cons_self) (by decide)

/-- `toRgba` begins with `rgba(`. -/
theorem exists_toRgba_eq (c : Rgb) (opacity : Double) :
    ∃ rest, c.toRgba opacity = "rgba(" ++ rest := by
  unfold toRgba
  repeat rw [String.append_assoc]
  exact ⟨_, rfl⟩

end Rgb

/-- The channels of a color are known exactly when, blanks at its ends aside, it is `#rrggbb` or
`rgb(r,g,b)`; the first spelling gives channels of one byte, the second numbers of up to three
digits, as they are.  A color whose channels are not known stays as it is with an opacity.  What
becomes of the others is no such spelling, so a second opacity changes nothing. -/
theorem color_grammar (color : String) (opacity : Double) :
    (∀ c, Rgb.parse? color = some c ↔ ∃ before text after, color.toList = before ++ text ++ after ∧
      Blanks before ∧ Blanks after ∧ (c.HexSpelling text ∨ c.DecimalSpelling text)) ∧
    (∀ (c : Rgb) text, c.HexSpelling text → c.red ≤ 255 ∧ c.green ≤ 255 ∧ c.blue ≤ 255) ∧
    (∀ (c : Rgb) text, c.DecimalSpelling text → c.red ≤ 999 ∧ c.green ≤ 999 ∧ c.blue ≤ 999) ∧
    (Rgb.parse? color = none → withOpacity color opacity = color) ∧
    (∀ c, Rgb.parse? color = some c → withOpacity color opacity =
      "rgba(" ++ toString c.red ++ "," ++ toString c.green ++ "," ++ toString c.blue ++ "," ++
        NumberLayout.css.write opacity ++ ")") ∧
    (∀ rest, Rgb.parse? ("rgba(" ++ rest) = none) ∧
    Rgb.parse? (withOpacity color opacity) = none ∧
    ∀ opacity', withOpacity (withOpacity color opacity) opacity' = withOpacity color opacity := by
  have hunknown : ∀ color opacity, Rgb.parse? color = none → withOpacity color opacity = color := by
    intro color opacity h
    rw [withOpacity, h]
  have hknown : ∀ c, Rgb.parse? color = some c → withOpacity color opacity = c.toRgba opacity := by
    intro c h
    rw [withOpacity, h]
  -- A color that was shaded begins with `rgba(`, and the others are as they were.
  have hagain : Rgb.parse? (withOpacity color opacity) = none := by
    cases h : Rgb.parse? color with
    | none => rwa [hunknown color opacity h]
    | some c =>
      obtain ⟨rest, hrest⟩ := c.exists_toRgba_eq opacity
      rw [hknown c h, hrest]
      exact Rgb.parse?_rgba rest
  exact ⟨fun c => Rgb.parse?_eq_some_iff,
    fun c text ⟨_, _, _, _, hr, hg, hb⟩ => ⟨hr.le, hg.le, hb.le⟩,
    fun c text ⟨_, _, _, _, hr, hg, hb⟩ => ⟨hr.le, hg.le, hb.le⟩,
    hunknown color opacity, hknown, Rgb.parse?_rgba, hagain, fun _ => hunknown _ _ hagain⟩

/-- A color with blanks around its channels, one of which is larger than a byte; one in
hexadecimal digits of both cases; and a name. -/
theorem color_grammar_spelled :
    ((Rgb.mk 300 0 7).DecimalSpelling "rgb(300, 0 ,7)".toList ∧ 300 ≤ 999) ∧
    (Rgb.parse? "\u00a0rgb(300, 0 ,7)" = some ⟨300, 0, 7⟩ ∧
      withOpacity "\u00a0rgb(300, 0 ,7)" Double.one =
        "rgba(300,0,7," ++ NumberLayout.css.write Double.one ++ ")") ∧
    ((Rgb.mk 255 170 9).HexSpelling "#fFAa09".toList ∧ 255 ≤ 255) ∧
    (Rgb.parse? " red" = none ∧ withOpacity " red" Double.one = " red") := by
  obtain ⟨-, -, hdecimal, -, hknown, -⟩ := color_grammar "\u00a0rgb(300, 0 ,7)" Double.one
  obtain ⟨-, hhex, -, hunknown, -⟩ := color_grammar " red" Double.one
  have hrgb : Rgb.parse? "\u00a0rgb(300, 0 ,7)" = some ⟨300, 0, 7⟩ := by decide
  have hred : Rgb.parse? " red" = none := by decide
  have hchannels : (Rgb.mk 300 0 7).DecimalSpelling "rgb(300, 0 ,7)".toList :=
    ⟨['3', '0', '0'], [' ', '0', ' '], ['7'], rfl,
      ⟨[], ['3', '0', '0'], [], rfl, List.all_eq_true.1 rfl, List.all_eq_true.1 rfl, by decide,
        by decide, List.all_eq_true.1 rfl, rfl⟩,
      ⟨[' '], ['0'], [' '], rfl, List.all_eq_true.1 rfl, List.all_eq_true.1 rfl, by decide,
        by decide, List.all_eq_true.1 rfl, rfl⟩,
      ⟨[], ['7'], [], rfl, List.all_eq_true.1 rfl, List.all_eq_true.1 rfl, by decide, by decide,
        List.all_eq_true.1 rfl, rfl⟩⟩
  have hdigits : (Rgb.mk 255 170 9).HexSpelling "#fFAa09".toList :=
    ⟨['f', 'F'], ['A', 'a'], ['0', '9'], rfl,
      ⟨'f', 'F', 15, 15, rfl, by decide, by decide, rfl⟩,
      ⟨'A', 'a', 10, 10, rfl, by decide, by decide, rfl⟩,
      ⟨'0', '9', 0, 9, rfl, by decide, by decide, rfl⟩⟩
  have hfront : "rgba(" ++ toString 300 ++ "," ++ toString 0 ++ "," ++ toString 7 ++ "," =
      "rgba(300,0,7," := by decide
  have hrgba := hknown _ hrgb
  rw [hfront] at hrgba
  exact ⟨⟨hchannels, (hdecimal _ _ hchannels).1⟩, ⟨hrgb, hrgba⟩, ⟨hdigits, (hhex _ _ hdigits).1⟩,
    hred, hunknown hred⟩

end Bulletin
