import Bulletin.Double.Numeral
import Bulletin.Proofs.Double.Rounding
import Bulletin.Proofs.Json.Lexeme
import Mathlib.Data.Nat.Digits.Defs

/-!
# Decimal numerals and the doubles they stand for

A numeral is written as a sign, digits with a point among, before or behind them, and a power of ten,
of which only the digits must be there.  It has an exact value, and stands for the double that this
value rounds to; a value that is too large has none.

## Main statements

- `Numeral.parse?_eq_some_iff`: which texts are numerals, and how they are taken apart
- `Numeral.nearest?_eq_some_iff`: a numeral is read as the double that its value rounds to
- `Double.ofNumeral?_eq_some_iff`: both together
-/

namespace Bulletin

open Text
open Json (powerSigns isPowerMark Ends digitRun_eq_iff)

namespace Numeral

/-! ## Spellings -/

/-- Digits with perhaps a sign, and the whole number they are. -/
def IsExponent (cs : List Char) (e : Int) : Prop :=
  ∃ sign down ds, cs = sign ++ ds ∧ (sign, down) ∈ powerSigns ∧ ds ≠ [] ∧
    (∀ d ∈ ds, d.isDigit = true) ∧ e = if down then -(valueOf ds : Int) else valueOf ds

/-- A power of ten behind the digits: nothing, or an exponent behind its mark. -/
def IsPower (cs : List Char) (e : Int) : Prop :=
  (cs = [] ∧ e = 0) ∨ ∃ mark rest, cs = mark :: rest ∧ isPowerMark mark = true ∧ IsExponent rest e

/-- The parts of a numeral stand one after the other in a text. -/
def Spells (n : Numeral) (cs : List Char) : Prop :=
  ∃ sign point power, cs = sign ++ (n.whole ++ (point ++ (n.fraction ++ power))) ∧
    (sign, n.negative) ∈ powerSigns ∧ (∀ d ∈ n.whole ++ n.fraction, d.isDigit = true) ∧
    n.whole ++ n.fraction ≠ [] ∧ (point = ['.'] ∨ point = [] ∧ n.fraction = []) ∧
    IsPower power n.exponent

section Spelling

variable {cs body ds rest : List Char} {negative : Bool} {e : Int}

/-- `signed` takes a sign off, or nothing. -/
theorem exists_sign_of_signed (cs : List Char) :
    ∃ sign, (sign, (signed cs).1) ∈ powerSigns ∧ cs = sign ++ (signed cs).2 := by
  unfold signed
  split
  · exact ⟨['-'], by simp [powerSigns], rfl⟩
  · exact ⟨['+'], by simp [powerSigns], rfl⟩
  · exact ⟨[], by simp [powerSigns], rfl⟩

/-- `signed` takes the sign off that stands in front of something else than a sign. -/
theorem signed_append {sign : List Char} (hsign : (sign, negative) ∈ powerSigns)
    (hbody : Ends (fun c => c = '-' || c = '+') body) :
    signed (sign ++ body) = (negative, body) := by
  simp only [powerSigns, List.mem_cons, Prod.mk.injEq, List.not_mem_nil, or_false] at hsign
  obtain ⟨rfl, rfl⟩ | ⟨rfl, rfl⟩ | ⟨rfl, rfl⟩ := hsign
  · rfl
  · rfl
  · rw [List.nil_append]
    unfold signed
    split
    · simp [Ends] at hbody
    · simp [Ends] at hbody
    · rfl

/-- Digits are no signs. -/
theorem ends_sign_of_digits (hne : ds ≠ []) (hds : ∀ d ∈ ds, d.isDigit = true)
    (rest : List Char) : Ends (fun c => c = '-' || c = '+') (ds ++ rest) := by
  cases ds with
  | nil => exact absurd rfl hne
  | cons d ds =>
    have hd : d.isDigit = true := hds d List.mem_cons_self
    have hminus : d ≠ '-' := by
      rintro rfl
      simp at hd
    have hplus : d ≠ '+' := by
      rintro rfl
      simp at hd
    simp [Ends, hminus, hplus]

/-- `exponent?` accepts what `IsExponent` describes. -/
theorem exponent?_eq_some_iff : exponent? cs = some e ↔ IsExponent cs e := by
  constructor
  · intro h
    obtain ⟨sign, hsign, hcs⟩ := exists_sign_of_signed cs
    simp only [exponent?, Option.ite_none_left_eq_some, Bool.or_eq_true, List.isEmpty_iff,
      Bool.not_eq_true', not_or, Bool.not_eq_false, List.all_eq_true, Option.some.injEq] at h
    obtain ⟨⟨hne, hds⟩, rfl⟩ := h
    exact ⟨sign, _, _, hcs, hsign, hne, hds, rfl⟩
  · rintro ⟨sign, down, ds, rfl, hsign, hne, hds, rfl⟩
    have hends := ends_sign_of_digits hne hds []
    rw [List.append_nil] at hends
    -- There are digits and nothing else, so the exponent is not refused.
    have hguard : ¬(ds.isEmpty || !ds.all Char.isDigit) = true := by
      simpa [hne] using hds
    rw [exponent?, signed_append hsign hends]
    exact if_neg hguard

/-- `power?` accepts what `IsPower` describes. -/
theorem power?_eq_some_iff : power? cs = some e ↔ IsPower cs e := by
  cases cs with
  | nil =>
    have hnil : IsPower [] e ↔ 0 = e := by simp [IsPower, eq_comm (a := e)]
    rw [hnil]
    exact Option.some_inj
  | cons c cs =>
    have hcons : IsPower (c :: cs) e ↔ isPowerMark c = true ∧ IsExponent cs e := by
      simp [IsPower]
    rw [hcons, isPowerMark, ← exponent?_eq_some_iff]
    unfold power?
    dsimp only
    cases hmark : c = 'e' || c = 'E' <;> simp

/-- The digits behind a point, if there is one, and the rest. -/
def fractionRun (cs : List Char) : List Char × List Char :=
  match cs with
  | '.' :: after => digitRun after
  | _ => ([], cs)

/-- `fractionRun` takes the digits behind a point, or nothing where there is no point. -/
theorem fractionRun_eq_iff {cs fraction power : List Char} :
    fractionRun cs = (fraction, power) ↔
      (cs = '.' :: (fraction ++ power) ∧ (∀ d ∈ fraction, d.isDigit = true) ∧
        Ends Char.isDigit power) ∨
      (fraction = [] ∧ cs = power ∧ Ends (fun c => c = '.') cs) := by
  unfold fractionRun
  split
  · rename_i after
    rw [digitRun_eq_iff]
    simp [Ends]
  · rename_i hpoint
    -- Without a point the fraction is empty, and the rest is what there was.
    have hends : Ends (fun c => c = '.') cs := by
      cases cs with
      | nil => rfl
      | cons c after =>
        have hc : c ≠ '.' := fun h => hpoint after (h ▸ rfl)
        simpa [Ends] using hc
    constructor
    · intro h
      cases h
      exact .inr ⟨rfl, rfl, hends⟩
    · rintro (⟨hcs, -⟩ | ⟨rfl, rfl, -⟩)
      · exact absurd hcs (hpoint _)
      · rfl

/-- `parse?` takes a numeral apart piece by piece. -/
theorem parse?_of_runs {whole tail fraction power : List Char}
    (hsign : signed cs = (negative, body)) (hwhole : digitRun body = (whole, tail))
    (hfraction : fractionRun tail = (fraction, power)) :
    parse? cs = if whole.isEmpty && fraction.isEmpty then none
      else (power? power).map fun e => ⟨negative, whole, fraction, e⟩ := by
  -- The equation of `parse?` with the results of its calls in place.
  have hparse : parse? cs =
      if (digitRun (signed cs).2).1.isEmpty &&
        (fractionRun (digitRun (signed cs).2).2).1.isEmpty then none
      else (power? (fractionRun (digitRun (signed cs).2).2).2).map fun e =>
        ⟨(signed cs).1, (digitRun (signed cs).2).1, (fractionRun (digitRun (signed cs).2).2).1, e⟩ :=
    rfl
  rw [hparse, hsign, hwhole, hfraction]

/-- A power of ten does not go on with the digits in front of it. -/
theorem IsPower.ends {power : List Char} (h : IsPower power e) :
    Ends (fun c => c.isDigit || c = '.') power := by
  obtain ⟨rfl, -⟩ | ⟨mark, rest, rfl, hmark, -⟩ := h
  · rfl
  · simp only [isPowerMark, Bool.or_eq_true, decide_eq_true_eq] at hmark
    obtain rfl | rfl := hmark <;> rfl

/-- `fractionRun` in front of a power of ten: the digits, and the point that must stand before them.
-/
theorem fractionRun_eq_iff_exists_point {cs fraction power : List Char} (hpower : IsPower power e) :
    fractionRun cs = (fraction, power) ↔
      (∀ d ∈ fraction, d.isDigit = true) ∧
        ∃ point, cs = point ++ (fraction ++ power) ∧
          (point = ['.'] ∨ point = [] ∧ fraction = []) := by
  rw [fractionRun_eq_iff]
  constructor
  · rintro (⟨rfl, hdigits, -⟩ | ⟨rfl, rfl, -⟩)
    · exact ⟨hdigits, ['.'], rfl, .inl rfl⟩
    · exact ⟨List.forall_mem_nil _, [], rfl, .inr ⟨rfl, rfl⟩⟩
  · rintro ⟨hdigits, point, rfl, rfl | ⟨rfl, rfl⟩⟩
    · exact .inl ⟨rfl, hdigits, hpower.ends.mono fun c hc => by simp [hc]⟩
    · exact .inr ⟨rfl, rfl, hpower.ends.mono fun c hc => by simp_all⟩

/-- `parse?` takes apart the texts that `Spells` describes, and as it describes. -/
theorem parse?_eq_some_iff {n : Numeral} : parse? cs = some n ↔ n.Spells cs := by
  constructor
  · intro h
    obtain ⟨sign, hsign, hcs⟩ := exists_sign_of_signed cs
    rcases hsigned : signed cs with ⟨negative, body⟩
    rcases hwhole : digitRun body with ⟨whole, tail⟩
    rcases hfraction : fractionRun tail with ⟨fraction, power⟩
    rw [hsigned] at hsign hcs
    rw [parse?_of_runs hsigned hwhole hfraction] at h
    simp only [Option.ite_none_left_eq_some, Option.map_eq_some_iff, power?_eq_some_iff,
      Bool.and_eq_true, List.isEmpty_iff] at h
    obtain ⟨hne, e, hpower, rfl⟩ := h
    obtain ⟨rfl, hwhole', -⟩ := digitRun_eq_iff.1 hwhole
    obtain ⟨hfraction', point, rfl, hpoint⟩ := (fractionRun_eq_iff_exists_point hpower).1 hfraction
    refine ⟨sign, point, power, hcs, hsign, ?_, ?_, hpoint, hpower⟩
    · exact List.forall_mem_append.2 ⟨hwhole', hfraction'⟩
    · rwa [ne_eq, List.append_eq_nil_iff]
  · rintro ⟨sign, point, power, rfl, hsign, hdigits, hne, hpoint, hpower⟩
    obtain ⟨hwhole, hfraction⟩ := List.forall_mem_append.1 hdigits
    have hrun : fractionRun (point ++ (n.fraction ++ power)) = (n.fraction, power) :=
      (fractionRun_eq_iff_exists_point hpower).2 ⟨hfraction, point, rfl, hpoint⟩
    have hends : Ends Char.isDigit (point ++ (n.fraction ++ power)) := by
      obtain rfl | ⟨rfl, hnone⟩ := hpoint
      · rfl
      · rw [hnone]
        exact hpower.ends.mono fun c hc => by simp [hc]
    have hrun' : digitRun (n.whole ++ (point ++ (n.fraction ++ power))) =
        (n.whole, point ++ (n.fraction ++ power)) := digitRun_eq_iff.2 ⟨rfl, hwhole, hends⟩
    have hbody : Ends (fun c => c = '-' || c = '+')
        (n.whole ++ (point ++ (n.fraction ++ power))) := by
      by_cases hnone : n.whole = []
      · -- Without digits before the point there are digits behind it, and so there is a point.
        have hpoint' : point = ['.'] := hpoint.resolve_right fun h => hne (by rw [hnone, h.2]; rfl)
        rw [hnone, hpoint']
        rfl
      · exact ends_sign_of_digits hnone hwhole _
    rw [parse?_of_runs (signed_append hsign hbody) hrun' hrun, power?_eq_some_iff.2 hpower]
    rw [ne_eq, List.append_eq_nil_iff] at hne
    simp [hne]

end Spelling

/-! ## Values -/

open Double (overflow RoundsTo)

/-- The exact value of a numeral. -/
def value (n : Numeral) : ℚ := Double.signed n.negative (n.significand * 10 ^ n.power)

/-- The digits of a number that is not zero give its size. -/
theorem tenPow_length_digitsOf_bounds {s : Nat} (hs : s ≠ 0) :
    tenPow ((digitsOf s).length - 1) ≤ s ∧ s < tenPow (digitsOf s).length := by
  constructor
  · by_contra hlt
    have hlength : (digitsOf s).length - 1 ≠ 0 := by
      intro hzero
      rw [hzero, tenPow_zero] at hlt
      omega
    have hle := Nat.toDigits_length 10 s _ (Nat.pos_of_ne_zero hlength) (Nat.lt_of_not_le hlt)
    rw [← digitsOf] at hle
    omega
  · have hlt := ofDigitChars_lt (fun d (hd : d ∈ digitsOf s) => isDigit_of_mem_digitsOf hd) 0
    rwa [digitsOf, Nat.ofDigitChars_ten_toDigits, Nat.zero_add, Nat.mul_one] at hlt

/-- How often a numeral's value can be divided by ten before it is less than one. -/
def size (n : Numeral) : Int := (digitsOf n.significand).length + n.power

section Values

variable {n : Numeral} {x : Double}

/-- `tenPow` as a power in the rational numbers. -/
theorem cast_tenPow (k : Nat) : (tenPow k : ℚ) = (10 : ℚ) ^ (k : Int) := by
  rw [zpow_natCast]
  exact Nat.cast_pow 10 k

/-- The exact value of a numeral without its sign is not negative. -/
theorem magnitude_nonneg (n : Numeral) : (0 : ℚ) ≤ n.significand * 10 ^ n.power :=
  mul_nonneg (Nat.cast_nonneg _) (zpow_nonneg (by norm_num) _)

/-- `size` is the place of the first digit of the value. -/
theorem magnitude_bounds (hs : n.significand ≠ 0) :
    (10 : ℚ) ^ (n.size - 1) ≤ n.significand * 10 ^ n.power ∧
      n.significand * 10 ^ n.power < (10 : ℚ) ^ n.size := by
  obtain ⟨hlow, hhigh⟩ := tenPow_length_digitsOf_bounds hs
  have hlength : 1 ≤ (digitsOf n.significand).length :=
    List.length_pos_iff.2 (digitsOf_ne_nil n.significand)
  have hpos : (0 : ℚ) < 10 ^ n.power := zpow_pos (by norm_num) _
  have hten : (10 : ℚ) ≠ 0 := by norm_num
  constructor
  · -- The first digit stands at the place one below the size.
    have hsize : n.size - 1 = ((digitsOf n.significand).length - 1 : Nat) + n.power := by
      rw [size]
      omega
    rw [hsize, zpow_add₀ hten, ← cast_tenPow]
    exact mul_le_mul_of_nonneg_right (Nat.cast_le.2 hlow) hpos.le
  · rw [size, zpow_add₀ hten, ← cast_tenPow]
    exact mul_lt_mul_of_pos_right (Nat.cast_lt.2 hhigh) hpos

/-- A value whose `size` is beyond `powerLimit` is certainly too large. -/
theorem overflow_le_of_powerLimit_lt (hs : n.significand ≠ 0) (h : powerLimit < n.size) :
    overflow ≤ n.significand * 10 ^ n.power := by
  calc overflow ≤ twoPow 1024 := sub_le_self _ (Nat.cast_nonneg _)
    _ ≤ tenPow 400 := Nat.cast_le.2 (by decide +kernel)
    _ ≤ (10 : ℚ) ^ (n.size - 1) := by
      rw [cast_tenPow]
      exact zpow_le_zpow_right₀ (by norm_num) (Int.le_sub_one_of_lt h)
    _ ≤ _ := (magnitude_bounds hs).1

/-- A value whose `size` is below the negative `powerLimit` is less than half a unit. -/
theorem two_mul_lt_one_of_lt_neg_powerLimit (hs : n.significand ≠ 0) (h : n.size < -powerLimit) :
    2 * (n.significand * 10 ^ n.power * Double.unit) < (1 : ℚ) := by
  have hsmall : (n.significand * 10 ^ n.power : ℚ) < 10 ^ (-401 : Int) :=
    (magnitude_bounds hs).2.trans_le (zpow_le_zpow_right₀ (by norm_num) (Int.le_sub_one_of_lt h))
  -- A unit has fewer than 401 digits, and the number has more zeros behind its point.
  have hunit : (2 * Double.unit : ℚ) ≤ tenPow 401 := by
    exact_mod_cast (by decide +kernel : 2 * Double.unit ≤ tenPow 401)
  have hpow : (10 : ℚ) ^ (-401 : Int) * tenPow 401 = 1 := by
    rw [cast_tenPow, ← zpow_add₀ (by norm_num)]
    rfl
  calc 2 * (n.significand * 10 ^ n.power * Double.unit : ℚ)
      = n.significand * 10 ^ n.power * (2 * Double.unit) := by ring
    _ ≤ n.significand * 10 ^ n.power * tenPow 401 :=
      mul_le_mul_of_nonneg_left hunit (magnitude_nonneg n)
    _ < 10 ^ (-401 : Int) * tenPow 401 :=
      mul_lt_mul_of_pos_right hsmall (Nat.cast_pos.2 (tenPow_pos 401))
    _ = 1 := hpow

/-- The one double that is found is the one that the value rounds to. -/
theorem some_eq_some_iff_roundsTo {y : Double} (h : RoundsTo n.negative n.value y) :
    some y = some x ↔ RoundsTo n.negative n.value x := by
  rw [Option.some_inj]
  constructor
  · rintro rfl
    exact h
  · exact h.unique (magnitude_nonneg n)

/-- `nearest?` finds the double that the value rounds to. -/
theorem nearest?_eq_some_iff : n.nearest? = some x ↔ RoundsTo n.negative n.value x := by
  unfold nearest?
  dsimp only
  -- Each guard of `nearest?` stands for a range of values: zero, too large, too small, and the two
  -- signs of the power.
  split
  · rename_i hzero
    apply some_eq_some_iff_roundsTo
    refine Double.roundsTo_signedZero _ (magnitude_nonneg n) ?_
    rw [hzero, Nat.cast_zero, zero_mul, zero_mul, mul_zero]
    exact zero_lt_one
  · rename_i hs
    split
    · rename_i hlarge
      refine iff_of_false (Option.some_ne_none x).symm fun h => ?_
      have hlt := h.small
      rw [value, Double.abs_signed _ (magnitude_nonneg n)] at hlt
      exact hlt.not_ge (overflow_le_of_powerLimit_lt hs hlarge)
    · split
      · rename_i hsmall
        apply some_eq_some_iff_roundsTo
        exact Double.roundsTo_signedZero _ (magnitude_nonneg n)
          (two_mul_lt_one_of_lt_neg_powerLimit hs hsmall)
      · split
        · rename_i hpower
          have hvalue : (n.significand * 10 ^ n.power : ℚ) =
              (n.significand * tenPow n.power.toNat : Nat) / (1 : Nat) := by
            rw [Nat.cast_one, div_one, Nat.cast_mul, cast_tenPow, Int.toNat_of_nonneg hpower]
          rw [Double.round?_eq_some_iff Nat.one_pos, ← hvalue]
          rfl
        · rename_i hpower
          have hvalue : (n.significand * 10 ^ n.power : ℚ) =
              n.significand / tenPow (-n.power).toNat := by
            rw [cast_tenPow, Int.toNat_of_nonneg (by omega), zpow_neg, div_inv_eq_mul]
          rw [Double.round?_eq_some_iff (tenPow_pos _), ← hvalue]
          rfl

/-- A value that is small enough has a double. -/
theorem exists_roundsTo (h : |n.value| < overflow) : ∃ x, RoundsTo n.negative n.value x := by
  rw [value, Double.abs_signed _ (magnitude_nonneg n)] at h
  exact Double.exists_roundsTo (magnitude_nonneg n) h

end Values

end Numeral

/-- A text is a numeral that stands for a double. -/
def Double.IsSpelled (x : Double) (cs : List Char) : Prop :=
  ∃ n : Numeral, n.Spells cs ∧ RoundsTo n.negative n.value x

/-- `ofNumeral?` reads the numerals whose value is small enough, each as the double that it rounds
to. -/
theorem Double.ofNumeral?_eq_some_iff {cs : List Char} {x : Double} :
    Double.ofNumeral? cs = some x ↔ x.IsSpelled cs := by
  simp only [Double.ofNumeral?, Option.bind_eq_some_iff, Numeral.parse?_eq_some_iff,
    Numeral.nearest?_eq_some_iff, Double.IsSpelled]

end Bulletin
