import Bulletin.Double.Power
import Bulletin.Text.Digit

/-!
# Decimal texts

The digits of a number are digits and nothing else, and no two numbers share them.  The leading run
of digits of a text ends where something else follows.
-/

namespace Bulletin.Text

/-- `digitsOf` writes digits only. -/
theorem isDigit_of_mem_digitsOf {n : Nat} {c : Char} (h : c ∈ digitsOf n) : c.isDigit = true :=
  Nat.isDigit_of_mem_toDigits (by omega) (by omega) h

/-- `digitsOf` writes at least one digit, zero included. -/
theorem digitsOf_ne_nil (n : Nat) : digitsOf n ≠ [] := Nat.toDigits_ne_nil

/-- `digitsOf` is injective: `Nat.ofDigitChars` reads the number back. -/
theorem digitsOf_inj {m n : Nat} (h : digitsOf m = digitsOf n) : m = n := by
  have hread := congrArg (fun ds => Nat.ofDigitChars 10 ds 0) h
  simpa only [digitsOf, Nat.ofDigitChars_ten_toDigits] using hread

/-- `ofNat` has the characters of `digitsOf`. -/
theorem toList_ofNat (n : Nat) : (ofNat n).toList = digitsOf n := String.toList_ofList

/-- The codes of the ten digits, as bounds that `omega` can use. -/
theorem toNat_of_isDigit {c : Char} (h : c.isDigit = true) : 48 ≤ c.toNat ∧ c.toNat ≤ 57 :=
  Char.isDigit_iff_toNat.1 h

/-- `digitValue` of a digit is below ten. -/
theorem digitValue_lt {c : Char} (h : c.isDigit = true) : digitValue c < 10 := by
  obtain ⟨-, hhigh⟩ := toNat_of_isDigit h
  show c.toNat - 48 < 10
  omega

/-- `Nat.ofDigitChars` reads at most as much as `tenPow` of the number of digits allows. -/
theorem ofDigitChars_lt {digits : List Char} (h : ∀ d ∈ digits, d.isDigit = true) (m : Nat) :
    Nat.ofDigitChars 10 digits m < tenPow digits.length * (m + 1) := by
  induction digits generalizing m with
  | nil => simp
  | cons d ds ih =>
    have hd : d.toNat - '0'.toNat < 10 := digitValue_lt (h d List.mem_cons_self)
    rw [Nat.ofDigitChars_cons, List.length_cons]
    -- The first digit is worth ten times as much as what is read so far.
    calc
      Nat.ofDigitChars 10 ds (10 * m + (d.toNat - '0'.toNat))
          < tenPow ds.length * (10 * m + (d.toNat - '0'.toNat) + 1) :=
        ih (fun e he => h e (List.mem_cons_of_mem _ he)) _
      _ ≤ tenPow ds.length * (10 * (m + 1)) := Nat.mul_le_mul_left _ (by omega)
      _ = tenPow (ds.length + 1) * (m + 1) := by rw [tenPow_succ, Nat.mul_assoc]

/-! ## Runs of digits -/

/-- `digitRun` takes digits only. -/
theorem isDigit_of_mem_digitRun {cs : List Char} {c : Char} (h : c ∈ (digitRun cs).1) :
    c.isDigit = true :=
  List.all_eq_true.1 List.all_takeWhile c h

/-- `digitRun` takes all digits in front of something else. -/
theorem digitRun_of_append {ds rest : List Char} (hds : ∀ d ∈ ds, d.isDigit = true)
    (hrest : ∀ c ∈ rest.head?, c.isDigit = false) : digitRun (ds ++ rest) = (ds, rest) := by
  unfold digitRun
  rw [List.takeWhile_append_of_pos hds, List.dropWhile_append_of_pos hds]
  cases rest with
  | nil => simp
  | cons c rest =>
    have hc : c.isDigit = false := hrest c rfl
    simp [hc]

/-- `ofNat` can be read off a text in which no digit follows, and then so can what follows. -/
theorem ofNat_append_inj {m n : Nat} {s t : String}
    (hs : ∀ c ∈ s.toList.head?, c.isDigit = false) (ht : ∀ c ∈ t.toList.head?, c.isDigit = false)
    (h : ofNat m ++ s = ofNat n ++ t) : m = n ∧ s = t := by
  have hlist := congrArg String.toList h
  rw [String.toList_append, String.toList_append, toList_ofNat, toList_ofNat] at hlist
  -- The digits are the leading run on both sides.
  have hm := digitRun_of_append (fun _ => isDigit_of_mem_digitsOf (n := m)) hs
  have hn := digitRun_of_append (fun _ => isDigit_of_mem_digitsOf (n := n)) ht
  rw [hlist, hn, Prod.mk.injEq] at hm
  exact ⟨(digitsOf_inj hm.1).symm, String.toList_inj.1 hm.2.symm⟩

end Bulletin.Text
