import Bulletin.Json.Error
import Bulletin.Text.Digit
import Bulletin.Text.Rest

/-!
# The words of JSON text

Readers for white space, the three words, strings and numbers.  Each takes the text from some
point on and returns what it read with the text that is left, which is shorter (`Rest`); so the
readers above these recurse on the length of the text and need no other bound.

Two rules go beyond the grammar.  A string must be well formed Unicode: an escape for half of a
surrogate pair is refused unless the other half follows.  A number that is not an integer of 64
bits becomes a double by a rule of its own (`NumberText.toDouble?`), which rounds up to three
times and so is not always the nearest double.
-/

namespace Bulletin

namespace Json

open Text

/-- White space between the words of JSON text. -/
def isSpace (c : Char) : Bool := c = ' ' || c = '\t' || c = '\n' || c = '\r'

/-- The text from the next word on. -/
def skipSpace (cs : List Char) : List Char := cs.dropWhile isSpace

/-- `skipSpace` leaves no more than there was. -/
theorem length_skipSpace_le (cs : List Char) : (skipSpace cs).length ≤ cs.length :=
  (List.dropWhile_sublist _).length_le

/-- `skipSpace` and one character more leave less than there was. -/
theorem length_lt_of_skipSpace {cs rest : List Char} {c : Char} (h : skipSpace cs = c :: rest) :
    rest.length < cs.length := by
  have := length_skipSpace_le cs
  rw [h] at this
  exact this

/-- The first character of the next word, and the text behind it. -/
def nextChar (cs : List Char) : Option (Char × Rest cs) :=
  match h : skipSpace cs with
  | [] => none
  | c :: rest => some (c, ⟨rest, length_lt_of_skipSpace h⟩)

/-! ## Words -/

/-- The rest of a word that has begun. -/
def expectWord (word : List Char) (cs : List Char) :
    Except JsonFailure { r : List Char // r.length ≤ cs.length } :=
  match word, cs with
  | [], cs => .ok ⟨cs, Nat.le_refl _⟩
  | _ :: _, [] => .error (.before .endOfValue [])
  | w :: word, c :: cs =>
    if c = w then
      match expectWord word cs with
      | .ok r => .ok ⟨r.1, Nat.le_succ_of_le r.2⟩
      | .error e => .error e
    else .error (.looking .expectedWord (c :: cs))

/-! ## Strings -/

/-- Four hexadecimal digits as a UTF-16 unit. -/
def hexUnit (cs : List Char) : Except JsonFailure (Nat × Rest cs) :=
  match cs with
  | a :: b :: c :: d :: rest =>
    match hexValue? a, hexValue? b, hexValue? c, hexValue? d with
    | some a, some b, some c, some d =>
      .ok (((a * 16 + b) * 16 + c) * 16 + d, ⟨rest, by simp only [List.length_cons]; omega⟩)
    | _, _, _, _ => .error ⟨.invalidEscape, cs, 4⟩
  | _ =>
    -- Fewer than four characters may still be four bytes.
    if byteCount cs < 4 then .error (.before .endOfString [])
    else .error ⟨.invalidEscape, cs, 4⟩

/-- A UTF-16 unit that opens a surrogate pair. -/
def isLeading (n : Nat) : Bool := 0xD800 ≤ n && n ≤ 0xDBFF

/-- A UTF-16 unit that closes a surrogate pair. -/
def isTrailing (n : Nat) : Bool := 0xDC00 ≤ n && n ≤ 0xDFFF

/-- The character of a surrogate pair. -/
def pairChar (leading trailing : Nat) : Char :=
  Char.ofNat ((leading - 0xD800) * 0x400 + (trailing - 0xDC00) + 0x10000)

/-- The character of a four-digit escape, or of two that form a pair. -/
def unicodeEscape (cs : List Char) : Except JsonFailure (Char × Rest cs) := do
  let (n, r) ← hexUnit cs
  if isTrailing n then .error (.before .loneSurrogate r.1)
  else if !isLeading n then .ok (Char.ofNat n, r)
  else
    match h : r.1 with
    | [] => .error (.before .endOfString [])
    | '\\' :: [] => .error (.before .endOfString [])
    | '\\' :: 'u' :: rest =>
      let (m, r') ← hexUnit rest
      if isTrailing m then
        .ok (pairChar n m, r'.widen (by
          have := r.2; rw [h] at this; simp only [List.length_cons] at this; omega))
      else .error (.before .loneSurrogate r'.1)
    | '\\' :: c :: rest => .error (.looking .unfinishedSurrogate (c :: rest))
    | c :: rest => .error (.looking .unfinishedSurrogate (c :: rest))

/-- The character an escape of one letter stands for. -/
def letterEscape? : Char → Option Char
  | '"' => some '"'
  | '\\' => some '\\'
  | '/' => some '/'
  | 'b' => some '\x08'
  | 'f' => some '\x0c'
  | 'n' => some '\n'
  | 'r' => some '\r'
  | 't' => some '\t'
  | _ => none

/-- The character of an escape, from behind its backslash on. -/
def readEscape (cs : List Char) : Except JsonFailure (Char × Rest cs) :=
  match cs with
  | [] => .error (.before .endOfString [])
  | 'u' :: rest => do
    let (c, r) ← unicodeEscape rest
    .ok (c, r.widen (Nat.le_succ _))
  | c :: rest =>
    match letterEscape? c with
    | some d => .ok (d, ⟨rest, Nat.lt_succ_self _⟩)
    | none => .error (.looking .invalidEscape (c :: rest))

/-- The characters of a string, from behind its opening quote on. -/
def readString (cs : List Char) : Except JsonFailure (List Char × Rest cs) :=
  match cs with
  | [] => .error (.before .endOfString [])
  | '"' :: rest => .ok ([], ⟨rest, Nat.lt_succ_self _⟩)
  | '\\' :: rest => do
    let (c, r) ← readEscape rest
    let (s, r') ← readString r.1
    .ok (c :: s, r'.widen (by have := r.2; simp only [List.length_cons]; omega))
  | c :: rest =>
    if c < ' ' then .error (.looking .controlCharacter (c :: rest))
    else do
      let (s, r) ← readString rest
      .ok (c :: s, r.widen (Nat.le_succ _))
termination_by cs.length
decreasing_by
  · have := r.2; simp only [List.length_cons]; omega
  · simp

/-- The text behind a string that nobody reads.  Escapes need only look like escapes, so that half
a surrogate pair passes. -/
def skipString (cs : List Char) : Except JsonFailure (Rest cs) :=
  match cs with
  | [] => .error (.before .endOfString [])
  | '"' :: rest => .ok ⟨rest, Nat.lt_succ_self _⟩
  | '\\' :: [] => .error (.before .endOfString [])
  | '\\' :: 'u' :: rest => do
    let (_, r) ← hexUnit rest
    let r' ← skipString r.1
    .ok (r'.widen (by have := r.2; simp only [List.length_cons]; omega))
  | '\\' :: c :: rest =>
    match letterEscape? c with
    | some _ => do
      let r ← skipString rest
      .ok (r.widen (by simp only [List.length_cons]; omega))
    | none => .error (.looking .invalidEscape (c :: rest))
  | c :: rest =>
    if c < ' ' then .error (.before .controlCharacter (c :: rest))
    else do
      let r ← skipString rest
      .ok (r.widen (Nat.le_succ _))
termination_by cs.length
decreasing_by
  · have := r.2; simp only [List.length_cons]; omega
  · simp only [List.length_cons]; omega
  · simp

/-! ## Numbers -/

/-- A number taken apart as written, sign aside. -/
structure NumberText where
  whole : List Char
  fraction : List Char
  /-- The power of ten: whether it is negative, and its digits. -/
  exponent : Option (Bool × List Char)

/-- The digits before the point: a lone zero, or a run that starts with another digit. -/
def readWhole (atEnd : JsonCause) (cs : List Char) :
    Except JsonFailure (List Char × Rest cs) :=
  match cs with
  | [] => .error (.before atEnd [])
  | '0' :: rest =>
    match rest with
    | [] => .ok (['0'], .tail)
    | c :: more =>
      if c.isDigit then .error (.looking .invalidNumber (c :: more)) else .ok (['0'], .tail)
  | c :: rest =>
    if c.isDigit then
      .ok (c :: (digitRun rest).1, Left.behind ⟨(digitRun rest).2, length_digitRun_snd_le rest⟩)
    else .error (.looking .invalidNumber (c :: rest))

/-- The digits behind a point, of which there must be one. -/
def readFraction (atEnd : JsonCause) (cs : List Char) :
    Except JsonFailure (List Char × { r : List Char // r.length ≤ cs.length }) :=
  match cs with
  | '.' :: rest =>
    match digitRun rest, length_digitRun_snd_le rest with
    | ([], _), _ =>
      .error (if rest.isEmpty then .before atEnd [] else .looking .invalidNumber rest)
    | (d :: ds, r), h => .ok (d :: ds, ⟨r, Nat.le_succ_of_le h⟩)
  | cs => .ok ([], ⟨cs, Nat.le_refl _⟩)

/-- The digits of a power of ten, of which there must be one. -/
def readPowerDigits (atEnd : JsonCause) (cs : List Char) :
    Except JsonFailure (List Char × { r : List Char // r.length ≤ cs.length }) :=
  match digitRun cs, length_digitRun_snd_le cs with
  | ([], _), _ =>
    .error (if cs.isEmpty then .before atEnd [] else .looking .invalidNumber cs)
  | (d :: ds, r), h => .ok (d :: ds, ⟨r, h⟩)

/-- A power of ten, if one is written. -/
def readPower (atEnd : JsonCause) (cs : List Char) :
    Except JsonFailure (Option (Bool × List Char) × { r : List Char // r.length ≤ cs.length }) :=
  match cs with
  | [] => .ok (none, ⟨[], Nat.le_refl _⟩)
  | c :: rest =>
    if c = 'e' || c = 'E' then
      match rest with
      | '-' :: rest => do
        let (ds, r) ← readPowerDigits atEnd rest
        .ok (some (true, ds), ⟨r.1, Nat.le_succ_of_le (Nat.le_succ_of_le r.2)⟩)
      | '+' :: rest => do
        let (ds, r) ← readPowerDigits atEnd rest
        .ok (some (false, ds), ⟨r.1, Nat.le_succ_of_le (Nat.le_succ_of_le r.2)⟩)
      | rest => do
        let (ds, r) ← readPowerDigits atEnd rest
        .ok (some (false, ds), ⟨r.1, Nat.le_succ_of_le r.2⟩)
    else .ok (none, ⟨c :: rest, Nat.le_refl _⟩)

/-- Takes a number apart, from behind its sign on.  `atEnd` is the cause given when the text ends
where a digit is due. -/
def readNumberText (atEnd : JsonCause) (cs : List Char) :
    Except JsonFailure (NumberText × Rest cs) := do
  let (whole, r) ← readWhole atEnd cs
  let (fraction, r') ← readFraction atEnd r.1
  let (exponent, r'') ← readPower atEnd r'.1
  .ok (⟨whole, fraction, exponent⟩,
    ⟨r''.1, Nat.lt_of_le_of_lt (Nat.le_trans r''.2 r'.2) r.2⟩)

/-- The largest number the digits are gathered into. -/
def significandLimit : Nat := twoPow 64 - 1

/-- Gathers digits into a significand as long as it fits, and returns those it has no room for. -/
def gather (s : Nat) : List Char → Nat × List Char
  | [] => (s, [])
  | d :: ds =>
    if s * 10 + digitValue d ≤ significandLimit then gather (s * 10 + digitValue d) ds
    else (s, d :: ds)

/-- The largest power of ten that is read to its end. -/
def powerLimit : Nat := twoPow 31 - 1

/-- The value of a power's digits, or the digits behind the one that takes it past the limit. -/
def gatherPower (n : Nat) : List Char → Except (List Char) Nat
  | [] => .ok n
  | d :: ds =>
    if n * 10 + digitValue d ≤ powerLimit then gatherPower (n * 10 + digitValue d) ds
    else .error ds

/-- The largest power of ten that is a finite double. -/
def maxTenPower : Nat := 308

/-- A double divided by a power of ten, in steps of the largest finite one. -/
def divideByTen (x : Double) (e : Nat) : Option Double :=
  if e ≤ maxTenPower then (Double.ofNat? (tenPow e)).bind x.div?
  else if x.isZero then some x
  else do
    let y ← (Double.ofNat? (tenPow maxTenPower)).bind x.div?
    divideByTen y (e - maxTenPower)
termination_by e
decreasing_by simp only [maxTenPower] at *; omega

/-- A significand times a power of ten: one rounding to a double, and one more for each product or
quotient. -/
def scaled? (s : Nat) (e : Int) : Option Double := do
  let x ← Double.ofNat? s
  if e < 0 then divideByTen x e.natAbs
  else if e.toNat ≤ maxTenPower then (Double.ofNat? (tenPow e.toNat)).bind x.mul?
  else if x.isZero then some x
  else none

/-- The number with its sign; `none` when it is too large, with the digits not looked at. -/
def NumberText.toDouble? (n : NumberText) (negative : Bool) : Except (List Char) Double :=
  let signed (x : Double) : Double := if negative then x.neg else x
  let (s, dropped) := gather 0 n.whole
  let (s, unread) := gather s n.fraction
  let e : Int := (dropped.length : Int) - (n.fraction.length - unread.length)
  let finish (e : Int) : Except (List Char) Double :=
    match scaled? s e with
    | some x => .ok (signed x)
    | none => .error []
  match n.exponent with
  | none => finish e
  | some (down, ds) =>
    match gatherPower 0 ds with
    | .ok p => finish (if down then e - p else e + p)
    | .error behind => if s = 0 || down then .ok (signed .zero) else .error behind

/-- The largest magnitude of a negative integer. -/
def negativeLimit : Nat := twoPow 63

/-- The number a text stands for.  Written without point and power it is an integer while it fits
64 bits; minus zero is a double. -/
def NumberText.toNumber (n : NumberText) (negative : Bool) : Except (List Char) Number :=
  let asDouble := (n.toDouble? negative).map Number.double
  match n.fraction, n.exponent, gather 0 n.whole with
  | [], none, (s, []) =>
    if !negative then .ok (.integer s)
    else if 1 ≤ s && s ≤ negativeLimit then .ok (.integer (-(s : Int)))
    else asDouble
  | _, _, _ => asDouble

/-- Reads a number from behind its sign on. -/
def readNumber (negative : Bool) (cs : List Char) : Except JsonFailure (Number × Rest cs) := do
  let (n, r) ← readNumberText .endOfValue cs
  match n.toNumber negative with
  | .ok x => .ok (x, r)
  | .error behind => .error (.before .numberTooLarge (behind ++ r.1))

end Json

end Bulletin
