import Bulletin.Json.Lexeme
import Bulletin.Proofs.Text.Digit

/-!
# Words of JSON text in front of another rest

A reader looks no further than it must.  What it has taken from a text is read the same when
something else follows, with one exception: a number ends where no digit, point or power follows, so
whatever follows it must not go on with the number.

## Main statements

- `taken_readString`: a string is read the same whatever follows
- `taken_readNumber`: so is a number in front of anything but more of it
-/

namespace Bulletin.Json

open Text

variable {α : Type}

/-- A reader returns a value and leaves a rest. -/
def Leaves {P : List Char → Prop} (x : Except JsonFailure (α × { r : List Char // P r })) (a : α)
    (rest : List Char) : Prop :=
  ∃ h, x = .ok (a, ⟨rest, h⟩)

/-- The front of a text is taken off, and it is taken off in front of every rest of some kind. -/
def Taken (follow : List Char → Prop) (reads : List Char → List Char → Prop)
    (cs rest : List Char) : Prop :=
  ∃ used, cs = used ++ rest ∧ ∀ rest', follow rest' → reads (used ++ rest') rest'

/-- Any text. -/
def Anything (_ : List Char) : Prop := True

namespace Taken

variable {follow follow' : List Char → Prop} {reads reads' : List Char → List Char → Prop}
  {cs mid rest : List Char}

/-- `Taken` is monotone in the reader. -/
theorem imp (h : Taken follow reads cs rest)
    (himp : ∀ cs rest, reads cs rest → reads' cs rest) : Taken follow reads' cs rest := by
  obtain ⟨used, hcs, hused⟩ := h
  exact ⟨used, hcs, fun rest' hrest' => himp _ _ (hused rest' hrest')⟩

/-- What may be followed by anything may be followed by some texts. -/
theorem free (h : Taken Anything reads cs rest) : Taken follow reads cs rest := by
  obtain ⟨used, hcs, hused⟩ := h
  exact ⟨used, hcs, fun rest' _ => hused rest' trivial⟩

/-- What is taken second decides what the first is followed by. -/
theorem comp (h : Taken follow reads cs mid) (h' : Taken follow' reads' mid rest)
    (hfollow : ∀ cs rest, reads' cs rest → follow cs) :
    Taken follow' (fun cs rest => ∃ mid, reads cs mid ∧ reads' mid rest) cs rest := by
  obtain ⟨used, rfl, hused⟩ := h
  obtain ⟨used', rfl, hused'⟩ := h'
  refine ⟨used ++ used', (List.append_assoc used used' rest).symm, ?_⟩
  intro rest' hrest'
  have hreads' := hused' rest' hrest'
  rw [List.append_assoc]
  exact ⟨used' ++ rest', hused _ (hfollow _ _ hreads'), hreads'⟩

/-- What is taken first may be followed by anything. -/
theorem andThen (h : Taken Anything reads cs mid) (h' : Taken follow' reads' mid rest) :
    Taken follow' (fun cs rest => ∃ mid, reads cs mid ∧ reads' mid rest) cs rest :=
  h.comp h' fun _ _ _ => trivial

end Taken

/-- Some characters are taken off. -/
theorem taken_append (word rest : List Char) :
    Taken Anything (fun cs rest => cs = word ++ rest) (word ++ rest) rest :=
  ⟨word, rfl, fun _ _ => rfl⟩

/-- `Leaves` of a result says what the result is. -/
theorem leaves_ok {P : List Char → Prop} {a b : α} {r : { r : List Char // P r }}
    {rest : List Char} : Leaves (.ok (a, r)) b rest ↔ a = b ∧ r.1 = rest := by
  constructor
  · rintro ⟨h, heq⟩
    cases heq
    exact ⟨rfl, rfl⟩
  · rintro ⟨rfl, rfl⟩
    exact ⟨r.2, rfl⟩

/-- `Leaves` does not hold of a failure. -/
theorem not_leaves_error {P : List Char → Prop} {e : JsonFailure} {a : α} {rest : List Char} :
    ¬Leaves (.error e : Except JsonFailure (α × { r // P r })) a rest := by
  rintro ⟨h, heq⟩
  cases heq

/-- `Leaves` of the rest of a result is the equation for the result. -/
theorem leaves_val_iff {P : List Char → Prop}
    {x : Except JsonFailure (α × { r : List Char // P r })}
    {a : α} {r : { r : List Char // P r }} : Leaves x a r.1 ↔ x = .ok (a, r) :=
  ⟨fun ⟨_, h⟩ => h, fun h => ⟨r.2, h⟩⟩

/-- `Leaves` determines the value and the rest. -/
theorem Leaves.unique {P : List Char → Prop} {x : Except JsonFailure (α × { r : List Char // P r })}
    {a b : α} {rest rest' : List Char} (h : Leaves x a rest) (h' : Leaves x b rest') :
    a = b ∧ rest = rest' := by
  obtain ⟨hrest, rfl⟩ := h
  exact leaves_ok.1 h'

/-- `Leaves` behind a step that leaves no rest of its own. -/
theorem leaves_bind_ok_iff {β : Type} {P : List Char → Prop} {x : Except JsonFailure β}
    {f : β → Except JsonFailure (α × { r : List Char // P r })} {a : α} {rest : List Char} :
    Leaves (x >>= f) a rest ↔ ∃ b, x = .ok b ∧ Leaves (f b) a rest := by
  cases x with
  | error e =>
    constructor
    · intro h
      exact absurd h not_leaves_error
    · rintro ⟨b, h, -⟩
      cases h
  | ok b =>
    constructor
    · intro h
      exact ⟨b, rfl, h⟩
    · rintro ⟨b', h, hf⟩
      cases h
      exact hf

/-- `Leaves` behind another reader. -/
theorem leaves_bind_iff {β : Type} {P Q : List Char → Prop}
    {x : Except JsonFailure (β × { r : List Char // Q r })}
    {f : β × { r : List Char // Q r } → Except JsonFailure (α × { r : List Char // P r })} {a : α}
    {rest : List Char} :
    Leaves (x >>= f) a rest ↔ ∃ b r, x = .ok (b, r) ∧ Leaves (f (b, r)) a rest := by
  rw [leaves_bind_ok_iff, Prod.exists]

/-! ## Escapes -/

/-- `hexUnit` reads four hexadecimal digits. -/
theorem leaves_hexUnit_iff {cs rest : List Char} {n : Nat} :
    Leaves (hexUnit cs) n rest ↔ ∃ a b c d x y z w, cs = a :: b :: c :: d :: rest ∧
      hexValue? a = some x ∧ hexValue? b = some y ∧ hexValue? c = some z ∧ hexValue? d = some w ∧
        ((x * 16 + y) * 16 + z) * 16 + w = n := by
  -- Every other shape of the text is refused.
  constructor
  · intro h
    unfold hexUnit at h
    split at h
    · split at h
      · rename_i hx hy hz hw
        obtain ⟨rfl, rfl⟩ := leaves_ok.1 h
        exact ⟨_, _, _, _, _, _, _, _, rfl, hx, hy, hz, hw, rfl⟩
      · exact absurd h not_leaves_error
    · split at h
      · exact absurd h not_leaves_error
      · exact absurd h not_leaves_error
  · rintro ⟨a, b, c, d, x, y, z, w, rfl, hx, hy, hz, hw, rfl⟩
    simp only [hexUnit, hx, hy, hz, hw]
    exact leaves_ok.2 ⟨rfl, rfl⟩

/-- `hexUnit` reads the same in front of another rest. -/
theorem taken_hexUnit {cs rest : List Char} {n : Nat} (h : Leaves (hexUnit cs) n rest) :
    Taken Anything (fun cs rest => Leaves (hexUnit cs) n rest) cs rest := by
  obtain ⟨a, b, c, d, x, y, z, w, rfl, hvalues⟩ := leaves_hexUnit_iff.1 h
  refine (taken_append [a, b, c, d] rest).imp ?_
  rintro cs rest rfl
  exact leaves_hexUnit_iff.2 ⟨a, b, c, d, x, y, z, w, rfl, hvalues⟩

/-- `unicodeEscape` reads four digits as a character, unless they are half a pair; then the other
half follows. -/
theorem leaves_unicodeEscape_iff {cs rest : List Char} {c : Char} :
    Leaves (unicodeEscape cs) c rest ↔ ∃ n mid, Leaves (hexUnit cs) n mid ∧ isTrailing n = false ∧
      ((isLeading n = false ∧ Char.ofNat n = c ∧ mid = rest) ∨
        isLeading n = true ∧ ∃ m mid', mid = '\\' :: 'u' :: mid' ∧ Leaves (hexUnit mid') m rest ∧
          isTrailing m = true ∧ pairChar n m = c) := by
  constructor
  · intro h
    unfold unicodeEscape at h
    obtain ⟨n, r, hn, h⟩ := leaves_bind_iff.1 h
    refine ⟨n, r.1, leaves_val_iff.2 hn, ?_⟩
    dsimp only at h
    -- The second half of a pair is refused where a character begins.
    split at h
    · exact absurd h not_leaves_error
    rename_i htrailing
    refine ⟨by simpa using htrailing, ?_⟩
    split at h
    · rename_i hleading
      obtain ⟨rfl, rfl⟩ := leaves_ok.1 h
      exact .inl ⟨by simpa using hleading, rfl, rfl⟩
    rename_i hleading
    refine .inr ⟨by simpa using hleading, ?_⟩
    split at h
    · exact absurd h not_leaves_error
    · exact absurd h not_leaves_error
    · rename_i rest' hr
      obtain ⟨m, r', hm, h⟩ := leaves_bind_iff.1 h
      dsimp only at h
      split at h
      · rename_i hm'
        obtain ⟨rfl, rfl⟩ := leaves_ok.1 h
        exact ⟨m, rest', hr, leaves_val_iff.2 hm, hm', rfl⟩
      · exact absurd h not_leaves_error
    · exact absurd h not_leaves_error
    · exact absurd h not_leaves_error
  · rintro ⟨n, mid, ⟨hlen, hn⟩, htrailing, hrest⟩
    unfold unicodeEscape
    refine leaves_bind_iff.2 ⟨n, ⟨mid, hlen⟩, hn, ?_⟩
    obtain ⟨hleading, rfl, rfl⟩ | ⟨hleading, m, mid', rfl, ⟨hlen', hm⟩, htrailing', rfl⟩ := hrest
    · -- A character of its own.
      simp only [htrailing, hleading, Bool.false_eq_true, if_false, Bool.not_false, if_true]
      exact leaves_ok.2 ⟨rfl, rfl⟩
    · -- The first half of a pair, so that the second one is read as well.
      simp only [htrailing, hleading, Bool.false_eq_true, if_false, Bool.not_true]
      refine leaves_bind_iff.2 ⟨m, ⟨rest, hlen'⟩, hm, ?_⟩
      simp only [htrailing', if_true]
      exact leaves_ok.2 ⟨rfl, rfl⟩

/-- `unicodeEscape` reads the same in front of another rest. -/
theorem taken_unicodeEscape {cs rest : List Char} {c : Char}
    (h : Leaves (unicodeEscape cs) c rest) :
    Taken Anything (fun cs rest => Leaves (unicodeEscape cs) c rest) cs rest := by
  obtain ⟨n, mid, hn, htrailing, hrest⟩ := leaves_unicodeEscape_iff.1 h
  obtain ⟨hleading, hc, rfl⟩ | ⟨hleading, m, mid', rfl, hm, hpair⟩ := hrest
  · refine (taken_hexUnit hn).imp ?_
    intro cs rest hn'
    exact leaves_unicodeEscape_iff.2 ⟨n, rest, hn', htrailing, .inl ⟨hleading, hc, rfl⟩⟩
  · -- For a pair, both halves are taken off, and what stands between them.
    have htail := (taken_append ['\\', 'u'] mid').andThen (taken_hexUnit hm)
    refine ((taken_hexUnit hn).andThen htail).imp ?_
    rintro cs rest ⟨_, hn', mid', rfl, hm'⟩
    exact leaves_unicodeEscape_iff.2
      ⟨n, _, hn', htrailing, .inr ⟨hleading, m, mid', rfl, hm', hpair⟩⟩

/-- `readEscape` reads `u` as the beginning of a code. -/
theorem leaves_readEscape_u {cs rest : List Char} {c : Char} :
    Leaves (readEscape ('u' :: cs)) c rest ↔ Leaves (unicodeEscape cs) c rest := by
  rw [readEscape, leaves_bind_iff]
  constructor
  · rintro ⟨d, r, hd, h⟩
    obtain ⟨rfl, rfl⟩ := leaves_ok.1 h
    exact leaves_val_iff.2 hd
  · rintro ⟨hlen, h⟩
    exact ⟨c, ⟨rest, hlen⟩, h, leaves_ok.2 ⟨rfl, rfl⟩⟩

/-- `readEscape` reads any other letter by itself. -/
theorem leaves_readEscape_letter {d : Char} (hd : d ≠ 'u') {cs rest : List Char} {c : Char} :
    Leaves (readEscape (d :: cs)) c rest ↔ letterEscape? d = some c ∧ cs = rest := by
  rw [readEscape]
  · cases hletter : letterEscape? d with
    | none => simp [not_leaves_error]
    | some e => simp [leaves_ok]
  · exact hd

/-- `readEscape` reads the same in front of another rest. -/
theorem taken_readEscape {cs rest : List Char} {c : Char} (h : Leaves (readEscape cs) c rest) :
    Taken Anything (fun cs rest => Leaves (readEscape cs) c rest) cs rest := by
  cases cs with
  | nil => exact absurd h not_leaves_error
  | cons d cs =>
    by_cases hd : d = 'u'
    · subst hd
      have hcode := taken_unicodeEscape (leaves_readEscape_u.1 h)
      refine ((taken_append ['u'] cs).andThen hcode).imp ?_
      rintro _ rest ⟨cs, rfl, hcode'⟩
      exact leaves_readEscape_u.2 hcode'
    · obtain ⟨hletter, rfl⟩ := (leaves_readEscape_letter hd).1 h
      refine (taken_append [d] cs).imp ?_
      rintro _ rest rfl
      exact (leaves_readEscape_letter hd).2 ⟨hletter, rfl⟩

/-! ## Strings -/

/-- `readString` ends at a quote. -/
theorem leaves_readString_quote {cs rest s : List Char} :
    Leaves (readString ('"' :: cs)) s rest ↔ s = [] ∧ cs = rest := by
  rw [readString, leaves_ok, eq_comm]

/-- `readString` at a backslash reads one escape and goes on. -/
theorem leaves_readString_escape {cs rest s : List Char} :
    Leaves (readString ('\\' :: cs)) s rest ↔
      ∃ c mid s', Leaves (readEscape cs) c mid ∧ Leaves (readString mid) s' rest ∧ s = c :: s' := by
  rw [readString, leaves_bind_iff]
  constructor
  · rintro ⟨c, r, hc, h⟩
    obtain ⟨s', r', hs, h⟩ := leaves_bind_iff.1 h
    obtain ⟨rfl, rfl⟩ := leaves_ok.1 h
    exact ⟨c, r.1, s', leaves_val_iff.2 hc, leaves_val_iff.2 hs, rfl⟩
  · rintro ⟨c, mid, s', ⟨hlen, hc⟩, ⟨hlen', hs⟩, rfl⟩
    refine ⟨c, ⟨mid, hlen⟩, hc, leaves_bind_iff.2 ⟨s', ⟨rest, hlen'⟩, hs, ?_⟩⟩
    exact leaves_ok.2 ⟨rfl, rfl⟩

/-- `readString` takes any other character for itself, unless it is a control character. -/
theorem leaves_readString_char {c : Char} (hquote : c ≠ '"') (hslash : c ≠ '\\')
    {cs rest s : List Char} :
    Leaves (readString (c :: cs)) s rest ↔
      ¬c < ' ' ∧ ∃ s', Leaves (readString cs) s' rest ∧ s = c :: s' := by
  rw [readString]
  · -- Control characters are refused, and any other is put before what follows.
    split
    · rename_i hcontrol
      simp [not_leaves_error, hcontrol]
    · rename_i hcontrol
      rw [leaves_bind_iff]
      constructor
      · rintro ⟨s', r, hs, h⟩
        obtain ⟨rfl, rfl⟩ := leaves_ok.1 h
        exact ⟨hcontrol, s', leaves_val_iff.2 hs, rfl⟩
      · rintro ⟨-, s', ⟨hlen, hs⟩, rfl⟩
        exact ⟨s', ⟨rest, hlen⟩, hs, leaves_ok.2 ⟨rfl, rfl⟩⟩
  · exact hquote
  · exact hslash

/-- `readString` reads a string without escapes as it is written. -/
theorem leaves_readString_append {word : List Char}
    (hword : ∀ c ∈ word, c ≠ '"' ∧ c ≠ '\\' ∧ ¬c < ' ') (rest : List Char) :
    Leaves (readString (word ++ '"' :: rest)) word rest := by
  induction word with
  | nil => exact leaves_readString_quote.2 ⟨rfl, rfl⟩
  | cons c word ih =>
    obtain ⟨hquote, hslash, hcontrol⟩ := hword c List.mem_cons_self
    refine (leaves_readString_char hquote hslash).2 ⟨hcontrol, word, ?_, rfl⟩
    exact ih fun d hd => hword d (List.mem_cons_of_mem _ hd)

/-- `readString` ends at its quote, whatever follows. -/
theorem taken_readString {cs rest s : List Char} (h : Leaves (readString cs) s rest) :
    Taken Anything (fun cs rest => Leaves (readString cs) s rest) cs rest := by
  -- An escape takes several characters at once, so the induction is on the length.
  induction hlen : cs.length using Nat.strongRecOn generalizing cs s with
  | ind n ih =>
    cases cs with
    | nil =>
      rw [readString] at h
      exact absurd h not_leaves_error
    | cons c cs =>
      rw [List.length_cons] at hlen
      by_cases hquote : c = '"'
      · subst hquote
        obtain ⟨rfl, rfl⟩ := leaves_readString_quote.1 h
        refine (taken_append ['"'] cs).imp ?_
        rintro _ rest rfl
        exact leaves_readString_quote.2 ⟨rfl, rfl⟩
      by_cases hslash : c = '\\'
      · subst hslash
        obtain ⟨d, mid, s, hd, hs, rfl⟩ := leaves_readString_escape.1 h
        -- The escape leaves a shorter rest, which the induction speaks of.
        have hshort : mid.length < cs.length := hd.1
        have htail := (taken_readEscape hd).andThen (ih mid.length (by omega) hs rfl)
        refine ((taken_append ['\\'] cs).andThen htail).imp ?_
        rintro _ rest ⟨_, rfl, mid, hd', hs'⟩
        exact leaves_readString_escape.2 ⟨d, mid, s, hd', hs', rfl⟩
      · obtain ⟨hcontrol, s, hs, rfl⟩ := (leaves_readString_char hquote hslash).1 h
        refine ((taken_append [c] cs).andThen (ih cs.length (by omega) hs rfl)).imp ?_
        rintro _ rest ⟨cs, rfl, hs'⟩
        exact (leaves_readString_char hquote hslash).2 ⟨hcontrol, s, hs', rfl⟩

/-! ## White space and words -/

/-- `skipSpace` finds the next word whatever follows its first character. -/
theorem taken_skipSpace {cs rest : List Char} {c : Char} (h : skipSpace cs = c :: rest) :
    Taken Anything (fun cs rest => skipSpace cs = c :: rest) cs rest := by
  induction cs with
  | nil => exact absurd h (List.cons_ne_nil c rest).symm
  | cons d cs ih =>
    by_cases hd : isSpace d = true
    · -- One space more in front.
      rw [skipSpace, List.dropWhile_cons_of_pos hd] at h
      refine ((taken_append [d] cs).andThen (ih h)).imp ?_
      rintro _ rest ⟨cs, rfl, h'⟩
      rw [List.singleton_append, skipSpace, List.dropWhile_cons_of_pos hd]
      exact h'
    · -- The word begins here; that its first character is no space is all that counts.
      rw [skipSpace, List.dropWhile_cons_of_neg hd] at h
      cases h
      refine (taken_append [c] rest).imp ?_
      rintro _ rest rfl
      exact List.dropWhile_cons_of_neg hd

/-- `nextChar` is the first character behind white space. -/
theorem nextChar_eq_some_iff {cs : List Char} {c : Char} {r : Rest cs} :
    nextChar cs = some (c, r) ↔ skipSpace cs = c :: r.1 := by
  unfold nextChar
  split
  · rename_i h
    simp [h]
  · rename_i d rest h
    simp [h, Subtype.ext_iff]

/-- `expectWord` leaves what is left of a text when the word is taken off. -/
theorem expectWord_eq_ok_iff {word cs rest : List Char} :
    (∃ h, expectWord word cs = .ok ⟨rest, h⟩) ↔ cs = word ++ rest := by
  induction word generalizing cs with
  | nil =>
    constructor
    · rintro ⟨h, heq⟩
      cases heq
      rfl
    · rintro rfl
      exact ⟨Nat.le_refl _, rfl⟩
  | cons w word ih =>
    cases cs with
    | nil => simp [expectWord]
    | cons c cs =>
      -- The first characters are compared, and the rest is the induction hypothesis.
      rw [List.cons_append, List.cons.injEq, ← ih]
      by_cases hc : c = w
      · constructor
        · rintro ⟨h, heq⟩
          rw [expectWord, if_pos hc] at heq
          cases hword : expectWord word cs with
          | error e => simp [hword] at heq
          | ok r =>
            rw [hword] at heq
            cases heq
            exact ⟨hc, r.2, rfl⟩
        · rintro ⟨-, h, hword⟩
          rw [expectWord, if_pos hc, hword]
          exact ⟨Nat.le_succ_of_le h, rfl⟩
      · simp [expectWord, hc]

/-! ## Numbers -/

/-- A text does not go on with a character of some kind. -/
def Ends (p : Char → Bool) (cs : List Char) : Prop := cs.head?.any p = false

/-- What begins a power of ten. -/
def isPowerMark (c : Char) : Bool := c = 'e' || c = 'E'

/-- A character that the digits of a number may go on with, a power of ten apart. -/
def isDecimal (c : Char) : Bool := c.isDigit || c = '.'

/-- A character that a number may go on with. -/
def isNumberChar (c : Char) : Bool := isDecimal c || isPowerMark c

/-- A text does not go on with a number. -/
def Stops (cs : List Char) : Prop := Ends isNumberChar cs

/-- A text that does not go on with any of more characters does not go on with any of fewer. -/
theorem Ends.mono {p q : Char → Bool} {cs : List Char} (h : Ends q cs)
    (hpq : ∀ c, p c = true → q c = true) : Ends p cs := by
  cases cs with
  | nil => rfl
  | cons c cs =>
    have hq : q c = false := h
    have hp : p c = false := by
      rw [Bool.eq_false_iff]
      intro hc
      rw [hpq c hc] at hq
      contradiction
    exact hp

/-- `digitRun` takes all digits that a text begins with. -/
theorem digitRun_eq_iff {cs ds rest : List Char} :
    digitRun cs = (ds, rest) ↔
      cs = ds ++ rest ∧ (∀ d ∈ ds, d.isDigit = true) ∧ Ends Char.isDigit rest := by
  constructor
  · intro h
    cases h
    refine ⟨(digitRun_append cs).symm, fun d hd => isDigit_of_mem_digitRun hd, ?_⟩
    · have hhead := List.head?_dropWhile_not Char.isDigit cs
      unfold Ends
      cases hrest : (cs.dropWhile Char.isDigit).head? with
      | none => rfl
      | some c => simpa [hrest] using hhead
  · rintro ⟨rfl, hds, hrest⟩
    refine digitRun_of_append hds fun c hc => ?_
    rwa [Ends, Option.mem_def.1 hc] at hrest

/-- Digits before the point: a lone zero, or digits that begin with another one. -/
def IsWhole (ds : List Char) : Prop :=
  ds = ['0'] ∨ ∃ d ds', ds = d :: ds' ∧ d ≠ '0' ∧ d.isDigit = true ∧ ∀ e ∈ ds', e.isDigit = true

/-- `readWhole` reads the digits before the point. -/
theorem leaves_readWhole_iff {atEnd : JsonCause} {cs ds rest : List Char} :
    Leaves (readWhole atEnd cs) ds rest ↔
      cs = ds ++ rest ∧ IsWhole ds ∧ Ends Char.isDigit rest := by
  constructor
  · intro h
    unfold readWhole at h
    -- A zero at the end, a zero in front of something, and another first character.
    split at h
    · exact absurd h not_leaves_error
    · split at h
      · obtain ⟨rfl, rfl⟩ := leaves_ok.1 h
        exact ⟨rfl, .inl rfl, rfl⟩
      · -- A zero with a digit behind it is refused.
        split at h
        · exact absurd h not_leaves_error
        · rename_i c more hc
          obtain ⟨rfl, rfl⟩ := leaves_ok.1 h
          have hends : c.isDigit = false := by simpa using hc
          exact ⟨rfl, .inl rfl, hends⟩
    · rename_i c cs hzero
      split at h
      · rename_i hc
        obtain ⟨rfl, rfl⟩ := leaves_ok.1 h
        obtain ⟨hcs, hds, hends⟩ := digitRun_eq_iff.1 (rfl : digitRun cs = (_, _))
        exact ⟨congrArg (c :: ·) hcs, .inr ⟨c, _, rfl, hzero, hc, hds⟩, hends⟩
      · exact absurd h not_leaves_error
  · rintro ⟨rfl, rfl | ⟨d, ds, rfl, hzero, hd, hds⟩, hends⟩
    · cases rest with
      | nil => exact leaves_ok.2 ⟨rfl, rfl⟩
      | cons c rest =>
        have hc : c.isDigit = false := hends
        simp only [List.cons_append, List.nil_append, readWhole, hc, Bool.false_eq_true, if_false]
        exact leaves_ok.2 ⟨rfl, rfl⟩
    · have hrun : digitRun (ds ++ rest) = (ds, rest) := digitRun_eq_iff.2 ⟨rfl, hds, hends⟩
      rw [List.cons_append, readWhole, if_pos hd, leaves_ok]
      · exact ⟨congrArg (fun run => d :: run.1) hrun, congrArg Prod.snd hrun⟩
      · exact hzero

/-- Digits, of which there is at least one, in front of a rest that does not go on with them. -/
def SomeDigits (cs ds rest : List Char) : Prop :=
  ds ≠ [] ∧ cs = ds ++ rest ∧ (∀ d ∈ ds, d.isDigit = true) ∧ Ends Char.isDigit rest

/-- `digitRun` takes `SomeDigits`. -/
theorem SomeDigits.digitRun_eq {cs ds rest : List Char} (h : SomeDigits cs ds rest) :
    digitRun cs = (ds, rest) := digitRun_eq_iff.2 h.2

/-- `readFraction` reads a point with digits behind it, or nothing where there is no point. -/
theorem leaves_readFraction_iff {atEnd : JsonCause} {cs ds rest : List Char} :
    Leaves (readFraction atEnd cs) ds rest ↔
      (ds = [] ∧ cs = rest ∧ Ends (fun c => c = '.') rest) ∨
        ∃ cs', cs = '.' :: cs' ∧ SomeDigits cs' ds rest := by
  constructor
  · intro h
    unfold readFraction at h
    split at h
    · split at h
      · exact absurd h not_leaves_error
      · rename_i hrun _
        obtain ⟨rfl, rfl⟩ := leaves_ok.1 h
        exact .inr ⟨_, rfl, List.cons_ne_nil _ _, digitRun_eq_iff.1 hrun⟩
    · -- Without a point nothing is read, and the rest begins with no point.
      rename_i hpoint
      obtain ⟨rfl, rfl⟩ := leaves_ok.1 h
      refine .inl ⟨rfl, rfl, ?_⟩
      cases cs with
      | nil => rfl
      | cons c cs =>
        have hc : c ≠ '.' := by
          rintro rfl
          exact hpoint cs rfl
        simp [Ends, hc]
  · rintro (⟨rfl, rfl, hends⟩ | ⟨cs', rfl, hdigits⟩)
    · unfold readFraction
      split
      · simp [Ends] at hends
      · exact leaves_ok.2 ⟨rfl, rfl⟩
    · have hrun := hdigits.digitRun_eq
      rw [readFraction]
      split
      · rename_i hnil _
        rw [hrun, Prod.mk.injEq] at hnil
        exact absurd hnil.1 hdigits.1
      · rename_i hcons _
        rw [hrun, Prod.mk.injEq] at hcons
        obtain ⟨rfl, rfl⟩ := hcons
        exact leaves_ok.2 ⟨rfl, rfl⟩

/-- `readPowerDigits` reads one digit or more. -/
theorem leaves_readPowerDigits_iff {atEnd : JsonCause} {cs ds rest : List Char} :
    Leaves (readPowerDigits atEnd cs) ds rest ↔ SomeDigits cs ds rest := by
  unfold readPowerDigits
  constructor
  · intro h
    split at h
    · exact absurd h not_leaves_error
    · rename_i hrun _
      obtain ⟨rfl, rfl⟩ := leaves_ok.1 h
      exact ⟨List.cons_ne_nil _ _, digitRun_eq_iff.1 hrun⟩
  · intro hdigits
    -- The run that the reader takes is the one that is given.
    have hrun := hdigits.digitRun_eq
    split
    · rename_i hnil _
      rw [hrun, Prod.mk.injEq] at hnil
      exact absurd hnil.1 hdigits.1
    · rename_i hcons _
      rw [hrun, Prod.mk.injEq] at hcons
      obtain ⟨rfl, rfl⟩ := hcons
      exact leaves_ok.2 ⟨rfl, rfl⟩

/-- The signs of a power of ten, each with whether the power is negative. -/
def powerSigns : List (List Char × Bool) := [(['-'], true), (['+'], false), ([], false)]

/-- `readPower` reads a mark, a sign and digits, or nothing where there is no mark. -/
theorem leaves_readPower_iff {atEnd : JsonCause} {cs rest : List Char}
    {power : Option (Bool × List Char)} :
    Leaves (readPower atEnd cs) power rest ↔
      (power = none ∧ cs = rest ∧ Ends isPowerMark rest) ∨
        ∃ c sign down ds cs', isPowerMark c = true ∧ (sign, down) ∈ powerSigns ∧
          power = some (down, ds) ∧ cs = c :: (sign ++ cs') ∧ SomeDigits cs' ds rest := by
  constructor
  · intro h
    unfold readPower at h
    split at h
    · obtain ⟨rfl, rfl⟩ := leaves_ok.1 h
      exact .inl ⟨rfl, rfl, rfl⟩
    · rename_i c cs
      split at h
      · rename_i hc
        -- The three signs of a power, one after the other.
        refine .inr ?_
        split at h
        · obtain ⟨ds, r, hr, h⟩ := leaves_bind_iff.1 h
          obtain ⟨rfl, rfl⟩ := leaves_ok.1 h
          exact ⟨c, ['-'], true, ds, _, hc, by decide, rfl, rfl,
            leaves_readPowerDigits_iff.1 (leaves_val_iff.2 hr)⟩
        · obtain ⟨ds, r, hr, h⟩ := leaves_bind_iff.1 h
          obtain ⟨rfl, rfl⟩ := leaves_ok.1 h
          exact ⟨c, ['+'], false, ds, _, hc, by decide, rfl, rfl,
            leaves_readPowerDigits_iff.1 (leaves_val_iff.2 hr)⟩
        · obtain ⟨ds, r, hr, h⟩ := leaves_bind_iff.1 h
          obtain ⟨rfl, rfl⟩ := leaves_ok.1 h
          exact ⟨c, [], false, ds, _, hc, by decide, rfl, rfl,
            leaves_readPowerDigits_iff.1 (leaves_val_iff.2 hr)⟩
      · rename_i hc
        obtain ⟨rfl, rfl⟩ := leaves_ok.1 h
        have hends : isPowerMark c = false := Bool.eq_false_iff.2 hc
        exact .inl ⟨rfl, rfl, hends⟩
  · rintro (⟨rfl, rfl, hends⟩ | ⟨c, sign, down, ds, cs', hc, hsign, rfl, rfl, hdigits⟩)
    · cases cs with
      | nil => exact leaves_ok.2 ⟨rfl, rfl⟩
      | cons c cs =>
        have hc : isPowerMark c = false := hends
        unfold readPower
        dsimp only
        rw [isPowerMark] at hc
        rw [if_neg (Bool.eq_false_iff.1 hc)]
        exact leaves_ok.2 ⟨rfl, rfl⟩
    · obtain ⟨hlen, hread⟩ := (@leaves_readPowerDigits_iff atEnd _ _ _).2 hdigits
      unfold readPower
      dsimp only
      rw [isPowerMark] at hc
      rw [if_pos hc]
      simp only [powerSigns, List.mem_cons, Prod.mk.injEq, List.not_mem_nil, or_false] at hsign
      obtain ⟨rfl, rfl⟩ | ⟨rfl, rfl⟩ | ⟨rfl, rfl⟩ := hsign
      · exact leaves_bind_iff.2 ⟨ds, ⟨rest, hlen⟩, hread, leaves_ok.2 ⟨rfl, rfl⟩⟩
      · exact leaves_bind_iff.2 ⟨ds, ⟨rest, hlen⟩, hread, leaves_ok.2 ⟨rfl, rfl⟩⟩
      · -- Without a sign a digit comes first.
        obtain ⟨d, ds, rfl⟩ := List.exists_cons_of_ne_nil hdigits.1
        have hd : d.isDigit = true := hdigits.2.2.1 d List.mem_cons_self
        have hcs : cs' = d :: (ds ++ rest) := hdigits.2.1
        dsimp only [List.nil_append]
        split
        · simp only [List.cons.injEq] at hcs
          obtain ⟨rfl, -⟩ := hcs
          simp at hd
        · simp only [List.cons.injEq] at hcs
          obtain ⟨rfl, -⟩ := hcs
          simp at hd
        · exact leaves_bind_iff.2 ⟨d :: ds, ⟨rest, hlen⟩, hread, leaves_ok.2 ⟨rfl, rfl⟩⟩

/-- `readPower` reads the same in front of a text that stops, and the digits before the power end
there. -/
theorem taken_readPower {atEnd : JsonCause} {cs rest : List Char}
    {power : Option (Bool × List Char)} (h : Leaves (readPower atEnd cs) power rest) :
    Taken Stops (fun cs rest => Leaves (readPower atEnd cs) power rest ∧ Ends isDecimal cs)
      cs rest := by
  rw [leaves_readPower_iff] at h
  obtain ⟨rfl, rfl, -⟩ | ⟨c, sign, down, ds, cs', hc, hsign, rfl, rfl, hne, rfl, hds, -⟩ := h
  · -- Nothing is taken, so that whatever follows must not be read as a power either.
    refine ⟨[], rfl, ?_⟩
    intro rest' hstops
    refine ⟨leaves_readPower_iff.2 (.inl ⟨rfl, rfl, ?_⟩), ?_⟩
    · exact hstops.mono fun c hc => by simp [isNumberChar, hc]
    · exact hstops.mono fun c hc => by simp [isNumberChar, hc]
  · refine ⟨c :: (sign ++ ds), by simp, ?_⟩
    intro rest' hstops
    have hdigits : SomeDigits (ds ++ rest') ds rest' :=
      ⟨hne, rfl, hds, hstops.mono fun c hc => by simp [isNumberChar, isDecimal, hc]⟩
    constructor
    · refine leaves_readPower_iff.2 (.inr ⟨c, sign, down, ds, _, hc, hsign, rfl, ?_, hdigits⟩)
      simp
    · -- A power begins with its mark, which is no digit and no point.
      have hmark : isDecimal c = false := by
        simp only [isPowerMark, Bool.or_eq_true, decide_eq_true_eq] at hc
        rcases hc with rfl | rfl <;> rfl
      exact hmark

/-- `readFraction` reads the same in front of a text without more digits, and the digits before the
point end there. -/
theorem taken_readFraction {atEnd : JsonCause} {cs ds rest : List Char}
    (h : Leaves (readFraction atEnd cs) ds rest) :
    Taken (Ends isDecimal)
      (fun cs rest => Leaves (readFraction atEnd cs) ds rest ∧ Ends Char.isDigit cs) cs rest := by
  rw [leaves_readFraction_iff] at h
  obtain ⟨rfl, rfl, -⟩ | ⟨cs', rfl, hne, rfl, hds, -⟩ := h
  · -- No point was there, so none may follow.
    refine ⟨[], rfl, ?_⟩
    intro rest' hends
    refine ⟨leaves_readFraction_iff.2 (.inl ⟨rfl, rfl, ?_⟩), ?_⟩
    · exact hends.mono fun c hc => by simp_all [isDecimal]
    · exact hends.mono fun c hc => by simp [isDecimal, hc]
  · refine ⟨'.' :: ds, rfl, ?_⟩
    intro rest' hends
    have hdigits : SomeDigits (ds ++ rest') ds rest' :=
      ⟨hne, rfl, hds, hends.mono fun c hc => by simp [isDecimal, hc]⟩
    exact ⟨leaves_readFraction_iff.2 (.inr ⟨_, rfl, hdigits⟩), rfl⟩

/-- `readWhole` reads the same in front of a text without more digits. -/
theorem taken_readWhole {atEnd : JsonCause} {cs ds rest : List Char}
    (h : Leaves (readWhole atEnd cs) ds rest) :
    Taken (Ends Char.isDigit) (fun cs rest => Leaves (readWhole atEnd cs) ds rest) cs rest := by
  obtain ⟨rfl, hwhole, -⟩ := leaves_readWhole_iff.1 h
  refine ⟨ds, rfl, ?_⟩
  intro rest' hends
  exact leaves_readWhole_iff.2 ⟨rfl, hwhole, hends⟩

/-- `readNumberText` reads the three parts of a number one after the other. -/
theorem leaves_readNumberText_iff {atEnd : JsonCause} {cs rest : List Char} {n : NumberText} :
    Leaves (readNumberText atEnd cs) n rest ↔ ∃ mid mid',
      Leaves (readWhole atEnd cs) n.whole mid ∧ Leaves (readFraction atEnd mid) n.fraction mid' ∧
        Leaves (readPower atEnd mid') n.exponent rest := by
  unfold readNumberText
  rw [leaves_bind_iff]
  constructor
  · rintro ⟨whole, r, hwhole, h⟩
    obtain ⟨fraction, r', hfraction, h⟩ := leaves_bind_iff.1 h
    obtain ⟨power, r'', hpower, h⟩ := leaves_bind_iff.1 h
    obtain ⟨rfl, rfl⟩ := leaves_ok.1 h
    exact ⟨r.1, r'.1, leaves_val_iff.2 hwhole, leaves_val_iff.2 hfraction, leaves_val_iff.2 hpower⟩
  · rintro ⟨mid, mid', ⟨hlen, hwhole⟩, ⟨hlen', hfraction⟩, ⟨hlen'', hpower⟩⟩
    refine ⟨n.whole, ⟨mid, hlen⟩, hwhole, ?_⟩
    refine leaves_bind_iff.2 ⟨n.fraction, ⟨mid', hlen'⟩, hfraction, ?_⟩
    refine leaves_bind_iff.2 ⟨n.exponent, ⟨rest, hlen''⟩, hpower, ?_⟩
    exact leaves_ok.2 ⟨rfl, rfl⟩

/-- `readNumberText` reads the same in front of a text that stops. -/
theorem taken_readNumberText {atEnd : JsonCause} {cs rest : List Char} {n : NumberText}
    (h : Leaves (readNumberText atEnd cs) n rest) :
    Taken Stops (fun cs rest => Leaves (readNumberText atEnd cs) n rest) cs rest := by
  obtain ⟨mid, mid', hwhole, hfraction, hpower⟩ := leaves_readNumberText_iff.1 h
  -- Each part is followed by one that does not go on with it.
  have htail := (taken_readFraction hfraction).comp (taken_readPower hpower) fun _ _ h => h.2
  have hall := (taken_readWhole hwhole).comp htail fun _ _ ⟨_, h, _⟩ => h.2
  refine hall.imp ?_
  rintro cs rest ⟨mid, hwhole', mid', hfraction', hpower'⟩
  exact leaves_readNumberText_iff.2 ⟨mid, mid', hwhole', hfraction'.1, hpower'.1⟩

/-- `readNumber` reads the text of a number and refuses the numbers that are too large. -/
theorem leaves_readNumber_iff {negative : Bool} {cs rest : List Char} {x : Number} :
    Leaves (readNumber negative cs) x rest ↔
      ∃ n, Leaves (readNumberText .endOfValue cs) n rest ∧ n.toNumber negative = .ok x := by
  unfold readNumber
  rw [leaves_bind_iff]
  constructor
  · rintro ⟨n, r, hn, h⟩
    -- A text that is no number of the range is refused only now.
    dsimp only at h
    split at h
    · rename_i hx
      obtain ⟨rfl, rfl⟩ := leaves_ok.1 h
      exact ⟨n, leaves_val_iff.2 hn, hx⟩
    · exact absurd h not_leaves_error
  · rintro ⟨n, ⟨hlen, hn⟩, hx⟩
    refine ⟨n, ⟨rest, hlen⟩, hn, ?_⟩
    simp only [hx]
    exact leaves_ok.2 ⟨rfl, rfl⟩

/-- `readNumber` reads the same in front of a text without digit, point or power. -/
theorem taken_readNumber {negative : Bool} {cs rest : List Char} {x : Number}
    (h : Leaves (readNumber negative cs) x rest) :
    Taken Stops (fun cs rest => Leaves (readNumber negative cs) x rest) cs rest := by
  obtain ⟨n, hn, hx⟩ := leaves_readNumber_iff.1 h
  refine (taken_readNumberText hn).imp ?_
  intro cs rest hn'
  exact leaves_readNumber_iff.2 ⟨n, hn', hx⟩

end Bulletin.Json
