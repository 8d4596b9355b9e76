import Bulletin.Proofs.Json.Grammar

/-!
# Values that nobody reads

What is passed over unread is checked less than what is read: its numbers may be of any size, its
strings may hold half a surrogate pair, and it may open any number of levels.  So whatever can be
read can be passed over, and it ends in the same place.

## Main statements

- `passes_skipString`: a string that is read can be passed over
- `Reads.passes_skipValue`: so can a value
-/

namespace Bulletin.Json

/-- Something is passed over and leaves a rest. -/
def Passes {P : List Char → Prop} (x : Except JsonFailure { r : List Char // P r })
    (rest : List Char) : Prop :=
  ∃ h, x = .ok ⟨rest, h⟩

section Passes

variable {P Q : List Char → Prop} {mid rest : List Char}

/-- `Passes` of a result says what the rest is. -/
theorem passes_ok {r : { r : List Char // P r }} : Passes (.ok r) rest ↔ r.1 = rest := by
  constructor
  · rintro ⟨h, heq⟩
    cases heq
    rfl
  · rintro rfl
    exact ⟨r.2, rfl⟩

/-- `Passes` behind a step that succeeds. -/
theorem passes_bind_ok {β : Type} {x : Except JsonFailure β} {b : β}
    {f : β → Except JsonFailure { r : List Char // P r }} (hx : x = .ok b)
    (hf : Passes (f b) rest) : Passes (x >>= f) rest := by
  rw [hx]
  exact hf

/-- `Passes` for two steps, one behind the other. -/
theorem Passes.bind {x : Except JsonFailure { r : List Char // Q r }}
    {f : { r : List Char // Q r } → Except JsonFailure { r : List Char // P r }}
    (hx : Passes x mid) (hf : ∀ h, Passes (f ⟨mid, h⟩) rest) : Passes (x >>= f) rest := by
  obtain ⟨h, hx⟩ := hx
  exact passes_bind_ok hx (hf h)

end Passes

/-! ## Strings -/

/-- `skipString` passes over a code of four digits. -/
theorem passes_skipString_u {cs mid rest : List Char} {n : Nat} (hn : Leaves (hexUnit cs) n mid)
    (hrest : Passes (skipString mid) rest) : Passes (skipString ('\\' :: 'u' :: cs)) rest := by
  obtain ⟨hlen, hn⟩ := hn
  rw [skipString]
  exact passes_bind_ok hn (hrest.bind fun _ => passes_ok.2 rfl)

/-- `skipString` passes over an escape that is a letter. -/
theorem passes_skipString_letter {d c : Char} (hd : d ≠ 'u') (hletter : letterEscape? d = some c)
    {cs rest : List Char} (hrest : Passes (skipString cs) rest) :
    Passes (skipString ('\\' :: d :: cs)) rest := by
  rw [skipString, hletter]
  · exact hrest.bind fun _ => passes_ok.2 rfl
  · exact hd

/-- `skipString` passes over a character that stands for itself. -/
theorem passes_skipString_char {c : Char} (hquote : c ≠ '"') (hslash : c ≠ '\\')
    (hcontrol : ¬c < ' ') {cs rest : List Char} (hrest : Passes (skipString cs) rest) :
    Passes (skipString (c :: cs)) rest := by
  rw [skipString, if_neg hcontrol]
  · exact hrest.bind fun _ => passes_ok.2 rfl
  all_goals simp_all

/-- `skipString` passes over every escape that `readEscape` reads. -/
theorem passes_skipString_escape {cs mid rest : List Char} {c : Char}
    (hc : Leaves (readEscape cs) c mid) (hrest : Passes (skipString mid) rest) :
    Passes (skipString ('\\' :: cs)) rest := by
  cases cs with
  | nil => exact absurd hc not_leaves_error
  | cons d cs =>
    by_cases hd : d = 'u'
    · subst hd
      obtain ⟨n, mid', hn, -, hsecond⟩ :=
        leaves_unicodeEscape_iff.1 (leaves_readEscape_u.1 hc)
      refine passes_skipString_u hn ?_
      obtain ⟨-, -, rfl⟩ | ⟨-, m, cs', rfl, hm, -⟩ := hsecond
      · exact hrest
      · -- The second half of a pair is passed over as an escape of its own.
        exact passes_skipString_u hm hrest
    · obtain ⟨hletter, rfl⟩ := (leaves_readEscape_letter hd).1 hc
      exact passes_skipString_letter hd hletter hrest

/-- `skipString` passes over every string that `readString` reads. -/
theorem passes_skipString {cs rest s : List Char} (h : Leaves (readString cs) s rest) :
    Passes (skipString cs) rest := by
  -- An escape takes several characters at once, so the induction is on the length.
  obtain ⟨n, hlen⟩ : ∃ n, cs.length = n := ⟨_, rfl⟩
  induction n using Nat.strongRecOn generalizing cs s with
  | ind n ih =>
    cases cs with
    | nil =>
      rw [readString] at h
      exact absurd h not_leaves_error
    | cons c cs =>
      rw [List.length_cons] at hlen
      by_cases hquote : c = '"'
      · subst hquote
        obtain ⟨rfl, rfl⟩ := leaves_readString_quote.1 h
        rw [skipString]
        exact passes_ok.2 rfl
      by_cases hslash : c = '\\'
      · subst hslash
        obtain ⟨d, mid, s, hd, hs, rfl⟩ := leaves_readString_escape.1 h
        have hshort : mid.length < cs.length := hd.1
        exact passes_skipString_escape hd (ih mid.length (by omega) hs rfl)
      · obtain ⟨hcontrol, s, hs, rfl⟩ := (leaves_readString_char hquote hslash).1 h
        exact passes_skipString_char hquote hslash hcontrol (ih cs.length (by omega) hs rfl)

/-! ## Numbers -/

/-- `readNumberText` reads the same whatever error a missing digit gives. -/
theorem Leaves.readNumberText {atEnd atEnd' : JsonCause} {cs rest : List Char} {n : NumberText}
    (h : Leaves (readNumberText atEnd cs) n rest) : Leaves (readNumberText atEnd' cs) n rest := by
  -- None of the three parts mentions the error once it is read.
  simp only [leaves_readNumberText_iff, leaves_readWhole_iff, leaves_readFraction_iff,
    leaves_readPower_iff] at h ⊢
  exact h

/-- `skipNumber` passes over every number that `readNumber` reads. -/
theorem passes_skipNumber {negative : Bool} {cs rest : List Char} {x : Number}
    (h : Leaves (readNumber negative cs) x rest) : Passes (skipNumber cs) rest := by
  obtain ⟨n, hn, -⟩ := leaves_readNumber_iff.1 h
  obtain ⟨hlen, hn⟩ := @Leaves.readNumberText _ .invalidNumber _ _ _ hn
  exact passes_bind_ok hn (passes_ok.2 rfl)

/-! ## Between values -/

/-- `afterSkippedItem` takes the bracket behind the last item. -/
theorem afterSkippedItem_of_close {cs rest : List Char} (h : skipSpace cs = ']' :: rest) :
    afterSkippedItem cs = .ok (.close ⟨rest, length_lt_of_skipSpace h⟩) := by
  rw [afterSkippedItem, nextChar_of_skipSpace h]
  rfl

/-- `afterSkippedItem` takes the comma between two items. -/
theorem afterSkippedItem_of_comma {cs rest : List Char} (h : skipSpace cs = ',' :: rest) :
    afterSkippedItem cs = .ok (.more ⟨rest, length_lt_of_skipSpace h⟩) := by
  rw [afterSkippedItem, nextChar_of_skipSpace h]
  rfl

/-- `afterSkippedMember` takes the brace behind the last member. -/
theorem afterSkippedMember_of_close {cs rest : List Char} (h : skipSpace cs = '\x7d' :: rest) :
    afterSkippedMember cs = .ok (.close ⟨rest, length_lt_of_skipSpace h⟩) := by
  rw [afterSkippedMember, nextChar_of_skipSpace h]
  rfl

/-- `afterSkippedMember` takes the comma behind a member and the quote of the next key. -/
theorem afterSkippedMember_of_comma {cs mid rest : List Char} (h : skipSpace cs = ',' :: mid)
    (hquote : skipSpace mid = '"' :: rest) :
    ∃ r : Rest cs, afterSkippedMember cs = .ok (.more r) ∧ r.1 = rest := by
  have hnext : nextChar mid = some ('"', ⟨rest, length_lt_of_skipSpace hquote⟩) :=
    nextChar_of_skipSpace hquote
  rw [afterSkippedMember, nextChar_of_skipSpace h]
  simp only [hnext]
  exact ⟨_, rfl, rfl⟩

/-! ## Values -/

/-- A part is passed over and leaves a rest. -/
def Part.IsPassed (cs rest : List Char) : Part → Prop
  | .value _ => Passes (skipValue cs) rest
  | .items _ => Passes (skipItems cs) rest
  | .members _ _ => Passes (skipMembers cs) rest

/-- `IsPassed` holds of every part that is read: what `Reads` reads can be passed over. -/
theorem Reads.isPassed {depth : Nat} {cs rest : List Char} {p : Part} (h : Reads depth cs p rest) :
    p.IsPassed cs rest := by
  -- The rules are gone through as the reader does, with the levels left out of account.
  induction h with
  | @word depth cs c w v rest hword hopen =>
    have hrest : Passes (expectWord w (w ++ rest)) rest := expectWord_eq_ok_iff.2 rfl
    simp only [wordValues, List.mem_cons, Prod.mk.injEq, List.not_mem_nil, or_false] at hword
    obtain ⟨rfl, rfl, rfl⟩ | ⟨rfl, rfl, rfl⟩ | ⟨rfl, rfl, rfl⟩ := hword
    all_goals
      rw [Part.IsPassed, skipValue, nextChar_of_skipSpace hopen]
      exact hrest.bind fun _ => passes_ok.2 rfl
  | negative hopen hnumber =>
    rw [Part.IsPassed, skipValue, nextChar_of_skipSpace hopen]
    exact (passes_skipNumber hnumber).bind fun _ => passes_ok.2 rfl
  | positive hopen hdigit hnumber =>
    rw [Part.IsPassed, skipValue, nextChar_of_skipSpace hopen]
    dsimp only
    -- A digit is none of the characters that begin another value.
    split
    all_goals first | (exfalso; revert hdigit; decide) | skip
    rw [if_pos hdigit]
    exact (passes_skipNumber hnumber).bind fun _ => passes_ok.2 rfl
  | string hopen hstring =>
    rw [Part.IsPassed, skipValue, nextChar_of_skipSpace hopen]
    exact (passes_skipString hstring).bind fun _ => passes_ok.2 rfl
  | @emptyList depth cs mid rest _ hopen hclose =>
    have hfirst := (@firstItem_eq_some_iff mid ⟨rest, length_lt_of_skipSpace hclose⟩).2 hclose
    rw [Part.IsPassed, skipValue, nextChar_of_skipSpace hopen]
    exact passes_bind_ok hfirst (passes_ok.2 rfl)
  | list _ hopen hitems ih =>
    have hfirst := firstItem_eq_none_iff.2 hitems.exists_first
    simp only [Part.IsPassed] at ih ⊢
    rw [skipValue, nextChar_of_skipSpace hopen]
    exact passes_bind_ok hfirst (ih.bind fun _ => passes_ok.2 rfl)
  | @emptyObject depth cs mid rest _ hopen hclose =>
    have hfirst := (@firstMember_eq_close_iff mid ⟨rest, length_lt_of_skipSpace hclose⟩).2 hclose
    rw [Part.IsPassed, skipValue, nextChar_of_skipSpace hopen]
    exact passes_bind_ok hfirst (passes_ok.2 rfl)
  | @object depth cs ms mid mid' rest _ hopen hquote _ ih =>
    have hfirst := (@firstMember_eq_more_iff mid ⟨mid', length_lt_of_skipSpace hquote⟩).2 hquote
    simp only [Part.IsPassed] at ih ⊢
    rw [skipValue, nextChar_of_skipSpace hopen]
    exact passes_bind_ok hfirst (ih.bind fun _ => passes_ok.2 rfl)
  | lastItem _ hclose ih =>
    simp only [Part.IsPassed] at ih ⊢
    rw [skipItems]
    refine ih.bind fun _ => ?_
    exact passes_bind_ok (afterSkippedItem_of_close hclose) (passes_ok.2 rfl)
  | item _ hcomma _ ih ih' =>
    simp only [Part.IsPassed] at ih ih' ⊢
    rw [skipItems]
    refine ih.bind fun _ => ?_
    refine passes_bind_ok (afterSkippedItem_of_comma hcomma) ?_
    exact ih'.bind fun _ => passes_ok.2 rfl
  | @lastMember depth cs before key v mid mid' mid'' rest hkey hcolon _ hclose ih =>
    have hcolon' := (@readColon_eq_ok_iff mid ⟨mid', length_lt_of_skipSpace hcolon⟩).2 hcolon
    simp only [Part.IsPassed] at ih ⊢
    rw [skipMembers]
    refine (passes_skipString hkey).bind fun _ => ?_
    refine passes_bind_ok hcolon' (ih.bind fun _ => ?_)
    exact passes_bind_ok (afterSkippedMember_of_close hclose) (passes_ok.2 rfl)
  | @member depth cs before key v ms mid mid' mid'' next next' rest hkey hcolon _ hcomma hquote _
      ih ih' =>
    have hcolon' := (@readColon_eq_ok_iff mid ⟨mid', length_lt_of_skipSpace hcolon⟩).2 hcolon
    obtain ⟨r, hnext, rfl⟩ := afterSkippedMember_of_comma hcomma hquote
    simp only [Part.IsPassed] at ih ih' ⊢
    rw [skipMembers]
    refine (passes_skipString hkey).bind fun _ => ?_
    refine passes_bind_ok hcolon' (ih.bind fun _ => ?_)
    exact passes_bind_ok hnext (ih'.bind fun _ => passes_ok.2 rfl)

/-- `skipValue` passes over every value that `readValue` reads, and ends in the same place. -/
theorem Reads.passes_skipValue {depth : Nat} {cs rest : List Char} {v : Json}
    (h : Reads depth cs (.value v) rest) : Passes (skipValue cs) rest := h.isPassed

end Bulletin.Json
