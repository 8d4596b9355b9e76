import Bulletin.Json.Reader
import Bulletin.Proofs.Json.Lexeme
import Mathlib.Data.List.TakeWhile

/-!
# What the reader accepts

The reader calls itself for the items of a list and the members of an object, and checks what stands
between them.  What it accepts is written down once as rules, each of which says how a value, the
items of a list or the members of an object begin, and what is read behind that.

A value that is read off a text is read the same when something else follows, and when more levels
may be open: how much is read depends on what is read only.

## Main statements

- `Reads.deeper`: more levels do no harm
- `Reads.taken`: what is read does not depend on what follows
- `isRead_iff`: the reader accepts what the rules accept
- `parse_eq_ok_iff`: a text read whole is one value
-/

namespace Bulletin.Json

/-- What is read: a value, the items of a list, or the members of an object after others. -/
inductive Part where
  | value (v : Json)
  | items (vs : List Json)
  | members (before ms : Members)

/-- The words of JSON text without their first characters, and what they stand for. -/
def wordValues : List (Char × List Char × Json) :=
  [('n', ['u', 'l', 'l'], .null), ('t', ['r', 'u', 'e'], .bool true),
    ('f', ['a', 'l', 's', 'e'], .bool false)]

/-- With so many levels left, a part is read off a text and leaves a rest. -/
inductive Reads : Nat → List Char → Part → List Char → Prop
  | word {depth cs c w v rest} (hword : (c, w, v) ∈ wordValues)
      (hopen : skipSpace cs = c :: (w ++ rest)) : Reads depth cs (.value v) rest
  | negative {depth cs n mid rest} (hopen : skipSpace cs = '-' :: mid)
      (hnumber : Leaves (readNumber true mid) n rest) : Reads depth cs (.value (.number n)) rest
  | positive {depth cs c n mid rest} (hopen : skipSpace cs = c :: mid) (hdigit : c.isDigit = true)
      (hnumber : Leaves (readNumber false (c :: mid)) n rest) :
      Reads depth cs (.value (.number n)) rest
  | string {depth cs s mid rest} (hopen : skipSpace cs = '"' :: mid)
      (hstring : Leaves (readString mid) s rest) :
      Reads depth cs (.value (.string (.ofList s))) rest
  | emptyList {depth cs mid rest} (hdepth : 1 < depth) (hopen : skipSpace cs = '[' :: mid)
      (hclose : skipSpace mid = ']' :: rest) : Reads depth cs (.value (.array [])) rest
  | list {depth cs vs mid rest} (hdepth : 1 < depth) (hopen : skipSpace cs = '[' :: mid)
      (hitems : Reads (depth - 1) mid (.items vs) rest) : Reads depth cs (.value (.array vs)) rest
  | emptyObject {depth cs mid rest} (hdepth : 1 < depth) (hopen : skipSpace cs = '\x7b' :: mid)
      (hclose : skipSpace mid = '\x7d' :: rest) : Reads depth cs (.value (.object [])) rest
  | object {depth cs ms mid mid' rest} (hdepth : 1 < depth) (hopen : skipSpace cs = '\x7b' :: mid)
      (hquote : skipSpace mid = '"' :: mid')
      (hmembers : Reads (depth - 1) mid' (.members [] ms) rest) :
      Reads depth cs (.value (.object ms)) rest
  | lastItem {depth cs v mid rest} (hvalue : Reads depth cs (.value v) mid)
      (hclose : skipSpace mid = ']' :: rest) : Reads depth cs (.items [v]) rest
  | item {depth cs v vs mid mid' rest} (hvalue : Reads depth cs (.value v) mid)
      (hcomma : skipSpace mid = ',' :: mid') (hitems : Reads depth mid' (.items vs) rest) :
      Reads depth cs (.items (v :: vs)) rest
  | lastMember {depth cs before key v mid mid' mid'' rest}
      (hkey : Leaves (readString cs) key mid) (hcolon : skipSpace mid = ':' :: mid')
      (hvalue : Reads depth mid' (.value v) mid'') (hclose : skipSpace mid'' = '\x7d' :: rest) :
      Reads depth cs (.members before (before.insert (.ofList key) v)) rest
  | member {depth cs before key v ms mid mid' mid'' next next' rest}
      (hkey : Leaves (readString cs) key mid) (hcolon : skipSpace mid = ':' :: mid')
      (hvalue : Reads depth mid' (.value v) mid'') (hcomma : skipSpace mid'' = ',' :: next)
      (hquote : skipSpace next = '"' :: next')
      (hmembers : Reads depth next' (.members (before.insert (.ofList key) v) ms) rest) :
      Reads depth cs (.members before ms) rest

/-- A value is still read when more levels may be open. -/
theorem Reads.deeper {depth depth' : Nat} {cs rest : List Char} {p : Part}
    (h : Reads depth cs p rest) (hle : depth ≤ depth') : Reads depth' cs p rest := by
  -- Only the rules that open a list or an object ask for the depth.
  induction h generalizing depth' with
  | word hword hopen => exact .word hword hopen
  | negative hopen hnumber => exact .negative hopen hnumber
  | positive hopen hdigit hnumber => exact .positive hopen hdigit hnumber
  | string hopen hstring => exact .string hopen hstring
  | emptyList hdepth hopen hclose => exact .emptyList (by omega) hopen hclose
  | list hdepth hopen _ ih => exact .list (by omega) hopen (ih (by omega))
  | emptyObject hdepth hopen hclose => exact .emptyObject (by omega) hopen hclose
  | object hdepth hopen hquote _ ih => exact .object (by omega) hopen hquote (ih (by omega))
  | lastItem _ hclose ih => exact .lastItem (ih hle) hclose
  | item _ hcomma _ ih ih' => exact .item (ih hle) hcomma (ih' hle)
  | lastMember hkey hcolon _ hclose ih => exact .lastMember hkey hcolon (ih hle) hclose
  | member hkey hcolon _ hcomma hquote _ ih ih' =>
    exact .member hkey hcolon (ih hle) hcomma hquote (ih' hle)

/-! ## What follows -/

/-- What may follow a part: a number must not go on. -/
def Part.Follow : Part → List Char → Prop
  | .value _ => Stops
  | .items _ => Anything
  | .members _ _ => Anything

/-- A sign between values is no part of a number, and neither is the white space in front of it. -/
theorem stops_of_skipSpace {cs rest : List Char} {c : Char} (h : skipSpace cs = c :: rest)
    (hc : isNumberChar c = false) : Stops cs := by
  cases cs with
  | nil => rfl
  | cons d cs =>
    by_cases hd : isSpace d = true
    · have hnumber : isNumberChar d = false := by
        simp only [isSpace, Bool.or_eq_true, decide_eq_true_eq] at hd
        rcases hd with ((rfl | rfl) | rfl) | rfl <;> rfl
      exact hnumber
    · rw [skipSpace, List.dropWhile_cons_of_neg hd] at h
      cases h
      exact hc

/-- What is read does not depend on what follows, as long as that does not go on with a number. -/
theorem Reads.taken {depth : Nat} {cs rest : List Char} {p : Part} (h : Reads depth cs p rest) :
    Taken p.Follow (fun cs rest => Reads depth cs p rest) cs rest := by
  -- In each rule the pieces are taken off one by one, and a value is followed by a sign.
  induction h with
  | word hword hopen =>
    -- A word may be followed by anything, since it ends by itself.
    refine Taken.free (((taken_skipSpace hopen).andThen (taken_append _ _)).imp ?_)
    rintro cs rest ⟨_, hopen', rfl⟩
    exact .word hword hopen'
  | negative hopen hnumber =>
    refine ((taken_skipSpace hopen).andThen (taken_readNumber hnumber)).imp ?_
    rintro cs rest ⟨mid, hopen', hnumber'⟩
    exact .negative hopen' hnumber'
  | positive hopen hdigit hnumber =>
    obtain ⟨used, rfl, hused⟩ := taken_skipSpace hopen
    obtain ⟨used', hmid, hused'⟩ := taken_readNumber hnumber
    -- The number's first character is the one behind the space.
    obtain ⟨hlen, -⟩ := hnumber
    cases used' with
    | nil => simp [hmid] at hlen
    | cons d used' =>
      obtain ⟨rfl, rfl⟩ := List.cons.inj hmid
      refine ⟨used ++ used', (List.append_assoc used used' _).symm, ?_⟩
      intro rest' hstops
      rw [List.append_assoc]
      exact .positive (hused _ trivial) hdigit (hused' _ hstops)
  | string hopen hstring =>
    refine Taken.free (((taken_skipSpace hopen).andThen (taken_readString hstring)).imp ?_)
    rintro cs rest ⟨mid, hopen', hstring'⟩
    exact .string hopen' hstring'
  | emptyList hdepth hopen hclose =>
    refine Taken.free (((taken_skipSpace hopen).andThen (taken_skipSpace hclose)).imp ?_)
    rintro cs rest ⟨mid, hopen', hclose'⟩
    exact .emptyList hdepth hopen' hclose'
  | list hdepth hopen _ ih =>
    refine Taken.free (((taken_skipSpace hopen).andThen ih).imp ?_)
    rintro cs rest ⟨mid, hopen', hitems'⟩
    exact .list hdepth hopen' hitems'
  | emptyObject hdepth hopen hclose =>
    refine Taken.free (((taken_skipSpace hopen).andThen (taken_skipSpace hclose)).imp ?_)
    rintro cs rest ⟨mid, hopen', hclose'⟩
    exact .emptyObject hdepth hopen' hclose'
  | object hdepth hopen hquote _ ih =>
    have htaken := (taken_skipSpace hopen).andThen ((taken_skipSpace hquote).andThen ih)
    refine Taken.free (htaken.imp ?_)
    rintro cs rest ⟨mid, hopen', mid', hquote', hmembers'⟩
    exact .object hdepth hopen' hquote' hmembers'
  | lastItem _ hclose ih =>
    refine (ih.comp (taken_skipSpace hclose) fun _ _ h => stops_of_skipSpace h rfl).imp ?_
    rintro cs rest ⟨mid, hvalue', hclose'⟩
    exact .lastItem hvalue' hclose'
  | item _ hcomma _ ih ih' =>
    -- The comma ends the value, whether or not it is a number.
    have htail := (taken_skipSpace hcomma).andThen ih'
    refine (ih.comp htail fun _ _ ⟨_, h, _⟩ => stops_of_skipSpace h rfl).imp ?_
    rintro cs rest ⟨mid, hvalue', mid', hcomma', hitems'⟩
    exact .item hvalue' hcomma' hitems'
  | lastMember hkey hcolon _ hclose ih =>
    have hvalue := ih.comp (taken_skipSpace hclose) fun _ _ h => stops_of_skipSpace h rfl
    refine ((taken_readString hkey).andThen ((taken_skipSpace hcolon).andThen hvalue)).imp ?_
    rintro cs rest ⟨mid, hkey', mid', hcolon', mid'', hvalue', hclose'⟩
    exact .lastMember hkey' hcolon' hvalue' hclose'
  | member hkey hcolon _ hcomma hquote _ ih ih' =>
    have htail := (taken_skipSpace hcomma).andThen ((taken_skipSpace hquote).andThen ih')
    have hvalue := ih.comp htail fun _ _ ⟨_, h, _⟩ => stops_of_skipSpace h rfl
    refine ((taken_readString hkey).andThen ((taken_skipSpace hcolon).andThen hvalue)).imp ?_
    rintro cs rest ⟨mid, hkey', mid', hcolon', mid'', hvalue', next, hcomma', next', hquote', hms'⟩
    exact .member hkey' hcolon' hvalue' hcomma' hquote' hms'

/-! ## Between values -/

/-- `nextChar` finds nothing where only white space is left. -/
theorem nextChar_eq_none_iff {cs : List Char} : nextChar cs = none ↔ skipSpace cs = [] := by
  unfold nextChar
  split
  · rename_i h
    simp [h]
  · rename_i c rest h
    simp [h]

/-- `nextChar` with the proof that the rest is shorter. -/
theorem nextChar_of_skipSpace {cs rest : List Char} {c : Char} (h : skipSpace cs = c :: rest) :
    nextChar cs = some (c, ⟨rest, length_lt_of_skipSpace h⟩) := nextChar_eq_some_iff.2 h

/-- `readColon` takes a colon. -/
theorem readColon_eq_ok_iff {cs : List Char} {r : Rest cs} :
    readColon cs = .ok r ↔ skipSpace cs = ':' :: r.1 := by
  rw [← nextChar_eq_some_iff, readColon]
  split
  · rename_i h
    simp [h]
  · rename_i c r' h
    rw [h]
    split
    · rename_i hc
      simp [hc]
    · rename_i hc
      simp [hc]

/-- `firstItem` takes the bracket that closes an empty list. -/
theorem firstItem_eq_some_iff {cs : List Char} {r : Rest cs} :
    firstItem cs = .ok (some r) ↔ skipSpace cs = ']' :: r.1 := by
  rw [← nextChar_eq_some_iff, firstItem]
  split
  · rename_i h
    simp [h]
  · rename_i r' h
    simp [h]
  · rename_i p hp h
    rw [h, Option.some_inj]
    simpa using hp r

/-- `firstItem` takes nothing where an item begins. -/
theorem firstItem_eq_none_iff {cs : List Char} :
    firstItem cs = .ok none ↔ ∃ c rest, skipSpace cs = c :: rest ∧ c ≠ ']' := by
  unfold firstItem
  split
  · rename_i h
    rw [nextChar_eq_none_iff] at h
    simp [h]
  · rename_i r h
    rw [nextChar_eq_some_iff] at h
    simp [h]
  · rename_i p hp h
    rw [nextChar_eq_some_iff] at h
    have hc : p.1 ≠ ']' := fun hc => hp p.2 (Prod.ext hc rfl)
    simp [h, hc]

/-- `afterItem` takes the bracket behind the last item. -/
theorem afterItem_eq_close_iff {cs : List Char} {r : Rest cs} :
    afterItem cs = .ok (.close r) ↔ skipSpace cs = ']' :: r.1 := by
  rw [← nextChar_eq_some_iff, afterItem]
  split
  · rename_i h
    simp [h]
  · rename_i r' h
    simp [h]
  · rename_i r' h
    split <;> simp [h]
  · rename_i c r' hc _ h
    simp only [h, Option.some_inj, Prod.mk.injEq, reduceCtorEq, false_iff, not_and]
    exact fun hc' => absurd hc' hc

/-- `afterItem` takes the comma behind an item, unless the list is closed right behind it. -/
theorem afterItem_eq_more_iff {cs : List Char} {r : Rest cs} :
    afterItem cs = .ok (.more r) ↔
      skipSpace cs = ',' :: r.1 ∧ ∃ c rest, skipSpace r.1 = c :: rest ∧ c ≠ ']' := by
  rw [← nextChar_eq_some_iff, afterItem]
  split
  · rename_i h
    simp [h]
  · rename_i r' h
    simp [h]
  · rename_i r' h
    -- Behind the comma comes the end of the text, the closing bracket, or the next item.
    simp only [h, Option.some_inj, Prod.mk.injEq, true_and]
    split
    · rename_i hrest
      simp only [reduceCtorEq, false_iff, not_and]
      rintro rfl
      simp [hrest]
    · rename_i hrest
      simp only [reduceCtorEq, false_iff, not_and]
      rintro rfl
      simp [hrest]
    · rename_i c rest hc hrest
      simp only [Except.ok.injEq, Next.more.injEq]
      constructor
      · rintro rfl
        exact ⟨rfl, c, rest, hrest, hc⟩
      · exact fun hr => hr.1
  · rename_i c r' _ hc h
    simp only [h, Option.some_inj, Prod.mk.injEq, reduceCtorEq, false_iff, not_and]
    exact fun hc' => absurd hc'.1 hc

/-- `firstMember` takes the brace that closes an empty object. -/
theorem firstMember_eq_close_iff {cs : List Char} {r : Rest cs} :
    firstMember cs = .ok (.close r) ↔ skipSpace cs = '\x7d' :: r.1 := by
  rw [← nextChar_eq_some_iff, firstMember]
  split
  · rename_i h
    simp [h]
  · rename_i r' h
    simp [h]
  · rename_i r' h
    simp [h]
  · rename_i c r' hc _ h
    simp only [h, Option.some_inj, Prod.mk.injEq, reduceCtorEq, false_iff, not_and]
    exact fun hc' => absurd hc' hc

/-- `firstMember` takes the quote that opens the first key. -/
theorem firstMember_eq_more_iff {cs : List Char} {r : Rest cs} :
    firstMember cs = .ok (.more r) ↔ skipSpace cs = '"' :: r.1 := by
  rw [← nextChar_eq_some_iff, firstMember]
  split
  · rename_i h
    simp [h]
  · rename_i r' h
    simp [h]
  · rename_i r' h
    simp [h]
  · rename_i c r' _ hc h
    simp only [h, Option.some_inj, Prod.mk.injEq, reduceCtorEq, false_iff, not_and]
    exact fun hc' => absurd hc' hc

/-- `afterMember` takes the brace behind the last member. -/
theorem afterMember_eq_close_iff {cs : List Char} {r : Rest cs} :
    afterMember cs = .ok (.close r) ↔ skipSpace cs = '\x7d' :: r.1 := by
  rw [← nextChar_eq_some_iff, afterMember]
  split
  · rename_i h
    simp [h]
  · rename_i r' h
    simp [h]
  · rename_i r' h
    split <;> simp [h]
  · rename_i c r' hc _ h
    simp only [h, Option.some_inj, Prod.mk.injEq, reduceCtorEq, false_iff, not_and]
    exact fun hc' => absurd hc' hc

/-- `afterMember` takes the comma behind a member and the quote that opens the next key. -/
theorem afterMember_eq_more_iff {cs : List Char} {r : Rest cs} :
    afterMember cs = .ok (.more r) ↔
      ∃ mid, skipSpace cs = ',' :: mid ∧ skipSpace mid = '"' :: r.1 := by
  unfold afterMember
  split
  · rename_i h
    rw [nextChar_eq_none_iff] at h
    simp [h]
  · rename_i r' h
    rw [nextChar_eq_some_iff] at h
    simp [h]
  · rename_i r' h
    rw [nextChar_eq_some_iff] at h
    -- Behind the comma stands the quote of the next key, or something that is refused.
    have hmid : ∀ mid, skipSpace cs = ',' :: mid ↔ r'.1 = mid := by
      intro mid
      rw [h, List.cons.injEq]
      simp
    simp only [hmid, exists_eq_left']
    split
    · rename_i h'
      rw [nextChar_eq_none_iff] at h'
      simp [h']
    · rename_i r'' h'
      rw [nextChar_eq_some_iff] at h'
      simp [h', Rest.trans, Subtype.ext_iff]
    · rename_i h'
      rw [nextChar_eq_some_iff] at h'
      simp [h']
    · rename_i c r'' hc _ h'
      rw [nextChar_eq_some_iff] at h'
      simp only [h', List.cons.injEq, reduceCtorEq, false_iff, not_and]
      exact fun hc' => absurd hc' hc
  · rename_i c r' _ hc h
    rw [nextChar_eq_some_iff] at h
    simp only [h, List.cons.injEq, reduceCtorEq, false_iff, not_exists, not_and]
    intro mid hmid _
    exact hc hmid.1

/-! ## The rules and the reader -/

/-- The reader reads a part off a text and leaves a rest. -/
def Part.IsRead (depth : Nat) (cs rest : List Char) : Part → Prop
  | .value v => Leaves (readValue depth cs) v rest
  | .items vs => Leaves (readItems depth cs) vs rest
  | .members before ms => Leaves (readMembers depth before cs) ms rest

/-- A value does not begin with the end of a list. -/
theorem Reads.exists_first {depth : Nat} {cs rest : List Char} {vs : List Json}
    (h : Reads depth cs (.items vs) rest) : ∃ c mid, skipSpace cs = c :: mid ∧ c ≠ ']' := by
  -- No value begins with the bracket that ends a list.
  have hvalue : ∀ {v mid}, Reads depth cs (.value v) mid →
      ∃ c mid, skipSpace cs = c :: mid ∧ c ≠ ']' := by
    intro v mid h
    cases h with
    | word hword hopen =>
      refine ⟨_, _, hopen, ?_⟩
      rintro rfl
      simp [wordValues] at hword
    | positive hopen hdigit hnumber =>
      refine ⟨_, _, hopen, ?_⟩
      rintro rfl
      simp at hdigit
    | negative hopen _ | string hopen _ | emptyList _ hopen _ | list _ hopen _
    | emptyObject _ hopen _ | object _ hopen _ _ => exact ⟨_, _, hopen, by decide⟩
  cases h with
  | lastItem h _ => exact hvalue h
  | item h _ _ => exact hvalue h

/-- What the rules accept, the reader accepts. -/
theorem Reads.isRead {depth : Nat} {cs rest : List Char} {p : Part} (h : Reads depth cs p rest) :
    p.IsRead depth cs rest := by
  induction h with
  | @word depth cs c w v rest hword hopen =>
    obtain ⟨hlen, hread⟩ := (@expectWord_eq_ok_iff w (w ++ rest) rest).2 rfl
    simp only [wordValues, List.mem_cons, Prod.mk.injEq, List.not_mem_nil, or_false] at hword
    obtain ⟨rfl, rfl, rfl⟩ | ⟨rfl, rfl, rfl⟩ | ⟨rfl, rfl, rfl⟩ := hword
    all_goals
      rw [Part.IsRead, readValue, nextChar_of_skipSpace hopen]
      exact leaves_bind_ok_iff.2 ⟨_, hread, leaves_ok.2 ⟨rfl, rfl⟩⟩
  | negative hopen hnumber =>
    obtain ⟨hlen, hread⟩ := hnumber
    rw [Part.IsRead, readValue, nextChar_of_skipSpace hopen]
    exact leaves_bind_iff.2 ⟨_, _, hread, leaves_ok.2 ⟨rfl, rfl⟩⟩
  | positive hopen hdigit hnumber =>
    obtain ⟨hlen, hread⟩ := hnumber
    rw [Part.IsRead, readValue, nextChar_of_skipSpace hopen]
    dsimp only
    -- A digit is none of the characters that begin another value.
    split
    all_goals first | (exfalso; revert hdigit; decide) | skip
    rw [if_pos hdigit]
    exact leaves_bind_iff.2 ⟨_, _, hread, leaves_ok.2 ⟨rfl, rfl⟩⟩
  | string hopen hstring =>
    obtain ⟨hlen, hread⟩ := hstring
    rw [Part.IsRead, readValue, nextChar_of_skipSpace hopen]
    exact leaves_bind_iff.2 ⟨_, _, hread, leaves_ok.2 ⟨rfl, rfl⟩⟩
  | @emptyList depth cs mid rest hdepth hopen hclose =>
    have hread := (@firstItem_eq_some_iff mid ⟨rest, length_lt_of_skipSpace hclose⟩).2 hclose
    rw [Part.IsRead, readValue, nextChar_of_skipSpace hopen]
    simp only [if_neg (Nat.not_le.2 hdepth)]
    exact leaves_bind_ok_iff.2 ⟨_, hread, leaves_ok.2 ⟨rfl, rfl⟩⟩
  | list hdepth hopen hitems ih =>
    have hread := firstItem_eq_none_iff.2 hitems.exists_first
    obtain ⟨hlen, hread'⟩ := ih
    rw [Part.IsRead, readValue, nextChar_of_skipSpace hopen]
    simp only [if_neg (Nat.not_le.2 hdepth)]
    refine leaves_bind_ok_iff.2 ⟨_, hread, ?_⟩
    exact leaves_bind_iff.2 ⟨_, _, hread', leaves_ok.2 ⟨rfl, rfl⟩⟩
  | @emptyObject depth cs mid rest hdepth hopen hclose =>
    have hread := (@firstMember_eq_close_iff mid ⟨rest, length_lt_of_skipSpace hclose⟩).2 hclose
    rw [Part.IsRead, readValue, nextChar_of_skipSpace hopen]
    simp only [if_neg (Nat.not_le.2 hdepth)]
    exact leaves_bind_ok_iff.2 ⟨_, hread, leaves_ok.2 ⟨rfl, rfl⟩⟩
  | @object depth cs ms mid mid' rest hdepth hopen hquote _ ih =>
    have hread := (@firstMember_eq_more_iff mid ⟨mid', length_lt_of_skipSpace hquote⟩).2 hquote
    obtain ⟨hlen, hread'⟩ := ih
    rw [Part.IsRead, readValue, nextChar_of_skipSpace hopen]
    simp only [if_neg (Nat.not_le.2 hdepth)]
    refine leaves_bind_ok_iff.2 ⟨_, hread, ?_⟩
    exact leaves_bind_iff.2 ⟨_, _, hread', leaves_ok.2 ⟨rfl, rfl⟩⟩
  | @lastItem depth cs v mid rest _ hclose ih =>
    have hread := (@afterItem_eq_close_iff mid ⟨rest, length_lt_of_skipSpace hclose⟩).2 hclose
    obtain ⟨hlen, hread'⟩ := ih
    rw [Part.IsRead, readItems]
    refine leaves_bind_iff.2 ⟨_, _, hread', ?_⟩
    exact leaves_bind_ok_iff.2 ⟨_, hread, leaves_ok.2 ⟨rfl, rfl⟩⟩
  | @item depth cs v vs mid mid' rest _ hcomma hitems ih ih' =>
    have hread := (@afterItem_eq_more_iff mid ⟨mid', length_lt_of_skipSpace hcomma⟩).2
      ⟨hcomma, hitems.exists_first⟩
    obtain ⟨hlen, hread'⟩ := ih
    obtain ⟨hlen', hread''⟩ := ih'
    rw [Part.IsRead, readItems]
    refine leaves_bind_iff.2 ⟨_, _, hread', ?_⟩
    refine leaves_bind_ok_iff.2 ⟨_, hread, ?_⟩
    exact leaves_bind_iff.2 ⟨_, _, hread'', leaves_ok.2 ⟨rfl, rfl⟩⟩
  | @lastMember depth cs before key v mid mid' mid'' rest hkey hcolon _ hclose ih =>
    have hread := (@readColon_eq_ok_iff mid ⟨mid', length_lt_of_skipSpace hcolon⟩).2 hcolon
    have hread' := (@afterMember_eq_close_iff mid'' ⟨rest, length_lt_of_skipSpace hclose⟩).2 hclose
    obtain ⟨hlen, hkey⟩ := hkey
    obtain ⟨hlen', hvalue⟩ := ih
    rw [Part.IsRead, readMembers]
    refine leaves_bind_iff.2 ⟨_, _, hkey, ?_⟩
    refine leaves_bind_ok_iff.2 ⟨_, hread, ?_⟩
    refine leaves_bind_iff.2 ⟨_, _, hvalue, ?_⟩
    exact leaves_bind_ok_iff.2 ⟨_, hread', leaves_ok.2 ⟨rfl, rfl⟩⟩
  | @member depth cs before key v ms mid mid' mid'' next next' rest hkey hcolon _ hcomma hquote _
      ih ih' =>
    have hread := (@readColon_eq_ok_iff mid ⟨mid', length_lt_of_skipSpace hcolon⟩).2 hcolon
    have hlt : next'.length < mid''.length :=
      Nat.lt_trans (length_lt_of_skipSpace hquote) (length_lt_of_skipSpace hcomma)
    have hread' := (@afterMember_eq_more_iff mid'' ⟨next', hlt⟩).2 ⟨next, hcomma, hquote⟩
    obtain ⟨hlen, hkey⟩ := hkey
    obtain ⟨hlen', hvalue⟩ := ih
    obtain ⟨hlen'', hmembers⟩ := ih'
    rw [Part.IsRead, readMembers]
    refine leaves_bind_iff.2 ⟨_, _, hkey, ?_⟩
    refine leaves_bind_ok_iff.2 ⟨_, hread, ?_⟩
    refine leaves_bind_iff.2 ⟨_, _, hvalue, ?_⟩
    refine leaves_bind_ok_iff.2 ⟨_, hread', ?_⟩
    exact leaves_bind_iff.2 ⟨_, _, hmembers, leaves_ok.2 ⟨rfl, rfl⟩⟩

/-- A value is read before anything else is, the items and the members after their first value. -/
def Part.order : Part → Nat
  | .value _ => 0
  | .items _ => 1
  | .members _ _ => 1

/-- What the reader accepts, the rules accept. -/
theorem Part.IsRead.reads {depth : Nat} {cs rest : List Char} :
    {p : Part} → p.IsRead depth cs rest → Reads depth cs p rest
  | .value v, h => by
    rw [IsRead, readValue] at h
    split at h
    · exact absurd h not_leaves_error
    rename_i c r hnext
    rw [nextChar_eq_some_iff] at hnext
    split at h
    iterate 3
      · -- One of the three words.
        obtain ⟨r', hword, h⟩ := leaves_bind_ok_iff.1 h
        obtain ⟨rfl, rfl⟩ := leaves_ok.1 h
        have hrest := expectWord_eq_ok_iff.1 ⟨r'.2, hword⟩
        rw [hrest] at hnext
        exact .word (by simp [wordValues]) hnext
    · obtain ⟨n, r', hn, h⟩ := leaves_bind_iff.1 h
      obtain ⟨rfl, rfl⟩ := leaves_ok.1 h
      exact .negative hnext (leaves_val_iff.2 hn)
    · obtain ⟨s, r', hs, h⟩ := leaves_bind_iff.1 h
      obtain ⟨rfl, rfl⟩ := leaves_ok.1 h
      exact .string hnext (leaves_val_iff.2 hs)
    · split at h
      · exact absurd h not_leaves_error
      rename_i hdepth
      obtain ⟨first, hfirst, h⟩ := leaves_bind_ok_iff.1 h
      cases first with
      | some r' =>
        obtain ⟨rfl, rfl⟩ := leaves_ok.1 h
        exact .emptyList (by omega) hnext (firstItem_eq_some_iff.1 hfirst)
      | none =>
        obtain ⟨vs, r', hitems, h⟩ := leaves_bind_iff.1 h
        obtain ⟨rfl, rfl⟩ := leaves_ok.1 h
        have hread : (Part.items vs).IsRead (depth - 1) r.1 r'.1 := leaves_val_iff.2 hitems
        -- The items are read off a shorter text, which the recursion needs.
        have hlen := r.2
        exact .list (by omega) hnext hread.reads
    · split at h
      · exact absurd h not_leaves_error
      rename_i hdepth
      obtain ⟨first, hfirst, h⟩ := leaves_bind_ok_iff.1 h
      cases first with
      | close r' =>
        obtain ⟨rfl, rfl⟩ := leaves_ok.1 h
        exact .emptyObject (by omega) hnext (firstMember_eq_close_iff.1 hfirst)
      | more r' =>
        obtain ⟨ms, r'', hmembers, h⟩ := leaves_bind_iff.1 h
        obtain ⟨rfl, rfl⟩ := leaves_ok.1 h
        have hread : (Part.members [] ms).IsRead (depth - 1) r'.1 r''.1 := leaves_val_iff.2 hmembers
        have hlen : r'.1.length < cs.length := Nat.lt_trans r'.2 r.2
        exact .object (by omega) hnext (firstMember_eq_more_iff.1 hfirst) hread.reads
    · split at h
      · rename_i hdigit
        obtain ⟨n, r', hn, h⟩ := leaves_bind_iff.1 h
        obtain ⟨rfl, rfl⟩ := leaves_ok.1 h
        exact .positive hnext hdigit (leaves_val_iff.2 hn)
      · exact absurd h not_leaves_error
  | .items vs, h => by
    rw [IsRead, readItems] at h
    obtain ⟨v, r, hvalue, h⟩ := leaves_bind_iff.1 h
    obtain ⟨next, hnext, h⟩ := leaves_bind_ok_iff.1 h
    have hread : (Part.value v).IsRead depth cs r.1 := leaves_val_iff.2 hvalue
    cases next with
    | close r' =>
      obtain ⟨rfl, rfl⟩ := leaves_ok.1 h
      exact .lastItem hread.reads (afterItem_eq_close_iff.1 hnext)
    | more r' =>
      obtain ⟨vs, r'', hitems, h⟩ := leaves_bind_iff.1 h
      obtain ⟨rfl, rfl⟩ := leaves_ok.1 h
      have hread' : (Part.items vs).IsRead depth r'.1 r''.1 := leaves_val_iff.2 hitems
      have hlen : r'.1.length < cs.length := Nat.lt_trans r'.2 r.2
      exact .item hread.reads (afterItem_eq_more_iff.1 hnext).1 hread'.reads
  | .members before ms, h => by
    rw [IsRead, readMembers] at h
    obtain ⟨key, r, hkey, h⟩ := leaves_bind_iff.1 h
    obtain ⟨r₁, hcolon, h⟩ := leaves_bind_ok_iff.1 h
    obtain ⟨v, r₂, hvalue, h⟩ := leaves_bind_iff.1 h
    obtain ⟨next, hnext, h⟩ := leaves_bind_ok_iff.1 h
    have hread : (Part.value v).IsRead depth r₁.1 r₂.1 := leaves_val_iff.2 hvalue
    have hcolon' := readColon_eq_ok_iff.1 hcolon
    have hlen : r₁.1.length < cs.length := Nat.lt_trans r₁.2 r.2
    cases next with
    | close r₃ =>
      obtain ⟨rfl, rfl⟩ := leaves_ok.1 h
      exact .lastMember (leaves_val_iff.2 hkey) hcolon' hread.reads
        (afterMember_eq_close_iff.1 hnext)
    | more r₃ =>
      obtain ⟨ms, r₄, hmembers, h⟩ := leaves_bind_iff.1 h
      obtain ⟨rfl, rfl⟩ := leaves_ok.1 h
      obtain ⟨mid, hcomma, hquote⟩ := afterMember_eq_more_iff.1 hnext
      have hread' : (Part.members (before.insert (.ofList key) v) ms).IsRead depth r₃.1 r₄.1 :=
        leaves_val_iff.2 hmembers
      have hlen' : r₃.1.length < cs.length := Nat.lt_trans (Nat.lt_trans r₃.2 r₂.2) hlen
      exact .member (leaves_val_iff.2 hkey) hcolon' hread.reads hcomma hquote hread'.reads
termination_by p => (cs.length, p.order)
decreasing_by
  all_goals first | exact Prod.Lex.left _ _ (by assumption) | exact Prod.Lex.right _ Nat.zero_lt_one

/-- The reader accepts what the rules accept. -/
theorem isRead_iff {depth : Nat} {cs rest : List Char} {p : Part} :
    p.IsRead depth cs rest ↔ Reads depth cs p rest := ⟨Part.IsRead.reads, Reads.isRead⟩

/-- `Reads` determines the value and where it ends. -/
theorem Reads.unique {depth depth' : Nat} {cs rest rest' : List Char} {v v' : Json}
    (h : Reads depth cs (.value v) rest) (h' : Reads depth' cs (.value v') rest') :
    v = v' ∧ rest = rest' := by
  -- With as many levels as the one or the other may open, the reader reads both.
  obtain ⟨hlen, hread⟩ := (h.deeper (Nat.le_max_left depth depth')).isRead
  obtain ⟨hlen', hread'⟩ := (h'.deeper (Nat.le_max_right depth depth')).isRead
  rw [hread] at hread'
  cases hread'
  exact ⟨rfl, rfl⟩

/-- `expectEnd` accepts white space only. -/
theorem expectEnd_eq_ok_iff {cs : List Char} : expectEnd cs = .ok () ↔ skipSpace cs = [] := by
  unfold expectEnd
  split
  · rename_i h
    simp [h]
  · rename_i c rest h
    simp [h]

/-- `parseChars` reads a text that is one value with nothing but space behind it. -/
theorem parseChars_eq_ok_iff {cs : List Char} {v : Json} :
    parseChars cs = .ok v ↔ ∃ rest, Reads depthLimit cs (.value v) rest ∧ skipSpace rest = [] := by
  have hread : ∀ rest, Reads depthLimit cs (.value v) rest ↔
      Leaves (readValue depthLimit cs) v rest := fun rest => isRead_iff.symm
  simp only [hread]
  unfold parseChars
  cases readValue depthLimit cs with
  | error e =>
    simp only [not_leaves_error, false_and, exists_const, iff_false]
    exact nofun
  | ok p =>
    obtain ⟨w, r⟩ := p
    simp only [leaves_ok, and_assoc, exists_and_left, exists_eq_left']
    -- What is left after the value has to be blank.
    rw [← expectEnd_eq_ok_iff]
    cases hend : expectEnd r.1 with
    | error e => simp [bind, Except.bind, hend]
    | ok u => simp [bind, Except.bind, hend]

/-- `parse` reads a text whole: one value, with nothing but space behind it. -/
theorem parse_eq_ok_iff {text : String} {v : Json} :
    parse text = .ok v ↔
      ∃ rest, Reads depthLimit text.toList (.value v) rest ∧ skipSpace rest = [] := by
  rw [← parseChars_eq_ok_iff, parse]
  cases parseChars text.toList with
  | error e => simp [Except.mapError]
  | ok w => simp [Except.mapError]

/-! ## A text within another -/

/-- `skipSpace` drops white space that stands in front of a sign. -/
theorem skipSpace_append_cons {cs : List Char} (h : skipSpace cs = []) {c : Char}
    (hc : isSpace c = false) (rest : List Char) : skipSpace (cs ++ c :: rest) = c :: rest := by
  have hspace : ∀ d ∈ cs, isSpace d = true := List.dropWhile_eq_nil_iff.1 h
  rw [skipSpace, List.dropWhile_append_of_pos hspace]
  exact List.dropWhile_cons_of_neg (by simp [hc])

/-- In front of a sign, a text that `parse` accepts can still be read. -/
theorem reads_append_cons {text : String} {v : Json} (hparse : parse text = .ok v) {c : Char}
    (hspace : isSpace c = false) (hnumber : isNumberChar c = false) (back : List Char) :
    ∃ rest, Reads depthLimit (text.toList ++ c :: back) (.value v) rest ∧
      skipSpace rest = c :: back := by
  obtain ⟨space, hread, hend⟩ := parse_eq_ok_iff.1 hparse
  obtain ⟨used, htext, hused⟩ := hread.taken
  have hsign := skipSpace_append_cons hend hspace back
  have halone := hused (space ++ c :: back) (stops_of_skipSpace hsign hnumber)
  rw [← List.append_assoc, ← htext] at halone
  exact ⟨_, halone, hsign⟩

/-- In front of a sign, a text that `parse` accepts is read as what it is on its own. -/
theorem eq_of_reads_append {text : String} {v w : Json} (hparse : parse text = .ok v) {c : Char}
    (hspace : isSpace c = false) (hnumber : isNumberChar c = false) {depth : Nat}
    {back rest : List Char} (h : Reads depth (text.toList ++ c :: back) (.value w) rest) :
    w = v ∧ skipSpace rest = c :: back := by
  obtain ⟨rest', halone, hsign⟩ := reads_append_cons hparse hspace hnumber back
  obtain ⟨rfl, rfl⟩ := h.unique halone
  exact ⟨rfl, hsign⟩

/-- A value that begins with a brace and a quote is an object with members. -/
theorem Reads.exists_members {depth : Nat} {cs mid mid' rest : List Char} {v : Json}
    (h : Reads depth cs (.value v) rest) (hopen : skipSpace cs = '\x7b' :: mid)
    (hquote : skipSpace mid = '"' :: mid') :
    ∃ ms, v = .object ms ∧ Reads (depth - 1) mid' (.members [] ms) rest := by
  -- The first character decides, so all other rules open with another one.
  cases h with
  | object _ hopen' hquote' hmembers =>
    rw [hopen] at hopen'
    cases hopen'
    rw [hquote] at hquote'
    cases hquote'
    exact ⟨_, rfl, hmembers⟩
  | emptyObject _ hopen' hclose =>
    rw [hopen] at hopen'
    cases hopen'
    simp [hquote] at hclose
  | word hword hopen' =>
    rw [hopen] at hopen'
    cases hopen'
    simp [wordValues] at hword
  | positive hopen' hdigit _ =>
    rw [hopen] at hopen'
    cases hopen'
    simp at hdigit
  | negative hopen' _ | string hopen' _ | emptyList _ hopen' _ | list _ hopen' _ =>
    simp [hopen] at hopen'

/-- A value that begins with a bracket is an empty list or a list of items. -/
theorem Reads.of_bracket {depth : Nat} {cs mid rest : List Char} {v : Json}
    (h : Reads depth cs (.value v) rest) (hopen : skipSpace cs = '[' :: mid) :
    (v = .array [] ∧ skipSpace mid = ']' :: rest) ∨
      ∃ vs, v = .array vs ∧ Reads (depth - 1) mid (.items vs) rest := by
  cases h with
  | emptyList _ hopen' hclose =>
    rw [hopen] at hopen'
    cases hopen'
    exact .inl ⟨rfl, hclose⟩
  | list _ hopen' hitems =>
    rw [hopen] at hopen'
    cases hopen'
    exact .inr ⟨_, rfl, hitems⟩
  | word hword hopen' =>
    rw [hopen] at hopen'
    cases hopen'
    simp [wordValues] at hword
  | positive hopen' hdigit _ =>
    rw [hopen] at hopen'
    cases hopen'
    simp at hdigit
  | negative hopen' _ | string hopen' _ | emptyObject _ hopen' _ | object _ hopen' _ _ =>
    simp [hopen] at hopen'

end Bulletin.Json
