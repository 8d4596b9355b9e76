import Bulletin.Json.Printer
import Bulletin.Proofs.Json.Record
import Mathlib.Data.List.Forall2
import Mathlib.Data.List.Nodup

/-!
# Reading what is printed

A string that is printed is read back as it was: each of its characters is one that stands for
itself, a short escape or an escape of four digits.  A number is read back as its text says.  From
there a printed object is read back member by member, and a record that is printed field by field
is the record whose fields are read back.

Fields that are absent are left out of the text, so a record is printed from a list of fields that
may have a value, and the members that are printed are those that are given.

## Main statements

- `Json.leaves_readString_quoted`: a string is read back, whatever characters it holds
- `Json.isObject_print`: an object is read back member by member
- `Fields.lookup_given`: what is read under the key of a field
- `Record.read_given`: a record is read back from the fields that are given
-/

namespace Bulletin

namespace Json

open Text

/-! ## Strings -/

/-- `readString` reads an escape that is a letter. -/
theorem leaves_readString_letter {d c : Char} (hd : d ≠ 'u') (hletter : letterEscape? d = some c)
    {cs rest s : List Char} (h : Leaves (readString cs) s rest) :
    Leaves (readString ('\\' :: d :: cs)) (c :: s) rest :=
  leaves_readString_escape.2 ⟨c, cs, s, (leaves_readEscape_letter hd).2 ⟨hletter, rfl⟩, h, rfl⟩

/-- `hexUnit` reads the code of a control character from its four digits. -/
theorem leaves_hexUnit_control {c : Char} (hc : c < ' ') (cs : List Char) :
    Leaves (hexUnit ('0' :: '0' :: Nat.digitChar (c.toNat / 16) :: Nat.digitChar (c.toNat % 16) ::
      cs)) c.toNat cs := by
  have hdigit : ∀ v < 16, hexValue? (Nat.digitChar v) = some v := by decide
  have hlt : c.toNat < 32 := hc
  refine leaves_hexUnit_iff.2 ⟨_, _, _, _, 0, 0, c.toNat / 16, c.toNat % 16, rfl, rfl, rfl,
    hdigit _ (by omega), hdigit _ (by omega), by omega⟩

/-- `readString` reads `controlEscape` as the character. -/
theorem leaves_readString_control {c : Char} (hc : c < ' ') {cs rest s : List Char}
    (h : Leaves (readString cs) s rest) :
    Leaves (readString (controlEscape c ++ cs)) (c :: s) rest := by
  have hlt : c.toNat < 32 := hc
  -- A control character is no half of a pair.
  have htrailing : isTrailing c.toNat = false := by
    simp only [isTrailing, Bool.and_eq_false_iff, decide_eq_false_iff_not]
    omega
  have hleading : isLeading c.toNat = false := by
    simp only [isLeading, Bool.and_eq_false_iff, decide_eq_false_iff_not]
    omega
  refine leaves_readString_escape.2 ⟨c, cs, s, leaves_readEscape_u.2 ?_, h, rfl⟩
  exact leaves_unicodeEscape_iff.2
    ⟨c.toNat, cs, leaves_hexUnit_control hc cs, htrailing, .inl ⟨hleading, Char.ofNat_toNat c, rfl⟩⟩

/-- `escapeChar` of a character without a letter of its own: a code for a control character, and
itself otherwise. -/
theorem escapeChar_of_no_letter {c : Char} (hquote : c ≠ '"') (hslash : c ≠ '\\')
    (hbackspace : c ≠ '\x08') (hfeed : c ≠ '\x0c') (hnewline : c ≠ '\n') (hreturn : c ≠ '\r')
    (htab : c ≠ '\t') : escapeChar c = if c < ' ' then controlEscape c else [c] := by
  rw [escapeChar]
  all_goals assumption

/-- `readString` reads `escapeChar` of a character as the character. -/
theorem leaves_readString_escapeChar (c : Char) {cs rest s : List Char}
    (h : Leaves (readString cs) s rest) :
    Leaves (readString (escapeChar c ++ cs)) (c :: s) rest := by
  -- Seven characters have an escape that is a letter.
  by_cases hquote : c = '"'
  · subst hquote
    exact leaves_readString_letter (by decide) rfl h
  by_cases hslash : c = '\\'
  · subst hslash
    exact leaves_readString_letter (by decide) rfl h
  by_cases hbackspace : c = '\x08'
  · subst hbackspace
    exact leaves_readString_letter (by decide) rfl h
  by_cases hfeed : c = '\x0c'
  · subst hfeed
    exact leaves_readString_letter (by decide) rfl h
  by_cases hnewline : c = '\n'
  · subst hnewline
    exact leaves_readString_letter (by decide) rfl h
  by_cases hreturn : c = '\r'
  · subst hreturn
    exact leaves_readString_letter (by decide) rfl h
  by_cases htab : c = '\t'
  · subst htab
    exact leaves_readString_letter (by decide) rfl h
  rw [escapeChar_of_no_letter hquote hslash hbackspace hfeed hnewline hreturn htab]
  by_cases hcontrol : c < ' '
  · rw [if_pos hcontrol]
    exact leaves_readString_control hcontrol h
  · rw [if_neg hcontrol]
    exact (leaves_readString_char hquote hslash).2 ⟨hcontrol, s, h, rfl⟩

/-- `readString` reads a string back from between its quotes. -/
theorem leaves_readString_quoted (s rest : List Char) :
    Leaves (readString (s.flatMap escapeChar ++ '"' :: rest)) s rest := by
  induction s with
  | nil => exact leaves_readString_quote.2 ⟨rfl, rfl⟩
  | cons c s ih =>
    rw [List.flatMap_cons, List.append_assoc]
    exact leaves_readString_escapeChar c ih

/-- `quote` with something behind it. -/
theorem quote_append (s : String) (rest : List Char) :
    quote s ++ rest = '"' :: (s.toList.flatMap escapeChar ++ '"' :: rest) := by
  rw [quote, List.cons_append, List.cons_append, List.append_assoc, List.singleton_append]

/-! ## Values -/

/-- In front of a sign, the printed text of one value is read as another; that other one is the
value itself, unless it holds numbers that are read back differently. -/
def PrintsAs (depth : Nat) (v w : Json) : Prop :=
  ∀ c back, isSpace c = false → isNumberChar c = false →
    ∃ rest, Reads depth (v.chars ++ c :: back) (.value w) rest ∧ skipSpace rest = c :: back

/-- A string prints as itself. -/
theorem printsAs_string (depth : Nat) (s : String) : PrintsAs depth (.string s) (.string s) := by
  intro c back hspace _
  refine ⟨c :: back, ?_, List.dropWhile_cons_of_neg (by simp [hspace])⟩
  have hread := @Reads.string depth (chars (.string s) ++ c :: back) _ _ _
    (quote_append s (c :: back)) (leaves_readString_quoted s.toList (c :: back))
  rwa [String.ofList_toList] at hread

/-- A number opens no level. -/
theorem Reads.number_of_any {depth depth' : Nat} {cs rest : List Char} {n : Number}
    (h : Reads depth cs (.value (.number n)) rest) : Reads depth' cs (.value (.number n)) rest := by
  cases h with
  | word hword _ => simp [wordValues] at hword
  | negative hopen hnumber => exact .negative hopen hnumber
  | positive hopen hdigit hnumber => exact .positive hopen hdigit hnumber

/-- A number prints as what its text is read as. -/
theorem printsAs_number (depth : Nat) {n m : Number} (h : parse n.text = .ok (.number m)) :
    PrintsAs depth (.number n) (.number m) := by
  intro c back hspace hnumber
  -- The sign behind the number does not go on with it, so it is read as it is alone.
  obtain ⟨rest, hread, hsign⟩ := reads_append_cons h hspace hnumber back
  exact ⟨rest, hread.number_of_any, hsign⟩

/-! ## Objects -/

/-- The members of one object are printed as those of another, with the same keys in one order. -/
def MembersPrintAs (depth : Nat) : Members → Members → Prop :=
  List.Forall₂ fun m m' => m.1 = m'.1 ∧ PrintsAs depth m.2 m'.2

/-- `memberChars` writes the members behind an opening brace one after the other. -/
theorem MembersPrintAs.writes {depth : Nat} {k : String} {v w : Json} {ms ms' : Members}
    (hv : PrintsAs depth v w) (h : MembersPrintAs depth ms ms') (back : List Char) :
    Writes depth (k.toList.flatMap escapeChar ++
      '"' :: ':' :: (v.chars ++ (memberChars ms ++ '\x7d' :: back))) ((k, w) :: ms') back := by
  induction h generalizing k v w with
  | nil =>
    obtain ⟨rest, hread, hclose⟩ := hv '\x7d' back rfl rfl
    have hkey := leaves_readString_quoted k.toList
    exact .last ⟨_, _, _, hkey _, rfl, hread, String.ofList_toList.symm⟩ hclose
  | @cons m m' ms ms' hm _ ih =>
    obtain ⟨k', v'⟩ := m
    obtain ⟨_, w'⟩ := m'
    obtain ⟨rfl, hv'⟩ := hm
    -- Behind the value stands a comma, and behind that the quote of the next key.
    obtain ⟨rest, hread, hcomma⟩ := hv ',' _ rfl rfl
    have hkey := leaves_readString_quoted k.toList
    have hmember : WritesMember depth (k.toList.flatMap escapeChar ++
        '"' :: ':' :: (v.chars ++ (memberChars ((k', v') :: ms) ++ '\x7d' :: back)))
        (k, w) rest := by
      refine ⟨_, _, _, hkey _, rfl, ?_, String.ofList_toList.symm⟩
      simpa [memberChars, quote] using hread
    exact .more hmember hcomma (by rfl) (ih hv')

/-- `chars` of an object begins with a brace, behind which the object is at its end or at its first
member. -/
theorem MembersPrintAs.opened {depth : Nat} {ms ms' : Members} (h : MembersPrintAs depth ms ms')
    (back : List Char) :
    ∃ mid, chars (.object ms) ++ back = '\x7b' :: mid ∧
      ((ms' = [] ∧ skipSpace mid = '\x7d' :: back) ∨
        ∃ mid', skipSpace mid = '"' :: mid' ∧ Writes depth mid' ms' back) := by
  cases h with
  | nil => exact ⟨'\x7d' :: back, rfl, .inl ⟨rfl, rfl⟩⟩
  | @cons m m' ms ms' hm hms =>
    obtain ⟨k, v⟩ := m
    obtain ⟨_, w⟩ := m'
    obtain ⟨rfl, hv⟩ := hm
    have hwrites := MembersPrintAs.writes (k := k) hv hms back
    refine ⟨'"' :: _, ?_, .inr ⟨_, by rfl, hwrites⟩⟩
    simp [chars, quote]

/-- `print` of an object is a text in which its members are written. -/
theorem isObject_print {ms ms' : Members} (h : MembersPrintAs (depthLimit - 1) ms ms') :
    IsObject (print (.object ms)) ms' := by
  obtain ⟨mid, hopen, hmid⟩ := h.opened []
  rw [List.append_nil] at hopen
  rw [IsObject, print, String.toList_ofList, hopen]
  exact ⟨mid, [], rfl, rfl, hmid⟩

/-- An object within another value is read back with its members gathered. -/
theorem printsAs_object {depth : Nat} (hdepth : 1 < depth) {ms ms' : Members}
    (h : MembersPrintAs (depth - 1) ms ms') :
    PrintsAs depth (.object ms) (.object (Members.gathered [] ms')) := by
  intro c back hspace _
  refine ⟨c :: back, ?_, List.dropWhile_cons_of_neg (by simp [hspace])⟩
  -- An object is closed at once, or its members are read behind the first quote.
  obtain ⟨mid, hopen, ⟨rfl, hclose⟩ | ⟨mid', hquote, hwrites⟩⟩ := h.opened (c :: back)
  · rw [hopen]
    exact .emptyObject hdepth rfl hclose
  · rw [hopen]
    exact .object hdepth rfl hquote (hwrites.reads [])

end Json

/-! ## Fields -/

/-- Fields, of which some have no value. -/
abbrev Fields := List (String × Option Json)

namespace Fields

open Json (MembersPrintAs PrintsAs)

/-- The members for the fields that have a value. -/
def given (fs : Fields) : Members := fs.filterMap fun f => f.2.map (f.1, ·)

/-- The fields of one record are printed as those of another. -/
def PrintAs (depth : Nat) : Fields → Fields → Prop :=
  List.Forall₂ fun f f' => f.1 = f'.1 ∧ Option.Rel (PrintsAs depth) f.2 f'.2

variable {fs fs' : Fields}

/-- Fields that print as others give members that print as theirs. -/
theorem PrintAs.given {depth : Nat} (h : PrintAs depth fs fs') :
    MembersPrintAs depth fs.given fs'.given := by
  refine List.rel_filterMap ?_ h
  rintro ⟨k, o⟩ ⟨_, o'⟩ ⟨rfl, ho⟩
  cases ho with
  | none => exact .none
  | some hv => exact .some ⟨rfl, hv⟩

/-- A field whose value is a text. -/
theorem PrintAs.text {depth : Nat} (h : PrintAs depth fs fs') (key : String)
    (value : Option String) :
    PrintAs depth ((key, value.map .string) :: fs) ((key, value.map .string) :: fs') := by
  refine .cons ⟨rfl, ?_⟩ h
  cases value with
  | none => exact .none
  | some s => exact .some (Json.printsAs_string depth s)

/-- `given` leaves fields out and keeps the others in order. -/
theorem map_fst_given_sublist (fs : Fields) :
    (fs.given.map Prod.fst).Sublist (fs.map Prod.fst) := by
  induction fs with
  | nil => exact .slnil
  | cons f fs ih =>
    obtain ⟨k, o⟩ := f
    cases o with
    | none => exact ih.cons k
    | some v => exact ih.cons_cons k

/-- `given` has under a key what the field of that key is given. -/
theorem lookup_given (h : (fs.map Prod.fst).Nodup) (key : String) :
    fs.given.lookup key = (fs.lookup key).join := by
  induction fs with
  | nil => rfl
  | cons f fs ih =>
    obtain ⟨k, o⟩ := f
    rw [List.map_cons, List.nodup_cons] at h
    by_cases hk : key = k
    · subst hk
      rw [List.lookup_cons_self]
      cases o with
      | some v => exact List.lookup_cons_self
      | none =>
        -- No later field has the key.
        have hnone : key ∉ (given fs).map Prod.fst := fun hmem =>
          h.1 ((map_fst_given_sublist fs).subset hmem)
        refine List.lookup_eq_none_iff.2 fun m hm => ?_
        have hne : key ≠ m.1 := by
          rintro rfl
          exact hnone (List.mem_map_of_mem hm)
        simpa using hne
    · have hb : (key == k) = false := beq_false_of_ne hk
      rw [List.lookup_cons, hb, ← ih h.2]
      cases o with
      | none => rfl
      | some v =>
        refine List.lookup_cons.trans ?_
        rw [hb]
        rfl

/-- `Members.text` finds the text of a field among those that are given. -/
theorem text_given (h : (fs.map Prod.fst).Nodup) {key : String} {value : Option String}
    (hkey : fs.lookup key = some (value.map .string)) : (given fs).text key = value := by
  rw [Members.text, lookup_given h, hkey]
  cases value with
  | none => rfl
  | some s => rfl

/-- `Members.number` finds the number of a field among those that are given. -/
theorem number_given (h : (fs.map Prod.fst).Nodup) {key : String} {value : Option Json}
    (hkey : fs.lookup key = some value) : (given fs).number key = value.bind Json.asNumber? := by
  rw [Members.number, lookup_given h, hkey, Option.join_some]

/-- `given` repeats no key when the fields do not. -/
theorem repeatsNone_given (h : (fs.map Prod.fst).Nodup) (keys : List String) :
    fs.given.RepeatsNone keys := fun key _ =>
  ((map_fst_given_sublist fs).count_le key).trans (List.nodup_iff_count_le_one.1 h key)

/-- `gathered` keeps what the fields hold. -/
theorem lookup_gathered_given (h : (fs.map Prod.fst).Nodup) (key : String) :
    (Members.gathered [] fs.given).lookup key = (fs.lookup key).join := by
  rw [Members.lookup_gathered (repeatsNone_given h [key] key List.mem_cons_self),
    List.lookup_nil, Option.or_none, lookup_given h]

end Fields

namespace Record

variable {α : Type} [Record α] [ByKeys α] {fs fs' : Fields}

/-- `ofMembers` does not see whether the members are gathered. -/
theorem ofMembers_gathered_given (h : (fs.map Prod.fst).Nodup) :
    (ofMembers (Members.gathered [] fs.given) : α) = ofMembers fs.given :=
  ByKeys.ofMembers_congr _ _ fun key _ => by
    rw [Fields.lookup_gathered_given h, Fields.lookup_given h]

/-- `Record.read` reads a record back from the fields that are given. -/
theorem read_given (name : String) (h : (fs'.map Prod.fst).Nodup)
    (hprint : Fields.PrintAs (Json.depthLimit - 1) fs fs') :
    Record.read name (Json.print (.object fs.given)) = .ok (ofMembers fs'.given : α) := by
  have hobject := Json.isObject_print hprint.given
  -- No key is printed twice, so the text is read as what its value stands for.
  have hparse := Json.parse_eq_object_iff.2 ⟨_, hobject, rfl⟩
  have honce := hobject.givesOnce (Fields.repeatsNone_given h (keys α))
  rw [read_eq_ok_iff hparse honce, ofJson?, Json.membersOf?, Option.map_some,
    ofMembers_gathered_given h]

end Record

end Bulletin
