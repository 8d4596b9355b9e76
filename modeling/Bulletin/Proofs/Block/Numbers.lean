import Bulletin.Proofs.Block.Fields
import Bulletin.Proofs.Block.Folding
import Bulletin.Proofs.Json.Number
import Bulletin.Proofs.Json.Printed
import Bulletin.Template

/-!
# Numbers in what is read

Three records have a field that is a number: a style its opacity, a spacer its height, and a question
the position of its answer.  Such a field is read from a number or from a text that stands for one.
Whatever it holds in the end stood in the text that was read, be that the text of the record alone or
of a whole template, and no number that stood there is too large for a double.

## Main statements

- `Json.StandsIn.fits`: every number in a text that is read fits
- `NumberField.IsDecoded.exists_standsFor`: what a decoded field holds stands in the text
- `lenient_numbers`: which texts stand for numbers, and what is read from everything else
-/

namespace Bulletin

open Double (RoundsTo)
open Text (Blanks isBlankChar)

/-! ## The numbers and texts in a value -/

namespace Json

/-- A number or a text, which may stand for a number. -/
def isWord : Json → Bool
  | .number _ => true
  | .string _ => true
  | _ => false

/-- Every number and every text in a value is of some kind. -/
def Words (S : Json → Prop) (v : Json) : Prop := ∀ w, w.isWord = true → Within w v → S w

end Json

/-- Every number and every text in some members is of some kind. -/
def Members.Words (S : Json → Prop) (ms : Members) : Prop := ∀ m ∈ ms, m.2.Words S

variable {S : Json → Prop}

namespace Members

variable {ms : Members} {key : String} {v : Json}

/-- `Words` holds of no members. -/
theorem words_nil : Members.Words S [] := List.forall_mem_nil _

/-- `insert` keeps what is said of the words. -/
theorem Words.insert (h : ms.Words S) (hv : v.Words S) : (ms.insert key v).Words S := by
  intro m hm
  obtain rfl | hm := mem_insert hm
  · exact hv
  · exact h m hm

/-- `zip` with keys keeps what is said of the words. -/
theorem Words.zip {vs : List Json} (h : ∀ v ∈ vs, v.Words S) (keys : List String) :
    Members.Words S (keys.zip vs) :=
  fun _ hm => h _ (List.of_mem_zip hm).2

/-- `lookup` finds values whose words are among those of the members. -/
theorem Words.of_lookup (h : ms.Words S) (hv : ms.lookup key = some v) : v.Words S :=
  h _ (mem_of_lookup_eq_some hv)

end Members

namespace Json

variable {v : Json}

/-- The words of a list are those of its items. -/
theorem words_array_iff {xs : List Json} : (Json.array xs).Words S ↔ ∀ x ∈ xs, x.Words S := by
  constructor
  · exact fun h x hx w hw hwithin => h w hw (.item hx hwithin)
  · intro h w hw hwithin
    cases hwithin with
    | refl => cases hw
    | item hx hwithin => exact h _ hx w hw hwithin

/-- The words of an object are those of its members. -/
theorem words_object_iff {ms : Members} : (Json.object ms).Words S ↔ ms.Words S := by
  constructor
  · exact fun h m hm w hw hwithin => h w hw (.member hm hwithin)
  · intro h w hw hwithin
    cases hwithin with
    | refl => cases hw
    | member hm hwithin => exact h _ hm w hw hwithin

/-- The only word in a scalar is the scalar itself. -/
theorem words_of_isScalar (h : v.isScalar = true) (hv : v.isWord = true → S v) : v.Words S := by
  intro w hw hwithin
  cases hwithin with
  | refl => exact hv hw
  | item => cases h
  | member => cases h

/-- The words of the items are words of the list. -/
theorem Words.items (h : v.Words S) : ∀ x ∈ v.items, x.Words S := by
  cases v with
  | array xs => exact words_array_iff.1 h
  | _ => exact List.forall_mem_nil _

/-- `foldAliases` brings in no numbers and no texts. -/
theorem Words.foldAliases (h : v.Words S) (aliases : List (String × String)) :
    (v.foldAliases aliases).Words S := by
  induction v using induct with
  | scalar v hv => rwa [foldAliases_of_isScalar hv]
  | array xs ih =>
    rw [words_array_iff] at h
    rw [foldAliases_array, words_array_iff, List.forall_mem_map]
    exact fun x hx => ih x hx (h x hx)
  | object ms ih =>
    rw [words_object_iff] at h
    rw [foldAliases_object, words_object_iff]
    intro m hm
    obtain ⟨m', hm', heq⟩ := Members.exists_mem_of_mem_folded hm
    rw [heq]
    exact ih m' hm' (h m' hm')

/-! ## Values that are read -/

/-- A number fits, if the value is one. -/
def Fits (v : Json) : Prop := ∀ n, v = .number n → n.Fits

/-- Every number in a part of a value fits. -/
def Part.Fits : Part → Prop
  | .value v => v.Words Json.Fits
  | .items vs => ∀ v ∈ vs, v.Words Json.Fits
  | .members before ms => before.Words Json.Fits → ms.Words Json.Fits

/-- A number that fits is a value in which every number fits. -/
theorem words_number {n : Number} (h : n.Fits) : (Json.number n).Words Fits := by
  refine words_of_isScalar rfl fun _ => ?_
  rintro m ⟨⟩
  exact h

/-- `Reads` gives values in which every number fits, wherever it stands. -/
theorem Reads.fits {depth : Nat} {cs rest : List Char} {p : Part} (h : Reads depth cs p rest) :
    p.Fits := by
  induction h with
  | word hword _ =>
    simp only [wordValues, List.mem_cons, Prod.mk.injEq, List.not_mem_nil, or_false] at hword
    obtain ⟨-, -, rfl⟩ | ⟨-, -, rfl⟩ | ⟨-, -, rfl⟩ := hword
    all_goals exact words_of_isScalar rfl nofun
  | negative _ hnumber => exact words_number (fits_of_leaves_readNumber hnumber)
  | positive _ _ hnumber => exact words_number (fits_of_leaves_readNumber hnumber)
  | string _ _ => exact words_of_isScalar rfl fun _ => nofun
  | emptyList _ _ _ => exact words_array_iff.2 (List.forall_mem_nil _)
  | list _ _ _ ih => exact words_array_iff.2 ih
  | emptyObject _ _ _ => exact words_object_iff.2 Members.words_nil
  | object _ _ _ _ ih => exact words_object_iff.2 (ih Members.words_nil)
  | lastItem _ _ ih => exact List.forall_mem_singleton.2 ih
  | item _ _ _ ih ih' => exact List.forall_mem_cons.2 ⟨ih, ih'⟩
  | lastMember _ _ _ _ ih => exact fun hbefore => hbefore.insert ih
  | member _ _ _ _ _ _ ih ih' => exact fun hbefore => ih' (hbefore.insert ih)

/-- `readNamedFields` reads numbers that fit only. -/
theorem words_of_leaves_readNamedFields {depth : Nat} {keys : List String} {before ms : Members}
    {cs rest : List Char} (hbefore : before.Words Fits)
    (h : Leaves (readNamedFields depth keys before cs) ms rest) : ms.Words Fits := by
  induction hlen : cs.length using Nat.strongRecOn generalizing before cs rest with
  | ind len ih =>
    obtain ⟨mid, hmid, hmember⟩ := exists_leavesBehind h
    -- Whether the member is kept or passed over, the rest is read from the next key on.
    have hnext : ∀ {before : Members}, before.Words Fits →
        LeavesBehind depth keys before ms mid rest → ms.Words Fits := by
      intro before hbefore hbehind
      obtain ⟨-, rfl⟩ | ⟨next, next', hcomma, hquote, hms⟩ := hbehind
      · exact hbefore
      · have hshort := length_lt_of_skipSpace hcomma
        have hshort' := length_lt_of_skipSpace hquote
        exact ih next'.length (by omega) hbefore hms rfl
    obtain ⟨m, ⟨key, mid', mid'', -, -, hvalue, -⟩, hbehind⟩ | hbehind := hmember
    · have hm : Members.Words Fits [m] := List.forall_mem_singleton.2 hvalue.fits
      exact hnext (List.forall_mem_append.2 ⟨hbefore, hm⟩) hbehind
    · exact hnext hbefore hbehind

/-- `readRecord` reads numbers that fit only. -/
theorem words_of_leaves_readRecord {name : String} {keys : List String} {cs rest : List Char}
    {ms : Members} (h : Leaves (readRecord name keys cs) ms rest) : ms.Words Fits := by
  cases hopen : skipSpace cs with
  | nil =>
    rw [readRecord, nextChar_eq_none_iff.2 hopen] at h
    exact absurd h not_leaves_error
  | cons c mid =>
    -- A record is a list of its fields, an object of them, or refused.
    by_cases hlist : c = '['
    · subst hlist
      obtain ⟨vs, hread, -, rfl⟩ := (leaves_readRecord_iff_of_bracket hopen).1 h
      exact .zip (words_array_iff.1 hread.fits) keys
    · by_cases hobject : c = '\x7b'
      · subst hobject
        rw [readRecord, nextChar_of_skipSpace hopen] at h
        obtain ⟨first, -, h⟩ := leaves_bind_ok_iff.1 h
        cases first with
        | close r =>
          obtain ⟨rfl, -⟩ := leaves_ok.1 h
          exact Members.words_nil
        | more r =>
          obtain ⟨ms', r', hms, h⟩ := leaves_bind_iff.1 h
          obtain ⟨rfl, -⟩ := leaves_ok.1 h
          exact words_of_leaves_readNamedFields Members.words_nil (leaves_val_iff.2 hms)
      · exact absurd h (not_leaves_readRecord hopen hlist hobject)

/-- A value stands in a text that is read: in the value of the text, or in a field of the record. -/
inductive StandsIn (text : String) (w : Json) : Prop
  | value {v : Json} : parse text = .ok v → Within w v → StandsIn text w
  | field {name : String} {keys : List String} {ms : Members} {rest : List Char}
    {m : String × Json} : Leaves (readRecord name keys text.toList) ms rest →
    skipSpace rest = [] → m ∈ ms → Within w m.2 → StandsIn text w

/-- Every number in a text that is read fits. -/
theorem StandsIn.fits {text : String} {n : Number} (h : StandsIn text (.number n)) : n.Fits := by
  cases h with
  | @value v hparse hwithin =>
    obtain ⟨rest, hread, -⟩ := parse_eq_ok_iff.1 hparse
    have hwords : v.Words Fits := hread.fits
    exact hwords _ rfl hwithin n rfl
  | field hread _ hm hwithin => exact words_of_leaves_readRecord hread _ hm _ rfl hwithin n rfl

end Json

/-! ## Records that are made of a value -/

namespace Record

variable {α : Type} [Record α] {a : α}

/-- A record is made of members in which every number and every text is of some kind. -/
def MadeOf (S : Json → Prop) (a : α) : Prop := ∃ ms : Members, ms.Words S ∧ ofMembers ms = a

/-- `Record.read` makes a record of what stands in the text. -/
theorem madeOf_of_read {name text : String} (h : Record.read name text = .ok a) :
    MadeOf (Json.StandsIn text) a := by
  obtain ⟨ms, rest, hread, hend, ha⟩ := read_eq_ok_iff_leaves.1 h
  exact ⟨ms, fun m hm w _ hwithin => .field hread hend hm hwithin, ha⟩

/-- `ofJson?` makes a record of what stands in the value. -/
theorem madeOf_of_ofJson? {v : Json} (hv : v.Words S) (h : ofJson? v = some a) : MadeOf S a := by
  obtain ⟨ms, hms, ha⟩ := Option.map_eq_some_iff.1 h
  refine ⟨ms, ?_, ha⟩
  cases v with
  | object ms' =>
    cases hms
    exact Json.words_object_iff.1 hv
  | array xs =>
    rw [Json.membersOf?, Option.ite_none_right_eq_some, Option.some_inj] at hms
    obtain ⟨-, rfl⟩ := hms
    exact .zip (Json.words_array_iff.1 hv) _
  | _ => cases hms

/-- The records of a list are made of what stands in its items. -/
theorem madeOf_of_mem_filterMap {items : List Json} (hitems : ∀ v ∈ items, v.Words S)
    (ha : a ∈ items.filterMap ofJson?) : MadeOf S a := by
  obtain ⟨v, hv, ha⟩ := List.mem_filterMap.1 ha
  exact madeOf_of_ofJson? (hitems v hv) ha

end Record

namespace Content

/-- `ofHeld` makes contents of its kind. -/
theorem kind?_ofHeld (kind : Kind) (c : kind.Held) : (ofHeld kind c).kind? = some kind := by
  cases kind <;> rfl

/-- `ofHeld` forgets nothing of the record. -/
theorem ofHeld_injective (kind : Kind) : Function.Injective (ofHeld kind) := by
  intro c c' h
  cases kind with
  | divider => rfl
  | _ =>
    cases h
    rfl

/-- `decode` makes a content of what stands in the value. -/
theorem madeOf_decode {α : Type} [Record α] {v : Json} (hv : v.Words S) (kind : Kind) :
    Record.MadeOf S (decode kind v : α) := by
  rw [decode]
  cases h : (Record.ofJson? (v.foldAliases kind.aliases) : Option α) with
  | none => exact ⟨[], Members.words_nil, rfl⟩
  | some a => exact Record.madeOf_of_ofJson? (hv.foldAliases _) h

/-- The record that a content holds is made of the value that the content is read from. -/
theorem madeOf_of_ofTag {tag : String} {v : Json} (hv : v.Words S) {kind : Kind} {c : kind.Held}
    (h : ofTag tag v = ofHeld kind c) : Record.MadeOf S c := by
  unfold ofTag at h
  split at h
  · rename_i kind' _
    have hkind := congrArg kind? h
    rw [kind?_ofKind, kind?_ofHeld, Option.some_inj] at hkind
    subst hkind
    rw [ofKind_eq_ofHeld] at h
    rw [← ofHeld_injective kind' h]
    exact madeOf_decode hv kind'
  · have hkind := congrArg kind? h
    rw [kind?_ofHeld] at hkind
    cases hkind

end Content

/-- The questions of a quiz are made of what the quiz is made of. -/
theorem Quiz.madeOf_question {c : Quiz} (h : Record.MadeOf S c) {q : QuizQuestion}
    (hq : q ∈ c.questions) : Record.MadeOf S q := by
  obtain ⟨ms, hms, rfl⟩ := h
  have hlist : q ∈ ms.list Record.ofJson? "questions" := hq
  unfold Members.list at hlist
  split at hlist
  · rename_i v hv
    exact Record.madeOf_of_mem_filterMap (hms.of_lookup hv).items hlist
  · cases hlist

/-! ## Fields that are numbers -/

/-- A field that is a number. -/
inductive NumberField where
  | opacity
  | height
  | correctAnswer

namespace NumberField

/-- The records with a field. -/
def Held : NumberField → Type
  | .opacity => Style
  | .height => Spacer
  | .correctAnswer => QuizQuestion

instance recordHeld (f : NumberField) : Record f.Held :=
  match f with
  | .opacity => inferInstanceAs (Record Style)
  | .height => inferInstanceAs (Record Spacer)
  | .correctAnswer => inferInstanceAs (Record QuizQuestion)

/-- The key of a field. -/
def key : NumberField → String
  | .opacity => "backgroundOpacity"
  | .height => "height"
  | .correctAnswer => "correctAnswer"

/-- What a record has in a field. -/
def get : (f : NumberField) → f.Held → Option Double
  | .opacity, s => Style.backgroundOpacity s
  | .height, c => Spacer.height c
  | .correctAnswer, q => QuizQuestion.correctAnswer q

/-- The key of a field is one of the keys of its record. -/
theorem key_mem_keys (f : NumberField) : f.key ∈ Record.keys f.Held := by
  cases f <;> decide

/-- `get` reads a field from the value under its key. -/
theorem get_ofMembers (f : NumberField) (ms : Members) :
    f.get (Record.ofMembers ms) = (ms.lookup f.key).bind Json.asNumber? := by
  cases f <;> rfl

variable {f : NumberField} {ms : Members} {x : Double} {s : String}

/-- `get` finds a number where the value under the key stands for it. -/
theorem get_eq_some_iff :
    f.get (Record.ofMembers ms) = some x ↔ ∃ v, ms.lookup f.key = some v ∧ v.StandsFor x := by
  simp only [get_ofMembers, Option.bind_eq_some_iff, Json.asNumber?_eq_some_iff]

/-- `get` never loses a number that fits. -/
theorem exists_get_of_number {n : Number} (hn : n.Fits) (h : ms.lookup f.key = some (.number n)) :
    ∃ x, f.get (Record.ofMembers ms) = some x ∧ RoundsTo n.negative n.value x := by
  obtain ⟨x, hx⟩ := hn.exists_roundsTo
  exact ⟨x, get_eq_some_iff.2 ⟨_, h, .number hx⟩, hx⟩

/-- `get` finds the number that a text with a numeral stands for. -/
theorem get_of_measures {n : Numeral} (h : ms.lookup f.key = some (.string s))
    (hmeasures : n.Measures s) (hrounds : RoundsTo n.negative n.value x) :
    f.get (Record.ofMembers ms) = some x :=
  get_eq_some_iff.2 ⟨_, h, .text hmeasures hrounds⟩

/-- `get` finds nothing in a text that stands for nothing, or for too large a number. -/
theorem get_eq_none (h : ms.lookup f.key = some (.string s))
    (hlarge : ∀ n : Numeral, n.Measures s → Double.overflow ≤ |n.value|) :
    f.get (Record.ofMembers ms) = none := by
  rw [Option.eq_none_iff_forall_ne_some]
  intro x hx
  obtain ⟨v, hv, hstands⟩ := get_eq_some_iff.1 hx
  rw [h, Option.some_inj] at hv
  subst hv
  cases hstands with
  | text hmeasures hrounds => exact hrounds.small.not_ge (hlarge _ hmeasures)

end NumberField

/-! ## Decoding -/

/-- The records in a block that have a field. -/
inductive Block.Has (b : Block) : (f : NumberField) → f.Held → Prop
  | opacity {s : Style} : b.style = some s → b.Has .opacity s
  | height {c : Spacer} : b.content = .spacer c → b.Has .height c
  | correctAnswer {c : Quiz} {q : QuizQuestion} : b.content = .quiz c → q ∈ c.questions →
    b.Has .correctAnswer q

/-- A record is decoded from a text: alone, with the block that the text is, or with a block of the
template. -/
inductive NumberField.IsDecoded (f : NumberField) (text : String) (r : f.Held) : Prop
  | alone {name : String} : Record.read name text = .ok r → f.IsDecoded text r
  | block {b : Block} : Block.read text = .ok b → b.Has f r → f.IsDecoded text r
  | template {t : Template} {b : Block} : Template.read text = .ok t → b ∈ t.blocks → b.Has f r →
    f.IsDecoded text r

section Decoding

variable {f : NumberField} {r : f.Held} {b : Block} {text : String}

/-- The records in a block are made of what the block is made of. -/
theorem Block.Has.madeOf (h : b.Has f r) (hb : Record.MadeOf S b) : Record.MadeOf S r := by
  obtain ⟨ms, hms, rfl⟩ := hb
  -- A missing content is read as null, in which there is nothing.
  have hcontent : ((ms.lookup "content").getD .null).Words S := by
    cases hv : ms.lookup "content" with
    | none => exact Json.words_of_isScalar rfl nofun
    | some v => exact hms.of_lookup hv
  cases h with
  | opacity hstyle =>
    obtain ⟨v, hv, hs⟩ := Option.bind_eq_some_iff.1 hstyle
    cases v with
    | object ms' =>
      cases hs
      exact ⟨ms', Json.words_object_iff.1 (hms.of_lookup hv), rfl⟩
    | _ => cases hs
  | height hspacer => exact @Content.madeOf_of_ofTag _ _ _ hcontent .spacer _ hspacer
  | correctAnswer hquiz hq =>
    exact Quiz.madeOf_question (@Content.madeOf_of_ofTag _ _ _ hcontent .quiz _ hquiz) hq

/-- `Template.read` makes its blocks of what stands in the text. -/
theorem Template.madeOf_of_read {t : Template} (h : Template.read text = .ok t)
    (hb : b ∈ t.blocks) : Record.MadeOf (Json.StandsIn text) b := by
  unfold Template.read at h
  split at h
  · rename_i v hparse
    have hv : v.Words (Json.StandsIn text) := fun w _ hwithin => .value hparse hwithin
    -- The blocks are the items of a bare list, or of the list in an object.
    unfold Template.ofJson at h
    split at h
    · cases h
      exact Record.madeOf_of_mem_filterMap (Json.words_array_iff.1 hv) hb
    · split at h
      · cases h
      · rename_i hlookup
        cases h
        have hitems := (Json.words_object_iff.1 hv).of_lookup hlookup
        exact Record.madeOf_of_mem_filterMap (Json.words_array_iff.1 hitems) hb
      · cases h
    · cases h
  · cases h

/-- A decoded record is made of what stands in the text. -/
theorem NumberField.IsDecoded.madeOf (h : f.IsDecoded text r) :
    Record.MadeOf (Json.StandsIn text) r := by
  cases h with
  | alone hread => exact Record.madeOf_of_read hread
  | block hread hhas => exact hhas.madeOf (Record.madeOf_of_read hread)
  | template hread hb hhas => exact hhas.madeOf (Template.madeOf_of_read hread hb)

/-- What a decoded record holds is what some number or text stands for that stands in the text. -/
theorem NumberField.IsDecoded.exists_standsFor (h : f.IsDecoded text r) {x : Double}
    (hx : f.get r = some x) : ∃ w, Json.StandsIn text w ∧ w.StandsFor x := by
  obtain ⟨ms, hms, rfl⟩ := h.madeOf
  obtain ⟨v, hv, hstands⟩ := NumberField.get_eq_some_iff.1 hx
  have hword : v.isWord = true := by
    cases hstands <;> rfl
  exact ⟨v, hms.of_lookup hv v hword (.refl v), hstands⟩

/-- A record is read from the text of an object that has nothing but the field, as a text. -/
theorem NumberField.exists_isDecoded_string (f : NumberField) (s : String) :
    ∃ text, f.IsDecoded text (Record.ofMembers [(f.key, .string s)]) := by
  have hprint : Json.MembersPrintAs (Json.depthLimit - 1) [(f.key, .string s)]
      [(f.key, .string s)] := .cons ⟨rfl, Json.printsAs_string _ s⟩ .nil
  have hnone : Members.RepeatsNone (Record.keys f.Held) [(f.key, .string s)] := by
    intro key _
    exact List.nodup_iff_count_le_one.1 (List.nodup_singleton f.key) key
  have hkept : Members.kept (Record.keys f.Held) [(f.key, .string s)] = [(f.key, .string s)] := by
    simp [Members.kept, f.key_mem_keys]
  obtain ⟨rest, hread, hend⟩ :=
    @Json.IsObject.leaves_readRecord "" _ _ _ (Json.isObject_print hprint) hnone
  rw [hkept] at hread
  exact ⟨_, .alone (Record.read_eq_ok_iff_leaves.2 ⟨_, rest, hread, hend, rfl⟩)⟩

end Decoding

/-- The field of a record that is decoded from a text is absent, or a finite number that some number
or text in there stands for.  A number that stands in there is not lost.

Any text may stand under the key of the field.  If it has a numeral that is not too large, it is read
as the double that this rounds to, whatever blanks are around it and whether `px` follows it or not.
Every other text is read as no number: among them are those without a digit, those with two units,
and those with a character that is no blank, stands in no numeral and is none of the two small
letters of the unit. -/
theorem lenient_numbers :
    (∀ (f : NumberField) (text : String) (r : f.Held), f.IsDecoded text r →
      f.get r = none ∨ ∃ x, f.get r = some x ∧ |x.value| < Double.overflow ∧
        ∃ w, Json.StandsIn text w ∧ w.StandsFor x) ∧
    (∀ (f : NumberField) (text : String) (n : Number) (ms : Members),
      Json.StandsIn text (.number n) → ms.lookup f.key = some (.number n) →
        ∃ x, f.get (Record.ofMembers ms) = some x ∧ RoundsTo n.negative n.value x) ∧
    (∀ (f : NumberField) (s : String),
      ∃ text, f.IsDecoded text (Record.ofMembers [(f.key, .string s)])) ∧
    (∀ (n : Numeral) (numeral : List Char), n.Spells numeral → |n.value| < Double.overflow →
      ∃ x, RoundsTo n.negative n.value x ∧
        ∀ (f : NumberField) (ms : Members) (a b c : List Char), Blanks a → Blanks b → Blanks c →
          (ms.lookup f.key = some (.string (.ofList (a ++ numeral ++ b))) ∨
            ms.lookup f.key =
              some (.string (.ofList (a ++ numeral ++ b ++ ['p', 'x'] ++ c)))) →
          f.get (Record.ofMembers ms) = some x) ∧
    (∀ (f : NumberField) (ms : Members) (s : String), ms.lookup f.key = some (.string s) →
      (∀ n : Numeral, n.Measures s → Double.overflow ≤ |n.value|) →
        f.get (Record.ofMembers ms) = none) ∧
    ∀ (f : NumberField) (ms : Members) (s : String), ms.lookup f.key = some (.string s) →
      ((∀ d ∈ s.toList, d.isDigit = false) ∨ 2 ≤ s.toList.count 'p' ∨
        ∃ c ∈ s.toList, isBlankChar c = false ∧ Numeral.isChar c = false ∧ c ≠ 'p' ∧ c ≠ 'x') →
        f.get (Record.ofMembers ms) = none := by
  refine ⟨?_, ?_, NumberField.exists_isDecoded_string, ?_,
    fun f ms s => NumberField.get_eq_none, ?_⟩
  · intro f text r hr
    cases hx : f.get r with
    | none => exact .inl rfl
    | some x => exact .inr ⟨x, rfl, (Double.roundsTo_value x).small, hr.exists_standsFor hx⟩
  · intro f text n ms hstands hn
    exact NumberField.exists_get_of_number hstands.fits hn
  · intro n numeral hspells hsmall
    obtain ⟨x, hx⟩ := n.exists_roundsTo hsmall
    refine ⟨x, hx, ?_⟩
    intro f ms a b c ha hb hc hs
    -- The unit, with blanks behind it, is there or not.
    obtain hs | hs := hs
    · have hmeasures : n.Measures (.ofList (a ++ numeral ++ b)) :=
        ⟨a, numeral, b, hspells, ha, hb, .inl String.toList_ofList⟩
      exact NumberField.get_of_measures hs hmeasures hx
    · have hmeasures : n.Measures (.ofList (a ++ numeral ++ b ++ ['p', 'x'] ++ c)) :=
        ⟨a, numeral, b, hspells, ha, hb, .inr ⟨c, hc, String.toList_ofList⟩⟩
      exact NumberField.get_of_measures hs hmeasures hx
  · intro f ms s hs hrefused
    exact NumberField.get_eq_none hs fun n hmeasures =>
      absurd hmeasures (Numeral.not_measures hrefused)

/-- A text that is one number. -/
theorem Json.standsIn_forty : StandsIn "40" (.number (.integer 40)) := by
  have hvalue : (⟨['4', '0'], [], none⟩ : NumberText).toNumber false = .ok (.integer 40) := by rfl
  have hread : Leaves (readNumber false ['4', '0']) (.integer 40) [] :=
    leaves_readNumber_iff.2 ⟨⟨['4', '0'], [], none⟩, ⟨by decide, rfl⟩, hvalue⟩
  exact .value (parse_eq_ok_iff.2 ⟨[], .positive rfl rfl hread, rfl⟩) (.refl _)

/-- Forty is read as a number, and as a text with blanks and with a unit.  Neither words, capital
letters nor a second unit pass, and what is too large for a double is as good as none. -/
theorem lenient_numbers_forty :
    let numeral : List Char := ['4', '.', '0', 'e', '1']
    let height (v : Json) : Option Double :=
      NumberField.height.get (Record.ofMembers [("height", v)])
    (height (.string "40px") = none ∨
      ∃ x, height (.string "40px") = some x ∧ |x.value| < Double.overflow) ∧
    (∃ x, height (.number (.integer 40)) = some x ∧ RoundsTo false (40 : Int) x) ∧
    (∃ x, RoundsTo false 40 x ∧
      height (.string (.ofList ([' '] ++ numeral ++ []))) = some x ∧
      height (.string (.ofList ([' '] ++ numeral ++ ['\t'] ++ ['p', 'x'] ++ ['\n']))) = some x) ∧
    height (.string "1e999") = none ∧ height (.string "inf") = none ∧
    height (.string "px") = none ∧ height (.string "40PX") = none ∧
    height (.string "40pxpx") = none := by
  -- The witness for each part is the number forty, spelled in the way the part is about.
  intro numeral height
  obtain ⟨hfinite, hnumber, htext, hnumeral, hlarge, hrefused⟩ := lenient_numbers
  have hdecoded : height (.string "40px") = none ∨
      ∃ x, height (.string "40px") = some x ∧ |x.value| < Double.overflow := by
    obtain ⟨text, hdecoded⟩ := htext .height "40px"
    obtain hnone | ⟨x, hx, hsmall, -⟩ := hfinite .height text _ hdecoded
    · exact .inl hnone
    · exact .inr ⟨x, hx, hsmall⟩
  let forty : Numeral := ⟨false, ['4'], ['0'], 1⟩
  have hspells : forty.Spells numeral := Numeral.parse?_eq_some_iff.1 rfl
  have hvalue : forty.value = 40 := by
    show Double.signed false ((40 : Nat) * 10 ^ (0 : Int)) = 40
    norm_num [Double.signed]
  have hsmall : |forty.value| < Double.overflow := by
    have hlt := Number.natAbs_lt_overflow Json.standsIn_forty.fits
    rw [hvalue]
    norm_num at hlt ⊢
    exact hlt
  obtain ⟨x, hx, hpadded⟩ := hnumeral forty numeral hspells hsmall
  have hblank : ∀ {c : Char}, isBlankChar c = true → Blanks [c] :=
    fun hc => List.forall_mem_singleton.2 hc
  have hnil : Blanks [] := List.forall_mem_nil _
  have hexceeds : ∀ n : Numeral, n.Measures "1e999" → Double.overflow ≤ |n.value| := by
    intro n hn
    have hparse : Numeral.parse? (numeralPart "1e999") = some ⟨false, ['1'], [], 999⟩ := by rfl
    rw [Numeral.measures_iff, ← Numeral.parse?_eq_some_iff, hparse] at hn
    cases hn
    rw [Numeral.value, Double.abs_signed _ (Numeral.magnitude_nonneg _)]
    exact Numeral.overflow_le_of_powerLimit_lt (by decide) (by decide)
  refine ⟨hdecoded, hnumber .height _ _ _ Json.standsIn_forty rfl, ⟨x, hvalue ▸ hx, ?_, ?_⟩,
    hlarge .height _ _ rfl hexceeds, hrefused .height _ _ rfl ?_, hrefused .height _ _ rfl ?_,
    hrefused .height _ _ rfl ?_, hrefused .height _ _ rfl ?_⟩
  · exact hpadded .height _ [' '] [] [] (hblank (by decide)) hnil hnil (.inl rfl)
  · exact hpadded .height _ [' '] ['\t'] ['\n'] (hblank (by decide)) (hblank (by decide))
      (hblank (by decide)) (.inr rfl)
  · exact .inl (by simp)
  · exact .inl (by simp)
  · exact .inr (.inr ⟨'P', by simp, by decide +kernel⟩)
  · exact .inr (.inl (by simp))

end Bulletin
