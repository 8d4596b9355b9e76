import Bulletin.Proofs.Json.Grammar
import Bulletin.Template

/-!
# Loading templates

A template is refused for its syntax or for its outermost shape and for nothing else.  Where there
is a list of blocks, each item of the list is read on its own, and it makes no difference whether
the list is given bare or in an object that holds nothing else.

## Main statements

- `read_eq_error_iff`: why a template is refused
- `exists_read_eq_ok_iff`: when a template is read, and what its blocks are
- `parse_wrapped`: a text in an object of its own is read as what it is alone
- `tolerant_loading`: errors, blocks in order, and the two shapes together
-/

namespace Bulletin

open Json (Reads)

/-- A value is a list of blocks, or an object with such a list under its key. -/
def Json.HasBlocks (v : Json) (items : List Json) : Prop :=
  v = .array items ∨ ∃ ms, v = .object ms ∧ ms.lookup "blocks" = some (.array items)

/-- What is wrong with the outermost shape of a value. -/
def TemplateError.Describes (v : Json) : TemplateError → Prop
  | .json _ => False
  | .missingBlocks => ∃ ms, v = .object ms ∧ ms.lookup "blocks" = none
  | .blocksNotList =>
    ∃ ms w, v = .object ms ∧ ms.lookup "blocks" = some w ∧ ∀ items, w ≠ .array items
  | .noTemplate => (∀ items, v ≠ .array items) ∧ ∀ ms, v ≠ .object ms

namespace Template

/-- `Template.read` makes a template of the value that `Json.parse` reads. -/
theorem read_of_parse {text : String} {v : Json} (h : Json.parse text = .ok v) :
    read text = ofJson v := by
  rw [read, h]

/-! ## What is refused -/

/-- `Template.ofJson` refuses a value for what is wrong with its outermost shape. -/
theorem ofJson_eq_error_iff {v : Json} {e : TemplateError} :
    ofJson v = .error e ↔ e.Describes v := by
  unfold ofJson
  split
  · cases e <;> simp [TemplateError.Describes]
  · rename_i ms
    -- The three things that may stand under the key.
    split
    · rename_i h
      cases e <;> simp [TemplateError.Describes, h, -List.lookup_eq_none_iff]
    · rename_i items h
      cases e <;> simp [TemplateError.Describes, h, -List.lookup_eq_none_iff]
    · rename_i w hne h
      have hlist : ∀ items, w ≠ .array items := fun items hw => hne items hw
      cases e <;> simp [TemplateError.Describes, h, hlist, -List.lookup_eq_none_iff]
  · rename_i harray hobject
    have hshape : (∀ items, v ≠ .array items) ∧ ∀ ms, v ≠ .object ms := ⟨harray, hobject⟩
    cases e <;> simp [TemplateError.Describes, hshape]

/-- `Template.read` refuses a text that is no JSON, for the cause that `Json.parse` gives, and a
text whose value has the wrong shape. -/
theorem read_eq_error_iff {text : String} {e : TemplateError} :
    read text = .error e ↔
      (∃ cause, e = .json cause ∧ Json.parse text = .error cause) ∨
        ∃ v, Json.parse text = .ok v ∧ e.Describes v := by
  cases h : Json.parse text with
  | error cause =>
    rw [read, h]
    simp [eq_comm]
  | ok v =>
    rw [read_of_parse h, ofJson_eq_error_iff]
    simp

/-! ## What is read -/

/-- `Template.ofJson` makes a template of every value with a list of blocks, whatever its items and
the theme are. -/
theorem exists_ofJson_eq_ok_iff {v : Json} {blocks : List Block} :
    (∃ theme, ofJson v = .ok ⟨theme, blocks⟩) ↔
      ∃ items, v.HasBlocks items ∧ blocks = items.filterMap Record.ofJson? := by
  unfold ofJson
  split
  · simp [Json.HasBlocks, blocksOf, eq_comm]
  · rename_i ms
    split
    · rename_i h
      simp [Json.HasBlocks, h, -List.lookup_eq_none_iff]
    · rename_i items h
      simp [Json.HasBlocks, h, blocksOf, eq_comm]
    · rename_i w hne h
      have hlist : ∀ items, w ≠ .array items := fun items hw => hne items hw
      simp [Json.HasBlocks, h, hlist]
  · rename_i harray hobject
    -- A value of another shape has no list of blocks.
    have hnone : ∀ items, ¬ v.HasBlocks items := by
      rintro items (hv | ⟨ms, hv, -⟩)
      · exact harray items hv
      · exact hobject ms hv
    simp [hnone]

/-- `Template.read` reads a text if its value has a list of blocks, of which it keeps the items that
are records. -/
theorem exists_read_eq_ok_iff {text : String} {blocks : List Block} :
    (∃ theme, read text = .ok ⟨theme, blocks⟩) ↔
      ∃ v items, Json.parse text = .ok v ∧ v.HasBlocks items ∧
        blocks = items.filterMap Record.ofJson? := by
  cases h : Json.parse text with
  | error cause =>
    rw [read, h]
    simp
  | ok v =>
    rw [read_of_parse h, exists_ofJson_eq_ok_iff]
    simp

/-- `Record.ofJson?` makes blocks of objects, and of lists no longer than a block has fields,
whatever these hold. -/
theorem isSome_ofJson?_block_iff {v : Json} :
    (Record.ofJson? v : Option Block).isSome ↔
      (∃ ms, v = .object ms) ∨ ∃ vs, v = .array vs ∧ vs.length ≤ 4 := by
  cases v with
  | object ms => simp [Record.ofJson?, Json.membersOf?]
  | array vs =>
    have hkeys : (Record.keys Block).length = 4 := rfl
    by_cases hlen : vs.length ≤ 4 <;> simp [Record.ofJson?, Json.membersOf?, hkeys, hlen]
  | _ => simp [Record.ofJson?, Json.membersOf?]

/-- `Template.read` adds up the blocks of lists that follow each other. -/
theorem read_append {front back whole : String} {v w u : Json} {xs ys : List Json}
    (hfront : Json.parse front = .ok v) (hback : Json.parse back = .ok w)
    (hwhole : Json.parse whole = .ok u) (hxs : v.HasBlocks xs) (hys : w.HasBlocks ys)
    (hall : u.HasBlocks (xs ++ ys)) :
    ∃ t t' t'', read front = .ok t ∧ read back = .ok t' ∧ read whole = .ok t'' ∧
      t''.blocks = t.blocks ++ t'.blocks := by
  obtain ⟨theme, ht⟩ := exists_read_eq_ok_iff.2 ⟨v, xs, hfront, hxs, rfl⟩
  obtain ⟨theme', ht'⟩ := exists_read_eq_ok_iff.2 ⟨w, ys, hback, hys, rfl⟩
  obtain ⟨theme'', ht''⟩ := exists_read_eq_ok_iff.2 ⟨u, xs ++ ys, hwhole, hall, rfl⟩
  exact ⟨_, _, _, ht, ht', ht'', List.filterMap_append⟩

/-! ## The two shapes -/

/-- A text as the value of the one member of an object. -/
def wrapped (text : String) : String := "\x7b\"blocks\":" ++ text ++ "\x7d"

/-- `wrapped` puts the text under the key of the blocks. -/
theorem toList_wrapped (text : String) :
    (wrapped text).toList =
      '\x7b' :: '"' :: ("blocks".toList ++ '"' :: ':' :: (text.toList ++ ['\x7d'])) := by
  simp [wrapped, String.toList_append]

/-- `Json.parse` reads in `wrapped text` what it reads in `text`, if it reads that at all: one level
more may be one too many. -/
theorem parse_wrapped {text : String} {v w : Json} (hparse : Json.parse text = .ok v)
    (hwrapped : Json.parse (wrapped text) = .ok w) : w = .object [("blocks", v)] := by
  obtain ⟨rest, hread, -⟩ := Json.parse_eq_ok_iff.1 hwrapped
  rw [toList_wrapped] at hread
  obtain ⟨ms, rfl, hmembers⟩ := hread.exists_members rfl rfl
  have hblocks := @Json.leaves_readString_append "blocks".toList (by simp)
    (':' :: (text.toList ++ ['\x7d']))
  -- One member is read, since behind the value stands the bracket that closes the object.
  cases hmembers with
  | lastMember hkey hcolon hvalue hclose =>
    obtain ⟨rfl, rfl⟩ := hkey.unique hblocks
    cases hcolon
    obtain ⟨rfl, -⟩ := Json.eq_of_reads_append hparse rfl rfl hvalue
    rfl
  | member hkey hcolon hvalue hcomma _ _ =>
    obtain ⟨rfl, rfl⟩ := hkey.unique hblocks
    cases hcolon
    obtain ⟨-, hsign⟩ := Json.eq_of_reads_append hparse rfl rfl hvalue
    simp [hsign] at hcomma

/-- `Template.read` reads a list of blocks as the same template bare and `wrapped`. -/
theorem read_wrapped {text : String} {items : List Json} {w : Json}
    (hparse : Json.parse text = .ok (.array items))
    (hwrapped : Json.parse (wrapped text) = .ok w) :
    ∃ t, read text = .ok t ∧ read (wrapped text) = .ok t := by
  obtain rfl := parse_wrapped hparse hwrapped
  exact ⟨_, read_of_parse hparse, read_of_parse hwrapped⟩

/-- A text is refused only because it is no JSON, with the cause the reader gives, or because its
value has no list of blocks.  Any other text is read: its blocks are those items of the list that
are records at all, in the order of the list, whatever their fields and the theme hold.  So lists
that follow each other add their blocks, and a list makes the same template bare and in an
object. -/
theorem tolerant_loading :
    (∀ text e, read text = .error e ↔
      (∃ cause, e = .json cause ∧ Json.parse text = .error cause) ∨
        ∃ v, Json.parse text = .ok v ∧ e.Describes v) ∧
    (∀ text blocks, (∃ theme, read text = .ok ⟨theme, blocks⟩) ↔
      ∃ v items, Json.parse text = .ok v ∧ v.HasBlocks items ∧
        blocks = items.filterMap Record.ofJson?) ∧
    (∀ v : Json, (Record.ofJson? v : Option Block).isSome ↔
      (∃ ms, v = .object ms) ∨ ∃ vs, v = .array vs ∧ vs.length ≤ 4) ∧
    (∀ front back whole v w u xs ys, Json.parse front = .ok v → Json.parse back = .ok w →
      Json.parse whole = .ok u → v.HasBlocks xs → w.HasBlocks ys → u.HasBlocks (xs ++ ys) →
        ∃ t t' t'', read front = .ok t ∧ read back = .ok t' ∧ read whole = .ok t'' ∧
          t''.blocks = t.blocks ++ t'.blocks) ∧
    (∀ text text' items, Json.parse text = .ok (.array items) →
      Json.parse text' = .ok (.object [("blocks", .array items)]) →
        ∃ t, read text = .ok t ∧ read text' = .ok t) ∧
    ∀ text items w, Json.parse text = .ok (.array items) → Json.parse (wrapped text) = .ok w →
      ∃ t, read text = .ok t ∧ read (wrapped text) = .ok t := by
  refine ⟨fun _ _ => read_eq_error_iff, fun _ _ => exists_read_eq_ok_iff,
    fun _ => isSome_ofJson?_block_iff, fun _ _ _ _ _ _ _ _ => read_append, ?_,
    fun _ _ _ => read_wrapped⟩
  intro text text' items hparse hparse'
  exact ⟨_, read_of_parse hparse, read_of_parse hparse'⟩

/-- A list that holds an empty block, a truth value and an empty list, from its parts and in an
object. -/
theorem tolerant_loading_mixed :
    let front := "[\x7b\x7d]"
    let back := "[true,[]]"
    let whole := "[\x7b\x7d,true,[]]"
    let xs : List Json := [.object []]
    let ys : List Json := [.bool true, .array []]
    let inObject : Json := .object [("blocks", .array (xs ++ ys))]
    (Json.parse front = .ok (.array xs) ∧ Json.parse back = .ok (.array ys) ∧
      Json.parse whole = .ok (.array (xs ++ ys)) ∧ Json.parse (wrapped whole) = .ok inObject) ∧
    (∃ t t' t'', read front = .ok t ∧ read back = .ok t' ∧ read whole = .ok t'' ∧
      t''.blocks = t.blocks ++ t'.blocks) ∧
    (∃ t, read whole = .ok t ∧ read (wrapped whole) = .ok t) := by
  have hword : ('t', ['r', 'u', 'e'], Json.bool true) ∈ Json.wordValues := by simp [Json.wordValues]
  -- The items are read alike in the bare list and in the one under the key.
  have hitems : ∀ depth rest, 1 < depth →
      Reads depth ("\x7b\x7d,true,[]]".toList ++ rest)
        (.items [.object [], .bool true, .array []]) rest := by
    intro depth rest hdepth
    exact .item (.emptyObject hdepth rfl rfl) rfl
      (.item (.word hword rfl) rfl (.lastItem (.emptyList hdepth rfl rfl) rfl))
  have hfront : Json.parse "[\x7b\x7d]" = .ok (.array [.object []]) := by
    refine Json.parse_eq_ok_iff.2 ⟨[], ?_, rfl⟩
    exact .list (by decide) rfl (.lastItem (.emptyObject (by decide) rfl rfl) rfl)
  have hback : Json.parse "[true,[]]" = .ok (.array [.bool true, .array []]) := by
    refine Json.parse_eq_ok_iff.2 ⟨[], ?_, rfl⟩
    exact .list (by decide) rfl
      (.item (.word hword rfl) rfl (.lastItem (.emptyList (by decide) rfl rfl) rfl))
  have hwhole : Json.parse "[\x7b\x7d,true,[]]" =
      .ok (.array [.object [], .bool true, .array []]) := by
    refine Json.parse_eq_ok_iff.2 ⟨[], ?_, rfl⟩
    exact .list (by decide) (by rfl) (hitems _ [] (by decide))
  have hwrapped : Json.parse (wrapped "[\x7b\x7d,true,[]]") =
      .ok (.object [("blocks", .array [.object [], .bool true, .array []])]) := by
    refine Json.parse_eq_ok_iff.2 ⟨[], ?_, rfl⟩
    rw [toList_wrapped]
    refine .object (by decide) rfl rfl ?_
    exact .lastMember (Json.leaves_readString_append (by simp) _) rfl
      (.list (by decide) (by rfl) (hitems _ ['\x7d'] (by decide))) rfl
  intro front back whole xs ys inObject
  obtain ⟨-, -, -, happend, -, hwrap⟩ := tolerant_loading
  exact ⟨⟨hfront, hback, hwhole, hwrapped⟩,
    happend _ _ _ _ _ _ xs ys hfront hback hwhole (.inl rfl) (.inl rfl) (.inl rfl),
    hwrap whole _ _ hwhole hwrapped⟩

end Template

end Bulletin
