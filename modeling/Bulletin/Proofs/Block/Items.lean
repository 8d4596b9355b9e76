import Bulletin.Proofs.Block.Fields
import Bulletin.Proofs.Template.Loading

/-!
# Items of lists

Which items of a list survive is decided by their shape, for each item on its own: a record is an
object, or a list no longer than the record has fields, and what the fields hold has no say.  The
options of a quiz are told by their mark instead.  What survives keeps its order, and a value that
is no list has no items.

## Main statements

- `decodesItems_list`: a field that is a list, whatever makes an item
- `Kind.decodesList`: the records in the lists of contents
- `items_that_fit`: blocks, records and options together
-/

namespace Bulletin

open Record (ofJson?)

/-! ## Shapes of items -/

/-- A value that a record with some number of fields is read from. -/
def fitsRecord (size : Nat) : Json → Bool
  | .object _ => true
  | .array xs => xs.length ≤ size
  | _ => false

/-- A value that an option of a quiz is read from: a text, or an object whose mark is true, false or
left out. -/
def fitsOption : Json → Bool
  | .string _ => true
  | .object ms =>
    match ms.lookup "correct" with
    | none | some .null | some (.bool _) => true
    | some _ => false
  | _ => false

/-- The value of a field, in an object or in a list of the fields in their order. -/
def Json.fieldOf? (keys : List String) (key : String) (j : Json) : Option Json :=
  (j.membersOf? keys).bind fun ms => ms.lookup key

/-- A list is what the items that fit are read as, each for itself and in their order.  Nothing is
read from a value that is no list. -/
def DecodesItems {α : Type} (fits : Json → Bool) (decode : Json → Option α) (v : Option Json)
    (as : List α) : Prop :=
  match v with
  | some (.array xs) => as.map some = (xs.filter fits).map decode
  | _ => as = []

/-- `ofJson?` accepts the values that `fitsRecord` describes. -/
theorem isSome_ofJson?_eq {α : Type} [Record α] (v : Json) :
    (ofJson? v : Option α).isSome = fitsRecord (Record.keys α).length v := by
  cases v with
  | array xs =>
    by_cases hlen : xs.length ≤ (Record.keys α).length <;>
      simp [ofJson?, Json.membersOf?, fitsRecord, hlen]
  | _ => simp [ofJson?, Json.membersOf?, fitsRecord]

/-- `QuizOption.ofJson?` accepts the values that `fitsOption` describes. -/
theorem QuizOption.isSome_ofJson?_eq (v : Json) : (QuizOption.ofJson? v).isSome = fitsOption v := by
  cases v with
  | object ms =>
    simp only [QuizOption.ofJson?, fitsOption, Option.isSome_map]
    cases ms.lookup "correct" with
    | none => rfl
    | some mark => cases mark <;> rfl
  | _ => rfl

/-- `foldAliases` changes what the fields hold, not how many there are. -/
theorem fitsRecord_foldAliases (size : Nat) (aliases : List (String × String)) (v : Json) :
    fitsRecord size (v.foldAliases aliases) = fitsRecord size v := by
  cases v with
  | array xs => simp [Json.foldAliases, Json.foldItems_eq_map, fitsRecord]
  | _ => simp [Json.foldAliases, fitsRecord]

/-! ## Lists -/

section Lists

variable {α β : Type} {fits : Json → Bool} {decode : Json → Option α} {v : Option Json}
  {as : List α}

/-- `filterMap` with a reader is reading what fits. -/
theorem map_some_filterMap (hfits : ∀ x, (decode x).isSome = fits x) (xs : List Json) :
    (xs.filterMap decode).map some = (xs.filter fits).map decode := by
  induction xs with
  | nil => rfl
  | cons x xs ih =>
    cases hx : decode x with
    | none =>
      have hfit : fits x = false := by rw [← hfits, hx]; rfl
      rw [List.filterMap_cons_none hx, List.filter_cons_of_neg (by rw [hfit]; decide), ih]
    | some a =>
      have hfit : fits x = true := by rw [← hfits, hx]; rfl
      rw [List.filterMap_cons_some hx, List.filter_cons_of_pos hfit, List.map_cons, List.map_cons,
        ih, hx]

/-- `Members.list` reads the items that fit. -/
theorem decodesItems_list (hfits : ∀ x, (decode x).isSome = fits x) (ms : Members) (key : String) :
    DecodesItems fits decode (ms.lookup key) (ms.list decode key) := by
  unfold Members.list
  cases ms.lookup key with
  | none => rfl
  | some w =>
    cases w with
    | array xs => exact map_some_filterMap hfits xs
    | _ => rfl

/-- `DecodesItems` for a folded list, said of the list before its aliases were renamed. -/
theorem DecodesItems.of_foldAliases {aliases : List (String × String)}
    (h : DecodesItems fits decode (v.map (Json.foldAliases aliases)) as)
    (hfits : ∀ x, fits (x.foldAliases aliases) = fits x) :
    DecodesItems fits (fun x => decode (x.foldAliases aliases)) v as := by
  cases v with
  | none => exact h
  | some w =>
    cases w with
    | array xs =>
      -- Folding changes neither which items fit nor their order.
      have hshapes : fits ∘ Json.foldAliases aliases = fits := funext hfits
      rw [Option.map_some, Json.foldAliases, Json.foldItems_eq_map] at h
      show as.map some = _
      have hfolded : as.map some = ((xs.map (Json.foldAliases aliases)).filter fits).map decode := h
      rw [hfolded, List.filter_map, List.map_map, hshapes]
      rfl
    | null | bool _ | number _ | string _ =>
      simp only [Option.map_some, Json.foldAliases] at h
      exact h
    | object ms =>
      rw [Option.map_some, Json.foldAliases_object] at h
      exact h

end Lists

/-! ## Contents -/

/-- `foldAliases` leaves a key that has no alias where it was. -/
theorem Json.fieldOf?_foldAliases {aliases : List (String × String)} {key : String}
    (hkey : ∀ entry ∈ aliases, key ≠ entry.1 ∧ key ≠ entry.2) (keys : List String) (j : Json) :
    (j.foldAliases aliases).fieldOf? keys key =
      (j.fieldOf? keys key).map (foldAliases aliases) := by
  unfold fieldOf?
  cases j with
  | object ms =>
    rw [foldAliases_object]
    exact Members.lookup_folded_of_forall_ne hkey ms
  | array xs =>
    rw [foldAliases, foldItems_eq_map, membersOf?, membersOf?, List.length_map]
    by_cases hlen : xs.length ≤ keys.length
    · -- Folding the items and then giving them their keys is giving them keys and then folding.
      have hfields : keys.zip (xs.map (foldAliases aliases)) =
          foldMembers aliases (keys.zip xs) := by
        rw [foldMembers_eq_map, List.zip_map_right]
        rfl
      rw [if_pos hlen, if_pos hlen, Option.bind_some, Option.bind_some, hfields]
      exact Members.lookup_foldMembers aliases (keys.zip xs) key
    · rw [if_neg hlen, if_neg hlen]
      rfl
  | _ => simp [foldAliases, membersOf?]

section Contents

variable {α β : Type} [Record α] {get : α → List β} {key : String}

/-- A list of a record holds what its items are read as. -/
theorem decodesItems_getD {fits : Json → Bool} {decode : Json → Option β}
    (hfits : ∀ x, (decode x).isSome = fits x)
    (hget : ∀ ms, get (Record.ofMembers ms) = ms.list decode key) (j : Json) :
    DecodesItems fits decode (j.fieldOf? (Record.keys α) key)
      (get ((ofJson? j).getD Record.blank)) := by
  unfold ofJson? Json.fieldOf?
  cases j.membersOf? (Record.keys α) with
  | none =>
    -- A content that is no record is empty.
    exact hget []
  | some ms =>
    have hlist := decodesItems_list hfits ms key
    rwa [← hget] at hlist

variable [Record β]

/-- A list of records in a content: for every value, the records are what the items of its field
that fit are read as. -/
def Kind.DecodesList (kind : Kind) (content : α → Content) (keys : List String) (key : String)
    (get : α → List β) (size : Nat) : Prop :=
  ∀ value, ∃ c, Content.ofTag kind.tag value = content c ∧
    DecodesItems (fitsRecord size) (fun item => ofJson? (item.foldAliases kind.aliases))
      (value.fieldOf? keys key) (get c)

/-- `DecodesList` for a list whose key has no alias. -/
theorem Kind.decodesList {kind : Kind} {content : α → Content}
    (hkind : ∀ value, Content.ofKind kind value = content (Content.decode kind value))
    (hget : ∀ ms, get (Record.ofMembers ms) = ms.list ofJson? key)
    (hkey : ∀ entry ∈ kind.aliases, key ≠ entry.1 ∧ key ≠ entry.2) :
    kind.DecodesList content (Record.keys α) key get (Record.keys β).length := by
  intro value
  have htag : Content.ofTag kind.tag value = Content.ofKind kind value := by
    rw [Content.ofTag, Kind.ofTag?_tag]
  refine ⟨Content.decode kind value, htag.trans (hkind value), ?_⟩
  have hitems := decodesItems_getD isSome_ofJson?_eq hget (value.foldAliases kind.aliases)
  rw [Json.fieldOf?_foldAliases hkey] at hitems
  exact hitems.of_foldAliases (fitsRecord_foldAliases _ _)

end Contents

/-- The items of every list are told by their shape: blocks, the records in the lists of contents,
and the options of a question, whose aliases are renamed before.  What a list holds is what its
items that fit are read as, each for itself and in their order; a value that is no list holds
none. -/
theorem items_that_fit :
    (∀ text v items, Json.parse text = .ok v → v.HasBlocks items →
      ∃ t, Template.read text = .ok t ∧
        DecodesItems (fitsRecord 4) ofJson? (some (.array items)) t.blocks) ∧
    Kind.footer.DecodesList .footer
      ["companyName", "address", "socialLinks", "contactUrl", "websiteUrl", "unsubscribeUrl",
        "align"] "socialLinks" Footer.socialLinks 2 ∧
    Kind.socialLinks.DecodesList .socialLinks ["links", "align"] "links" SocialLinks.links 2 ∧
    Kind.articleGrid.DecodesList .articleGrid ["articles"] "articles" ArticleGrid.articles 5 ∧
    Kind.eventCalendar.DecodesList .eventCalendar ["title", "events"] "events"
      EventCalendar.events 6 ∧
    Kind.quiz.DecodesList .quiz ["title", "questions"] "questions" Quiz.questions 4 ∧
    Kind.products.DecodesList .products ["title", "products"] "products" ProductList.products 6 ∧
    ∀ (item : Json) (q : QuizQuestion), ofJson? (item.foldAliases Kind.quiz.aliases) = some q →
      DecodesItems fitsOption QuizOption.ofJson?
        ((item.foldAliases Kind.quiz.aliases).fieldOf?
          ["question", "image", "options", "correctAnswer"] "options") q.options := by
  refine ⟨?_, ?_, ?_, ?_, ?_, ?_, ?_, ?_⟩
  · intro text v items hparse hitems
    obtain ⟨theme, hread⟩ := Template.exists_read_eq_ok_iff.2 ⟨v, items, hparse, hitems, rfl⟩
    -- The blocks are records of four fields.
    exact ⟨_, hread, map_some_filterMap isSome_ofJson?_eq items⟩
  · exact Kind.decodesList (fun _ => rfl) (fun _ => rfl) (by decide)
  · exact Kind.decodesList (fun _ => rfl) (fun _ => rfl) (by decide)
  · exact Kind.decodesList (fun _ => rfl) (fun _ => rfl) (by decide)
  · exact Kind.decodesList (fun _ => rfl) (fun _ => rfl) (by decide)
  · exact Kind.decodesList (fun _ => rfl) (fun _ => rfl) (by decide)
  · exact Kind.decodesList (fun _ => rfl) (fun _ => rfl) (by decide)
  · intro item q hq
    have hget : ∀ ms, (Record.ofMembers ms : QuizQuestion).options =
        ms.list QuizOption.ofJson? "options" := fun _ => rfl
    have hoptions := decodesItems_getD QuizOption.isSome_ofJson?_eq hget
      (item.foldAliases Kind.quiz.aliases)
    rwa [hq] at hoptions

/-- A value that an option would be read from if options were read from their fields, as records
are. -/
def fitsOptionFields : Json → Bool
  | .array xs => xs.length ≤ 2 && (QuizOption.mark? xs[1]?).isSome
  | v => fitsOption v

/-- The fields of an option, in their order, are no option. -/
theorem not_decodesItems_optionFields :
    let pair : Json := .array [.string "4", .bool true]
    let item : Json := .object [("options", .array [pair])]
    fitsOptionFields pair = true ∧
    ∃ q : QuizQuestion, ofJson? (item.foldAliases Kind.quiz.aliases) = some q ∧
      ¬∃ decode : Json → Option QuizOption, DecodesItems fitsOptionFields decode
        ((item.foldAliases Kind.quiz.aliases).fieldOf?
          ["question", "image", "options", "correctAnswer"] "options") q.options := by
  intro pair item
  refine ⟨rfl, ⟨none, none, [], none⟩, rfl, ?_⟩
  rintro ⟨decode, hdecode⟩
  -- The one item is among those that would have to be read, and nothing is read.
  have hlength : 0 = 1 := congrArg List.length hdecode
  contradiction

/-- Of a text, a number, and objects with an alias of the mark, without one and with a text for a
mark, three are options.  An empty list is a block. -/
theorem items_that_fit_options :
    let options : List Json := [.string "3", .number (.integer 4),
      .object [("label", .string "5"), ("isCorrect", .bool true)], .object [],
      .object [("correct", .string "yes")]]
    let item : Json := .object [("options", .array options)]
    let q : QuizQuestion := ⟨none, none, [⟨"3", false⟩, ⟨"5", true⟩, ⟨"", false⟩], none⟩
    (Json.parse "[[]]" = .ok (.array [.array []]) ∧
      (Json.array [.array []]).HasBlocks [.array []] ∧
      ∃ t, Template.read "[[]]" = .ok t ∧ t.blocks.length = 1) ∧
    ofJson? (item.foldAliases Kind.quiz.aliases) = some q ∧
    DecodesItems fitsOption QuizOption.ofJson?
      ((item.foldAliases Kind.quiz.aliases).fieldOf?
        ["question", "image", "options", "correctAnswer"] "options") q.options := by
  intro options item q
  have hparse : Json.parse "[[]]" = .ok (.array [.array []]) := by
    refine Json.parse_eq_ok_iff.2 ⟨[], ?_, rfl⟩
    exact .list (by decide) rfl (.lastItem (.emptyList (by decide) rfl rfl) rfl)
  have hblocks : (Json.array [.array []]).HasBlocks [.array []] := .inl rfl
  have hq : ofJson? (item.foldAliases Kind.quiz.aliases) = some q := rfl
  obtain ⟨htemplate, -, -, -, -, -, -, hoptions⟩ := items_that_fit
  obtain ⟨t, ht, hread⟩ := htemplate _ _ _ hparse hblocks
  have hlength : (t.blocks.map some).length = 1 := congrArg List.length hread
  rw [List.length_map] at hlength
  exact ⟨⟨hparse, hblocks, t, ht, hlength⟩, hq, hoptions item q hq⟩

end Bulletin
