import Bulletin.Proofs.Json.Record
import Bulletin.Proofs.Template.Loading

/-!
# Blocks and themes on their own and in templates

A block can be read from a text of its own or as an item of a template's list, and a theme from a
text of its own or as a member of a template's object.  The two ways share nothing but what is made
of the fields in the end: one goes over the text and passes over what it does not need, the other
takes apart a value that has been read whole.  They agree, where a text gives no field twice.

## Main statements

- `parse_listed`, `parse_themed`: what stands in a template has the value it has alone
- `reading_alone_agrees`: blocks and themes are the same alone and in a template
-/

namespace Bulletin

open Json (Reads)

/-! ## What a block and a theme depend on -/

instance : Record.ByKeys Block where
  ofMembers_congr ms ms' h := by
    have hid := h "id" (by decide)
    have htype := h "type" (by decide)
    have hcontent := h "content" (by decide)
    have hstyle := h "style" (by decide)
    simp only [Record.ofMembers, Members.text, hid, htype, hcontent, hstyle]

instance : Record.ByKeys Theme where
  ofMembers_congr ms ms' h := by
    have hbackground := h "containerBackground" (by decide)
    have htext := h "containerTextColor" (by decide)
    have hlink := h "globalLinkColor" (by decide)
    simp only [Record.ofMembers, Members.text, hbackground, htext, hlink]

namespace Template

/-! ## Texts in templates -/

/-- A text as the one item of a list. -/
def listed (text : String) : String := "[" ++ text ++ "]"

/-- A text as the theme of a template without blocks. -/
def themed (text : String) : String := "\x7b\"blocks\":[],\"theme\":" ++ text ++ "\x7d"

/-- `listed` puts brackets around the text. -/
theorem toList_listed (text : String) : (listed text).toList = '[' :: (text.toList ++ [']']) := by
  simp [listed, String.toList_append]

/-- `themed` puts the text under the second key, behind an empty list. -/
theorem toList_themed (text : String) :
    (themed text).toList =
      '\x7b' :: '"' :: ("blocks".toList ++ '"' :: ':' :: '[' :: ']' :: ',' :: '"' ::
        ("theme".toList ++ '"' :: ':' :: (text.toList ++ ['\x7d']))) := by
  unfold themed
  simp only [String.toList_append, List.append_assoc]
  rfl

variable {text : String} {v w : Json}

/-- `Json.parse` reads in `listed text` the one item that it reads in `text`. -/
theorem parse_listed (hparse : Json.parse text = .ok v)
    (hlisted : Json.parse (listed text) = .ok w) : w = .array [v] := by
  obtain ⟨rest, hread, -⟩ := Json.parse_eq_ok_iff.1 hlisted
  rw [toList_listed] at hread
  obtain ⟨rfl, hclose⟩ | ⟨vs, rfl, hitems⟩ := hread.of_bracket rfl
  · -- A value stands behind the bracket, so the list is not the empty one.
    obtain ⟨rest', halone, hsign⟩ := @Json.reads_append_cons _ _ hparse ']' rfl rfl []
    obtain ⟨c, mid, hfirst, hc⟩ := (Reads.lastItem halone hsign).exists_first
    rw [hfirst] at hclose
    exact absurd (List.cons.inj hclose).1 hc
  · cases hitems with
    | lastItem hvalue hclose =>
      obtain ⟨rfl, -⟩ := Json.eq_of_reads_append hparse rfl rfl hvalue
      rfl
    | item hvalue hcomma _ =>
      obtain ⟨-, hsign⟩ := Json.eq_of_reads_append hparse rfl rfl hvalue
      simp [hsign] at hcomma

/-- `Json.parse` reads in `themed text` the theme that it reads in `text`. -/
theorem parse_themed (hparse : Json.parse text = .ok v)
    (hthemed : Json.parse (themed text) = .ok w) :
    w = .object [("blocks", .array []), ("theme", v)] := by
  obtain ⟨rest, hread, -⟩ := Json.parse_eq_ok_iff.1 hthemed
  rw [toList_themed] at hread
  obtain ⟨ms, rfl, hmembers⟩ := hread.exists_members rfl rfl
  have hblocks := @Json.leaves_readString_append "blocks".toList (by simp)
    (':' :: '[' :: ']' :: ',' :: '"' ::
      ("theme".toList ++ '"' :: ':' :: (text.toList ++ ['\x7d'])))
  have htheme := @Json.leaves_readString_append "theme".toList (by simp)
    (':' :: (text.toList ++ ['\x7d']))
  -- Behind the first key stands an empty list.
  have hempty : ∀ {depth back u mid}, Reads depth ('[' :: ']' :: back) (.value u) mid →
      u = .array [] ∧ mid = back := by
    intro depth back u mid h
    have hlist : Reads 2 ('[' :: ']' :: back) (.value (.array [])) back :=
      .emptyList (by decide) rfl rfl
    exact h.unique hlist
  -- The first member is the list and the second the theme, and no other split of the text is one.
  cases hmembers with
  | lastMember hkey hcolon hvalue hclose =>
    obtain ⟨rfl, rfl⟩ := hkey.unique hblocks
    cases hcolon
    obtain ⟨-, rfl⟩ := hempty hvalue
    cases hclose
  | member hkey hcolon hvalue hcomma hquote hmembers =>
    obtain ⟨rfl, rfl⟩ := hkey.unique hblocks
    cases hcolon
    obtain ⟨rfl, rfl⟩ := hempty hvalue
    cases hcomma
    cases hquote
    cases hmembers with
    | lastMember hkey hcolon hvalue _ =>
      obtain ⟨rfl, rfl⟩ := hkey.unique htheme
      cases hcolon
      obtain ⟨rfl, -⟩ := Json.eq_of_reads_append hparse rfl rfl hvalue
      rfl
    | member hkey hcolon hvalue hcomma _ _ =>
      obtain ⟨rfl, rfl⟩ := hkey.unique htheme
      cases hcolon
      obtain ⟨-, hsign⟩ := Json.eq_of_reads_append hparse rfl rfl hvalue
      simp [hsign] at hcomma

/-! ## Reading alone -/

/-- `Block.read` reads the block that `Template.read` finds in the list of one item. -/
theorem read_block_eq_ok_iff (hparse : Json.parse text = .ok v)
    (hlisted : Json.parse (listed text) = .ok w)
    (honce : Json.GivesOnce (Record.keys Block) text) {b : Block} :
    Block.read text = .ok b ↔ ∃ t, read (listed text) = .ok t ∧ t.blocks = [b] := by
  obtain rfl := parse_listed hparse hlisted
  rw [Block.read, Record.read_eq_ok_iff hparse honce, read_of_parse hlisted]
  simp only [ofJson, Except.ok.injEq, exists_eq_left', blocksOf]
  cases hblock : (Record.ofJson? v : Option Block) with
  | none => simp [hblock]
  | some b' => simp [hblock]

/-- `Block.read` refuses a text if `Template.read` finds no block in the list of one item. -/
theorem read_block_eq_error_iff (hparse : Json.parse text = .ok v)
    (hlisted : Json.parse (listed text) = .ok w)
    (honce : Json.GivesOnce (Record.keys Block) text) :
    (∃ e, Block.read text = .error e) ↔ ∃ t, read (listed text) = .ok t ∧ t.blocks = [] := by
  obtain rfl := parse_listed hparse hlisted
  have hread := @read_block_eq_ok_iff _ _ _ hparse hlisted honce
  -- The list has one item, so that its template has one block or none.
  rw [read_of_parse hlisted] at hread ⊢
  simp only [ofJson, Except.ok.injEq, exists_eq_left', blocksOf] at hread ⊢
  cases hblock : (Record.ofJson? v : Option Block) with
  | none =>
    have hnil : [v].filterMap (Record.ofJson? : Json → Option Block) = [] := by simp [hblock]
    simp only [hnil, iff_true]
    cases htext : Block.read text with
    | error e => exact ⟨e, rfl⟩
    | ok b => simpa [hnil] using hread.1 htext
  | some b =>
    have hone : [v].filterMap (Record.ofJson? : Json → Option Block) = [b] := by simp [hblock]
    rw [hone] at hread ⊢
    rw [hread.2 rfl]
    simp

/-- `Theme.read` reads the theme that `Template.read` finds in `themed text`. -/
theorem exists_read_theme {ms : Members} (hparse : Json.parse text = .ok (.object ms))
    (hthemed : Json.parse (themed text) = .ok w)
    (honce : Json.GivesOnce (Record.keys Theme) text) :
    ∃ theme, Theme.read text = .ok theme ∧ read (themed text) = .ok ⟨theme, []⟩ := by
  obtain rfl := parse_themed hparse hthemed
  refine ⟨Record.ofMembers ms, ?_, ?_⟩
  · rw [Theme.read, Record.read_eq_ok_iff hparse honce]
    rfl
  · rw [read_of_parse hthemed]
    rfl

/-! ## A divider and a red theme -/

/-- The text of a divider with a member that no block has. -/
def dividerText : String := "\x7b\"type\":\"divider\",\"x\":[]\x7d"

/-- The members of the divider. -/
def dividerMembers : Members := [("type", .string "divider"), ("x", .array [])]

/-- The text of a theme that gives one color. -/
def redText : String := "\x7b\"globalLinkColor\":\"red\"\x7d"

/-- The members of the theme. -/
def redMembers : Members := [("globalLinkColor", .string "red")]

/-- `Json.Writes` the members of the divider in front of any rest. -/
theorem writes_dividerMembers {depth : Nat} (hdepth : 1 < depth) (rest : List Char) :
    Json.Writes depth ("type".toList ++ '"' :: ':' :: '"' :: ("divider".toList ++ '"' :: ',' ::
      '"' :: ("x".toList ++ '"' :: ':' :: '[' :: ']' :: '\x7d' :: rest))) dividerMembers rest := by
  have htype := @Json.leaves_readString_append "type".toList (by simp)
  have hdivider := @Json.leaves_readString_append "divider".toList (by simp)
  have hx := @Json.leaves_readString_append "x".toList (by simp)
  exact .more ⟨_, _, _, htype _, rfl, .string rfl (hdivider _), rfl⟩ rfl rfl
    (.last ⟨_, _, _, hx _, rfl, .emptyList hdepth rfl rfl, rfl⟩ rfl)

/-- `Json.Writes` the members of the theme in front of any rest. -/
theorem writes_redMembers (depth : Nat) (rest : List Char) :
    Json.Writes depth ("globalLinkColor".toList ++ '"' :: ':' :: '"' :: ("red".toList ++ '"' ::
      '\x7d' :: rest)) redMembers rest := by
  have hkey := @Json.leaves_readString_append "globalLinkColor".toList (by simp)
  have hred := @Json.leaves_readString_append "red".toList (by simp)
  exact .last ⟨_, _, _, hkey _, rfl, .string rfl (hred _), rfl⟩ rfl

/-- `dividerText` is an object of `dividerMembers`. -/
theorem isObject_dividerText : Json.IsObject dividerText dividerMembers :=
  ⟨dividerText.toList.tail, [], rfl, rfl, .inr ⟨_, by rfl, writes_dividerMembers (by decide) []⟩⟩

/-- `redText` is an object of `redMembers`. -/
theorem isObject_redText : Json.IsObject redText redMembers :=
  ⟨redText.toList.tail, [], rfl, rfl, .inr ⟨_, by rfl, writes_redMembers _ []⟩⟩

/-- `Json.parse` reads the divider in a list. -/
theorem parse_listed_dividerText :
    Json.parse (listed dividerText) = .ok (.array [.object dividerMembers]) := by
  have hitem : Reads 127 (dividerText.toList ++ [']']) (.value (.object dividerMembers)) [']'] :=
    .object (by decide) (by rfl) (by rfl) ((writes_dividerMembers (by decide) [']']).reads [])
  refine Json.parse_eq_ok_iff.2 ⟨[], ?_, rfl⟩
  rw [toList_listed]
  exact .list (by decide) rfl (.lastItem hitem rfl)

/-- `Json.parse` reads the theme in an object. -/
theorem parse_themed_redText : Json.parse (themed redText) =
    .ok (.object [("blocks", .array []), ("theme", .object redMembers)]) := by
  have htheme : Reads 127 (redText.toList ++ ['\x7d']) (.value (.object redMembers)) ['\x7d'] :=
    .object (by decide) (by rfl) (by rfl) ((writes_redMembers 126 ['\x7d']).reads [])
  refine Json.parse_eq_ok_iff.2 ⟨[], ?_, rfl⟩
  rw [toList_themed]
  refine .object (by decide) rfl rfl ?_
  refine .member (Json.leaves_readString_append (by simp) _) rfl
    (.emptyList (by decide) rfl rfl) rfl rfl ?_
  exact .lastMember (Json.leaves_readString_append (by simp) _) rfl htheme rfl

/-! ## Agreement -/

/-- Take a text that can be read alone and in a list, and that gives no field of a block twice if it
is an object.  Read alone it is some block exactly when the template with the list has that block
and no other, and it is refused exactly when the template has none.  An object that gives no color
of a theme twice is read alone as the theme of the template it stands in. -/
theorem reading_alone_agrees :
    (∀ text v w, Json.parse text = .ok v → Json.parse (listed text) = .ok w →
      Json.GivesOnce ["id", "type", "content", "style"] text →
        (∀ b, Block.read text = .ok b ↔ ∃ t, read (listed text) = .ok t ∧ t.blocks = [b]) ∧
        ((∃ e, Block.read text = .error e) ↔
          ∃ t, read (listed text) = .ok t ∧ t.blocks = [])) ∧
    ∀ text ms w, Json.parse text = .ok (.object ms) → Json.parse (themed text) = .ok w →
      Json.GivesOnce ["containerBackground", "containerTextColor", "globalLinkColor"] text →
        ∃ theme, Theme.read text = .ok theme ∧ read (themed text) = .ok ⟨theme, []⟩ := by
  constructor
  · intro text v w hparse hlisted honce
    exact ⟨fun _ => read_block_eq_ok_iff hparse hlisted honce,
      read_block_eq_error_iff hparse hlisted honce⟩
  · intro text ms w hparse hthemed honce
    exact exists_read_theme hparse hthemed honce

/-- The divider and the theme alone and in a template. -/
theorem reading_alone_agrees_divider :
    let b : Block := ⟨"", .divider, none⟩
    let red : Theme := ⟨"#ffffff", "#333333", "red"⟩
    (Json.parse dividerText = .ok (.object dividerMembers) ∧
      Json.parse (listed dividerText) = .ok (.array [.object dividerMembers]) ∧
      Json.GivesOnce ["id", "type", "content", "style"] dividerText) ∧
    (read (listed dividerText) = .ok ⟨.standard, [b]⟩ ∧ Block.read dividerText = .ok b) ∧
    (Json.parse redText = .ok (.object redMembers) ∧
      Json.parse (themed redText) =
        .ok (.object [("blocks", .array []), ("theme", .object redMembers)]) ∧
      Json.GivesOnce ["containerBackground", "containerTextColor", "globalLinkColor"] redText) ∧
    read (themed redText) = .ok ⟨red, []⟩ ∧ Theme.read redText = .ok red := by
  have hparse : Json.parse dividerText = .ok (.object dividerMembers) :=
    Json.parse_eq_object_iff.2 ⟨_, isObject_dividerText, by rfl⟩
  have hparse' : Json.parse redText = .ok (.object redMembers) :=
    Json.parse_eq_object_iff.2 ⟨_, isObject_redText, rfl⟩
  have honce : Json.GivesOnce ["id", "type", "content", "style"] dividerText :=
    isObject_dividerText.givesOnce (by decide)
  have honce' : Json.GivesOnce ["containerBackground", "containerTextColor", "globalLinkColor"]
      redText := isObject_redText.givesOnce (by decide)
  intro b red
  have hread : read (listed dividerText) = .ok ⟨.standard, [b]⟩ := by
    rw [read_of_parse parse_listed_dividerText]
    rfl
  have hread' : read (themed redText) = .ok ⟨red, []⟩ := by
    rw [read_of_parse parse_themed_redText]
    rfl
  obtain ⟨hblocks, hthemes⟩ := reading_alone_agrees
  obtain ⟨halone, -⟩ := hblocks dividerText _ _ hparse parse_listed_dividerText honce
  obtain ⟨theme, htheme, hsame⟩ :=
    hthemes redText redMembers _ hparse' parse_themed_redText honce'
  rw [hread'] at hsame
  cases hsame
  exact ⟨⟨hparse, parse_listed_dividerText, honce⟩, ⟨hread, (halone b).2 ⟨_, hread, rfl⟩⟩,
    ⟨hparse', parse_themed_redText, honce'⟩, hread', htheme⟩

end Template

end Bulletin
