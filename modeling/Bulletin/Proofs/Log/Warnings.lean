import Bulletin.Proofs.Command.Render

/-!
# What the log says without being asked

A log that is kept from warnings on tells about one thing only: the content of a block that does not
fit the block's kind, so that the block is drawn as if it had none.  Items that are left out of a
list are told about too, but not as warnings; there is one event for each of them, so that nothing
is left out in silence.

## Main statements

- `Json.length_flatMap_itemEvents_add`: each item of a list is kept or told about
- `Content.warns_iff`: `Content.decodingEvents` warns of content that is read as empty, and is not
  null
- `Template.warns_iff`: what `Template.decodingEvents` warns of
- `Template.not_isWarning_of_mem_drawingEvents`: drawing warns of nothing
- `World.logText_eq_empty_iff`, `RenderCommand.silent_iff`: when the log stays empty, for any events
  and for those of a rendering
-/

namespace Bulletin

/-- Is an event told to a log that no `-v` is given for? -/
def LogEvent.IsWarning (e : LogEvent) : Prop := e.level = .warn

/-- `IsWarning` does not hold of the one event there is, if that is of another level. -/
theorem LogEvent.not_isWarning_of_mem_singleton {e e' : LogEvent} (he' : e' ∈ [e])
    (h : e.level ≠ .warn) : ¬e'.IsWarning := by
  rwa [List.mem_singleton.1 he']

namespace Json

/-! ## Items that are left out -/

/-- Why a value is not taken for a record, if it is not. -/
def refusal? (name : String) (keys : List String) : Json → Option DecodeError
  | .object _ => none
  | .array xs => if xs.length ≤ keys.length then none else some (.tooLong xs.length)
  | v => some (.wrongShape v name)

/-- `refusal?` tells the values that `membersOf?` refuses. -/
theorem refusal?_eq_none_iff {name : String} {keys : List String} {j : Json} :
    j.refusal? name keys = none ↔ (j.membersOf? keys).isSome = true := by
  cases j with
  | array xs =>
    rw [refusal?, membersOf?]
    split <;> simp
  | _ => simp [refusal?, membersOf?]

/-- `recordEvents` are events of the fields, and then one for a value that is refused. -/
theorem recordEvents_eq (name : String) (keys : List String) (fields : Members → List LogEvent)
    (refused : DecodeError → LogEvent) (j : Json) :
    ∃ before, recordEvents name keys fields refused j =
        before ++ (j.refusal? name keys).toList.map refused ∧
      ∀ e ∈ before, ∃ ms, e ∈ fields ms := by
  cases j with
  | object ms => exact ⟨fields ms, (List.append_nil _).symm, fun e he => ⟨ms, he⟩⟩
  | array xs =>
    refine ⟨fields (keys.zip xs), ?_, fun e he => ⟨_, he⟩⟩
    rw [recordEvents, refusal?]
    split <;> rfl
  | _ => exact ⟨[], rfl, fun e he => absurd he List.not_mem_nil⟩

/-- `itemEvents` are one event for an item that is left out, and none for one that is kept. -/
theorem length_itemEvents_add (name : String) (α : Type) [Record α] (j : Json) :
    (itemEvents name α j).length + (Record.ofJson? j : Option α).toList.length = 1 := by
  obtain ⟨before, hevents, hbefore⟩ :=
    recordEvents_eq name (Record.keys α) (fun _ => []) .itemSkipped j
  -- An item that is a record has no events of fields, since its fields are no lists.
  have hnil : before = [] := by
    refine List.eq_nil_iff_forall_not_mem.2 fun e he => ?_
    obtain ⟨ms, hms⟩ := hbefore e he
    cases hms
  rw [itemEvents, hevents, hnil, Record.ofJson?, List.nil_append, List.length_map]
  have hiff := @refusal?_eq_none_iff name (Record.keys α) j
  cases hrefusal : j.refusal? name (Record.keys α) <;>
    cases hmembers : j.membersOf? (Record.keys α) <;> simp_all

/-- `itemEvents` of all items and the items kept are as many as the list has items. -/
theorem length_flatMap_itemEvents_add (name : String) (α : Type) [Record α] (xs : List Json) :
    (xs.flatMap (itemEvents name α)).length +
      (xs.filterMap (Record.ofJson? : Json → Option α)).length = xs.length := by
  induction xs with
  | nil => rfl
  | cons x xs ih =>
    have hitem := length_itemEvents_add name α x
    have hkept : ((x :: xs).filterMap (Record.ofJson? : Json → Option α)).length =
        (Record.ofJson? x : Option α).toList.length +
          (xs.filterMap (Record.ofJson? : Json → Option α)).length := by
      rw [List.filterMap_cons]
      cases (Record.ofJson? x : Option α) with
      | none => exact (Nat.zero_add _).symm
      | some a => exact Nat.add_comm _ 1
    rw [List.flatMap_cons, List.length_append, List.length_cons, hkept]
    omega

/-- `fieldEvents` are no warnings if the events of the items are none. -/
theorem not_isWarning_of_mem_fieldEvents {item : Json → List LogEvent}
    (hitem : ∀ j, ∀ e ∈ item j, ¬e.IsWarning) (ms : Members) (key : String) :
    ∀ e ∈ fieldEvents item ms key, ¬e.IsWarning := by
  intro e he
  unfold fieldEvents at he
  split at he
  · obtain ⟨j, -, hj⟩ := List.mem_flatMap.1 he
    exact hitem j e hj
  · cases he
  · cases he
  · exact LogEvent.not_isWarning_of_mem_singleton he nofun

/-- `recordEvents` are no warnings if the events of the fields are none. -/
theorem not_isWarning_of_mem_recordEvents {fields : Members → List LogEvent}
    (hfields : ∀ ms, ∀ e ∈ fields ms, ¬e.IsWarning) (name : String) (keys : List String)
    (j : Json) : ∀ e ∈ recordEvents name keys fields .itemSkipped j, ¬e.IsWarning := by
  intro e he
  obtain ⟨before, hevents, hbefore⟩ := recordEvents_eq name keys fields .itemSkipped j
  rw [hevents, List.mem_append] at he
  rcases he with he | he
  · obtain ⟨ms, hms⟩ := hbefore e he
    exact hfields ms e hms
  · obtain ⟨error, -, rfl⟩ := List.mem_map.1 he
    simp [LogEvent.IsWarning, LogEvent.level]

/-- `recordEvents` have a warning for a value that is refused, if that is told as one and the events
of the fields are none. -/
theorem exists_isWarning_recordEvents_iff {fields : Members → List LogEvent}
    {refused : DecodeError → LogEvent} (hfields : ∀ ms, ∀ e ∈ fields ms, ¬e.IsWarning)
    (hrefused : ∀ error, (refused error).IsWarning) (name : String) (keys : List String)
    (j : Json) :
    (∃ e ∈ recordEvents name keys fields refused j, e.IsWarning) ↔ j.membersOf? keys = none := by
  obtain ⟨before, hevents, hbefore⟩ := recordEvents_eq name keys fields refused j
  rw [hevents]
  have hrefusal := @refusal?_eq_none_iff name keys j
  cases hcause : j.refusal? name keys with
  | none =>
    have hmembers : j.membersOf? keys ≠ none := Option.isSome_iff_ne_none.1 (hrefusal.1 hcause)
    simp only [Option.toList_none, List.map_nil, List.append_nil, hmembers, iff_false]
    -- The events of the fields are all that is left.
    rintro ⟨e, he, hwarning⟩
    obtain ⟨ms, hms⟩ := hbefore e he
    exact hfields ms e hms hwarning
  | some error =>
    have hmembers : j.membersOf? keys = none := by
      rw [hcause] at hrefusal
      simpa using hrefusal
    simp only [hmembers, iff_true]
    exact ⟨refused error, List.mem_append_right _ (by simp), hrefused error⟩

/-- `itemEvents` are no warnings. -/
theorem not_isWarning_of_mem_itemEvents (name : String) (α : Type) [Record α] (j : Json) :
    ∀ e ∈ itemEvents name α j, ¬e.IsWarning :=
  not_isWarning_of_mem_recordEvents (fun _ _ he => absurd he List.not_mem_nil) name _ j

end Json

/-! ## Warnings -/

/-- `Kind.fieldEvents` has no warnings: what a list leaves out is not warned of. -/
theorem Kind.not_isWarning_of_mem_fieldEvents (kind : Kind) (ms : Members) :
    ∀ e ∈ kind.fieldEvents ms, ¬e.IsWarning := by
  -- A quiz has lists of questions with lists of options; no other kind has lists in its items.
  have hoption (j : Json) : ∀ e ∈ QuizOption.itemEvents j, ¬e.IsWarning := by
    intro e he
    unfold QuizOption.itemEvents at he
    split at he
    · cases he
    · exact LogEvent.not_isWarning_of_mem_singleton he nofun
  have hquestion (j : Json) : ∀ e ∈ QuizQuestion.itemEvents j, ¬e.IsWarning :=
    Json.not_isWarning_of_mem_recordEvents
      (fun ms => Json.not_isWarning_of_mem_fieldEvents hoption ms "options") _ _ j
  cases kind with
  | quiz => exact Json.not_isWarning_of_mem_fieldEvents hquestion ms _
  | footer | articleGrid | eventCalendar | products | socialLinks =>
    exact Json.not_isWarning_of_mem_fieldEvents (Json.not_isWarning_of_mem_itemEvents _ _) ms _
  | _ => exact fun e he => absurd he List.not_mem_nil

/-- Is a value not null, and neither an object nor a list that is short enough for the content of
this kind, with its aliases renamed? -/
def Json.Unfit (kind : Kind) (value : Json) : Prop :=
  value.isNull = false ∧ ∃ name keys, kind.record? = some (name, keys) ∧
    (value.foldAliases kind.aliases).membersOf? keys = none

/-- `Content.decodingEvents` has a warning for a value that does not fit, and no other warning. -/
theorem Content.warns_iff (kind : Kind) (value : Json) :
    (∃ e ∈ decodingEvents kind value, e.IsWarning) ↔ value.Unfit kind := by
  unfold decodingEvents Json.Unfit
  cases hrecord : kind.record? with
  | none => simp
  | some record =>
    obtain ⟨name, keys⟩ := record
    cases hnull : value.isNull with
    | true => simp
    | false =>
      have hwarns := Json.exists_isWarning_recordEvents_iff kind.not_isWarning_of_mem_fieldEvents
        (fun error => (rfl : (LogEvent.contentEmptied kind.tag error).IsWarning)) name keys
        (value.foldAliases kind.aliases)
      dsimp only
      rw [if_neg Bool.false_ne_true, hwarns]
      constructor
      · exact fun h => ⟨rfl, name, keys, rfl, h⟩
      · rintro ⟨-, _, _, ⟨⟩, h⟩
        exact h

/-- `Content.ofKind` reads a value that is warned of as if it were null. -/
theorem Content.ofKind_eq_of_unfit {kind : Kind} {value : Json} (h : value.Unfit kind) :
    ofKind kind value = ofKind kind .null := by
  obtain ⟨-, name, keys, hrecord, hmembers⟩ := h
  have hdecode (α : Type) [Record α] (hkeys : keys = Record.keys α) :
      (decode kind value : α) = decode kind .null := by
    subst hkeys
    rw [decode, Record.ofJson?, hmembers]
    rfl
  cases kind with
  | divider => cases hrecord
  | _ =>
    obtain rfl := (Prod.mk.inj (Option.some.inj hrecord)).2
    simp only [ofKind, hdecode _ rfl]

/-- Is a value a block of some kind whose content does not fit? -/
def Json.IsUnfitBlock (j : Json) : Prop :=
  ∃ ms kind, j.membersOf? (Record.keys Block) = some ms ∧
    Kind.ofTag? ((ms.text "type").getD "") = some kind ∧
    ((ms.lookup "content").getD .null).Unfit kind

/-- `Block.itemEvents` has a warning for a block whose content does not fit, and no other warning:
what is no block is left out without one. -/
theorem Block.warns_iff (j : Json) : (∃ e ∈ itemEvents j, e.IsWarning) ↔ j.IsUnfitBlock := by
  unfold itemEvents Json.IsUnfitBlock
  cases hmembers : j.membersOf? (Record.keys Block) with
  | none =>
    constructor
    · rintro ⟨e, he, hwarning⟩
      exact absurd hwarning (Json.not_isWarning_of_mem_itemEvents _ _ j e he)
    · rintro ⟨_, _, ⟨⟩, -⟩
  | some ms =>
    dsimp only
    unfold memberEvents
    -- A block of unknown kind has no content to warn of.
    cases htag : Kind.ofTag? ((ms.text "type").getD "") with
    | none =>
      constructor
      · rintro ⟨e, he, -⟩
        cases he
      · rintro ⟨_, kind, ⟨⟩, hkind, -⟩
        rw [htag] at hkind
        cases hkind
    | some kind =>
      refine (Content.warns_iff kind _).trans ⟨fun h => ⟨ms, kind, rfl, htag, h⟩, ?_⟩
      rintro ⟨_, kind', ⟨⟩, hkind, hunfit⟩
      rw [htag] at hkind
      cases hkind
      exact hunfit

/-- `Template.decodingEvents` has a warning if one of the blocks has content that does not fit, and
otherwise none. -/
theorem Template.warns_iff (value : Json) :
    (∃ e ∈ decodingEvents value, e.IsWarning) ↔
      ∃ items, (value = .array items ∨
          ∃ ms, value = .object ms ∧ ms.lookup "blocks" = some (.array items)) ∧
        ∃ item ∈ items, item.IsUnfitBlock := by
  -- A warning about the list is one about an item of it.
  have hitems (items : List Json) : (∃ e ∈ items.flatMap Block.itemEvents, e.IsWarning) ↔
      ∃ item ∈ items, item.IsUnfitBlock := by
    simp only [← Block.warns_iff, List.mem_flatMap]
    constructor
    · rintro ⟨e, ⟨item, hitem, he⟩, hwarning⟩
      exact ⟨item, hitem, e, he, hwarning⟩
    · rintro ⟨item, hitem, e, he, hwarning⟩
      exact ⟨e, ⟨item, hitem, he⟩, hwarning⟩
  cases value with
  | array items => simpa [decodingEvents] using hitems items
  | object ms =>
    rw [decodingEvents]
    cases hblocks : ms.lookup "blocks" with
    | none => simp [hblocks]
    | some blocks =>
      cases blocks with
      | array items => simpa [hblocks] using hitems items
      | _ => simp [hblocks]
  | _ => simp [decodingEvents]

/-- `Block.drawingEvents` has no warnings. -/
theorem Block.not_isWarning_of_mem_drawingEvents (b : Block) (html : String) :
    ∀ e ∈ b.drawingEvents html, ¬e.IsWarning := by
  intro e he
  rcases List.mem_append.1 he with he | he
  · -- There may be a notice on a block of unknown kind, or on products that are cut off.
    unfold noticeEvents at he
    split at he
    · exact LogEvent.not_isWarning_of_mem_singleton he nofun
    · split at he
      · exact LogEvent.not_isWarning_of_mem_singleton he nofun
      · cases he
    · cases he
  · exact LogEvent.not_isWarning_of_mem_singleton he nofun

/-- `Template.drawingEvents` has no warnings: what is not drawn was warned of, or is an error that a
check reports. -/
theorem Template.not_isWarning_of_mem_drawingEvents (t : Template) (o : RenderOptions)
    (currentYear : Int) : ∀ e ∈ t.drawingEvents o currentYear, ¬e.IsWarning := by
  intro e he
  rcases List.mem_append.1 he with he | he
  · obtain ⟨events, hevents, he⟩ := List.mem_flatten.1 he
    obtain ⟨i, hi, rfl⟩ := List.mem_iff_getElem.1 hevents
    rw [List.getElem_zipWith] at he
    exact Block.not_isWarning_of_mem_drawingEvents _ _ e he
  · exact LogEvent.not_isWarning_of_mem_singleton he nofun

/-! ## An empty log -/

/-- `LogLevel.ofVerbosity` lets nothing but warnings through when no `-v` is given. -/
theorem LogSettings.keeps_zero_iff {s : LogSettings} (h : s.filter = none) (e : LogEvent) :
    s.keeps (.ofVerbosity 0) e = true ↔ e.IsWarning := by
  have hadmits : ∀ level, (LogLevel.ofVerbosity 0).admits level = true ↔ level = .warn := by
    rintro (_ | _ | _) <;> decide
  rw [keeps, h]
  exact hadmits e.level

/-- `logText` without `-v` is empty if nothing is warned of, as long as every line that it could
have is one. -/
theorem World.logText_eq_empty_iff {w : World} (hfilter : w.log.filter = none)
    (hlayout : ∀ e, w.log.layout w.log.time e ≠ "") (events : List LogEvent) :
    w.logText (.ofVerbosity 0) events = "" ↔ ∀ e ∈ events, ¬e.IsWarning := by
  have hline (e : LogEvent) : w.log.line (.ofVerbosity 0) e = "" ↔ ¬e.IsWarning := by
    rw [← LogSettings.keeps_zero_iff hfilter, LogSettings.line]
    cases w.log.keeps (.ofVerbosity 0) e <;> simp [hlayout]
  unfold logText
  -- A line for each event, of which each has to be empty.
  induction events with
  | nil => simp
  | cons e events ih =>
    rw [List.map_cons, String.join_cons, String.append_eq_empty_iff, hline, List.forall_mem_cons]
    exact and_congr_right fun _ => ih

/-- `eventsOn` leave the log without `-v` empty if the content of each block fits, whatever else is
wrong with the template and whatever becomes of the document. -/
theorem RenderCommand.silent_iff {c : RenderCommand} {w : World} {text : String} {value : Json}
    (hfilter : w.log.filter = none) (hlayout : ∀ e, w.log.layout w.log.time e ≠ "")
    (hsource : w.source c.template = .ok text) (hparse : Json.parse text = .ok value) :
    w.logText (.ofVerbosity 0) (c.eventsOn w) = "" ↔
      ∀ items, (value = .array items ∨
          ∃ ms, value = .object ms ∧ ms.lookup "blocks" = some (.array items)) →
        ∀ item ∈ items, ¬item.IsUnfitBlock := by
  have hloading : w.loadingEvents c.template = Template.decodingEvents value := by
    rw [World.loadingEvents, hsource]
    dsimp only
    rw [Template.loadingEvents, hparse]
  have hevents : (∀ e ∈ c.eventsOn w, ¬e.IsWarning) ↔
      ¬∃ e ∈ Template.decodingEvents value, e.IsWarning := by
    simp only [eventsOn, List.forall_mem_append, hloading, not_exists, not_and]
    refine and_iff_left fun e he => ?_
    -- Drawing has nothing to add.
    cases hdrawn : c.drawn w with
    | error f =>
      rw [hdrawn] at he
      cases he
    | ok r =>
      rw [hdrawn] at he
      rcases List.mem_cons.1 he with rfl | he
      · simp [LogEvent.IsWarning, LogEvent.level]
      · exact Template.not_isWarning_of_mem_drawingEvents _ _ _ e he
  rw [World.logText_eq_empty_iff hfilter hlayout, hevents, Template.warns_iff]
  simp only [not_exists, not_and]

end Bulletin
