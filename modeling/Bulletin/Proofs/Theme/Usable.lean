import Bulletin.Document
import Bulletin.Proofs.Json.Printed
import Bulletin.Proofs.Template.Agreement
import Bulletin.Proofs.Yaml.Mapping
import Bulletin.Theme.Yaml

/-!
# Themes that are read have no blank color

A theme comes from a JSON text, from a YAML text or from the object of a template.  In each of these
ways its three colors are decoded first, any of them being absent or blank, and then completed: a
color that is not given takes its default, whatever the others are.  So whatever is drawn in a theme
that was read finds a color where it needs one.

## Main statements

- `Theme.completes_iff`: a color that is filled in is the given one or its default
- `Theme.read_eq_ok_iff`, `Theme.readYaml_eq_ok_iff`, `Template.theme_completes`: the three ways
- `Theme.read_text`: a theme without blank colors is read back from its text
- `decoded_themes_usable`: the three ways together, and what is drawn
-/

namespace Bulletin

open Text (isBlank present)

/-! ## Colors that are given and colors that are filled in -/

namespace Theme

/-- The colors of a theme as they are decoded. -/
structure Given where
  containerBackground : Option String := none
  containerTextColor : Option String := none
  globalLinkColor : Option String := none

/-- A color is the one that is given if that is not blank, and else the default. -/
def Fills (default : String) (given : Option String) (color : String) : Prop :=
  isBlank color = false ∧
    (given = some color ∨ (∀ s, given = some s → isBlank s = true) ∧ color = default)

/-- Each color of a theme is filled in on its own. -/
structure Completes (t : Theme) (g : Given) : Prop where
  containerBackground : Fills "#ffffff" g.containerBackground t.containerBackground
  containerTextColor : Fills "#333333" g.containerTextColor t.containerTextColor
  globalLinkColor : Fills "#007bff" g.globalLinkColor t.globalLinkColor

/-- No color of a theme is blank. -/
structure IsUsable (t : Theme) : Prop where
  containerBackground : isBlank t.containerBackground = false
  containerTextColor : isBlank t.containerTextColor = false
  globalLinkColor : isBlank t.globalLinkColor = false

namespace Given

instance : Record Given where
  keys := Record.keys Theme
  ofMembers ms :=
    { containerBackground := ms.text "containerBackground"
      containerTextColor := ms.text "containerTextColor"
      globalLinkColor := ms.text "globalLinkColor" }

instance : Record.ByKeys Given where
  ofMembers_congr ms ms' h := by
    have hbackground := h "containerBackground" (by decide)
    have htext := h "containerTextColor" (by decide)
    have hlink := h "globalLinkColor" (by decide)
    simp only [Record.ofMembers, Members.text, hbackground, htext, hlink]

/-- The theme with these colors and the defaults of the others. -/
def complete (g : Given) : Theme :=
  { containerBackground := colorOr standard.containerBackground g.containerBackground
    containerTextColor := colorOr standard.containerTextColor g.containerTextColor
    globalLinkColor := colorOr standard.globalLinkColor g.globalLinkColor }

end Given

/-- `present` with a default that is not blank is not blank. -/
theorem isBlank_getD_present {default : String} (h : isBlank default = false)
    (given : Option String) : isBlank ((present given).getD default) = false := by
  cases hgiven : present given with
  | none => exact h
  | some s => exact (Text.present_eq_some_iff.1 hgiven).2

/-- `Fills` holds of one color, `colorOr` of the default, if the default is not blank. -/
theorem fills_iff {default color : String} {given : Option String} (h : isBlank default = false) :
    Fills default given color ↔ color = colorOr default given := by
  constructor
  · rintro ⟨hcolor, rfl | ⟨hblank, rfl⟩⟩
    · rw [colorOr, Text.present_some_of_not_blank hcolor, Option.getD_some]
    · cases given with
      | none => rfl
      | some s => rw [colorOr, Text.present_some_of_blank (hblank s rfl), Option.getD_none]
  · rintro rfl
    refine ⟨isBlank_getD_present h given, ?_⟩
    rw [colorOr]
    -- Either the color is present, or what is given is blank and the default counts.
    cases hgiven : present given with
    | some s => exact .inl (Text.present_eq_some_iff.1 hgiven).1
    | none =>
      refine .inr ⟨?_, rfl⟩
      rintro s rfl
      by_contra hs
      rw [Text.present_some_of_not_blank (Bool.eq_false_iff.2 hs)] at hgiven
      cases hgiven

/-- `Completes` holds of one theme, `Given.complete`. -/
theorem completes_iff {t : Theme} {g : Given} : t.Completes g ↔ t = g.complete := by
  constructor
  · rintro ⟨hbackground, htext, hlink⟩
    obtain ⟨background, text, link⟩ := t
    obtain rfl := (fills_iff (by decide)).1 hbackground
    obtain rfl := (fills_iff (by decide)).1 htext
    obtain rfl := (fills_iff (by decide)).1 hlink
    rfl
  · rintro rfl
    exact ⟨(fills_iff (by decide)).2 rfl, (fills_iff (by decide)).2 rfl,
      (fills_iff (by decide)).2 rfl⟩

/-- `Completes` leaves no color blank. -/
theorem Completes.isUsable {t : Theme} {g : Given} (h : t.Completes g) : t.IsUsable :=
  ⟨h.containerBackground.1, h.containerTextColor.1, h.globalLinkColor.1⟩

/-- `Theme.standard` completes no colors at all. -/
theorem standard_completes : standard.Completes {} := completes_iff.2 rfl

/-- `Record.ofMembers` makes the theme that completes the colors the members give. -/
theorem ofMembers_completes_iff {t : Theme} {ms : Members} :
    Record.ofMembers ms = t ↔ t.Completes (Record.ofMembers ms) := by
  rw [completes_iff, eq_comm]
  rfl

/-! ## From JSON text -/

/-- `Theme.read` reads the theme that completes the colors `Record.read` decodes. -/
theorem read_eq_ok_iff {text : String} {t : Theme} :
    Theme.read text = .ok t ↔ ∃ g : Given, Record.read "RawTheme" text = .ok g ∧ t.Completes g := by
  simp only [Theme.read, Record.read_eq_ok_iff_leaves, ofMembers_completes_iff]
  constructor
  · rintro ⟨ms, rest, hread, hend, hcompletes⟩
    exact ⟨_, ⟨ms, rest, hread, hend, rfl⟩, hcompletes⟩
  · rintro ⟨_, ⟨ms, rest, hread, hend, rfl⟩, hcompletes⟩
    exact ⟨ms, rest, hread, hend, hcompletes⟩

/-- `Theme.read` takes the colors of a list by position, and reads no list of more than three. -/
theorem read_list_iff {text : String} {vs : List Json} (hparse : Json.parse text = .ok (.array vs))
    {t : Theme} :
    Theme.read text = .ok t ↔ vs.length ≤ 3 ∧
      t.Completes ⟨vs[0]?.bind Json.asText?, vs[1]?.bind Json.asText?,
        vs[2]?.bind Json.asText?⟩ := by
  have honce : Json.GivesOnce (Record.keys Theme) text := by
    intro written hobject
    have hvalue := Json.parse_eq_object_iff.2 ⟨written, hobject, rfl⟩
    rw [hparse] at hvalue
    cases hvalue
  rw [Theme.read, Record.read_eq_ok_iff hparse honce, Record.ofJson?, Json.membersOf?]
  have hkeys : (Record.keys Theme).length = 3 := rfl
  rw [hkeys]
  by_cases hlength : vs.length ≤ 3
  · rw [if_pos hlength, Option.map_some, Option.some_inj, ofMembers_completes_iff]
    -- The items stand under the keys in turn, however many there are.
    rcases vs with _ | ⟨v, _ | ⟨v', _ | ⟨v'', _ | ⟨w, vs⟩⟩⟩⟩
    case cons.cons.cons.cons =>
      simp only [List.length_cons] at hlength
      omega
    all_goals exact ⟨fun h => ⟨hlength, h⟩, fun h => h.2⟩
  · rw [if_neg hlength, Option.map_none]
    exact iff_of_false (Option.some_ne_none _).symm fun h => hlength h.1

/-- `Theme.read` takes the colors of an object by key, if none is given twice. -/
theorem read_object_iff {text : String} {written : Members} (hobject : Json.IsObject text written)
    (hnone : written.RepeatsNone (Record.keys Theme)) {t : Theme} :
    Theme.read text = .ok t ↔ t.Completes (Record.ofMembers written) := by
  have hparse := Json.parse_eq_object_iff.2 ⟨written, hobject, rfl⟩
  have hgathered : (Record.ofMembers (Members.gathered [] written) : Given) =
      Record.ofMembers written := by
    refine Record.ByKeys.ofMembers_congr _ _ fun key hkey => ?_
    rw [Members.lookup_gathered (hnone key hkey), List.lookup_nil, Option.or_none]
  rw [Theme.read, Record.read_eq_ok_iff hparse (hobject.givesOnce hnone), Record.ofJson?,
    Json.membersOf?, Option.map_some, Option.some_inj, ofMembers_completes_iff, hgathered]

/-! ## From YAML text -/

/-- The colors that a document gives. -/
def Given.ofDocument (d : Yaml.Document) : Yaml.Decoding Given := do
  let fields ← d.fields (Record.keys Given)
  let members ← fields.mapM fun f => do
    return (f.1, ← d.value (Yaml.Document.depthLimit - 1) f.2)
  return Record.ofMembers members

/-- Reads the colors that a YAML text gives; an empty text gives none. -/
def Given.readYaml (text : String) : Except Yaml.YamlError Given := do
  match ← Yaml.Document.read text with
  | some d => d.decode (Given.ofDocument d)
  | none => .ok {}

/-- `Theme.ofDocument` completes the colors that `Given.ofDocument` decodes. -/
theorem ofDocument_eq (d : Yaml.Document) :
    ofDocument d = Given.complete <$> Given.ofDocument d := by
  simp only [ofDocument, Given.ofDocument, map_bind, map_pure]
  rfl

/-- `Document.decode` commutes with `f <$> ·`. -/
theorem decode_map {α β : Type} (f : α → β) (d : Yaml.Document) (x : Yaml.Decoding α) :
    d.decode (f <$> x) = f <$> d.decode x := by
  simp only [Yaml.Document.decode, StateT.run'_eq, StateT.run_map, Functor.map_map]

/-- `f <$> x` is `.ok b` if `x` is `.ok a` for some `a` with `f a = b`. -/
theorem map_eq_ok_iff {ε α β : Type} {f : α → β} {x : Except ε α} {b : β} :
    f <$> x = .ok b ↔ ∃ a, x = .ok a ∧ f a = b := by
  cases x with
  | error e => simp [Functor.map, Except.map]
  | ok a => simp [Functor.map, Except.map]

/-- `Theme.readYaml` reads the theme that completes the colors `Given.readYaml` decodes. -/
theorem readYaml_eq_ok_iff {text : String} {t : Theme} :
    Theme.readYaml text = .ok t ↔ ∃ g, Given.readYaml text = .ok g ∧ t.Completes g := by
  simp only [readYaml, Given.readYaml, completes_iff, eq_comm (a := t)]
  -- A text that is refused, an empty one, and one with a document.
  cases Yaml.Document.read text with
  | error e => exact map_eq_ok_iff (f := Given.complete) (x := .error e)
  | ok document =>
    cases document with
    | none => exact map_eq_ok_iff (f := Given.complete) (x := .ok {})
    | some d =>
      have h := map_eq_ok_iff (f := Given.complete) (x := d.decode (Given.ofDocument d)) (b := t)
      rwa [← decode_map, ← ofDocument_eq] at h

/-! ## Writing and reading again -/

/-- `Theme.read` reads a theme without blank colors back from its text. -/
theorem read_text {t : Theme} (h : t.IsUsable) : Theme.read t.text = .ok t := by
  let fs : Fields := [("containerBackground", some (.string t.containerBackground)),
    ("containerTextColor", some (.string t.containerTextColor)),
    ("globalLinkColor", some (.string t.globalLinkColor))]
  have hnil : Fields.PrintAs (Json.depthLimit - 1) [] [] := .nil
  have hprint : Fields.PrintAs (Json.depthLimit - 1) fs fs :=
    ((hnil.text "globalLinkColor" (some t.globalLinkColor)).text
      "containerTextColor" (some t.containerTextColor)).text
        "containerBackground" (some t.containerBackground)
  have hnodup : (Record.keys Theme).Nodup := by decide
  -- The object that is written gives each color once, so the colors are decoded as they are.
  have hread := @Record.read_given Theme _ _ fs fs "RawTheme" hnodup hprint
  refine hread.trans (congrArg Except.ok (ofMembers_completes_iff.2 ?_))
  exact ⟨⟨h.containerBackground, .inl rfl⟩, ⟨h.containerTextColor, .inl rfl⟩,
    ⟨h.globalLinkColor, .inl rfl⟩⟩

/-- A theme that was read in one of the three ways. -/
inductive IsDecoded : Theme → Prop
  | json {text t} (h : Theme.read text = .ok t) : IsDecoded t
  | yaml {text t} (h : Theme.readYaml text = .ok t) : IsDecoded t
  | template {text t} (h : Template.read text = .ok t) : IsDecoded t.theme

end Theme

/-! ## From templates -/

/-- A value is an object with another object under its key. -/
def Json.HasTheme (v : Json) (colors : Members) : Prop :=
  ∃ ms, v = .object ms ∧ ms.lookup "theme" = some (.object colors)

namespace Template

/-- `themeOf` makes the theme of the object under its key. -/
theorem themeOf_of_lookup {ms colors : Members} (h : ms.lookup "theme" = some (.object colors)) :
    themeOf ms = Record.ofMembers colors := by
  rw [themeOf, h]
  rfl

/-- `themeOf` is the standard theme if there is no object under its key. -/
theorem themeOf_of_not_object {ms : Members}
    (h : ∀ colors, ms.lookup "theme" ≠ some (.object colors)) : themeOf ms = .standard := by
  rw [themeOf]
  cases hlookup : ms.lookup "theme" with
  | none => rfl
  | some v =>
    cases v with
    | object colors => exact absurd hlookup (h colors)
    | _ => rfl

/-- `Template.ofJson` gives a list the standard theme, and an object its `themeOf`. -/
theorem theme_of_ofJson {v : Json} {t : Template} (h : ofJson v = .ok t) :
    ((∃ items, v = .array items) ∧ t.theme = .standard) ∨
      ∃ ms, v = .object ms ∧ t.theme = themeOf ms := by
  unfold ofJson at h
  split at h
  · rename_i items
    cases h
    exact .inl ⟨⟨items, rfl⟩, rfl⟩
  · rename_i ms
    split at h
    · cases h
    · cases h
      exact .inr ⟨ms, rfl, rfl⟩
    · cases h
  · cases h

/-- `Template.read` gives the theme that completes the colors of the object under its key, or none.
-/
theorem theme_completes {text : String} {t : Template} (h : read text = .ok t) :
    ∃ v, Json.parse text = .ok v ∧
      ((∃ colors, v.HasTheme colors ∧ t.theme.Completes (Record.ofMembers colors)) ∨
        (∀ colors, ¬v.HasTheme colors) ∧ t.theme.Completes {}) := by
  rw [read] at h
  cases hparse : Json.parse text with
  | error e =>
    rw [hparse] at h
    cases h
  | ok v =>
    rw [hparse] at h
    refine ⟨v, rfl, ?_⟩
    -- A list has no theme, and an object may have one under its key.
    obtain ⟨⟨items, rfl⟩, htheme⟩ | ⟨ms, rfl, htheme⟩ := theme_of_ofJson h
    · refine .inr ⟨?_, htheme ▸ Theme.standard_completes⟩
      rintro colors ⟨_, hv, -⟩
      cases hv
    · by_cases hobject : ∃ colors, ms.lookup "theme" = some (.object colors)
      · obtain ⟨colors, hcolors⟩ := hobject
        refine .inl ⟨colors, ⟨ms, rfl, hcolors⟩, Theme.ofMembers_completes_iff.1 ?_⟩
        rw [htheme, themeOf_of_lookup hcolors]
      · rw [not_exists] at hobject
        refine .inr ⟨?_, ?_⟩
        · rintro colors ⟨_, hv, hcolors⟩
          cases hv
          exact hobject colors hcolors
        · rw [htheme, themeOf_of_not_object hobject]
          exact Theme.standard_completes

end Template

/-! ## What is drawn -/

/-- `IsDecoded` themes are `IsUsable`. -/
theorem Theme.IsDecoded.isUsable {t : Theme} (h : t.IsDecoded) : t.IsUsable := by
  cases h with
  | json hread =>
    obtain ⟨g, -, hcompletes⟩ := Theme.read_eq_ok_iff.1 hread
    exact hcompletes.isUsable
  | yaml hread =>
    obtain ⟨g, -, hcompletes⟩ := Theme.readYaml_eq_ok_iff.1 hread
    exact hcompletes.isUsable
  | template hread =>
    obtain ⟨v, -, ⟨colors, -, hcompletes⟩ | ⟨-, hcompletes⟩⟩ := Template.theme_completes hread
    · exact hcompletes.isUsable
    · exact hcompletes.isUsable

/-- The colors of a style without gaps, and the width of its borders. -/
def Resolved.texts (r : Resolved) : List String :=
  [r.textColor, r.linkColor, r.buttonBackground, r.buttonTextColor, r.borderColor, r.borderWidth]

/-- `resolve` fills no gap of a style with a blank, if the theme `IsUsable`. -/
theorem isBlank_of_mem_texts {theme : Theme} (h : theme.IsUsable) (style : Option Style)
    (align : Option String) (defaults : BlockDefaults) :
    ∀ s ∈ (resolve style align theme defaults).texts, isBlank s = false := by
  simp only [Resolved.texts, resolve, List.forall_mem_cons]
  exact ⟨Theme.isBlank_getD_present h.containerTextColor _, h.globalLinkColor,
    Theme.isBlank_getD_present h.globalLinkColor _, Theme.isBlank_getD_present (by decide) _,
    Theme.isBlank_getD_present (by decide) _, Theme.isBlank_getD_present (by decide) _,
    List.forall_mem_nil _⟩

/-- A theme is read from a JSON text, a YAML text or a template as the completion of the colors that
are decoded there: those of a list by position, those of an object by key, and those of a template's
theme if that is an object.  It is read back from its own text, and the blocks of a template that is
drawn in its own theme have no blank color. -/
theorem decoded_themes_usable :
    (∀ text t, Theme.read text = .ok t ↔
      ∃ g : Theme.Given, Record.read "RawTheme" text = .ok g ∧ t.Completes g) ∧
    (∀ text vs t, Json.parse text = .ok (.array vs) →
      (Theme.read text = .ok t ↔ vs.length ≤ 3 ∧ t.Completes
        ⟨vs[0]?.bind Json.asText?, vs[1]?.bind Json.asText?, vs[2]?.bind Json.asText?⟩)) ∧
    (∀ text written t, Json.IsObject text written → written.RepeatsNone (Record.keys Theme) →
      (Theme.read text = .ok t ↔ t.Completes ⟨written.text "containerBackground",
        written.text "containerTextColor", written.text "globalLinkColor"⟩)) ∧
    (∀ text t, Theme.readYaml text = .ok t ↔
      ∃ g, Theme.Given.readYaml text = .ok g ∧ t.Completes g) ∧
    (∀ text t, Template.read text = .ok t → ∃ v, Json.parse text = .ok v ∧
      ((∃ colors, v.HasTheme colors ∧ t.theme.Completes ⟨colors.text "containerBackground",
          colors.text "containerTextColor", colors.text "globalLinkColor"⟩) ∨
        (∀ colors, ¬v.HasTheme colors) ∧ t.theme.Completes {})) ∧
    (∀ t : Theme, t.IsDecoded → t.IsUsable ∧ Theme.read t.text = .ok t) ∧
    ∀ text t, Template.read text = .ok t → ∀ b ∈ t.blocks, ∀ kind,
      ∀ s ∈ (b.resolved kind t.theme).texts, isBlank s = false := by
  refine ⟨fun _ _ => Theme.read_eq_ok_iff, ?_, ?_, fun _ _ => Theme.readYaml_eq_ok_iff,
    fun _ _ => Template.theme_completes, ?_, ?_⟩
  · intro text vs t hparse
    exact Theme.read_list_iff hparse
  · intro text written t hobject hnone
    exact Theme.read_object_iff hobject hnone
  · intro t h
    exact ⟨h.isUsable, Theme.read_text h.isUsable⟩
  · intro text t h b _ kind
    have husable : t.theme.IsUsable := Theme.IsDecoded.isUsable (.template h)
    exact isBlank_of_mem_texts husable _ _ _

/-- The text of a theme as a list, with a blank color, a number for a color and no third one. -/
def mixedText : String := "[\" \",7]"

/-- `Json.parse` reads `mixedText` as a list of two items. -/
theorem parse_mixedText :
    Json.parse mixedText = .ok (.array [.string " ", .number (.integer 7)]) := by
  have hnumber : Json.Leaves (Json.readNumber false ['7', ']']) (.integer 7) [']'] :=
    Json.leaves_readNumber_iff.2 ⟨⟨['7'], [], none⟩, ⟨by decide, rfl⟩, by decide +kernel⟩
  have hblank := @Json.leaves_readString_append [' '] (by simp) [',', '7', ']']
  have hitems : Json.Reads 127 ['"', ' ', '"', ',', '7', ']']
      (.items [.string " ", .number (.integer 7)]) [] :=
    .item (.string rfl hblank) rfl (.lastItem (.positive rfl rfl hnumber) rfl)
  exact Json.parse_eq_ok_iff.2 ⟨[], .list (by decide) rfl hitems, rfl⟩

/-- `Theme.readYaml` reads one color and fills in the others. -/
theorem Theme.readYaml_red :
    Theme.readYaml "globalLinkColor: red\n" = .ok ⟨"#ffffff", "#333333", "red"⟩ := by
  have hread := @Yaml.Document.read_eq_ok_of_scalars "globalLinkColor: red\n"
    [(⟨.plain, "globalLinkColor".toList⟩, ⟨.plain, "red".toList⟩)]
    (Yaml.eq_ok_of_toOption_eq_some (by decide +kernel))
  unfold Theme.readYaml
  rw [hread]
  exact Yaml.eq_ok_of_toOption_eq_some (by decide +kernel)

/-- A theme that is a list, one in YAML, a template with a theme, and one with a block. -/
theorem decoded_themes_usable_red :
    let mixed : Theme := ⟨"#ffffff", "7", "#007bff"⟩
    let red : Theme := ⟨"#ffffff", "#333333", "red"⟩
    let divider : Block := ⟨"", .divider, none⟩
    (Theme.read mixedText = .ok mixed ∧ Theme.read mixed.text = .ok mixed) ∧
    (Template.read (Template.themed Template.redText) = .ok ⟨red, []⟩ ∧
      Theme.read red.text = .ok red) ∧
    (Theme.readYaml "globalLinkColor: red\n" = .ok red ∧
      ∃ g, Theme.Given.readYaml "globalLinkColor: red\n" = .ok g ∧ red.Completes g) ∧
    Template.read (Template.listed Template.dividerText) = .ok ⟨.standard, [divider]⟩ ∧
      ∀ s ∈ (divider.resolved .divider .standard).texts, isBlank s = false := by
  intro mixed red divider
  have hred : Template.read (Template.themed Template.redText) = .ok ⟨red, []⟩ := by
    rw [Template.read_of_parse Template.parse_themed_redText]
    rfl
  have hdivider :
      Template.read (Template.listed Template.dividerText) = .ok ⟨.standard, [divider]⟩ := by
    rw [Template.read_of_parse Template.parse_listed_dividerText]
    rfl
  obtain ⟨-, hlist, -, hyaml, -, htext, hdrawn⟩ := decoded_themes_usable
  have hread : Theme.read mixedText = .ok mixed :=
    (hlist _ _ _ parse_mixedText).2 ⟨by decide, Theme.completes_iff.2 (by decide +kernel)⟩
  exact ⟨⟨hread, (htext _ (.json hread)).2⟩, ⟨hred, (htext _ (.template hred)).2⟩,
    ⟨Theme.readYaml_red, (hyaml _ _).1 Theme.readYaml_red⟩, hdivider,
    hdrawn _ _ hdivider divider (List.mem_singleton_self divider) .divider⟩

end Bulletin
