import Bulletin.Block.Basic
import Bulletin.Proofs.Json.Printed
import Bulletin.Proofs.Template.Agreement
import Bulletin.Style.Spec

/-!
# Styles survive being written

A style is written as an object of the fields that are set.  Its texts are read back whatever they
hold.  Its opacity is read back when the number's text is read as the number it was written for.

## Main statements

- `Style.ofMembers_given`: a style is made of the fields it is written with
- `Style.exists_read_fields`: what is read back of a style makes the style
- `Block.read_styledMembers`: so does what is read back of a block's member
- `style_round_trip`: a style is read back from its text, alone and within a block
-/

namespace Bulletin

instance : Record.ByKeys Style where
  ofMembers_congr ms ms' h := by
    have hbackground := h "backgroundColor" (by decide)
    have himage := h "backgroundImage" (by decide)
    have hgradient := h "backgroundGradient" (by decide)
    have hopacity := h "backgroundOpacity" (by decide)
    have htext := h "textColor" (by decide)
    have hbutton := h "buttonColor" (by decide)
    have hbuttonText := h "buttonTextColor" (by decide)
    have hcolor := h "borderColor" (by decide)
    have hwidth := h "borderWidth" (by decide)
    have hradius := h "borderRadius" (by decide)
    have hpadding := h "padding" (by decide)
    simp only [Record.ofMembers, Members.text, Members.number, hbackground, himage, hgradient,
      hopacity, htext, hbutton, hbuttonText, hcolor, hwidth, hradius, hpadding]

/-- What is read of the number's text is the number. -/
def Double.ReadsBack (x : Double) : Prop :=
  ∃ n, Json.parse (NumberLayout.json.write x) = .ok (.number n) ∧ n.toDouble? = some x

namespace Style

/-- The fields of a style, with a value for its opacity. -/
def fields (s : Style) (opacity : Option Json) : Fields :=
  [("backgroundColor", s.backgroundColor.map .string),
    ("backgroundImage", s.backgroundImage.map .string),
    ("backgroundGradient", s.backgroundGradient.map .string),
    ("backgroundOpacity", opacity),
    ("textColor", s.textColor.map .string),
    ("buttonColor", s.buttonColor.map .string),
    ("buttonTextColor", s.buttonTextColor.map .string),
    ("borderColor", s.borderColor.map .string),
    ("borderWidth", s.borderWidth.map .string),
    ("borderRadius", s.borderRadius.map .string),
    ("padding", s.padding.map .string)]

/-- An opacity as it is written. -/
def opacityValue (s : Style) : Option Json := s.backgroundOpacity.map fun x => .number (.double x)

/-- The opacity of a style, if it has one, is read back from its text. -/
def Printable (s : Style) : Prop := ∀ x ∈ s.backgroundOpacity, x.ReadsBack

variable {s s' : Style}

/-- `Style.fields` have keys that are all different. -/
theorem nodup_fields (s : Style) (opacity : Option Json) :
    ((s.fields opacity).map Prod.fst).Nodup := by
  have hkeys : (s.fields opacity).map Prod.fst = Record.keys Style := rfl
  rw [hkeys]
  decide

/-- `textMember` is the one given field, or none. -/
theorem textMember_eq (key : String) (value : Option String) :
    textMember key value = Fields.given [(key, value.map .string)] := by
  cases value with
  | none => rfl
  | some s => rfl

/-- `numberMember` is the one given field, or none. -/
theorem numberMember_eq (key : String) (value : Option Double) :
    numberMember key value =
      Fields.given [(key, value.map fun x => .number (.double x))] := by
  cases value with
  | none => rfl
  | some x => rfl

/-- `toMembers` are the given fields of the style. -/
theorem toMembers_eq (s : Style) : s.toMembers = Fields.given (s.fields s.opacityValue) := by
  unfold toMembers
  -- Each member is the one field that is given or none, and given fields can be put together.
  simp only [textMember_eq, numberMember_eq, Fields.given, ← List.filterMap_append]
  rfl

/-- `Style.fields` are read back as they are, but for the opacity, which may be read as another
value. -/
theorem printAs_fields {depth : Nat} {opacity opacity' : Option Json}
    (h : Option.Rel (Json.PrintsAs depth) opacity opacity') :
    Fields.PrintAs depth (s.fields opacity) (s.fields opacity') := by
  have hnil : Fields.PrintAs depth [] [] := .nil
  have hafter := (((((((hnil.text "padding" s.padding).text "borderRadius" s.borderRadius).text
    "borderWidth" s.borderWidth).text "borderColor" s.borderColor).text
      "buttonTextColor" s.buttonTextColor).text "buttonColor" s.buttonColor).text
        "textColor" s.textColor)
  have hopacity : Fields.PrintAs depth (("backgroundOpacity", opacity) :: _)
      (("backgroundOpacity", opacity') :: _) := .cons ⟨rfl, h⟩ hafter
  exact ((hopacity.text "backgroundGradient" s.backgroundGradient).text
    "backgroundImage" s.backgroundImage).text "backgroundColor" s.backgroundColor

/-- `Record.ofMembers` makes a style of the fields it is written with. -/
theorem ofMembers_given {opacity : Option Json}
    (h : opacity.bind Json.asNumber? = s.backgroundOpacity) :
    Record.ofMembers (Fields.given (s.fields opacity)) = s := by
  have hnodup := nodup_fields s opacity
  -- Every field has a key of its own, so each is looked up without regard to the others.
  obtain ⟨color, image, gradient, number, text, button, buttonText, border, width, radius,
    padding⟩ := s
  have hnumber := (@Fields.number_given _ hnodup "backgroundOpacity" _ rfl).trans h
  simp only [Record.ofMembers, Style.mk.injEq]
  exact ⟨Fields.text_given hnodup rfl, Fields.text_given hnodup rfl, Fields.text_given hnodup rfl,
    hnumber, Fields.text_given hnodup rfl, Fields.text_given hnodup rfl,
    Fields.text_given hnodup rfl, Fields.text_given hnodup rfl, Fields.text_given hnodup rfl,
    Fields.text_given hnodup rfl, Fields.text_given hnodup rfl⟩

/-- `opacityValue` is printed as a number that is read as the opacity. -/
theorem exists_opacity (h : s.Printable) :
    ∃ opacity, (∀ depth, Option.Rel (Json.PrintsAs depth) s.opacityValue opacity) ∧
      opacity.bind Json.asNumber? = s.backgroundOpacity := by
  rw [opacityValue]
  cases hx : s.backgroundOpacity with
  | none => exact ⟨none, fun _ => .none, rfl⟩
  | some x =>
    obtain ⟨n, hparse, hn⟩ := h x hx
    exact ⟨some (.number n), fun depth => .some (Json.printsAs_number depth hparse), hn⟩

/-- `Style.fields` are printed as fields of which `Record.ofMembers` makes the style. -/
theorem exists_read_fields (h : s.Printable) :
    ∃ fs : Fields, (∀ depth, Fields.PrintAs depth (s.fields s.opacityValue) fs) ∧
      (fs.map Prod.fst).Nodup ∧ Record.ofMembers fs.given = s := by
  obtain ⟨opacity, hprint, hread⟩ := exists_opacity h
  exact ⟨s.fields opacity, fun depth => printAs_fields (hprint depth), nodup_fields s opacity,
    ofMembers_given hread⟩

/-- `Style.read` reads a style back from its text. -/
theorem read_text (h : s.Printable) : Style.read s.text = .ok s := by
  obtain ⟨fs, hprint, hnodup, hs⟩ := exists_read_fields h
  rw [Style.read, text, toMembers_eq, Record.read_given "StyleSpec" hnodup (hprint _), hs]

/-- `Style.text` is an object of which `Record.ofMembers` makes the style. -/
theorem exists_object (h : s.Printable) :
    ∃ ms : Members, Json.parse s.text = .ok (.object ms) ∧
      (∀ depth, 1 < depth → Json.PrintsAs depth (.object s.toMembers) (.object ms)) ∧
        Record.ofMembers ms = s := by
  obtain ⟨fs, hprint, hnodup, hs⟩ := exists_read_fields h
  refine ⟨Members.gathered [] fs.given, ?_, ?_, ?_⟩
  · rw [text, toMembers_eq]
    exact Json.parse_eq_object_iff.2 ⟨_, Json.isObject_print (hprint _).given, rfl⟩
  · intro depth hdepth
    rw [toMembers_eq]
    exact Json.printsAs_object hdepth (hprint _).given
  · rw [Record.ofMembers_gathered_given hnodup, hs]

/-- `Style.text` tells styles apart. -/
theorem text_inj (h : s.Printable) (h' : s'.Printable) : s.text = s'.text ↔ s = s' := by
  constructor
  · intro htext
    have hread := read_text h'
    rw [← htext, read_text h] at hread
    exact Except.ok.inj hread
  · rintro rfl
    rfl

end Style

namespace Block

variable {s : Style}

/-- `Record.ofMembers` gives a block the style that its object holds. -/
theorem style_ofMembers {ms written : Members}
    (hlookup : written.lookup "style" = some (.object ms)) (hs : Record.ofMembers ms = s) :
    (Record.ofMembers written : Block).style = some s := by
  have hstyle : (written.lookup "style").bind Record.ofObject? = some s := by
    rw [hlookup, ← hs]
    rfl
  exact hstyle

/-- `Block.read` gives a block the style that its text holds. -/
theorem exists_read_style {text : String} {ms written : Members}
    (hobject : Json.IsObject text written) (hnone : written.RepeatsNone (Record.keys Block))
    (hlookup : written.lookup "style" = some (.object ms)) (hs : Record.ofMembers ms = s) :
    ∃ b, Block.read text = .ok b ∧ b.style = some s := by
  have hparse := Json.parse_eq_object_iff.2 ⟨written, hobject, rfl⟩
  have hread := (@Record.read_eq_ok_iff Block _ "RawBlock" _ _ _ hparse (hobject.givesOnce hnone)
    _).2 rfl
  refine ⟨_, hread, style_ofMembers ?_ hs⟩
  rw [Members.lookup_gathered (hnone "style" (by decide)), hlookup, Option.some_or]

/-- The members of a block without content. -/
def styledMembers (id tag : String) (s : Style) : Members :=
  [("id", .string id), ("type", .string tag), ("style", .object s.toMembers)]

/-- `Block.read` reads a block with a style back from the text of its members. -/
theorem read_styledMembers (h : s.Printable) (id tag : String) :
    Block.read (Json.object (styledMembers id tag s)).print =
      .ok ⟨id, .ofTag tag .null, some s⟩ := by
  obtain ⟨ms, -, hprint, hs⟩ := Style.exists_object h
  let fs : Fields := [("id", some (.string id)), ("type", some (.string tag)),
    ("style", some (.object s.toMembers))]
  let fs' : Fields := [("id", some (.string id)), ("type", some (.string tag)),
    ("style", some (.object ms))]
  -- The style is printed one level deeper, which is still within the limit.
  have hstyle : Fields.PrintAs (Json.depthLimit - 1) [("style", some (.object s.toMembers))]
      [("style", some (.object ms))] := .cons ⟨rfl, .some (hprint _ (by decide))⟩ .nil
  have hprint' : Fields.PrintAs (Json.depthLimit - 1) fs fs' :=
    (hstyle.text "type" (some tag)).text "id" (some id)
  have hnodup : ["id", "type", "style"].Nodup := by decide
  have hread := @Record.read_given Block _ _ fs fs' "RawBlock" hnodup hprint'
  refine hread.trans ?_
  rw [← hs]
  rfl

end Block

/-- A style is read back from its text, alone and as the style of a block; so texts of styles are
equal when the styles are, and a style that is read back has the text it was read from. -/
theorem style_round_trip (s : Style) (h : s.Printable) :
    Style.read s.text = .ok s ∧
      (∃ v, Json.parse s.text = .ok v ∧
        (∀ ms : Members, ms.lookup "style" = some v →
          (Record.ofMembers ms : Block).style = some s) ∧
        ∀ text written, Json.IsObject text written →
          written.RepeatsNone (Record.keys Block) → written.lookup "style" = some v →
            ∃ b, Block.read text = .ok b ∧ b.style = some s) ∧
      (∀ id tag, Block.read (Json.object (Block.styledMembers id tag s)).print =
        .ok ⟨id, .ofTag tag .null, some s⟩) ∧
      (∀ s' : Style, s'.Printable → (s.text = s'.text ↔ s = s')) ∧
      ∀ s', Style.read s.text = .ok s' → s'.text = s.text := by
  obtain ⟨ms, hparse, -, hs⟩ := Style.exists_object h
  refine ⟨Style.read_text h, ⟨.object ms, hparse, ?_, ?_⟩, Block.read_styledMembers h, ?_, ?_⟩
  · intro written hlookup
    exact Block.style_ofMembers hlookup hs
  · intro text written hobject hnone hlookup
    exact Block.exists_read_style hobject hnone hlookup hs
  · intro s' h'
    exact Style.text_inj h h'
  · intro s' hread
    rw [Style.read_text h] at hread
    cases hread
    rfl

/-- `ReadsBack` holds of both zeros. -/
theorem Double.readsBack_signedZero (negative : Bool) : (signedZero negative).ReadsBack := by
  -- Both are written with the same digits, behind a sign or without one.
  have hnumber (b : Bool) :
      Json.Leaves (Json.readNumber b ['0', '.', '0']) (.double (signedZero b)) [] := by
    have hvalue : (⟨['0'], ['0'], none⟩ : Json.NumberText).toNumber b =
        .ok (.double (signedZero b)) := by cases b <;> decide +kernel
    exact Json.leaves_readNumber_iff.2 ⟨⟨['0'], ['0'], none⟩, ⟨by decide, rfl⟩, hvalue⟩
  refine ⟨.double (signedZero negative), ?_, rfl⟩
  cases negative with
  | true =>
    have hwrite : NumberLayout.json.write (signedZero true) = "-0.0" := by decide +kernel
    rw [hwrite, Json.parse_eq_ok_iff]
    exact ⟨[], .negative rfl (hnumber true), rfl⟩
  | false =>
    have hwrite : NumberLayout.json.write (signedZero false) = "0.0" := by decide +kernel
    rw [hwrite, Json.parse_eq_ok_iff]
    exact ⟨[], .positive rfl rfl (hnumber false), rfl⟩

/-- A style with escapes in its texts and minus zero as its opacity, which is not zero. -/
theorem style_round_trip_minusZero :
    let quoted : String := "\"\\\n\x01é€"
    let s : Style :=
      { backgroundOpacity := some (.signedZero true)
        textColor := some quoted
        padding := some "" }
    let s' : Style := { s with backgroundOpacity := some (.signedZero false) }
    (s.Printable ∧ s'.Printable) ∧ Style.read s.text = .ok s ∧ s.text ≠ s'.text ∧
      Block.read (Json.object (Block.styledMembers quoted "divider" s)).print =
        .ok ⟨quoted, .divider, some s⟩ := by
  intro quoted s s'
  have hs : s.Printable := by
    intro x hx
    cases hx
    exact Double.readsBack_signedZero true
  have hs' : s'.Printable := by
    intro x hx
    cases hx
    exact Double.readsBack_signedZero false
  obtain ⟨hread, -, hblock, htext, -⟩ := style_round_trip s hs
  refine ⟨⟨hs, hs'⟩, hread, ?_, hblock quoted "divider"⟩
  intro hsame
  have hne : s ≠ s' := by decide
  exact hne ((htext s' hs').1 hsame)

end Bulletin
