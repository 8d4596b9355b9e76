import Bulletin.Proofs.Double.Units
import Bulletin.Style.Resolve

/-!
# What a resolved style declares

The declarations of a block's outer cell are the rows of one table, in its order, less the rows that
have no value.  What a row holds depends on a few fields of the style, and of a text field only on
what is present in it, so most questions about resolved styles are questions about single rows.

## Main statements

- `textAll_eq_foldl`: the text of declarations grows by one after another
- `container_eq_declared`: the declarations of the outer cell, as a table
- `resolve_congr`: what a resolved style depends on
- `style_resolution`: all of it, and which fields do not matter when
-/

namespace Bulletin

open Text

/-! ## Texts of declarations -/

namespace Declaration

/-- A text of declarations with one more behind it. -/
def write (css : String) (d : Declaration) : String :=
  if css = "" then d.text else css ++ " " ++ d.text

/-- `Declaration.text` is never empty. -/
theorem text_ne_empty (d : Declaration) : d.text ≠ "" := by
  intro h
  -- There is at least the semicolon.
  have hlength := congrArg String.length h
  simp only [text, String.length_append] at hlength
  have : (";" : String).length = 1 := rfl
  have : ("" : String).length = 0 := rfl
  omega

/-- `intercalate` keeps what stands in front of the first text in front of all. -/
theorem intercalate_append_cons (sep s t : String) (l : List String) :
    sep.intercalate ((s ++ t) :: l) = s ++ sep.intercalate (t :: l) := by
  cases l with
  | nil => rw [String.intercalate_singleton, String.intercalate_singleton]
  | cons u l =>
    rw [String.intercalate_cons_cons, String.intercalate_cons_cons]
    simp only [String.append_assoc]

/-- `write` puts every declaration behind a space, if the text before is not empty. -/
theorem foldl_write {css : String} (h : css ≠ "") (ds : List Declaration) :
    ds.foldl write css = " ".intercalate (css :: ds.map text) := by
  induction ds generalizing css with
  | nil => rw [List.foldl_nil, List.map_nil, String.intercalate_singleton]
  | cons d ds ih =>
    have hnext : css ++ " " ++ d.text ≠ "" := by
      intro hempty
      exact h (String.append_eq_empty_iff.1 (String.append_eq_empty_iff.1 hempty).1).1
    rw [List.foldl_cons, write, if_neg h, ih hnext, List.map_cons, String.intercalate_cons_cons,
      intercalate_append_cons]

/-- `textAll` writes declarations as `write` does one after another. -/
theorem textAll_eq_foldl (ds : List Declaration) : textAll ds = ds.foldl write "" := by
  cases ds with
  | nil => rfl
  | cons d ds =>
    rw [List.foldl_cons, write, if_pos rfl, foldl_write d.text_ne_empty]
    rfl

/-- A property with the value that is declared for it, if one is. -/
def declared? (row : String × Option String) : Option Declaration := row.2.map fun v => ⟨row.1, v⟩

/-- `declared?` makes of the first row what `declare?` makes of it. -/
theorem filterMap_declared?_cons (property : String) (value : Option String)
    (rows : List (String × Option String)) :
    ((property, value) :: rows).filterMap declared? =
      declare? property value ++ rows.filterMap declared? := by
  cases value <;> rfl

/-- A row whose property is among those given has its value taken away. -/
def clear (properties : List String) (row : String × Option String) : String × Option String :=
  if row.1 ∈ properties then (row.1, none) else row

/-- `clear` takes away the declarations of the properties given, and no others. -/
theorem filterMap_clear (properties : List String) (rows : List (String × Option String)) :
    (rows.map (clear properties)).filterMap declared? =
      (rows.filterMap declared?).filter fun d => d.property ∉ properties := by
  induction rows with
  | nil => rfl
  | cons row rows ih =>
    obtain ⟨property, value⟩ := row
    rw [List.map_cons, filterMap_declared?_cons property value, List.filter_append, ← ih]
    by_cases hmem : property ∈ properties
    · rw [clear, if_pos hmem, filterMap_declared?_cons]
      cases value <;> simp [declare?, hmem]
    · rw [clear, if_neg hmem, filterMap_declared?_cons]
      cases value <;> simp [declare?, hmem]

end Declaration

/-! ## The table of a style -/

namespace Style

/-- The background color, which an image or a gradient hides. -/
def shownColor (s : Style) : Option String :=
  if (present s.backgroundImage).isSome || (present s.backgroundGradient).isSome then none
  else (present s.backgroundColor).map fun color => shade color s.backgroundOpacity

/-- The width of the border, unless it is written as a bare zero. -/
def shownWidth (s : Style) : Option String := (present s.borderWidth).filter fun w => w ≠ "0"

/-- All properties that a block's outer cell can declare, in their order, with their values. -/
def rows (s : Style) (align : Align) (defaults : BlockDefaults) : List (String × Option String) :=
  let framed := fun (value : Option String) => if defaults.containerBorder then value else none
  [("background-image", ((present s.backgroundImage).map fun image => "url(" ++ image ++ ")").or
      (present s.backgroundGradient)),
    ("background-size", (present s.backgroundImage).map fun _ => "cover"),
    ("background-position", (present s.backgroundImage).map fun _ => "center"),
    ("background-color", s.shownColor),
    ("color", present s.textColor),
    ("border-color", framed (present s.borderColor)),
    ("border-width", framed s.shownWidth),
    ("border-style", framed (s.shownWidth.map fun _ => "solid")),
    ("border-radius", present s.borderRadius),
    ("padding", (present s.padding).or defaults.padding),
    ("text-align", some align.text),
    ("--nl-button-bg", present s.buttonColor),
    ("--nl-button-text", present s.buttonTextColor),
    ("--nl-border-color", present s.borderColor)]

/-- The properties of a border around a block. -/
def borderProperties : List String := ["border-color", "border-width", "border-style"]

/-- `Style.background` declares the first four rows that have a value. -/
theorem background_eq_declared (s : Style) (rest : List (String × Option String)) :
    (("background-image", ((present s.backgroundImage).map fun image => "url(" ++ image ++ ")").or
        (present s.backgroundGradient)) ::
      ("background-size", (present s.backgroundImage).map fun _ => "cover") ::
      ("background-position", (present s.backgroundImage).map fun _ => "center") ::
      ("background-color", s.shownColor) :: rest).filterMap Declaration.declared? =
        s.background ++ rest.filterMap Declaration.declared? := by
  simp only [Declaration.filterMap_declared?_cons, shownColor]
  unfold background
  -- The first of the three that is present decides.
  cases present s.backgroundImage with
  | some image => simp [declare?]
  | none =>
    cases present s.backgroundGradient with
    | some gradient => simp [declare?]
    | none => cases present s.backgroundColor <;> simp [declare?]

/-- `Style.border` declares the rows of the border that have a value. -/
theorem border_eq_declared (s : Style) :
    s.border = declare? "border-color" (present s.borderColor) ++
      (declare? "border-width" s.shownWidth ++
        declare? "border-style" (s.shownWidth.map fun _ => "solid")) := by
  rw [border, shownWidth]
  congr 1
  cases (present s.borderWidth).filter fun w => w ≠ "0" <;> rfl

/-- `Style.container` declares the rows of the table that have a value, in order. -/
theorem container_eq_declared (s : Style) (align : Align) (defaults : BlockDefaults) :
    s.container align defaults = (s.rows align defaults).filterMap Declaration.declared? := by
  rw [rows, background_eq_declared, container]
  -- The groups are appended one by one, and the border is there or not.
  simp only [Declaration.filterMap_declared?_cons, List.filterMap_nil, customProperties,
    border_eq_declared]
  cases defaults.containerBorder <;> simp [declare?]

/-- `Style.rows` without a border are those with one, the values of the border taken away. -/
theorem rows_without_border (s : Style) (align : Align) (defaults : BlockDefaults) :
    s.rows align { defaults with containerBorder := false } =
      (s.rows align { defaults with containerBorder := true }).map
        (Declaration.clear borderProperties) := by
  simp [rows, Declaration.clear, borderProperties]

/-! ## What a style depends on -/

/-- The text fields of a style. -/
def texts : List (Style → Option String) :=
  [backgroundColor, backgroundImage, backgroundGradient, textColor, buttonColor, buttonTextColor,
    borderColor, borderWidth, borderRadius, padding]

end Style

/-- A field stays as it is, or it held blanks only and is left out. -/
def Unblanked (field field' : Option String) : Prop :=
  field' = field ∨ (field' = none ∧ ∃ s, field = some s ∧ isBlank s = true)

/-- `present` does not tell an `Unblanked` field from the one it was. -/
theorem Unblanked.present_eq {field field' : Option String} (h : Unblanked field field') :
    present field' = present field := by
  obtain rfl | ⟨rfl, s, rfl, hblank⟩ := h
  · rfl
  · rw [present_some_of_blank hblank, present_none]

/-- A style with some blank text fields left out. -/
structure Style.Unblanks (s s' : Style) : Prop where
  texts : ∀ get ∈ Style.texts, Unblanked (get s) (get s')
  opacity : s'.backgroundOpacity = s.backgroundOpacity

section Resolve

variable {s s' : Style} (align : Option String) (theme : Theme) (defaults : BlockDefaults)

/-- `resolve` depends on the background that a style shows, and on what is present in its other text
fields. -/
theorem resolve_congr (hbackground : s'.background = s.background)
    (htextColor : present s'.textColor = present s.textColor)
    (hbuttonColor : present s'.buttonColor = present s.buttonColor)
    (hbuttonTextColor : present s'.buttonTextColor = present s.buttonTextColor)
    (hborderColor : present s'.borderColor = present s.borderColor)
    (hborderWidth : present s'.borderWidth = present s.borderWidth)
    (hborderRadius : present s'.borderRadius = present s.borderRadius)
    (hpadding : present s'.padding = present s.padding) :
    resolve (some s') align theme defaults = resolve (some s) align theme defaults := by
  simp only [resolve, Option.getD_some, Style.container, Style.border, Style.customProperties,
    hbackground, htextColor, hbuttonColor, hbuttonTextColor, hborderColor, hborderWidth,
    hborderRadius, hpadding]

/-- `resolve` does not tell styles apart that differ in the fields of a background they show alike.
-/
theorem resolve_of_background_eq (image gradient color : Option String) (opacity : Option Double)
    (h : Style.background { s with
        backgroundImage := image, backgroundGradient := gradient, backgroundColor := color,
        backgroundOpacity := opacity } = s.background) :
    resolve (some { s with
        backgroundImage := image, backgroundGradient := gradient, backgroundColor := color,
        backgroundOpacity := opacity }) align theme defaults =
      resolve (some s) align theme defaults :=
  resolve_congr align theme defaults h rfl rfl rfl rfl rfl rfl rfl

/-- `resolve` does not tell a style from the one with blank fields left out. -/
theorem resolve_of_unblanks (h : s.Unblanks s') :
    resolve (some s') align theme defaults = resolve (some s) align theme defaults := by
  have hpresent : ∀ get ∈ Style.texts, present (get s') = present (get s) :=
    fun get hget => (h.texts get hget).present_eq
  simp only [Style.texts, List.forall_mem_cons] at hpresent
  obtain ⟨hcolor, himage, hgradient, htextColor, hbuttonColor, hbuttonTextColor, hborderColor,
    hborderWidth, hborderRadius, hpadding, -⟩ := hpresent
  have hbackground : s'.background = s.background := by
    simp only [Style.background, hcolor, himage, hgradient, h.opacity]
  exact resolve_congr align theme defaults hbackground htextColor hbuttonColor hbuttonTextColor
    hborderColor hborderWidth hborderRadius hpadding

end Resolve

/-! ## Backgrounds -/

namespace Style

/-- `shade` leaves a color as it is, if the opacity is one or more or there is none. -/
theorem shade_of_not_ltOne {opacity : Option Double} (h : ∀ o ∈ opacity, o.ltOne = false)
    (color : String) : shade color opacity = color := by
  cases opacity with
  | none => rfl
  | some o =>
    rw [shade, h o rfl]
    rfl

/-- `Style.background` does not look at gradient, color and opacity, if there is an image. -/
theorem background_of_image {s : Style} (h : present s.backgroundImage ≠ none)
    (gradient color : Option String) (opacity : Option Double) :
    Style.background { s with
      backgroundGradient := gradient, backgroundColor := color, backgroundOpacity := opacity } =
      s.background := by
  obtain ⟨image, himage⟩ := Option.ne_none_iff_exists'.1 h
  simp only [background, himage]

/-- `Style.background` does not look at color and opacity, if there is a gradient. -/
theorem background_of_gradient {s : Style} (h : present s.backgroundGradient ≠ none)
    (color : Option String) (opacity : Option Double) :
    Style.background { s with backgroundColor := color, backgroundOpacity := opacity } =
      s.background := by
  obtain ⟨gradient, hgradient⟩ := Option.ne_none_iff_exists'.1 h
  simp only [background, hgradient]
  cases present s.backgroundImage <;> rfl

/-- `Style.background` is the same without an opacity that is one or more. -/
theorem background_of_not_ltOne {s : Style} (h : ∀ o ∈ s.backgroundOpacity, o.ltOne = false) :
    Style.background { s with backgroundOpacity := none } = s.background := by
  simp only [background, shade_of_not_ltOne h]
  rfl

end Style

/-! ## Alignments -/

/-- `trimStart` leaves nothing of blanks. -/
theorem trimStart_eq_nil {cs : List Char} (h : cs.all isBlankChar = true) : trimStart cs = [] := by
  induction cs with
  | nil => rfl
  | cons c cs ih =>
    rw [List.all_cons, Bool.and_eq_true] at h
    rw [trimStart, List.dropWhile_cons_of_pos h.1]
    exact ih h.2

/-- `Align.parse?` reads no alignment from a blank text. -/
theorem Align.parse?_of_blank {value : String} (h : isBlank value = true) :
    Align.parse? value = none := by
  have htrim : trim value = "" := by
    rw [← String.toList_inj, toList_trim, trimStart_eq_nil h]
    rfl
  rw [parse?, htrim]
  decide

/-- `Align.parse?` reads the same from an `Unblanked` field and from the one it was. -/
theorem Unblanked.bind_parse? {align align' : Option String} (h : Unblanked align align') :
    align'.bind Align.parse? = align.bind Align.parse? := by
  obtain rfl | ⟨rfl, s, rfl, hblank⟩ := h
  · rfl
  · rw [Option.bind_some, Align.parse?_of_blank hblank, Option.bind_none]

/-- The outer cell of a resolved style declares what its table says, in its order and joined by
single spaces, and never what the theme says.  Blank fields are as good as absent ones; an image
hides gradient, color and opacity, and a gradient color and opacity; an opacity of one or more
leaves the color as it is written; and without a border around the block nothing but the
declarations of that border is missing. -/
theorem style_resolution (style : Option Style) (align : Option String) (theme : Theme)
    (defaults : BlockDefaults) :
    let s := style.getD .empty
    let r := resolve style align theme defaults
    r.align = (align.bind Align.parse?).getD defaults.align ∧
    r.container = (s.rows r.align defaults).filterMap Declaration.declared? ∧
    r.containerText = " ".intercalate
      ((s.rows r.align defaults).filterMap fun row =>
        row.2.map fun v => row.1 ++ ": " ++ v ++ ";") ∧
    r.containerText = r.container.foldl Declaration.write "" ∧
    (∀ s', s.Unblanks s' → resolve (some s') align theme defaults = r) ∧
    (∀ align', Unblanked align align' → resolve style align' theme defaults = r) ∧
    (present s.backgroundImage ≠ none → ∀ gradient color opacity,
      resolve (some { s with
        backgroundGradient := gradient, backgroundColor := color, backgroundOpacity := opacity })
        align theme defaults = r) ∧
    (present s.backgroundGradient ≠ none → ∀ color opacity,
      resolve (some { s with backgroundColor := color, backgroundOpacity := opacity })
        align theme defaults = r) ∧
    ((∀ o ∈ s.backgroundOpacity, o.negative = false ∧ Double.unit ≤ o.units) →
      resolve (some { s with backgroundOpacity := none }) align theme defaults = r ∧
      (present s.backgroundImage = none → present s.backgroundGradient = none →
        ∀ color, present s.backgroundColor = some color →
          ⟨"background-color", color⟩ ∈ r.container)) ∧
    resolve style align theme { defaults with containerBorder := false } =
      { resolve style align theme { defaults with containerBorder := true } with
        container := (resolve style align theme { defaults with containerBorder := true }).container
          |>.filter fun d => d.property ∉ Style.borderProperties } ∧
    ∀ theme', (resolve style align theme' defaults).container = r.container := by
  intro s r
  -- A style that is missing is the one that sets nothing.
  have hsome : resolve (some s) align theme defaults = r := rfl
  have hcontainer : r.container = (s.rows r.align defaults).filterMap Declaration.declared? :=
    s.container_eq_declared r.align defaults
  refine ⟨rfl, hcontainer, ?_, Declaration.textAll_eq_foldl _, ?_, ?_, ?_, ?_, ?_, ?_, ?_⟩
  · rw [Resolved.containerText, Declaration.textAll, hcontainer, List.map_filterMap]
    simp only [Declaration.declared?, Option.map_map]
    rfl
  · intro s' h
    exact (resolve_of_unblanks align theme defaults h).trans hsome
  · intro align' h
    show resolve style align' theme defaults = resolve style align theme defaults
    rw [resolve, resolve, h.bind_parse?]
  · intro h gradient color opacity
    exact resolve_of_background_eq align theme defaults _ _ _ _
      (Style.background_of_image h gradient color opacity)
  · intro h color opacity
    exact resolve_of_background_eq align theme defaults _ _ _ _
      (Style.background_of_gradient h color opacity)
  · intro h
    -- An opacity of one or more does not shade the color, which is then declared as it is.
    have hopaque : ∀ o ∈ s.backgroundOpacity, o.ltOne = false :=
      fun o ho => Double.ltOne_eq_false_iff.2 (h o ho)
    refine ⟨resolve_of_background_eq align theme defaults _ _ _ _
      (Style.background_of_not_ltOne hopaque), ?_⟩
    intro himage hgradient color hcolor
    have hshown : s.shownColor = some color := by
      rw [Style.shownColor, himage, hgradient, hcolor]
      exact congrArg some (Style.shade_of_not_ltOne hopaque color)
    rw [hcontainer, List.mem_filterMap]
    refine ⟨("background-color", s.shownColor), ?_, by rw [hshown]; rfl⟩
    simp [Style.rows]
  · -- The border's rows are cleared in the one table and filtered out of the other.
    have hfilter := Declaration.filterMap_clear Style.borderProperties
      (s.rows r.align { defaults with containerBorder := true })
    rw [← Style.rows_without_border, ← Style.container_eq_declared,
      ← Style.container_eq_declared] at hfilter
    -- The other fields do not ask whether there is a border.
    show Resolved.mk _ _ _ _ _ _ _ _ = Resolved.mk _ _ _ _ _ _ _ _
    congr 1
  · exact fun _ => rfl

end Bulletin
