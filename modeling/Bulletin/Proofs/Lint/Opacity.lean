import Bulletin.Proofs.Double.Value
import Bulletin.Proofs.Lint.Verdict
import Bulletin.Proofs.Style.Color
import Bulletin.Proofs.Style.Resolution

/-!
# Opacities that are reported and opacities that are shown

An opacity is reported when it is no number between zero and one, or when it cannot be given to the
color it is meant for.  Whether a color is shown with its opacity is decided apart from that, where
the style is resolved.  The two agree: a background of which nothing is reported has the opacity its
author gave it.

## Main statements

- `Lint.mem_styleFindings_iff`: what the findings about a style say
- `Style.mem_container_backgroundColor_iff`: the color that a block is drawn on
- `opacity_honored`: what is not reported is shown, and what is shown without its opacity is
  reported
-/

namespace Bulletin

open Text Lint

/-- The opacity that an author gives the background of a block. -/
def Block.opacity? (b : Block) : Option Double := b.style.bind Style.backgroundOpacity

/-- The color that an author gives the background of a block. -/
def Block.backgroundColor? (b : Block) : Option String := b.style.bind Style.backgroundColor

/-- Says something about an opacity. -/
def Diagnostic.ReportsOpacity (d : Diagnostic) : Prop :=
  "background opacity ".toList <+: d.message.toList

/-! ## What is reported -/

namespace Finding

/-- Findings about the opacity of a background. -/
def aboutOpacity : Finding → Bool
  | .opacityOutOfRange _ | .opacityIgnored _ => true
  | _ => false

/-- `message` begins so for findings about an opacity only. -/
theorem prefix_message_iff_aboutOpacity {f : Finding} :
    "background opacity ".toList <+: f.message.toList ↔ f.aboutOpacity = true := by
  constructor
  · rintro ⟨rest, hrest⟩
    have hwords : f.firstWords.toList = "background opa".toList := by
      rw [← take_message, ← hrest, List.take_append_of_le_length (by decide)]
      decide
    rw [String.toList_inj] at hwords
    cases f <;> simp [firstWords, aboutOpacity] at hwords ⊢
  · intro h
    rw [message.eq_def]
    cases f <;> simp [aboutOpacity] at h ⊢

end Finding

namespace Lint

variable {f : Finding} {o : Double} {color : Option String}

/-- `opacityFindings` say that an opacity is out of range, or that it is less than one and the
channels of the color are not known. -/
theorem mem_opacityFindings_iff :
    f ∈ opacityFindings o color ↔
      (¬(0 ≤ o.value ∧ o.value ≤ 1) ∧ f = .opacityOutOfRange o) ∨
      ∃ c, present color = some c ∧ o.value < 1 ∧ Rgb.parse? c = none ∧ f = .opacityIgnored c := by
  rw [← Double.nonneg_iff, ← Double.leOne_iff, ← Double.ltOne_iff, opacityFindings, List.mem_append,
    ← Bool.and_eq_true]
  apply or_congr
  · cases o.nonneg && o.leOne <;> simp
  · cases present color with
    | none => simp
    | some c => cases o.ltOne <;> cases Rgb.parse? c <;> simp

/-- `styleFindings` are those about the opacity. -/
theorem mem_styleFindings_iff {b : Block} :
    f ∈ styleFindings b.style ↔
      ∃ o, b.opacity? = some o ∧ f ∈ opacityFindings o b.backgroundColor? := by
  unfold styleFindings Block.opacity? Block.backgroundColor?
  cases b.style with
  | none => simp
  | some s => cases hopacity : s.backgroundOpacity <;> simp [hopacity]

/-- `blockFindings` about an opacity are `styleFindings`. -/
theorem mem_blockFindings_of_aboutOpacity {before : List String} {b : Block}
    (hf : f.aboutOpacity = true) : f ∈ blockFindings before b ↔ f ∈ styleFindings b.style := by
  have hid : f ∉ idFindings before b.id := by
    rw [mem_idFindings_iff]
    rintro (⟨-, rfl⟩ | ⟨-, -, rfl⟩) <;> simp [Finding.aboutOpacity] at hf
  have hcontent : f ∉ contentFindings b.content := by
    rw [mem_contentFindings_iff]
    cases f <;> simp [Finding.aboutOpacity, Finding.Describes] at hf ⊢
  simp [blockFindings, hid, hcontent]

/-- `lint` reports a finding about an opacity at the position of its block. -/
theorem mk_mem_lint_iff {bs : List Block} {i : Nat} {b : Block} (hb : bs[i]? = some b)
    (hf : f.aboutOpacity = true) : ⟨i, b.id, f⟩ ∈ lint bs ↔ f ∈ styleFindings b.style := by
  obtain ⟨hi, rfl⟩ := List.getElem?_eq_some_iff.1 hb
  rw [mem_lint_iff]
  simp [hi, mem_blockFindings_of_aboutOpacity hf]

end Lint

/-! ## What is shown -/

namespace Style

/-- `container` declares a background color if and only if one is shown. -/
theorem mem_container_backgroundColor_iff {s : Style} {align : Align} {defaults : BlockDefaults}
    {v : String} :
    ⟨"background-color", v⟩ ∈ s.container align defaults ↔ s.shownColor = some v := by
  rw [container_eq_declared, List.mem_filterMap]
  simp [rows, Declaration.declared?]

/-- `shownColor` gives a color its opacity below one if its channels are known, and else leaves it
as it is written. -/
theorem shownColor_eq_some_iff {s : Style} {o : Double} (ho : s.backgroundOpacity = some o)
    (hlt : o.ltOne = true) {v : String} :
    s.shownColor = some v ↔
      present s.backgroundImage = none ∧ present s.backgroundGradient = none ∧
        ∃ color, present s.backgroundColor = some color ∧ withOpacity color o = v := by
  rw [shownColor, ho]
  cases present s.backgroundImage <;> cases present s.backgroundGradient <;> simp [shade, hlt]

end Style

/-- `withOpacity` changes every color that `Rgb.parse?` reads. -/
theorem parse?_eq_none_of_withOpacity_eq {color : String} {o : Double}
    (h : withOpacity color o = color) : Rgb.parse? color = none := by
  cases hparse : Rgb.parse? color with
  | none => rfl
  | some c =>
    -- With the opacity it would be a text that is not read as a color, and it is read as one.
    obtain ⟨rest, hrest⟩ := c.exists_toRgba_eq o
    have hrgba : withOpacity color o = "rgba(" ++ rest := by rw [withOpacity, hparse, ← hrest]
    rw [← hparse, ← h, hrgba]
    exact Rgb.parse?_rgba rest

/-- What a block with an opacity below one is drawn on is the color its author gave it, with the
opacity if that is possible. -/
theorem Block.exists_of_mem_container {b : Block} {o : Double} (ho : b.opacity? = some o)
    (hlt : o.value < 1) {kind : Kind} {theme : Theme} {v : String}
    (hv : ⟨"background-color", v⟩ ∈ (b.resolved kind theme).container) :
    ∃ color, present b.backgroundColor? = some color ∧ withOpacity color o = v := by
  obtain ⟨s, hs, hopacity⟩ := Option.bind_eq_some_iff.1 ho
  have hfield : b.backgroundColor? = s.backgroundColor := by rw [backgroundColor?, hs]; rfl
  rw [resolved, resolve, hs, Option.getD_some, Style.mem_container_backgroundColor_iff,
    Style.shownColor_eq_some_iff hopacity (Double.ltOne_iff.2 hlt), ← hfield] at hv
  obtain ⟨-, -, color, hcolor, hshown⟩ := hv
  exact ⟨color, hcolor, hshown⟩

/-! ## Agreement -/

section Agreement

variable {bs : List Block} {i : Nat} {b : Block} {o : Double}

/-- Where `lint` reports nothing about an opacity, nothing is found about it. -/
theorem notMem_opacityFindings (hb : bs[i]? = some b)
    (hclean : ∀ d ∈ lint bs, d.index = i → ¬d.ReportsOpacity) (ho : b.opacity? = some o)
    {f : Finding} (hf : f.aboutOpacity = true) : f ∉ opacityFindings o b.backgroundColor? := by
  intro hmem
  have hreported := (mk_mem_lint_iff hb hf).2 (mem_styleFindings_iff.2 ⟨o, ho, hmem⟩)
  exact hclean _ hreported rfl (Finding.prefix_message_iff_aboutOpacity.2 hf)

/-- If nothing is reported about the opacity of a background, then it is between zero and one, and
where it is below one the color is shown with it.  If a color is shown as it is written although its
opacity is below one, then that is reported, with the color. -/
theorem opacity_honored (hb : bs[i]? = some b) (kind : Kind) (theme : Theme) :
    ((∀ d ∈ lint bs, d.index = i → ¬d.ReportsOpacity) →
      ∀ o, b.opacity? = some o → (0 ≤ o.value ∧ o.value ≤ 1) ∧
        (o.value < 1 → ∀ v, ⟨"background-color", v⟩ ∈ (b.resolved kind theme).container →
          ∃ color c, b.backgroundColor? = some color ∧ Rgb.parse? color = some c ∧
            v = "rgba(" ++ toString c.red ++ "," ++ toString c.green ++ "," ++ toString c.blue ++
              "," ++ NumberLayout.css.write o ++ ")")) ∧
    (∀ o color, b.opacity? = some o → o.value < 1 → b.backgroundColor? = some color →
      ⟨"background-color", color⟩ ∈ (b.resolved kind theme).container →
      ∃ d ∈ lint bs, d.index = i ∧ d.blockId = b.id ∧ d.severity = .warning ∧
        d.message = "background opacity ignored for color '" ++ color ++ "'") := by
  constructor
  · intro hclean o ho
    refine ⟨?_, ?_⟩
    · -- An opacity out of range would have been found.
      by_contra hrange
      exact notMem_opacityFindings hb hclean ho (f := .opacityOutOfRange o) rfl
        (mem_opacityFindings_iff.2 (.inl ⟨hrange, rfl⟩))
    · intro hlt v hv
      obtain ⟨color, hcolor, rfl⟩ := Block.exists_of_mem_container ho hlt hv
      cases hparse : Rgb.parse? color with
      | none =>
        have hignored := notMem_opacityFindings hb hclean ho (f := .opacityIgnored color) rfl
        exact absurd (mem_opacityFindings_iff.2 (.inr ⟨color, hcolor, hlt, hparse, rfl⟩)) hignored
      | some c =>
        exact ⟨color, c, (present_eq_some_iff.1 hcolor).1, hparse, by rw [withOpacity, hparse]; rfl⟩
  · intro o color ho hlt hfield hshown
    -- The color that is shown is the author's, so it was not changed.
    obtain ⟨color', hcolor, hsame⟩ := Block.exists_of_mem_container ho hlt hshown
    obtain rfl := Option.some.inj (hfield.symm.trans (present_eq_some_iff.1 hcolor).1)
    have hignored : .opacityIgnored color ∈ styleFindings b.style :=
      mem_styleFindings_iff.2 ⟨o, ho, mem_opacityFindings_iff.2
        (.inr ⟨color, hcolor, hlt, parse?_eq_none_of_withOpacity_eq hsame, rfl⟩)⟩
    exact ⟨_, (mk_mem_lint_iff hb rfl).2 hignored, rfl, rfl, rfl, rfl⟩

end Agreement

/-- Half of a color that is known is shown, and half of a color that is only named is reported. -/
theorem opacity_honored_half :
    let half : Double := ⟨false, 1022 * twoPow 52, by decide⟩
    let known : Block := ⟨"a", .divider, some {
      backgroundColor := some " rgb(1, 2,300)", backgroundOpacity := some half }⟩
    let named : Block := ⟨"b", .divider, some {
      backgroundColor := some "tomato", backgroundOpacity := some half }⟩
    let bs := [known, named]
    (bs[0]? = some known ∧ (∀ d ∈ lint bs, d.index = 0 → ¬d.ReportsOpacity) ∧
      known.opacity? = some half ∧ half.value < 1 ∧
      ⟨"background-color", "rgba(1,2,300,0.5)"⟩ ∈ (known.resolved .divider .standard).container ∧
      ∃ color c, known.backgroundColor? = some color ∧ Rgb.parse? color = some c) ∧
    (bs[1]? = some named ∧ named.opacity? = some half ∧ named.backgroundColor? = some "tomato" ∧
      ⟨"background-color", "tomato"⟩ ∈ (named.resolved .divider .standard).container ∧
      ∃ d ∈ lint bs, d.index = 1 ∧
        d.message = "background opacity ignored for color 'tomato'") := by
  intro half known named bs
  have hlint : lint bs = [⟨1, "b", .opacityIgnored "tomato"⟩] := by decide +kernel
  have hclean : ∀ d ∈ lint bs, d.index = 0 → ¬d.ReportsOpacity := by simp [hlint]
  have hlt : half.value < 1 := Double.ltOne_iff.1 (by decide +kernel)
  have hknown : ⟨"background-color", "rgba(1,2,300,0.5)"⟩ ∈
      (known.resolved .divider .standard).container := by decide +kernel
  have hnamed : ⟨"background-color", "tomato"⟩ ∈ (named.resolved .divider .standard).container := by
    decide +kernel
  obtain ⟨hshown, -⟩ := @opacity_honored bs 0 known rfl .divider .standard
  obtain ⟨color, c, hcolor, hparse, -⟩ := (hshown hclean half rfl).2 hlt _ hknown
  obtain ⟨-, hreported⟩ := @opacity_honored bs 1 named rfl .divider .standard
  obtain ⟨d, hd, hindex, -, -, hmessage⟩ := hreported half "tomato" rfl hlt rfl hnamed
  exact ⟨⟨rfl, hclean, rfl, hlt, hknown, color, c, hcolor, hparse⟩, rfl, rfl, rfl, hnamed, d, hd,
    hindex, hmessage⟩

end Bulletin
