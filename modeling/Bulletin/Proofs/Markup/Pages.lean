import Bulletin.Document
import Bulletin.Proofs.Markup.Fragments
import Bulletin.Proofs.Markup.Skeleton

/-!
# Documents are well formed

The root of a document is a well-formed tree around the fragments.  Its one comment holds no dashes
and its style sheet, whatever colors the theme brings, opens no tag.

## Main statements

- `wellFormed_root`: a document around well-formed content is well formed
-/

namespace Bulletin

open Html Node Text

variable {allow : String → Prop}

/-- `stylesheet` opens no tag. -/
theorem lt_notMem_stylesheet (theme : Theme) (width : Nat) :
    '<' ∉ (stylesheet theme width).toList := by
  intro hmem
  -- It holds no markup character at all.
  have hplain := skeleton_eq_nil_iff.1 (skeleton_stylesheet theme width) '<' hmem
  exact absurd hplain (by decide)

namespace Document

/-- `onLines` is well formed if the nodes are. -/
@[simp] theorem wellFormedAll_onLines {ns : List Node} :
    WellFormedAll allow (onLines ns) ↔ WellFormedAll allow ns := by
  have hline : newline.WellFormed allow := wellFormed_text "\n"
  -- Every node is followed by a line feed, which is text.
  have hpair : ∀ n : Node, WellFormedAll allow [n, newline] ↔ n.WellFormed allow := fun n =>
    and_iff_left (And.intro hline trivial)
  have hlines :
      WellFormedAll allow (ns.flatMap fun n => [n, newline]) ↔ WellFormedAll allow ns := by
    induction ns with
    | nil => rfl
    | cons n ns ih =>
      rw [List.flatMap_cons, wellFormedAll_append, hpair, wellFormedAll_cons]
      exact and_congr_right fun _ => ih
  rw [onLines, wellFormedAll_cons, and_iff_right hline, hlines]

/-- `officeSettings` may stand in a comment. -/
theorem wellFormed_officeSettings : (comment officeSettings).WellFormed allow := by
  -- The settings are two literals, and neither of them holds a dash.
  have hall : (officeSettings.toList.all fun c => c ≠ '-') = true := by
    unfold officeSettings
    simp only [String.toList_append, List.all_append, Bool.and_eq_true]
    constructor
    all_goals exact all_toList_ofList (by decide)
  intro hoccurs
  simpa using List.all_eq_true.1 hall '-' (hoccurs.mem (by decide))

/-- `stylesheet` may stand in a style element. -/
theorem wellFormed_verbatim_stylesheet (theme : Theme) (width : Nat) :
    (verbatim "style" (stylesheet theme width)).WellFormed allow := by
  refine ⟨by decide, ?_⟩
  intro hoccurs
  exact lt_notMem_stylesheet theme width (hoccurs.mem (by decide))

/-- `head` is well formed, whatever the theme and the title are. -/
theorem wellFormed_head (theme : Theme) (o : RenderOptions) : (head theme o).WellFormed allow := by
  have hsettings : (comment officeSettings).WellFormed allow := wellFormed_officeSettings
  have hstyle : (verbatim "style" (stylesheet theme o.width)).WellFormed allow :=
    wellFormed_verbatim_stylesheet theme o.width
  simp +decide [head, hsettings, hstyle]

/-- `preheader` is well formed. -/
theorem wellFormedAll_preheader (o : RenderOptions) : WellFormedAll allow (preheader o) := by
  unfold preheader
  split
  · simp +decide
  · trivial

/-- `page` is well formed if its content is. -/
theorem wellFormed_page {content : Node} (theme : Theme) (h : content.WellFormed allow) :
    (page theme content).WellFormed allow := by
  simp +decide [page, h]

/-- `container` is well formed if its content is. -/
theorem wellFormed_container {content : List Node} (theme : Theme) (width : Nat)
    (h : WellFormedAll allow content) : (container theme width content).WellFormed allow := by
  simp +decide [container, newline, h]

/-- `root` is well formed around well-formed content. -/
theorem wellFormed_root {content : List Node} (h : WellFormedAll allow content) (theme : Theme)
    (o : RenderOptions) : (root content theme o).WellFormed allow := by
  have hpage := wellFormed_page theme (wellFormed_container theme o.width h)
  simp +decide [root, rootAttrs, wellFormed_head, wellFormedAll_preheader, hpage]

end Document

end Bulletin
