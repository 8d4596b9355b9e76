import Bulletin.Proofs.Lint.Message

/-!
# What is found in a list of blocks

The findings of a list are those of its blocks, one after another.  What is found of a block depends
on the block and on the ids before it, and of those only on which they are: so a list can be cut
anywhere, and what is reported at a position can be read off by itself.

## Main statements

- `diagnosticsFrom_append`: the findings of a list go on behind those of its front
- `filter_index_lint`: what is reported at a position
- `lint_verdict`: when nothing is an error, and what is reported about ids
-/

namespace Bulletin

open Text Lint

/-! ## Reports about ids -/

namespace Diagnostic

/-- Says that a block has no id. -/
def reportsNoId (d : Diagnostic) : Bool := d.message = "block has no id"

/-- Says, as an error, that a block has the id of another one. -/
def reportsRepeatedId (d : Diagnostic) : Bool :=
  d.isError && "duplicate block id '".toList.isPrefixOf d.message.toList

end Diagnostic

namespace Finding

/-- Findings about the id. -/
def aboutId : Finding → Bool
  | .noId | .duplicateId _ => true
  | _ => false

/-- `message` says that an id is missing for that finding only. -/
theorem message_eq_noId_iff {f : Finding} : f.message = "block has no id" ↔ f = .noId := by
  constructor
  · intro h
    have hwords : f.firstWords.toList = "block has no i".toList := by
      rw [← take_message, h]
      decide
    rw [String.toList_inj] at hwords
    cases f <;> simp [firstWords] at hwords ⊢
  · rintro rfl
    rfl

/-- `message` begins so for a repeated id only. -/
theorem prefix_message_iff {f : Finding} :
    "duplicate block id '".toList <+: f.message.toList ↔ ∃ id, f = .duplicateId id := by
  constructor
  · rintro ⟨rest, hrest⟩
    -- The first words stand in front of the id.
    have hwords : f.firstWords.toList = "duplicate bloc".toList := by
      rw [← take_message, ← hrest, List.take_append_of_le_length (by decide)]
      decide
    rw [String.toList_inj] at hwords
    cases f with
    | duplicateId id => exact ⟨id, rfl⟩
    | _ => simp [firstWords] at hwords
  · rintro ⟨id, rfl⟩
    show _ <+: ("duplicate block id '" ++ id ++ "'").toList
    rw [String.toList_append, String.toList_append, List.append_assoc]
    exact List.prefix_append _ _

end Finding

namespace Diagnostic

/-- `reportsNoId` holds of the finding of a missing id. -/
theorem reportsNoId_iff {d : Diagnostic} : d.reportsNoId = true ↔ d.finding = .noId := by
  rw [← Finding.message_eq_noId_iff, reportsNoId, decide_eq_true_iff, message]

/-- `reportsRepeatedId` holds of the finding of a repeated id. -/
theorem reportsRepeatedId_iff {d : Diagnostic} :
    d.reportsRepeatedId = true ↔ ∃ id, d.finding = .duplicateId id := by
  rw [← Finding.prefix_message_iff, reportsRepeatedId, Bool.and_eq_true, List.isPrefixOf_iff_prefix]
  constructor
  · exact fun h => h.2
  · intro h
    obtain ⟨id, hid⟩ := Finding.prefix_message_iff.1 h
    refine ⟨?_, h⟩
    simp [isError, severity, hid, Finding.severity]

/-- `reportsNoId` and `reportsRepeatedId` hold of findings about ids only. -/
theorem aboutId_of_reports {d : Diagnostic} (h : (d.reportsNoId || d.reportsRepeatedId) = true) :
    d.finding.aboutId = true := by
  rw [Bool.or_eq_true, reportsNoId_iff, reportsRepeatedId_iff] at h
  obtain h | ⟨id, h⟩ := h
  · rw [h]; rfl
  · rw [h]; rfl

end Diagnostic

/-! ## Findings about one block -/

namespace Lint

variable {before : List String} {b : Block} {f : Finding}

/-- `contentFindings` are not about the id. -/
theorem not_aboutId_of_mem_contentFindings {c : Content} (h : f ∈ contentFindings c) :
    f.aboutId = false := by
  rw [mem_contentFindings_iff] at h
  cases f <;> simp [Finding.Describes, Finding.aboutId] at h ⊢

/-- `styleFindings` are warnings, and not about the id. -/
theorem severity_of_mem_styleFindings {s : Option Style} (h : f ∈ styleFindings s) :
    f.severity = .warning ∧ f.aboutId = false := by
  -- Both findings about a style are about its opacity, and both are warnings.
  unfold styleFindings opacityFindings at h
  grind [Finding.severity, Finding.aboutId]

/-- `idFindings` say that an id is missing, or that it was there before. -/
theorem mem_idFindings_iff {id : String} :
    f ∈ idFindings before id ↔
      (isBlank id = true ∧ f = .noId) ∨
      (isBlank id = false ∧ id ∈ before ∧ f = .duplicateId id) := by
  unfold idFindings
  cases isBlank id with
  | true => simp
  | false => by_cases hid : id ∈ before <;> simp [hid]

/-- `blockFindings` about the id are `idFindings`. -/
theorem mem_blockFindings_of_aboutId (hf : f.aboutId = true) :
    f ∈ blockFindings before b ↔ f ∈ idFindings before b.id := by
  have hcontent : f ∉ contentFindings b.content := by
    intro h
    simp [not_aboutId_of_mem_contentFindings h] at hf
  have hstyle : f ∉ styleFindings b.style := by
    intro h
    simp [(severity_of_mem_styleFindings h).2] at hf
  simp [blockFindings, hcontent, hstyle]

/-- `blockFindings` are about the id once at most. -/
theorem countP_aboutId_blockFindings_le (before : List String) (b : Block) :
    (blockFindings before b).countP Finding.aboutId ≤ 1 := by
  have hid : (idFindings before b.id).countP Finding.aboutId ≤ 1 := by
    have hlength : (idFindings before b.id).length ≤ 1 := by
      unfold idFindings
      split
      · simp
      · split <;> simp
    have := (idFindings before b.id).countP_le_length (p := Finding.aboutId)
    omega
  have hcontent : (contentFindings b.content).countP Finding.aboutId = 0 := by
    rw [List.countP_eq_zero]
    intro f hf
    simp [not_aboutId_of_mem_contentFindings hf]
  have hstyle : (styleFindings b.style).countP Finding.aboutId = 0 := by
    rw [List.countP_eq_zero]
    intro f hf
    simp [(severity_of_mem_styleFindings hf).2]
  -- Contents and styles add nothing to what is found of the id.
  rw [blockFindings, List.countP_append, List.countP_append]
  omega

/-- `contentFindings` hold an error when the content has no kind. -/
theorem exists_error_contentFindings_iff {c : Content} :
    (∃ f ∈ contentFindings c, f.severity = .error) ↔ c.kind? = none := by
  constructor
  · rintro ⟨f, hf, herror⟩
    -- Of the findings on contents only two are errors, both about unknown kinds.
    rw [mem_contentFindings_iff] at hf
    cases f with
    | noType =>
      rw [show c = .unknown "" from hf]
      rfl
    | unknownType tag =>
      rw [show c = .unknown tag from hf.2]
      rfl
    | duplicateId _ => exact hf.elim
    | _ => simp [Finding.severity] at herror
  · intro hkind
    cases c with
    | unknown tag =>
      rw [contentFindings]
      split <;> simp [Finding.severity]
    | _ => simp [Content.kind?] at hkind

/-- `blockFindings` hold an error when the id was there before or the block has no kind. -/
theorem exists_error_blockFindings_iff :
    (∃ f ∈ blockFindings before b, f.severity = .error) ↔
      (isBlank b.id = false ∧ b.id ∈ before) ∨ b.content.kind? = none := by
  have hid : (∃ f ∈ idFindings before b.id, f.severity = .error) ↔
      isBlank b.id = false ∧ b.id ∈ before := by
    simp only [mem_idFindings_iff]
    constructor
    · rintro ⟨f, ⟨-, rfl⟩ | ⟨hblank, hmem, rfl⟩, herror⟩
      · simp [Finding.severity] at herror
      · exact ⟨hblank, hmem⟩
    · rintro ⟨hblank, hmem⟩
      exact ⟨_, .inr ⟨hblank, hmem, rfl⟩, rfl⟩
  have hstyle : ¬∃ f ∈ styleFindings b.style, f.severity = .error := by
    rintro ⟨f, hf, herror⟩
    simp [(severity_of_mem_styleFindings hf).1] at herror
  -- Styles are never errors, which leaves the id and the content.
  rw [← hid, ← exists_error_contentFindings_iff]
  simp only [blockFindings, List.mem_append, or_and_right, exists_or, hstyle, or_false]

end Lint

/-! ## Findings along a list -/

namespace Lint

variable {index : Nat} {before : List String} {bs : List Block} {d : Diagnostic}

/-- `diagnosticsFrom` goes on behind the findings of the front of a list. -/
theorem diagnosticsFrom_append (index : Nat) (before : List String) (bs bs' : List Block) :
    diagnosticsFrom index before (bs ++ bs') =
      diagnosticsFrom index before bs ++
        diagnosticsFrom (index + bs.length) ((bs.map Block.id).reverse ++ before) bs' := by
  -- Each block behind the first counts the position up and hands its id on.
  induction bs generalizing index before with
  | nil => rfl
  | cons b bs ih =>
    have hindex : index + (b :: bs).length = index + 1 + bs.length := by
      rw [List.length_cons]
      omega
    have hbefore : ((b :: bs).map Block.id).reverse ++ before =
        (bs.map Block.id).reverse ++ b.id :: before := by
      simp
    rw [List.cons_append, diagnosticsFrom, diagnosticsFrom, ih, hindex, hbefore,
      List.append_assoc]

/-- `diagnosticsFrom` gives positions of the list only. -/
theorem index_of_mem_diagnosticsFrom (h : d ∈ diagnosticsFrom index before bs) :
    index ≤ d.index ∧ d.index < index + bs.length := by
  induction bs generalizing index before with
  | nil => simp [diagnosticsFrom] at h
  | cons b bs ih =>
    rw [List.length_cons]
    rw [diagnosticsFrom, List.mem_append] at h
    cases h with
    | inl h =>
      obtain ⟨f, -, rfl⟩ := List.mem_map.1 h
      dsimp only
      omega
    | inr h =>
      have := ih h
      omega

/-- `diagnosticsFrom` gives the positions in order. -/
theorem pairwise_index_diagnosticsFrom (index : Nat) (before : List String) (bs : List Block) :
    (diagnosticsFrom index before bs).Pairwise fun d d' => d.index ≤ d'.index := by
  induction bs generalizing index before with
  | nil => exact .nil
  | cons b bs ih =>
    rw [diagnosticsFrom, List.pairwise_append]
    refine ⟨?_, ih _ _, ?_⟩
    · -- The findings of one block share its position.
      rw [List.pairwise_map]
      exact List.pairwise_of_forall fun _ _ => Nat.le_refl index
    · intro d hd d' hd'
      obtain ⟨f, -, rfl⟩ := List.mem_map.1 hd
      have := (index_of_mem_diagnosticsFrom hd').1
      dsimp only
      omega

/-- The ids in front of a position, the last one first. -/
def idsBefore (bs : List Block) (i : Nat) : List String := ((bs.take i).map Block.id).reverse

/-- `idsBefore` are the ids at earlier positions. -/
theorem mem_idsBefore_iff {i : Nat} (hi : i < bs.length) {id : String} :
    id ∈ idsBefore bs i ↔ ∃ j, ∃ hj : j < i, bs[j].id = id := by
  simp only [idsBefore, List.mem_reverse, List.mem_map, List.mem_take_iff_getElem]
  constructor
  · rintro ⟨_, ⟨j, hj, rfl⟩, rfl⟩
    exact ⟨j, by omega, rfl⟩
  · rintro ⟨j, hj, rfl⟩
    exact ⟨_, ⟨j, by omega, rfl⟩, rfl⟩

/-- `lint` reports at a position what is found of the block there, given the ids before. -/
theorem filter_index_lint {i : Nat} (hi : i < bs.length) :
    (lint bs).filter (fun d => d.index = i) =
      (blockFindings (idsBefore bs i) bs[i]).map (⟨i, bs[i].id, ·⟩) := by
  have hsplit : bs = bs.take i ++ bs[i] :: bs.drop (i + 1) := by
    rw [← List.drop_eq_getElem_cons hi, List.take_append_drop]
  have hlength : (bs.take i).length = i := List.length_take_of_le (by omega)
  -- The findings in front of the position, at it, and behind it.
  have hlint : lint bs = diagnosticsFrom 0 [] (bs.take i) ++
      ((blockFindings (idsBefore bs i) bs[i]).map (⟨i, bs[i].id, ·⟩) ++
        diagnosticsFrom (i + 1) (bs[i].id :: idsBefore bs i) (bs.drop (i + 1))) := by
    conv => lhs; rw [lint, hsplit]
    rw [diagnosticsFrom_append, diagnosticsFrom, hlength, Nat.zero_add, List.append_nil]
    rfl
  have hfront : (diagnosticsFrom 0 [] (bs.take i)).filter (fun d => d.index = i) = [] := by
    rw [List.filter_eq_nil_iff]
    intro d hd
    have := index_of_mem_diagnosticsFrom hd
    simp only [decide_eq_true_eq]
    omega
  have hrest : (diagnosticsFrom (i + 1) (bs[i].id :: idsBefore bs i) (bs.drop (i + 1))).filter
      (fun d => d.index = i) = [] := by
    rw [List.filter_eq_nil_iff]
    intro d hd
    have := index_of_mem_diagnosticsFrom hd
    simp only [decide_eq_true_eq]
    omega
  have hhere : ((blockFindings (idsBefore bs i) bs[i]).map (Diagnostic.mk i bs[i].id)).filter
      (fun d => d.index = i) = (blockFindings (idsBefore bs i) bs[i]).map (⟨i, bs[i].id, ·⟩) := by
    rw [List.filter_eq_self]
    intro d hd
    obtain ⟨f, -, rfl⟩ := List.mem_map.1 hd
    simp
  -- The positions in front are smaller, those behind are larger.
  rw [hlint, List.filter_append, List.filter_append, hfront, hhere, hrest, List.nil_append,
    List.append_nil]

/-- `lint` reports what is found of some block, given the ids before. -/
theorem mem_lint_iff :
    d ∈ lint bs ↔ ∃ hi : d.index < bs.length, d.blockId = bs[d.index].id ∧
      d.finding ∈ blockFindings (idsBefore bs d.index) bs[d.index] := by
  -- A diagnostic is among those of its own position, and these are known.
  have hfilter : d ∈ lint bs ↔ d ∈ (lint bs).filter (fun d' => d'.index = d.index) := by
    rw [List.mem_filter]
    simp
  constructor
  · intro h
    have hi : d.index < bs.length := by
      have := (index_of_mem_diagnosticsFrom h).2
      omega
    rw [hfilter, filter_index_lint hi] at h
    obtain ⟨f, hf, hd⟩ := List.mem_map.1 h
    rw [← hd]
    exact ⟨hi, rfl, hf⟩
  · rintro ⟨hi, hid, hf⟩
    rw [hfilter, filter_index_lint hi]
    exact List.mem_map.2 ⟨d.finding, hf, by rw [← hid]⟩

end Lint

/-! ## The verdict on a list -/

/-- A text that meets a condition stands in a list once if it stands nowhere earlier. -/
theorem nodup_filter_iff {ids : List String} {p : String → Bool} :
    (ids.filter p).Nodup ↔
      ∀ (i : Nat) (hi : i < ids.length), p ids[i] = true → ∀ (j : Nat) (hj : j < i),
        ids[j] ≠ ids[i] := by
  -- `Nodup` compares an earlier text with a later one, and asks the condition of both of them; for
  -- equal texts the later one is enough.
  rw [List.Nodup, List.pairwise_filter, List.pairwise_iff_getElem]
  constructor
  · intro h i hi hp j hj heq
    exact h j i (by omega) hi hj (by rwa [heq]) hp heq
  · intro h j i hj hi hlt _ hp
    exact h i hi hp j hlt

/-- `lint` reports no error if every block has a kind and no id that is given is given twice. -/
theorem forall_ne_error_lint_iff {bs : List Block} :
    (∀ d ∈ lint bs, d.severity ≠ .error) ↔
      (∀ b ∈ bs, b.content.kind? ≠ none) ∧
        ((bs.map Block.id).filter fun id => !isBlank id).Nodup := by
  -- At each position there is an error if the id was there before or there is no kind.
  have hposition : (∃ d ∈ lint bs, d.severity = .error) ↔
      ∃ (i : Nat) (hi : i < bs.length),
        (isBlank bs[i].id = false ∧ bs[i].id ∈ idsBefore bs i) ∨ bs[i].content.kind? = none := by
    constructor
    · rintro ⟨d, hd, herror⟩
      obtain ⟨hi, -, hf⟩ := mem_lint_iff.1 hd
      exact ⟨d.index, hi, exists_error_blockFindings_iff.1 ⟨d.finding, hf, herror⟩⟩
    · rintro ⟨i, hi, h⟩
      obtain ⟨f, hf, herror⟩ := exists_error_blockFindings_iff.2 h
      exact ⟨⟨i, bs[i].id, f⟩, mem_lint_iff.2 ⟨hi, rfl, hf⟩, herror⟩
  have hnone : (∀ d ∈ lint bs, d.severity ≠ .error) ↔ ¬∃ d ∈ lint bs, d.severity = .error := by
    simp
  -- The ids that are compared stand in the list of ids, at the positions of their blocks.
  rw [hnone, hposition, nodup_filter_iff]
  simp only [not_exists, not_or, not_and]
  constructor
  · intro h
    refine ⟨?_, ?_⟩
    · intro b hb
      obtain ⟨i, hi, rfl⟩ := List.getElem_of_mem hb
      exact (h i hi).2
    · intro i hi hp j hj heq
      rw [List.length_map] at hi
      rw [List.getElem_map] at hp
      rw [List.getElem_map, List.getElem_map] at heq
      exact (h i hi).1 (by simpa using hp) ((mem_idsBefore_iff hi).2 ⟨j, hj, heq⟩)
  · rintro ⟨hkind, hnodup⟩ i hi
    refine ⟨?_, hkind _ (List.getElem_mem hi)⟩
    intro hblank hmem
    obtain ⟨j, hj, heq⟩ := (mem_idsBefore_iff hi).1 hmem
    refine hnodup i (by rwa [List.length_map]) ?_ j hj ?_
    · simpa using hblank
    · simpa using heq

section Position

variable {bs : List Block} {i : Nat}

/-- A missing id is reported at the positions where it is missing. -/
theorem exists_reportsNoId_iff (hi : i < bs.length) :
    (∃ d ∈ lint bs, d.index = i ∧ d.reportsNoId = true) ↔ isBlank bs[i].id = true := by
  constructor
  · rintro ⟨d, hd, rfl, hreport⟩
    obtain ⟨hi, -, hf⟩ := mem_lint_iff.1 hd
    rw [Diagnostic.reportsNoId_iff] at hreport
    rw [hreport, mem_blockFindings_of_aboutId rfl, mem_idFindings_iff] at hf
    obtain ⟨hblank, -⟩ | ⟨-, -, h⟩ := hf
    · exact hblank
    · cases h
  · intro hblank
    refine ⟨⟨i, bs[i].id, .noId⟩, mem_lint_iff.2 ⟨hi, rfl, ?_⟩, rfl, rfl⟩
    rw [mem_blockFindings_of_aboutId rfl, mem_idFindings_iff]
    exact .inl ⟨hblank, rfl⟩

/-- A repeated id is reported at the positions where it stands again. -/
theorem exists_reportsRepeatedId_iff (hi : i < bs.length) :
    (∃ d ∈ lint bs, d.index = i ∧ d.reportsRepeatedId = true) ↔
      isBlank bs[i].id = false ∧ ∃ j, ∃ hj : j < i, bs[j].id = bs[i].id := by
  rw [← mem_idsBefore_iff hi]
  constructor
  · rintro ⟨d, hd, rfl, hreport⟩
    obtain ⟨hi, -, hf⟩ := mem_lint_iff.1 hd
    obtain ⟨id, hid⟩ := Diagnostic.reportsRepeatedId_iff.1 hreport
    rw [hid, mem_blockFindings_of_aboutId rfl, mem_idFindings_iff] at hf
    obtain ⟨-, h⟩ | ⟨hblank, hmem, -⟩ := hf
    · cases h
    · exact ⟨hblank, hmem⟩
  · rintro ⟨hblank, hmem⟩
    refine ⟨⟨i, bs[i].id, .duplicateId bs[i].id⟩, mem_lint_iff.2 ⟨hi, rfl, ?_⟩, rfl, ?_⟩
    · rw [mem_blockFindings_of_aboutId rfl, mem_idFindings_iff]
      exact .inr ⟨hblank, hmem, rfl⟩
    · exact Diagnostic.reportsRepeatedId_iff.2 ⟨_, rfl⟩

/-- The `message` about a repeated id names the block's own. -/
theorem message_of_reportsRepeatedId {d : Diagnostic} (hd : d ∈ lint bs)
    (hreport : d.reportsRepeatedId = true) :
    d.message = "duplicate block id '" ++ d.blockId ++ "'" := by
  obtain ⟨hi, hblock, hf⟩ := mem_lint_iff.1 hd
  obtain ⟨id, hid⟩ := Diagnostic.reportsRepeatedId_iff.1 hreport
  rw [hid, mem_blockFindings_of_aboutId rfl, mem_idFindings_iff] at hf
  obtain ⟨-, h⟩ | ⟨-, -, h⟩ := hf
  · cases h
  · rw [Diagnostic.message, hid, h, hblock]
    rfl

/-- At most one finding at a position is about the id. -/
theorem countP_reports_le (hi : i < bs.length) :
    (lint bs).countP (fun d => d.index = i && (d.reportsNoId || d.reportsRepeatedId)) ≤ 1 := by
  have hfilter :
      (lint bs).countP (fun d => d.index = i && (d.reportsNoId || d.reportsRepeatedId)) =
        ((lint bs).filter fun d => d.index = i).countP fun d =>
          d.reportsNoId || d.reportsRepeatedId := by
    rw [List.countP_filter]
    simp only [Bool.and_comm]
  -- At one position the reports are those of one block, which are findings about its id.
  rw [hfilter, filter_index_lint hi, List.countP_map]
  calc _ ≤ (blockFindings (idsBefore bs i) bs[i]).countP Finding.aboutId :=
        List.countP_mono_left fun f _ h => Diagnostic.aboutId_of_reports h
    _ ≤ 1 := countP_aboutId_blockFindings_le _ _

end Position

/-- `lint` reports no error if and only if every block has a kind and no id that is given is given
twice.  A repeated id is reported where it stands again, and a missing one where it is missing, at
most once at each position; findings come in the order of the blocks, with the ids of these, and
those of a front of the list come first. -/
theorem lint_verdict (bs : List Block) :
    ((∀ d ∈ lint bs, d.severity ≠ .error) ↔
      (∀ b ∈ bs, b.content.kind? ≠ none) ∧
        ((bs.map Block.id).filter fun id => !isBlank id).Nodup) ∧
    (∀ (i : Nat) (hi : i < bs.length),
      ((∃ d ∈ lint bs, d.index = i ∧ d.reportsRepeatedId = true) ↔
        isBlank bs[i].id = false ∧ ∃ j, ∃ hj : j < i, bs[j].id = bs[i].id) ∧
      ((∃ d ∈ lint bs, d.index = i ∧ d.reportsNoId = true) ↔ isBlank bs[i].id = true) ∧
      (lint bs).countP (fun d => d.index = i && (d.reportsNoId || d.reportsRepeatedId)) ≤ 1) ∧
    (∀ d ∈ lint bs, d.reportsRepeatedId = true →
      d.message = "duplicate block id '" ++ d.blockId ++ "'") ∧
    (lint bs).Pairwise (fun d d' => d.index ≤ d'.index) ∧
    (∀ d ∈ lint bs, ∃ hi : d.index < bs.length, d.blockId = bs[d.index].id) ∧
    (∀ front, front <+: bs → lint front <+: lint bs) := by
  refine ⟨forall_ne_error_lint_iff, ?_, ?_, ?_, ?_, ?_⟩
  · intro i hi
    exact ⟨exists_reportsRepeatedId_iff hi, exists_reportsNoId_iff hi, countP_reports_le hi⟩
  · intro d hd
    exact message_of_reportsRepeatedId hd
  · exact pairwise_index_diagnosticsFrom 0 [] bs
  · intro d hd
    obtain ⟨hi, hid, -⟩ := mem_lint_iff.1 hd
    exact ⟨hi, hid⟩
  · rintro front ⟨rest, rfl⟩
    rw [lint, lint, diagnosticsFrom_append]
    exact List.prefix_append _ _

end Bulletin
