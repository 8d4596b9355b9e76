import Bulletin.Proofs.Markup.Marks

/-!
# How often a tag occurs in a text

A `<` and the first characters of a name can be counted in a text without reading its tags.  In what
a tree is written as they stand where a tag begins whose name begins with these characters, and
nowhere else, however the texts and the attribute values read.

As for other marks, raw HTML is left out.  What is written as it is adds what it holds itself.

## Main statements

- `occurrences_charsAll`: how often the beginning of a tag occurs
-/

namespace Bulletin.Html

open Scanner Text

/-- The sign of a tag and the first characters of its name. -/
def nameMark (name : String) : List Char := '<' :: name.toList

theorem nameMark_ne_nil (name : String) : nameMark name ≠ [] := List.cons_ne_nil _ _

/-- The name of a tag, if it begins with some characters. -/
def Token.named (name : String) : Token → Option String
  | .opening tag _ => if name.toList.isPrefixOf tag.toList then some tag else none
  | _ => none

instance (name : String) : Token.IsReader (Token.named name) where
  text _ := rfl
  closing _ := rfl

@[simp] theorem Token.named_opening (name tag : String) (attrs : List (String × String)) :
    (Token.opening tag attrs).named name =
      if name.toList.isPrefixOf tag.toList then some tag else none := rfl

@[simp] theorem Token.named_rawText (name body : String) :
    (Token.rawText body).named name = none := rfl

@[simp] theorem Token.named_declaration (name body : String) :
    (Token.declaration body).named name = none := rfl

/-! ## Tags -/

section Tags

variable {name : String} (h : isTagName name = true)

include h

/-- A character that no name holds is none of `nameMark`. -/
theorem notMem_nameMark {c : Char} (hc : isNameChar c = false) (hopen : c ≠ '<') :
    c ∉ nameMark name := by
  rw [nameMark, List.mem_cons, not_or]
  refine ⟨hopen, ?_⟩
  intro hmem
  simp [isNameChar_of_isTagName h hmem] at hc

/-- `nameMark` does not begin where the `<` is followed by something else than a letter. -/
theorem occurrences_sign {c : Char} (hsign : c.isAlpha = false) (hc : c ≠ '<') (cs : List Char) :
    occurrences (nameMark name) ('<' :: c :: cs) = occurrences (nameMark name) cs := by
  obtain ⟨d, ds, hds, hd⟩ := exists_cons_of_isTagName h
  have hne : d ≠ c := by
    rintro rfl
    simp [hsign] at hd
  have hne' : '<' ≠ c := hc.symm
  simp [nameMark, hds, occurrences_cons, hne, hne']

/-- Attributes do not go on with a name. -/
theorem prefix_written_iff {tag : String} {attrs : List (String × String)} :
    name.toList <+: tag.toList ++ attrs.flatMap writtenAttr ↔ name.toList <+: tag.toList := by
  cases attrs with
  | nil => simp
  | cons a attrs =>
    have hspace : ' ' ∉ name.toList := by
      intro hmem
      exact absurd (isNameChar_of_isTagName h hmem) (by decide)
    rw [List.flatMap_cons, writtenAttr, List.cons_append, prefix_append_cons_iff hspace]

/-- `openChars` is counted if its name begins with the characters. -/
theorem occurrences_openChars {tag : String} {attrs : List Attr} (htag : isTagName tag = true)
    (hattrs : Attr.allNamed attrs = true) (rest : List Char) :
    occurrences (nameMark name) (Node.openChars tag attrs ++ rest) =
      ((Token.opening tag (attrs.map Attr.scanned)).named name).toList.length +
        occurrences (nameMark name) rest := by
  have hend : '>' ∉ nameMark name := notMem_nameMark h (by decide) (by decide)
  have hinside : '<' ∉ tag.toList ++ (attrs.map Attr.scanned).flatMap writtenAttr := fun hmem =>
    (ne_of_mem_written htag (isWritten_map_scanned hattrs) _ hmem).1 rfl
  -- Inside of the tag there is no other sign, so the mark can only stand at its front.
  have hbody : occurrences (nameMark name)
      (tag.toList ++ (attrs.map Attr.scanned).flatMap writtenAttr) = 0 := by
    have hnone := @occurrences_append_of_notMem '<' name.toList _ hinside []
    rwa [List.append_nil] at hnone
  have hbegins : (nameMark name).isPrefixOf (tagMark tag (attrs.map Attr.scanned)) =
      name.toList.isPrefixOf tag.toList := by
    rw [Bool.eq_iff_iff, List.isPrefixOf_iff_prefix, List.isPrefixOf_iff_prefix, nameMark, tagMark,
      List.cons_prefix_cons, prefix_written_iff h]
    simp
  rw [openChars_eq, List.append_assoc, List.singleton_append,
    occurrences_append_cons (nameMark_ne_nil name) hend]
  rw [tagMark, occurrences_cons, hbody, ← tagMark, hbegins, Token.named_opening]
  split <;> simp

/-- `closeChars` is not counted. -/
theorem occurrences_closeChars {tag : String} (htag : isTagName tag = true) (rest : List Char) :
    occurrences (nameMark name) (Node.closeChars tag ++ rest) =
      occurrences (nameMark name) rest := by
  have hinside : '<' ∉ tag.toList ++ ['>'] := by
    intro hmem
    rcases List.mem_append.1 hmem with hmem | hmem
    · exact absurd (isNameChar_of_isTagName htag hmem) (by decide)
    · simp at hmem
  have hclose : Node.closeChars tag ++ rest = '<' :: '/' :: (tag.toList ++ ['>'] ++ rest) := rfl
  rw [hclose, occurrences_sign h (by decide) (by decide), nameMark,
    occurrences_append_of_notMem hinside]

end Tags

/-! ## Trees -/

mutual

/-- `occurrences` in a node are its tags that begin with the mark. -/
theorem occurrences_chars_append {name : String} (hname : isTagName name = true) (n : Node)
    (h : n.WellFormed fun _ => False)
    (hfree : ∀ body ∈ gather Token.literal? n.tokens, ¬nameMark name <:+: body.toList)
    (rest : List Char) :
    occurrences (nameMark name) (n.chars ++ rest) =
      (gather (Token.named name) n.tokens).length + occurrences (nameMark name) rest := by
  have hne := nameMark_ne_nil name
  cases n with
  | text s =>
    have hopen : '<' ∉ escapeChars s.toList := by
      intro hmem
      simpa [isMarkup] using not_isMarkup_of_mem_escapeChars hmem
    rw [Node.chars, nameMark, occurrences_append_of_notMem hopen, Node.gather_text]
    simp
  | entity entityName =>
    have hopen : '<' ∉ '&' :: entityName.toList ++ [';'] := by
      intro hmem
      have hmem : '<' ∈ entityName.toList := by simpa using hmem
      exact absurd (isNameChar_of_isName h hmem) (by decide)
    rw [Node.chars, nameMark, occurrences_append_of_notMem hopen, Node.gather_entity]
    simp
  | void tag attrs =>
    obtain ⟨hvoid, hattrs⟩ := h
    obtain ⟨htag, -, -⟩ := isVoidTag_iff.1 hvoid
    rw [Node.chars, occurrences_openChars hname htag hattrs, Node.gather_void]
  | element tag attrs children =>
    obtain ⟨helement, hattrs, hchildren⟩ := h
    obtain ⟨htag, -, -⟩ := isElementTag_iff.1 helement
    rw [Node.gather_element, Token.literal?_opening, Option.toList_none, List.nil_append] at hfree
    rw [Node.chars, List.append_assoc, List.append_assoc, occurrences_openChars hname htag hattrs,
      occurrences_charsAll_append hname children hchildren hfree,
      occurrences_closeChars hname htag, Node.gather_element, List.length_append, Nat.add_assoc]
  | verbatim tag body =>
    obtain ⟨htag, -, -⟩ := isRawTag_iff.1 h.1
    have hopen : '<' ∉ name.toList := by
      intro hmem
      exact absurd (isNameChar_of_isTagName hname hmem) (by decide)
    have hbody : occurrences (nameMark name) body.toList = 0 :=
      (occurrences_eq_zero_iff hne).2 (hfree body (by simp))
    -- The body ends at the sign of the closing tag.
    have hsplit : occurrences (nameMark name) (body.toList ++ (Node.closeChars tag ++ rest)) =
        occurrences (nameMark name) rest := by
      have hcut := occurrences_append_head hopen body.toList
        ('/' :: (tag.toList ++ ['>'] ++ rest))
      rw [← occurrences_closeChars hname htag rest]
      exact hcut.trans (by rw [← nameMark, hbody, Nat.zero_add]; rfl)
    rw [Node.chars, List.append_assoc, List.append_assoc, occurrences_openChars hname htag rfl,
      hsplit, Node.gather_verbatim]
    simp
  | comment body =>
    have hend : '>' ∉ nameMark name := notMem_nameMark hname (by decide) (by decide)
    have hbody : occurrences (nameMark name) ("--" ++ body ++ "--").toList = 0 :=
      (occurrences_eq_zero_iff hne).2 (hfree _ (by simp [Node.tokens, gather_cons]))
    have hsplit : (Node.comment body).chars ++ rest =
        '<' :: '!' :: (("--" ++ body ++ "--").toList ++ '>' :: rest) := by
      simp [Node.chars, String.toList_append]
    rw [hsplit, occurrences_sign hname (by decide) (by decide), occurrences_append_cons hne hend,
      hbody]
    simp [Node.tokens, gather_cons]
  | raw html => exact h.elim

/-- `occurrences` in nodes in a row are their tags that begin with the mark. -/
theorem occurrences_charsAll_append {name : String} (hname : isTagName name = true)
    (ns : List Node) (h : Node.WellFormedAll (fun _ => False) ns)
    (hfree : ∀ body ∈ gather Token.literal? (Node.tokensAll ns), ¬nameMark name <:+: body.toList)
    (rest : List Char) :
    occurrences (nameMark name) (Node.charsAll ns ++ rest) =
      (gather (Token.named name) (Node.tokensAll ns)).length +
        occurrences (nameMark name) rest := by
  cases ns with
  | nil => simp [Node.charsAll]
  | cons n ns =>
    rw [Node.gather_tokensAll_cons, List.forall_mem_append] at hfree
    rw [Node.charsAll, List.append_assoc, occurrences_chars_append hname n h.1 hfree.1,
      occurrences_charsAll_append hname ns h.2 hfree.2, Node.gather_tokensAll_cons,
      List.length_append, Nat.add_assoc]

end

/-- `occurrences` of the mark in what a tree is written as are the tags that begin with it. -/
theorem occurrences_charsAll {name : String} (hname : isTagName name = true) {ns : List Node}
    (h : Node.WellFormedAll (fun _ => False) ns)
    (hfree : ∀ body ∈ gather Token.literal? (Node.tokensAll ns),
      ¬nameMark name <:+: body.toList) :
    occurrences (nameMark name) (Node.charsAll ns) =
      (gather (Token.named name) (Node.tokensAll ns)).length := by
  have hall := occurrences_charsAll_append hname ns h hfree []
  rwa [List.append_nil, occurrences_nil, Nat.add_zero] at hall

end Bulletin.Html
