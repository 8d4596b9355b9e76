import Bulletin.Proofs.Markup.Reading
import Bulletin.Proofs.Text.Occurrence

/-!
# Tags in a text

The first characters of a tag, its name and some attributes as they are written, can be looked for
in a text without reading its tags.  In what a tree is written as they occur where a tag begins with
them, and nowhere else: texts and attribute values are escaped, so that neither brings a `<` or a
quotation mark of its own.

Raw HTML could hold anything and is left out; so are raw text and comments that hold the mark.

## Main statements

- `tagMark_prefix_iff`: how a tag begins
- `tagMark_infix_html_iff`: where the beginning of a tag occurs
-/

namespace Bulletin.Html

open Scanner Text

/-- The attributes of a tag, if it has this name and its attributes are such. -/
def Token.tagged (tag : String) (p : List (String × String) → Bool) :
    Token → Option (List (String × String))
  | .opening tag' attrs => if tag' = tag ∧ p attrs = true then some attrs else none
  | _ => none

instance (tag : String) (p : List (String × String) → Bool) :
    Token.IsReader (Token.tagged tag p) where
  text _ := rfl
  closing _ := rfl

section Tagged

variable {tag tag' : String} {p : List (String × String) → Bool} {attrs : List (String × String)}

/-- `tagged` passes over tags of other names. -/
@[simp] theorem Token.tagged_opening_of_ne (h : tag' ≠ tag) :
    (Token.opening tag' attrs).tagged tag p = none := by
  simp [tagged, h]

/-- `tagged` reads tags of its name whose attributes are such. -/
@[simp] theorem Token.tagged_opening_self :
    (Token.opening tag attrs).tagged tag p = if p attrs = true then some attrs else none := by
  simp [tagged]

/-- `tagged` reads a tag if it has the name and its attributes are such. -/
theorem Token.tagged_opening_ne_none_iff :
    (Token.opening tag' attrs).tagged tag p ≠ none ↔ tag' = tag ∧ p attrs = true := by
  simp [tagged]

@[simp] theorem Token.tagged_rawText (body : String) :
    (Token.rawText body).tagged tag p = none := rfl

@[simp] theorem Token.tagged_declaration (body : String) :
    (Token.declaration body).tagged tag p = none := rfl

end Tagged

/-- The text of a token that is written as it is. -/
def Token.literal? : Token → Option String
  | .rawText body => some body
  | .declaration body => some body
  | _ => none

instance : Token.IsReader Token.literal? where
  text _ := rfl
  closing _ := rfl

@[simp] theorem Token.literal?_opening (tag : String) (attrs : List (String × String)) :
    (Token.opening tag attrs).literal? = none := rfl

@[simp] theorem Token.literal?_rawText (body : String) :
    (Token.rawText body).literal? = some body := rfl

@[simp] theorem Token.literal?_declaration (body : String) :
    (Token.declaration body).literal? = some body := rfl

/-- An attribute with the space before it, its value as it is written. -/
def writtenAttr (a : String × String) : List Char :=
  ' ' :: (a.1.toList ++ '=' :: '"' :: (a.2.toList ++ ['"']))

/-- The first characters of a tag, up to the last of these attributes. -/
def tagMark (tag : String) (attrs : List (String × String)) : List Char :=
  '<' :: (tag.toList ++ attrs.flatMap writtenAttr)

/-- An attribute whose name is a name, and whose value is escaped. -/
def IsWritten (a : String × String) : Prop :=
  (∀ c ∈ a.1.toList, isNameChar c = true) ∧ ∀ c ∈ a.2.toList, isMarkup c = false

/-- `scanned` attributes are written so. -/
theorem isWritten_scanned {a : Attr} (h : isName a.name = true) : IsWritten a.scanned := by
  refine ⟨fun c hc => isNameChar_of_isName h hc, fun c hc => ?_⟩
  have hmem : c ∈ escapeChars a.value.toList := by simpa [Attr.scanned, escape] using hc
  exact not_isMarkup_of_mem_escapeChars hmem

/-- `scanned` attributes of a tag are all written so. -/
theorem isWritten_map_scanned {attrs : List Attr} (h : Attr.allNamed attrs = true) :
    ∀ a ∈ attrs.map Attr.scanned, IsWritten a := by
  intro a ha
  obtain ⟨b, hb, rfl⟩ := List.mem_map.1 ha
  exact isWritten_scanned (List.all_eq_true.1 h b hb)

/-- A name and some attributes that a tag may begin with. -/
structure IsBeginning (tag : String) (attrs : List (String × String)) : Prop where
  name : isTagName tag = true
  written : ∀ a ∈ attrs, IsWritten a
  ne_nil : attrs ≠ []

/-- `openChars` is `tagMark` with the sign at its end. -/
theorem openChars_eq (tag : String) (attrs : List Attr) :
    Node.openChars tag attrs = tagMark tag (attrs.map Attr.scanned) ++ ['>'] := by
  have hattr : Attr.chars = fun a => writtenAttr a.scanned := by
    funext a
    simp [Attr.chars, writtenAttr, Attr.scanned, escape]
  have hattrs : Attr.charsAll attrs = (attrs.map Attr.scanned).flatMap writtenAttr := by
    rw [Attr.charsAll, List.flatMap_map, hattr]
  simp [Node.openChars, tagMark, hattrs]

/-! ## How a tag begins -/

/-- Two texts up to the first character that is no longer of one class. -/
theorem append_cons_prefix_iff {p : Char → Bool} {xs xs' : List Char} (hxs : ∀ c ∈ xs, p c = true)
    (hxs' : ∀ c ∈ xs', p c = true) {c e : Char} (hc : p c = false) (he : p e = false)
    (ys ys' : List Char) :
    xs ++ c :: ys <+: xs' ++ e :: ys' ↔ xs = xs' ∧ c = e ∧ ys <+: ys' := by
  induction xs generalizing xs' with
  | nil =>
    cases xs' with
    | nil => simp [List.cons_prefix_cons]
    | cons d xs' =>
      -- A run that ends here and one that goes on differ in their next characters.
      have hne : c ≠ d := by
        rintro rfl
        simp [hc] at hxs'
      simp [List.cons_prefix_cons, hne]
  | cons d xs ih =>
    rw [List.forall_mem_cons] at hxs
    cases xs' with
    | nil =>
      have hne : d ≠ e := by
        rintro rfl
        simp [he] at hxs
      simp [List.cons_prefix_cons, hne]
    | cons d' xs' =>
      rw [List.forall_mem_cons] at hxs'
      rw [List.cons_append, List.cons_append, List.cons_prefix_cons, ih hxs.2 hxs'.2,
        List.cons.injEq, and_assoc]

/-- `writtenAttr` tells where an attribute ends. -/
theorem writtenAttr_append_prefix_iff {a b : String × String} (ha : IsWritten a) (hb : IsWritten b)
    (xs ys : List Char) :
    writtenAttr a ++ xs <+: writtenAttr b ++ ys ↔ a = b ∧ xs <+: ys := by
  -- The name ends at the sign behind it and the value at its quotation mark.
  have hvalue := append_cons_prefix_iff (p := fun c => !isMarkup c) (by simpa using ha.2)
    (by simpa using hb.2) (c := '"') (e := '"') rfl rfl xs ys
  have hname := append_cons_prefix_iff ha.1 hb.1 (c := '=') (e := '=') rfl rfl
    ('"' :: (a.2.toList ++ '"' :: xs)) ('"' :: (b.2.toList ++ '"' :: ys))
  simp only [writtenAttr, List.cons_append, List.append_assoc, List.nil_append,
    List.cons_prefix_cons, true_and] at hname ⊢
  rw [hname, hvalue, String.toList_inj, String.toList_inj, Prod.ext_iff]
  simp [and_assoc]

/-- `writtenAttr` of more attributes goes on where that of fewer ends. -/
theorem writtenAttrs_prefix_iff {attrs attrs' : List (String × String)}
    (hattrs : ∀ a ∈ attrs, IsWritten a) (hattrs' : ∀ a ∈ attrs', IsWritten a) :
    attrs.flatMap writtenAttr <+: attrs'.flatMap writtenAttr ++ ['>'] ↔ attrs <+: attrs' := by
  induction attrs generalizing attrs' with
  | nil => simp
  | cons a attrs ih =>
    rw [List.forall_mem_cons] at hattrs
    cases attrs' with
    | nil => simp [writtenAttr, List.cons_prefix_cons]
    | cons b attrs' =>
      rw [List.forall_mem_cons] at hattrs'
      -- The first attributes agree as a whole or not at all.
      rw [List.flatMap_cons, List.flatMap_cons, List.append_assoc,
        writtenAttr_append_prefix_iff hattrs.1 hattrs'.1, ih hattrs.2 hattrs'.2,
        List.cons_prefix_cons]

/-- `tagMark` begins a tag if it has the name, and the attributes are its first. -/
theorem tagMark_prefix_iff {tag tag' : String} {attrs attrs' : List (String × String)}
    (h : IsBeginning tag attrs) (htag' : isTagName tag' = true)
    (hattrs' : ∀ a ∈ attrs', IsWritten a) :
    tagMark tag attrs <+: tagMark tag' attrs' ++ ['>'] ↔ tag = tag' ∧ attrs <+: attrs' := by
  have hname : ∀ c ∈ tag.toList, isNameChar c = true := fun c =>
    isNameChar_of_isTagName h.name
  have hname' : ∀ c ∈ tag'.toList, isNameChar c = true := fun c => isNameChar_of_isTagName htag'
  have hwritten := writtenAttrs_prefix_iff h.written hattrs'
  obtain ⟨a, rest, rfl⟩ := List.exists_cons_of_ne_nil h.ne_nil
  -- The name ends at a space, or with the tag.
  cases attrs' with
  | nil =>
    have hcut := append_cons_prefix_iff hname hname' (c := ' ') (e := '>') rfl rfl
      (a.1.toList ++ '=' :: '"' :: (a.2.toList ++ '"' :: rest.flatMap writtenAttr)) []
    simp only [tagMark, List.flatMap_cons, List.flatMap_nil, writtenAttr, List.cons_append,
      List.append_assoc, List.nil_append, List.append_nil, List.cons_prefix_cons, true_and]
    rw [hcut]
    simp
  | cons b rest' =>
    have hcut := append_cons_prefix_iff hname hname' (c := ' ') (e := ' ') rfl rfl
      (a.1.toList ++ '=' :: '"' :: (a.2.toList ++ '"' :: rest.flatMap writtenAttr))
      (b.1.toList ++ '=' :: '"' :: (b.2.toList ++ '"' :: (rest'.flatMap writtenAttr ++ ['>'])))
    simp only [tagMark, List.flatMap_cons, writtenAttr, List.cons_append, List.append_assoc,
      List.nil_append, List.cons_prefix_cons, true_and] at hwritten ⊢
    rw [hcut, hwritten, String.toList_inj]
    simp

/-! ## Where a tag begins -/

/-- Neither sign of a tag stands in its name and its attributes. -/
theorem ne_of_mem_written {tag : String} {attrs : List (String × String)}
    (htag : isTagName tag = true) (hattrs : ∀ a ∈ attrs, IsWritten a) :
    ∀ c ∈ tag.toList ++ attrs.flatMap writtenAttr, c ≠ '<' ∧ c ≠ '>' := by
  have hname : ∀ {c}, isNameChar c = true → c ≠ '<' ∧ c ≠ '>' := by
    intro c hc
    obtain ⟨-, -, hopen, hclose, -⟩ := isNameChar_iff.1 hc
    exact ⟨hopen, hclose⟩
  have hvalue : ∀ {c}, isMarkup c = false → c ≠ '<' ∧ c ≠ '>' := by
    intro c hc
    constructor <;> (rintro rfl; simp [isMarkup] at hc)
  intro c hc
  rcases List.mem_append.1 hc with hc | hc
  · exact hname (isNameChar_of_isTagName htag hc)
  · obtain ⟨a, ha, hc⟩ := List.mem_flatMap.1 hc
    -- Of an attribute, name and value are looked at; the other characters are given.
    simp only [writtenAttr, List.mem_cons, List.mem_append, List.not_mem_nil, or_false] at hc
    rcases hc with rfl | hc | rfl | rfl | hc | rfl
    · decide
    · exact hname ((hattrs a ha).1 c hc)
    · decide
    · decide
    · exact hvalue ((hattrs a ha).2 c hc)
    · decide

namespace IsBeginning

variable {tag : String} {attrs : List (String × String)} (h : IsBeginning tag attrs)

include h

/-- No `<` stands behind the first character of `tagMark`. -/
theorem lt_notMem : '<' ∉ tag.toList ++ attrs.flatMap writtenAttr := fun hmem =>
  (ne_of_mem_written h.name h.written _ hmem).1 rfl

/-- No `>` stands in `tagMark`. -/
theorem gt_notMem : '>' ∉ tagMark tag attrs := by
  rw [tagMark, List.mem_cons, not_or]
  exact ⟨by decide, fun hmem => (ne_of_mem_written h.name h.written _ hmem).2 rfl⟩

/-- `tagMark` does not begin where the `<` is followed by something else than a letter. -/
theorem infix_sign_iff {c : Char} (hsign : c.isAlpha = false) (hc : c ≠ '<')
    (cs : List Char) : tagMark tag attrs <:+: '<' :: c :: cs ↔ tagMark tag attrs <:+: cs := by
  obtain ⟨d, ds, hds, hd⟩ := exists_cons_of_isTagName h.name
  have hne : d ≠ c := by
    rintro rfl
    simp [hsign] at hd
  have hne' : '<' ≠ c := hc.symm
  simp [tagMark, hds, List.infix_cons_iff, List.cons_prefix_cons, hne, hne']

/-- `closeChars` brings no mark. -/
theorem infix_closeChars_iff {tag' : String} (htag' : isTagName tag' = true)
    (rest : List Char) :
    tagMark tag attrs <:+: Node.closeChars tag' ++ rest ↔ tagMark tag attrs <:+: rest := by
  have hname : '<' ∉ tag'.toList ++ ['>'] := by
    intro hmem
    rcases List.mem_append.1 hmem with hmem | hmem
    · exact absurd (isNameChar_of_isTagName htag' hmem) (by decide)
    · simp at hmem
  have hclose : Node.closeChars tag' ++ rest = '<' :: '/' :: (tag'.toList ++ ['>'] ++ rest) := rfl
  rw [hclose, h.infix_sign_iff (by decide) (by decide), tagMark,
    infix_append_of_notMem hname]

/-- `openChars` brings a mark if it begins with it. -/
theorem infix_openChars_iff {tag' : String} {attrs' : List Attr}
    (htag' : isTagName tag' = true) (hattrs' : Attr.allNamed attrs' = true) (rest : List Char) :
    tagMark tag attrs <:+: Node.openChars tag' attrs' ++ rest ↔
      (Token.opening tag' (attrs'.map Attr.scanned)).tagged tag attrs.isPrefixOf ≠ none ∨
        tagMark tag attrs <:+: rest := by
  have hwritten := isWritten_map_scanned hattrs'
  have hmark := h.gt_notMem
  have hbody : '<' ∉ tag'.toList ++ (attrs'.map Attr.scanned).flatMap writtenAttr := fun hmem =>
    (ne_of_mem_written htag' hwritten _ hmem).1 rfl
  -- The mark may begin where the tag begins, and else only behind the tag.
  have hinside : ¬tagMark tag attrs <:+:
      tag'.toList ++ (attrs'.map Attr.scanned).flatMap writtenAttr :=
    fun hoccurs => hbody (hoccurs.mem List.mem_cons_self)
  have hbegins := tagMark_prefix_iff h htag' hwritten
  rw [prefix_append_cons_iff hmark] at hbegins
  rw [openChars_eq, List.append_assoc, List.singleton_append, infix_append_cons_iff hmark]
  rw [tagMark.eq_def tag', List.infix_cons_iff, ← tagMark.eq_def tag', hbegins,
    or_iff_left hinside, Token.tagged_opening_ne_none_iff, List.isPrefixOf_iff_prefix, eq_comm]

end IsBeginning

mutual

/-- `tagMark` occurs in a node where a tag begins with it, and else only behind the node. -/
theorem tagMark_infix_chars_iff {tag : String} {attrs : List (String × String)}
    (hmark : IsBeginning tag attrs) (n : Node) (h : n.WellFormed fun _ => False)
    (hfree : ∀ body ∈ gather Token.literal? n.tokens, ¬tagMark tag attrs <:+: body.toList)
    (rest : List Char) :
    tagMark tag attrs <:+: n.chars ++ rest ↔
      gather (Token.tagged tag attrs.isPrefixOf) n.tokens ≠ [] ∨ tagMark tag attrs <:+: rest := by
  cases n with
  | text s =>
    have hopen : '<' ∉ escapeChars s.toList := by
      intro hmem
      simpa [isMarkup] using not_isMarkup_of_mem_escapeChars hmem
    rw [Node.chars, tagMark, infix_append_of_notMem hopen, Node.gather_text]
    simp
  | entity name =>
    have hname : '<' ∉ '&' :: name.toList ++ [';'] := by
      intro hmem
      have hname : '<' ∈ name.toList := by simpa using hmem
      exact absurd (isNameChar_of_isName h hname) (by decide)
    rw [Node.chars, tagMark, infix_append_of_notMem hname, Node.gather_entity]
    simp
  | void tag' attrs' =>
    obtain ⟨hvoid, hattrs'⟩ := h
    obtain ⟨htag', -, -⟩ := isVoidTag_iff.1 hvoid
    rw [Node.chars, hmark.infix_openChars_iff htag' hattrs', Node.gather_void]
    simp
  | element tag' attrs' children =>
    obtain ⟨helement, hattrs', hchildren⟩ := h
    obtain ⟨htag', -, -⟩ := isElementTag_iff.1 helement
    rw [Node.gather_element, Token.literal?_opening, Option.toList_none, List.nil_append] at hfree
    rw [Node.chars, List.append_assoc, List.append_assoc,
      hmark.infix_openChars_iff htag' hattrs',
      tagMark_infix_charsAll_append_iff hmark children hchildren hfree,
      hmark.infix_closeChars_iff htag', Node.gather_element]
    simp only [ne_eq, List.append_eq_nil_iff, Option.toList_eq_nil_iff,
      Classical.not_and_iff_not_or_not, or_assoc]
  | verbatim tag' body =>
    obtain ⟨htag', -, -⟩ := isRawTag_iff.1 h.1
    have hbody : ¬tagMark tag attrs <:+: body.toList := hfree body (by simp)
    -- The body ends at the `<` of the closing tag.
    have hsplit : tagMark tag attrs <:+: body.toList ++ (Node.closeChars tag' ++ rest) ↔
        tagMark tag attrs <:+: rest := by
      have hcut := infix_append_head_iff hmark.lt_notMem body.toList
        ('/' :: (tag'.toList ++ ['>'] ++ rest))
      rw [← hmark.infix_closeChars_iff htag' rest]
      exact hcut.trans (or_iff_right hbody)
    rw [Node.chars, List.append_assoc, List.append_assoc,
      hmark.infix_openChars_iff htag' rfl, hsplit, Node.gather_verbatim]
    simp
  | comment body =>
    have hbody : ¬tagMark tag attrs <:+: ("--" ++ body ++ "--").toList :=
      hfree ("--" ++ body ++ "--") (by simp [Node.tokens, gather_cons])
    have hsplit : (Node.comment body).chars ++ rest =
        '<' :: '!' :: (("--" ++ body ++ "--").toList ++ '>' :: rest) := by
      simp [Node.chars, String.toList_append]
    rw [hsplit, hmark.infix_sign_iff (by decide) (by decide), infix_append_cons_iff hmark.gt_notMem,
      or_iff_right hbody]
    simp [Node.tokens, gather_cons]
  | raw html => exact h.elim

/-- `tagMark` occurs in nodes in a row where a tag begins with it, and else only behind them. -/
theorem tagMark_infix_charsAll_append_iff {tag : String} {attrs : List (String × String)}
    (hmark : IsBeginning tag attrs) (ns : List Node) (h : Node.WellFormedAll (fun _ => False) ns)
    (hfree : ∀ body ∈ gather Token.literal? (Node.tokensAll ns),
      ¬tagMark tag attrs <:+: body.toList)
    (rest : List Char) :
    tagMark tag attrs <:+: Node.charsAll ns ++ rest ↔
      gather (Token.tagged tag attrs.isPrefixOf) (Node.tokensAll ns) ≠ [] ∨
        tagMark tag attrs <:+: rest := by
  cases ns with
  | nil => simp [Node.charsAll]
  | cons n ns =>
    rw [Node.gather_tokensAll_cons, List.forall_mem_append] at hfree
    rw [Node.charsAll, List.append_assoc, tagMark_infix_chars_iff hmark n h.1 hfree.1,
      tagMark_infix_charsAll_append_iff hmark ns h.2 hfree.2, Node.gather_tokensAll_cons]
    simp only [ne_eq, List.append_eq_nil_iff, Classical.not_and_iff_not_or_not, or_assoc]

end

/-- `tagMark` occurs in what a tree is written as if and only if a tag begins with it. -/
theorem tagMark_infix_html_iff {tag : String} {attrs : List (String × String)}
    (hmark : IsBeginning tag attrs) {ns : List Node}
    (h : Node.WellFormedAll (fun _ => False) ns)
    (hfree : ∀ body ∈ gather Token.literal? (Node.tokensAll ns),
      ¬tagMark tag attrs <:+: body.toList) :
    tagMark tag attrs <:+: (Node.html ns).toList ↔
      gather (Token.tagged tag attrs.isPrefixOf) (Node.tokensAll ns) ≠ [] := by
  have hall := tagMark_infix_charsAll_append_iff hmark ns h hfree []
  have hnil : ¬tagMark tag attrs <:+: [] := by simp [tagMark]
  rwa [List.append_nil, or_iff_left hnil, ← Node.toList_html] at hall

end Bulletin.Html
