import Bulletin.Proofs.Markup.Fragments
import Bulletin.Proofs.Markup.Shape
import Bulletin.Proofs.Markup.Skeleton

/-!
# The markup of a tree

The markup characters of a well-formed tree come from its tags alone: the brackets of every tag and
two quotation marks for every attribute.  Neither names nor texts nor values have a part in it.

## Main statements

- `skeleton_html`: the skeleton of the text of a tree is the markup of the tree
- `markupAll_multiline`: a text of several lines shows how many there are
- `skeleton_scoreScript`: every scoring script has the same skeleton
-/

namespace Bulletin

open Html Text

namespace Html

/-- The markup characters of an element with `n` attributes. -/
def enclosed (n : Nat) (inner : List Char) : List Char :=
  '<' :: (List.replicate (2 * n) '"' ++ '>' :: (inner ++ ['<', '>']))

/-- The markup characters of an element without content and with `n` attributes. -/
def single (n : Nat) : List Char := '<' :: (List.replicate (2 * n) '"' ++ ['>'])

namespace Node

mutual

/-- The markup characters of a node. -/
def markup : Node → List Char
  | .text _ => []
  | .entity _ => []
  | .void _ attrs => single attrs.length
  | .element _ attrs children => enclosed attrs.length (markupAll children)
  | .verbatim _ body => enclosed 0 (skeleton body.toList)
  | .comment body => '<' :: (skeleton body.toList ++ ['>'])
  | .raw html => skeleton html.toList

/-- The markup characters of nodes in a row. -/
def markupAll : List Node → List Char
  | [] => []
  | n :: ns => markup n ++ markupAll ns

end

end Node

/-! ## The skeleton of a tree -/

/-- `isNameChar` holds of no markup character. -/
theorem isMarkup_of_isNameChar {c : Char} (h : Scanner.isNameChar c = true) :
    isMarkup c = false := by
  obtain ⟨-, -, hopen, hclose, hquote, hsingle⟩ := isNameChar_iff.1 h
  simp [isMarkup, hopen, hclose, hquote, hsingle]

/-- A name has no `skeleton`. -/
theorem skeleton_of_isName {s : String} (h : isName s = true) : skeleton s.toList = [] :=
  skeleton_eq_nil_iff.2 fun _ hc => isMarkup_of_isNameChar (isNameChar_of_isName h hc)

/-- The name of a tag has no `skeleton`. -/
theorem skeleton_of_isTagName {tag : String} (h : isTagName tag = true) :
    skeleton tag.toList = [] :=
  skeleton_eq_nil_iff.2 fun _ hc => isMarkup_of_isNameChar (isNameChar_of_isTagName h hc)

/-- The `skeleton` of an attribute is two quotation marks. -/
theorem skeleton_attr {a : Attr} (h : isName a.name = true) : skeleton a.chars = ['"', '"'] := by
  -- A space, the name, the sign and a quotation mark, the escaped value, a quotation mark.
  have hquote : skeleton ['"'] = ['"'] := by decide
  have hequal : ∀ cs, skeleton ('=' :: '"' :: cs) = '"' :: skeleton cs := fun _ => rfl
  have hspace : ∀ cs, skeleton (' ' :: cs) = skeleton cs := fun _ => rfl
  rw [Attr.chars, List.cons_append, List.cons_append, hspace, skeleton_append, skeleton_append,
    hequal, skeleton_of_isName h, skeleton_escapeChars, hquote]
  rfl

/-- The `skeleton` of some attributes is two quotation marks for each. -/
theorem skeleton_attrs {attrs : List Attr} (h : Attr.allNamed attrs = true) :
    skeleton (Attr.charsAll attrs) = List.replicate (2 * attrs.length) '"' := by
  induction attrs with
  | nil => rfl
  | cons a attrs ih =>
    rw [Attr.allNamed_cons, Bool.and_eq_true] at h
    have hlen : 2 * (a :: attrs).length = 2 + 2 * attrs.length := by
      rw [List.length_cons]
      omega
    rw [Attr.charsAll_cons, skeleton_append, skeleton_attr h.1, ih h.2, hlen,
      ← List.replicate_append_replicate]
    rfl

/-- The `skeleton` of an opening tag counts its attributes. -/
theorem skeleton_openChars {tag : String} {attrs : List Attr} (htag : isTagName tag = true)
    (hattrs : Attr.allNamed attrs = true) :
    skeleton (Node.openChars tag attrs) = single attrs.length := by
  have hopen : ∀ cs, skeleton ('<' :: cs) = '<' :: skeleton cs := fun _ => rfl
  rw [Node.openChars, List.cons_append, List.cons_append, hopen, skeleton_append, skeleton_append,
    skeleton_of_isTagName htag, skeleton_attrs hattrs]
  rfl

/-- The `skeleton` of a closing tag is its two signs. -/
theorem skeleton_closeChars {tag : String} (htag : isTagName tag = true) :
    skeleton (Node.closeChars tag) = ['<', '>'] := by
  have hopen : ∀ cs, skeleton ('<' :: '/' :: cs) = '<' :: skeleton cs := fun _ => rfl
  rw [Node.closeChars, List.cons_append, List.cons_append, hopen, skeleton_append,
    skeleton_of_isTagName htag]
  rfl

/-- An element's `enclosed` is its opening tag, what stands in it, and its closing tag. -/
theorem single_append (n : Nat) (inner : List Char) :
    single n ++ inner ++ ['<', '>'] = enclosed n inner := by
  simp [single, enclosed]

namespace Node

variable {allow : String → Prop}

mutual

/-- The `skeleton` of a node's text is the node's `markup`. -/
theorem skeleton_chars (n : Node) (h : n.WellFormed allow) : skeleton n.chars = n.markup := by
  cases n with
  | text s => exact skeleton_escapeChars s.toList
  | entity name =>
    rw [chars, List.cons_append, markup]
    -- Neither the ampersand nor the semicolon around the name is a markup character.
    have hname : skeleton name.toList = [] := skeleton_of_isName h
    have hamp : ∀ cs, skeleton ('&' :: cs) = skeleton cs := fun _ => rfl
    rw [hamp, skeleton_append, hname]
    rfl
  | void tag attrs =>
    exact skeleton_openChars (isVoidTag_iff.1 h.1).1 h.2
  | element tag attrs children =>
    obtain ⟨helement, hattrs, hchildren⟩ := h
    obtain ⟨htag, -⟩ := isElementTag_iff.1 helement
    rw [chars, markup, skeleton_append, skeleton_append, skeleton_openChars htag hattrs,
      skeleton_closeChars htag, skeleton_charsAll children hchildren, single_append]
  | verbatim tag body =>
    obtain ⟨htag, -⟩ := isRawTag_iff.1 h.1
    -- The body of a raw element shows as it is.
    rw [chars, markup, skeleton_append, skeleton_append, skeleton_openChars htag rfl,
      skeleton_closeChars htag, List.length_nil, single_append]
  | comment body =>
    rw [chars, markup, skeleton_append, skeleton_append]
    rfl
  | raw html => rfl

/-- The `skeleton` of the text of nodes in a row is their `markupAll`. -/
theorem skeleton_charsAll (ns : List Node) (h : WellFormedAll allow ns) :
    skeleton (charsAll ns) = markupAll ns := by
  cases ns with
  | nil => rfl
  | cons n ns =>
    rw [charsAll, markupAll, skeleton_append, skeleton_chars n h.1, skeleton_charsAll ns h.2]

end

/-- The `skeleton` of the text of a tree is the `markupAll` of the tree. -/
theorem skeleton_html {ns : List Node} (h : WellFormedAll allow ns) :
    skeleton (html ns).toList = markupAll ns := by
  rw [toList_html, skeleton_charsAll ns h]

/-! ## The markup of parts -/

section Parts

variable {tag cls css : String} {attrs more : List Attr} {children : List Node}

@[simp] theorem markup_text (s : String) : (text s).markup = [] := rfl

@[simp] theorem markup_entity (name : String) : (entity name).markup = [] := rfl

@[simp] theorem markup_void : (void tag attrs).markup = single attrs.length := rfl

@[simp] theorem markup_element :
    (element tag attrs children).markup = enclosed attrs.length (markupAll children) := rfl

@[simp] theorem markup_raw (html : String) : (raw html).markup = skeleton html.toList := rfl

@[simp] theorem markupAll_nil : markupAll [] = [] := rfl

@[simp] theorem markupAll_cons (n : Node) (ns : List Node) :
    markupAll (n :: ns) = n.markup ++ markupAll ns := rfl

/-- `markupAll` goes node by node. -/
@[simp] theorem markupAll_append (xs ys : List Node) :
    markupAll (xs ++ ys) = markupAll xs ++ markupAll ys := by
  induction xs with
  | nil => rfl
  | cons n ns ih => rw [List.cons_append, markupAll, markupAll, ih, List.append_assoc]

@[simp] theorem markup_styled :
    (styled tag css children).markup = enclosed 1 (markupAll children) := rfl

@[simp] theorem markup_classed :
    (classed tag cls css children).markup = enclosed 2 (markupAll children) := rfl

@[simp] theorem markup_row : (row children).markup = enclosed 0 (markupAll children) := rfl

/-- `fullTable` shows its six attributes and the further ones. -/
@[simp] theorem markup_fullTable :
    (fullTable cls more children).markup = enclosed (6 + more.length) (markupAll children) := by
  rw [fullTable, markup_element, List.length_append]
  rfl

/-- `tightTable` shows its four attributes and the further ones. -/
@[simp] theorem markup_tightTable :
    (tightTable attrs more children).markup =
      enclosed (attrs.length + more.length + 4) (markupAll children) := by
  rw [tightTable, markup_element]
  congr 1
  simp [noSpacing]
  omega

end Parts

/-- `markupAll` as a list of lists. -/
theorem markupAll_eq_flatten (ns : List Node) : markupAll ns = (ns.map markup).flatten := by
  induction ns with
  | nil => rfl
  | cons n ns ih => rw [markupAll, ih, List.map_cons, List.flatten_cons]

/-- `separated` shows as much as the nodes and the separator do. -/
theorem markupAll_separated_congr (separator : Node) {ns ms : List Node}
    (h : ns.map markup = ms.map markup) :
    markupAll (separated separator ns) = markupAll (separated separator ms) := by
  fun_induction separated separator ns generalizing ms with
  | case1 =>
    obtain rfl : ms = [] := by simpa using h.symm
    rfl
  | case2 n =>
    obtain ⟨m, rfl, hm⟩ : ∃ m, ms = [m] ∧ m.markup = n.markup := by
      simpa [List.map_eq_singleton_iff, and_comm] using h.symm
    simp [separated, hm]
  | case3 n ns hne ih =>
    cases ms with
    | nil => simp at h
    | cons m ms =>
      -- More nodes follow on the one side, so more follow on the other.
      rw [List.map_cons, List.map_cons, List.cons.injEq] at h
      have hms : ms ≠ [] := by
        rintro rfl
        exact hne (by simpa using h.2)
      obtain ⟨m', ms', rfl⟩ := List.exists_cons_of_ne_nil hms
      rw [separated, markupAll, markupAll, ih h.2, markupAll, markupAll, h.1]
      exact List.cons_ne_nil m' ms'

/-- `separated` shows only the separators between texts. -/
theorem markupAll_separated_of_nil {separator : Node} {ns : List Node}
    (h : ∀ n ∈ ns, n.markup = []) :
    markupAll (separated separator ns) =
      (List.replicate (ns.length - 1) separator.markup).flatten := by
  fun_induction separated separator ns with
  | case1 => rfl
  | case2 n => simpa using h
  | case3 n ns hne ih =>
    rw [List.forall_mem_cons] at h
    obtain ⟨k, hk⟩ : ∃ k, ns.length = k + 1 :=
      Nat.exists_eq_add_of_le' (List.length_pos_of_ne_nil hne)
    rw [markupAll, markupAll, ih h.2, h.1, List.nil_append, List.length_cons, hk,
      Nat.add_sub_cancel, Nat.add_sub_cancel, List.replicate_succ, List.flatten_cons]

end Node

/-! ## Texts of several lines -/

/-- The markup characters of some line breaks. -/
def breaks (n : Nat) : List Char := (List.replicate n (single 0)).flatten

/-- `consFirst` adds no line. -/
theorem length_consFirst {ls : List (List Char)} (c : Char) (h : ls ≠ []) :
    (consFirst c ls).length = ls.length := by
  obtain ⟨line, rest, rfl⟩ := List.exists_cons_of_ne_nil h
  rfl

/-- `lines` are one more than there are line feeds. -/
theorem length_lines (cs : List Char) : (lines cs).length = cs.count '\n' + 1 := by
  -- A carriage return in front of a line feed ends no line of its own.
  fun_induction lines cs with
  | case1 => rfl
  | case2 rest ih => simp [ih]
  | case3 rest ih => simp [ih]
  | case4 c rest hreturn hfeed ih =>
    have hne : c ≠ '\n' := by
      rintro rfl
      exact hfeed rfl
    rw [length_consFirst c (lines_ne_nil rest), ih, List.count_cons_of_ne hne]

/-- `multiline` shows a break for every line feed. -/
@[simp] theorem markupAll_multiline (s : String) :
    Node.markupAll (multiline s) = breaks (lineFeeds s) := by
  -- The lines are texts, which show nothing, and between them stand the breaks.
  have htext : ∀ n ∈ (lines s.toList).map fun line => Node.text (String.ofList line),
      n.markup = [] := by
    intro n hn
    obtain ⟨line, -, rfl⟩ := List.mem_map.1 hn
    rfl
  rw [multiline, Node.markupAll_separated_of_nil htext, List.length_map, length_lines,
    Nat.add_sub_cancel]
  rfl

end Html

namespace Fragment

/-! ## The scoring script -/

/-- `replaceAll` changes no `skeleton`, if a mark and what it is replaced by are no markup. -/
theorem skeleton_replaceAll {pattern replacement : List Char} (hpattern : skeleton pattern = [])
    (hreplacement : skeleton replacement = []) (cs : List Char) :
    skeleton (replaceAll pattern replacement cs) = skeleton cs := by
  fun_induction replaceAll pattern replacement cs with
  | case1 => rfl
  | case2 c cs hfound ih =>
    -- The text here is the pattern and a rest, and the pattern shows as little as what replaces it.
    obtain ⟨rest, hrest⟩ := List.isPrefixOf_iff_prefix.1 hfound.2
    have hdrop : cs.drop (pattern.length - 1) = rest := by
      obtain ⟨p, ps, rfl⟩ := List.exists_cons_of_ne_nil hfound.1
      obtain ⟨-, rfl⟩ : p = c ∧ ps ++ rest = cs := by simpa using hrest
      simp
    rw [skeleton_append, hreplacement, List.nil_append, ih, hdrop, ← hrest, skeleton_append,
      hpattern, List.nil_append]
  | case3 c cs hfound ih =>
    have hcons : ∀ ds, skeleton (c :: ds) = skeleton [c] ++ skeleton ds := fun ds =>
      skeleton_append [c] ds
    rw [hcons, ih, ← hcons]

/-- `scoreScript` has the same `skeleton` for every scope and number. -/
theorem skeleton_scoreScript {scope : String} (hscope : ∀ c ∈ scope.toList, isScopeChar c = true)
    (total : Nat) : skeleton (scoreScript scope total).toList = skeleton scriptTemplate.toList := by
  have hplain : skeleton scope.toList = [] :=
    skeleton_eq_nil_iff.2 fun c hc => isMarkup_of_isScopeChar (hscope c hc)
  rw [toList_scoreScript, skeleton_replaceAll (by decide) (skeleton_digitsOf total),
    skeleton_replaceAll (by decide) hplain]

end Fragment

end Bulletin
