import Bulletin.Proofs.Markup.Nesting

/-!
# Trees as they are scanned

A node is *well formed* when it says what it is: names are names, `void` and `verbatim` are used for
the elements they are meant for, a verbatim body holds no closing tag, and raw HTML is such as is
allowed.  Texts and attribute values are free, since they are escaped.

Where raw HTML must be balanced, the scanner reads a well-formed tree back token by token, and its
tokens are balanced.

## Main statements

- `scan_html`: the tokens of the text of a tree are the tokens of the tree
- `nest_tokensAll`: they leave no element open
- `isElement_tokens`: an element is scanned as one element
-/

namespace Bulletin.Html

open Scanner

/-- A name that is read as one. -/
def isName (s : String) : Bool := s.toList ≠ [] && s.toList.all isNameChar

/-- A name that may follow a `<`. -/
def isTagName (s : String) : Bool := s.toList.head?.any Char.isAlpha && s.toList.all isNameChar

/-- The tag of an element with children. -/
def isElementTag (tag : String) : Bool :=
  isTagName tag && !voidTags.contains tag && !rawTags.contains tag

/-- The tag of an element without content. -/
def isVoidTag (tag : String) : Bool :=
  isTagName tag && voidTags.contains tag && !rawTags.contains tag

/-- The tag of an element of raw text. -/
def isRawTag (tag : String) : Bool :=
  isTagName tag && !voidTags.contains tag && rawTags.contains tag

/-- Every attribute has a name. -/
def Attr.allNamed (attrs : List Attr) : Bool := attrs.all fun a => isName a.name

/-- An attribute as the scanner gives it. -/
def Attr.scanned (a : Attr) : String × String := (a.name, escape a.value)

namespace Node

mutual

/-- A node that is read back as what it is, if the raw HTML in it is. -/
def WellFormed (allow : String → Prop) : Node → Prop
  | .text _ => True
  | .entity name => isName name = true
  | .void tag attrs => isVoidTag tag = true ∧ Attr.allNamed attrs = true
  | .element tag attrs children =>
    isElementTag tag = true ∧ Attr.allNamed attrs = true ∧ WellFormedAll allow children
  | .verbatim tag body => isRawTag tag = true ∧ ¬"</".toList <:+: body.toList
  | .comment body => ¬"--".toList <:+: body.toList
  | .raw html => allow html

/-- Nodes that are read back as what they are, if the raw HTML in them is. -/
def WellFormedAll (allow : String → Prop) : List Node → Prop
  | [] => True
  | n :: ns => WellFormed allow n ∧ WellFormedAll allow ns

end

mutual

/-- The tokens of a node. -/
def tokens : Node → List Token
  | .text s => (escapeChars s.toList).map .text
  | .entity name => ('&' :: name.toList ++ [';']).map .text
  | .void tag attrs => [.opening tag (attrs.map Attr.scanned)]
  | .element tag attrs children =>
    .opening tag (attrs.map Attr.scanned) :: (tokensAll children ++ [.closing tag])
  | .verbatim tag body => [.opening tag [], .rawText body, .closing tag]
  | .comment body => [.declaration ("--" ++ body ++ "--")]
  | .raw html => (scan html.toList).getD []

/-- The tokens of nodes in a row. -/
def tokensAll : List Node → List Token
  | [] => []
  | n :: ns => tokens n ++ tokensAll ns

end

end Node

/-! ## Names -/

/-- `isElementTag` holds of the names of tags that are neither empty elements nor raw text. -/
theorem isElementTag_iff {tag : String} :
    isElementTag tag = true ↔ isTagName tag = true ∧ tag ∉ voidTags ∧ tag ∉ rawTags := by
  simp [isElementTag, and_assoc]

/-- `isVoidTag` holds of the names of empty elements. -/
theorem isVoidTag_iff {tag : String} :
    isVoidTag tag = true ↔ isTagName tag = true ∧ tag ∈ voidTags ∧ tag ∉ rawTags := by
  simp [isVoidTag, and_assoc]

/-- `isRawTag` holds of the names of raw text. -/
theorem isRawTag_iff {tag : String} :
    isRawTag tag = true ↔ isTagName tag = true ∧ tag ∉ voidTags ∧ tag ∈ rawTags := by
  simp [isRawTag, and_assoc]

/-- `isNameChar` holds of what is neither a gap nor one of five signs. -/
theorem isNameChar_iff {c : Char} :
    isNameChar c = true ↔
      isGap c = false ∧ c ≠ '=' ∧ c ≠ '<' ∧ c ≠ '>' ∧ c ≠ '"' ∧ c ≠ '\'' := by
  simp [isNameChar, and_assoc]

/-- `isTagName` holds of texts whose characters are those of names. -/
theorem isNameChar_of_isTagName {tag : String} (h : isTagName tag = true) {c : Char}
    (hc : c ∈ tag.toList) : isNameChar c = true := by
  rw [isTagName, Bool.and_eq_true, List.all_eq_true] at h
  exact h.2 c hc

/-- `isName` holds of texts whose characters are those of names. -/
theorem isNameChar_of_isName {s : String} (h : isName s = true) {c : Char} (hc : c ∈ s.toList) :
    isNameChar c = true := by
  rw [isName, Bool.and_eq_true, List.all_eq_true] at h
  exact h.2 c hc

/-- `isTagName` holds of texts that begin with a letter. -/
theorem exists_cons_of_isTagName {tag : String} (h : isTagName tag = true) :
    ∃ c cs, tag.toList = c :: cs ∧ c.isAlpha = true := by
  rw [isTagName, Bool.and_eq_true] at h
  cases htag : tag.toList with
  | nil => simp [htag] at h
  | cons c cs => exact ⟨c, cs, rfl, by simpa [htag] using h.1⟩

/-! ## Runs of the scanner -/

/-- `run` over characters that a mode only collects. -/
theorem run_collect (f : List Char → Mode) (start : List Char) {cs : List Char}
    (h : ∀ front c back, cs = front ++ c :: back →
      step (f (start ++ front)) c = some (f (start ++ front ++ [c]), [])) :
    run (f start) cs = some (f (start ++ cs), []) := by
  -- What has been read moves from the text into the mode.
  induction cs generalizing start with
  | nil => simp [run]
  | cons c cs ih =>
    have hc : step (f start) c = some (f (start ++ [c]), []) := by simpa using h [] c cs rfl
    rw [run_cons_silent _ cs hc, ih, List.append_assoc]
    · rfl
    · intro front d back heq
      have hd := h (c :: front) d back (by rw [heq]; rfl)
      simpa using hd

/-- `run` over text without `<` gives the text. -/
theorem run_text {cs : List Char} (h : '<' ∉ cs) :
    run .text cs = some (.text, cs.map .text) := by
  induction cs with
  | nil => rfl
  | cons c cs ih =>
    rw [List.mem_cons, not_or] at h
    have hc : step .text c = some (.text, [.text c]) := by
      rw [step, if_neg (Ne.symm h.1)]
    exact run_cons hc (ih h.2)

/-- `step` adds a character to the name of a tag. -/
theorem step_tagName {c : Char} (hc : isNameChar c = true) (name : List Char) :
    step (.tagName name) c = some (.tagName (name ++ [c]), []) := by
  obtain ⟨hgap, -, -, hend, -⟩ := isNameChar_iff.1 hc
  simp [step, hgap, hend, hc]

/-- `step` adds a character to the name of a closing tag. -/
theorem step_closingName {c : Char} (hc : isNameChar c = true) (name : List Char) :
    step (.closingName name) c = some (.closingName (name ++ [c]), []) := by
  obtain ⟨-, -, -, hend, -⟩ := isNameChar_iff.1 hc
  simp [step, hend, hc]

/-- `step` adds a character to the name of an attribute. -/
theorem step_attrName {c : Char} (hc : isNameChar c = true) (tag : String)
    (done : List (String × String)) (name : List Char) :
    step (.attrName tag done name) c = some (.attrName tag done (name ++ [c]), []) := by
  obtain ⟨hgap, heq, -, hend, -⟩ := isNameChar_iff.1 hc
  simp [step, hgap, heq, hend, hc]

/-- `step` begins the name of an attribute. -/
theorem step_attrs {c : Char} (hc : isNameChar c = true) (tag : String)
    (done : List (String × String)) :
    step (.attrs tag done) c = some (.attrName tag done [c], []) := by
  obtain ⟨hgap, -, -, hend, -⟩ := isNameChar_iff.1 hc
  simp [step, hgap, hend, hc]

/-- `run` over an escaped value goes up to its quotation mark. -/
theorem run_value (tag : String) (done : List (String × String)) (name cs : List Char) :
    run (.value tag done name '"' []) (escapeChars cs) =
      some (.value tag done name '"' (escapeChars cs), []) := by
  apply run_collect (Mode.value tag done name '"') []
  intro front c back hcs
  have hmem : c ∈ escapeChars cs := by simp [hcs]
  have hc : isMarkup c = false := not_isMarkup_of_mem_escapeChars hmem
  have hne : c ≠ '"' := by
    rintro rfl
    simp [isMarkup] at hc
  simp [step, hne]

/-- `run` over an attribute adds it to the others. -/
theorem run_attr {a : Attr} (ha : isName a.name = true) (tag : String)
    (done : List (String × String)) :
    run (.attrs tag done) a.chars = some (.attrs tag (done ++ [a.scanned]), []) := by
  have hname : ∀ c ∈ a.name.toList, isNameChar c = true := fun c hc => isNameChar_of_isName ha hc
  cases hcs : a.name.toList with
  | nil => simp [isName, hcs] at ha
  | cons c cs =>
    rw [hcs] at hname
    have hrest : run (.attrName tag done [c]) cs = some (.attrName tag done (c :: cs), []) := by
      apply run_collect (Mode.attrName tag done) [c]
      intro front d back heq
      exact step_attrName (hname d (by simp [heq])) tag done _
    have hchars : a.chars =
        ' ' :: c :: (cs ++ '=' :: '"' :: (escapeChars a.value.toList ++ ['"'])) := by
      simp [Attr.chars, hcs]
    have hend : step (.value tag done (c :: cs) '"' (escapeChars a.value.toList)) '"' =
        some (.attrs tag (done ++ [a.scanned]), []) := by
      simp only [step, if_true, Attr.scanned, escape, ← hcs, String.ofList_toList]
    -- The space, the name, the sign between, the value, and the quotation mark that ends it.
    rw [hchars, run_cons_silent (.attrs tag done) _ rfl,
      run_cons_silent _ _ (step_attrs (hname c List.mem_cons_self) tag done),
      run_append_silent _ hrest, run_cons_silent (.valueStart tag done (c :: cs)) _ rfl,
      run_cons_silent (.value tag done (c :: cs) '"' []) _ rfl,
      run_append_silent _ (run_value tag done _ _), run_cons_silent _ _ hend]
    rfl

/-- `run` over the attributes of a tag gathers them in order. -/
theorem run_attrs {attrs : List Attr} (h : Attr.allNamed attrs = true) (tag : String)
    (done : List (String × String)) :
    run (.attrs tag done) (Attr.charsAll attrs) =
      some (.attrs tag (done ++ attrs.map Attr.scanned), []) := by
  induction attrs generalizing done with
  | nil => simp [run]
  | cons a attrs ih =>
    rw [Attr.allNamed, List.all_cons, Bool.and_eq_true] at h
    rw [Attr.charsAll_cons, run_append_silent _ (run_attr h.1 tag done), ih h.2]
    simp

/-- `run` does not tell, where attributes may begin, whether the tag's name has ended. -/
theorem run_tagName_eq {cs : List Char} (tag : String)
    (h : cs.head? = some ' ' ∨ cs.head? = some '>') :
    run (.tagName tag.toList) cs = run (.attrs tag []) cs := by
  cases cs with
  | nil => simp at h
  | cons c cs =>
    rw [run, run]
    obtain rfl | rfl : c = ' ' ∨ c = '>' := by simpa using h
    · simp [step, isGap]
    · simp [step, isGap]

/-- `run` over `openChars` gives the opening tag. -/
theorem run_openChars {tag : String} {attrs : List Attr} (htag : isTagName tag = true)
    (hattrs : Attr.allNamed attrs = true) :
    run .text (Node.openChars tag attrs) = some (finish tag (attrs.map Attr.scanned)) := by
  obtain ⟨c, cs, hcs, hc⟩ := exists_cons_of_isTagName htag
  have hname : ∀ d ∈ c :: cs, isNameChar d = true := by
    rw [← hcs]
    exact fun d hd => isNameChar_of_isTagName htag hd
  have hfirst : step .tagStart c = some (.tagName [c], []) := by
    have hslash : c ≠ '/' := by rintro rfl; simp at hc
    have hbang : c ≠ '!' := by rintro rfl; simp at hc
    simp [step, hslash, hbang, hc]
  have hrest : run (.tagName [c]) cs = some (.tagName tag.toList, []) := by
    rw [hcs]
    apply run_collect Mode.tagName [c]
    intro front d back heq
    exact step_tagName (hname d (by simp [heq])) _
  -- The name ends in front of a space or of the end of the tag.
  have hhead : (Attr.charsAll attrs ++ ['>']).head? = some ' ' ∨
      (Attr.charsAll attrs ++ ['>']).head? = some '>' := by
    cases attrs with
    | nil => exact .inr rfl
    | cons a attrs => exact .inl rfl
  have hopen : Node.openChars tag attrs = '<' :: c :: (cs ++ (Attr.charsAll attrs ++ ['>'])) := by
    simp [Node.openChars, hcs]
  rw [hopen, run_cons_silent .tagStart _ rfl, run_cons_silent _ _ hfirst,
    run_append_silent _ hrest, run_tagName_eq tag hhead,
    run_append_silent _ (run_attrs hattrs tag []), List.nil_append]
  simp [run, step, isGap, finish]

/-- `run` over `closeChars` gives the closing tag. -/
theorem run_closeChars {tag : String} (htag : isTagName tag = true) :
    run .text (Node.closeChars tag) = some (.text, [.closing tag]) := by
  have hname : run (.closingName []) tag.toList = some (.closingName tag.toList, []) := by
    apply run_collect Mode.closingName []
    intro front c back heq
    exact step_closingName (isNameChar_of_isTagName htag (by simp [heq])) _
  have hclose : Node.closeChars tag = '<' :: '/' :: (tag.toList ++ ['>']) := rfl
  rw [hclose, run_cons_silent .tagStart _ rfl,
    run_cons_silent (.closingName []) _ rfl, run_append_silent _ hname]
  simp [run, step]

/-- A character that does not stand in the second part of a text stands in the first. -/
theorem exists_eq_append_cons {c : Char} {body mark front back : List Char} (hmark : c ∉ mark)
    (h : body ++ mark = front ++ c :: back) : ∃ rest, body = front ++ c :: rest := by
  rcases List.append_eq_append_iff.1 h with ⟨gap, -, hgap⟩ | ⟨gap, hbody, hgap⟩
  · exact (hmark (by simp [hgap])).elim
  · cases gap with
    | nil =>
      obtain rfl : c :: back = mark := by simpa using hgap
      exact absurd List.mem_cons_self hmark
    | cons d rest =>
      obtain ⟨rfl, -⟩ : c = d ∧ back = rest ++ mark := by simpa using hgap
      exact ⟨rest, hbody⟩

/-- `run` over raw text goes up to the sign that ends its closing tag. -/
theorem run_rawText {tag : String} {body : List Char} (htag : isTagName tag = true)
    (hbody : ¬"</".toList <:+: body) :
    run (.rawText tag []) (body ++ endMark tag) =
      some (.rawText tag (body ++ endMark tag), []) := by
  have hmark : '>' ∉ endMark tag := by
    have htail : '>' ∉ tag.toList := by
      intro h
      exact absurd (isNameChar_of_isTagName htag h) (by decide)
    simpa [endMark] using htail
  apply run_collect (Mode.rawText tag) []
  intro front c back heq
  -- An end found early would lie in the body as a whole.
  have hopen : ¬((c = '>' && (endMark tag).isSuffixOf front) = true) := by
    intro hc
    rw [Bool.and_eq_true, decide_eq_true_eq, List.isSuffixOf_iff_suffix] at hc
    obtain ⟨rfl, hsuffix⟩ := hc
    obtain ⟨rest, rfl⟩ := exists_eq_append_cons hmark heq
    apply hbody
    have hbegins : "</".toList <+: endMark tag := ⟨tag.toList, rfl⟩
    exact hbegins.isInfix.trans (hsuffix.isInfix.trans (List.prefix_append front _).isInfix)
  rw [List.nil_append, step, if_neg hopen]

/-- `run` over a raw element gives its tags and its text. -/
theorem run_verbatim {tag : String} {body : String} (htag : isRawTag tag = true)
    (hbody : ¬"</".toList <:+: body.toList) :
    run .text (Node.openChars tag [] ++ body.toList ++ Node.closeChars tag) =
      some (.text, [.opening tag [], .rawText body, .closing tag]) := by
  obtain ⟨hname, -, hraw⟩ := isRawTag_iff.1 htag
  have hopen : run .text (Node.openChars tag []) = some (.rawText tag [], [.opening tag []]) := by
    rw [run_openChars hname rfl, finish, if_pos hraw]
    rfl
  have hclose : run (.rawText tag []) (body.toList ++ Node.closeChars tag) =
      some (.text, [.rawText body, .closing tag]) := by
    have hsplit : body.toList ++ Node.closeChars tag = body.toList ++ endMark tag ++ ['>'] := by
      simp [Node.closeChars, endMark]
    -- The end of the raw text is found where its closing tag stands, and not before.
    have hsuffix : (endMark tag).isSuffixOf (body.toList ++ endMark tag) = true := by
      rw [List.isSuffixOf_iff_suffix]
      exact List.suffix_append _ _
    rw [hsplit, run_append_silent _ (run_rawText hname hbody)]
    simp [run, step, hsuffix]
  rw [List.append_assoc]
  exact run_append_of_run hopen hclose

/-- `run` over a comment gives one declaration. -/
theorem run_comment {body : String} (hbody : ¬"--".toList <:+: body.toList) :
    run .text ("<!--".toList ++ body.toList ++ "-->".toList) =
      some (.text, [.declaration ("--" ++ body ++ "--")]) := by
  have hinner : run (.declaration []) ("--".toList ++ body.toList ++ "--".toList) =
      some (.declaration ("--".toList ++ body.toList ++ "--".toList), []) := by
    apply run_collect Mode.declaration []
    intro front c back heq
    have hopen : ¬((c = '>' && endsDeclaration front) = true) := by
      intro hc
      rw [Bool.and_eq_true, decide_eq_true_eq] at hc
      obtain ⟨rfl, hends⟩ := hc
      obtain ⟨rest, hrest⟩ := exists_eq_append_cons (by decide) heq
      -- The first two dashes of a comment do not end it.
      match front, hrest, hends with
      | [], hrest, _ => simp at hrest
      | [_], hrest, _ => simp at hrest
      | _ :: _ :: inner, hrest, hends =>
        obtain ⟨rfl, rfl, hinner⟩ : _ ∧ _ ∧ body.toList = inner ++ '>' :: rest := by
          simpa [eq_comm] using hrest
        have hlong : 2 ≤ inner.length ∧ "--".toList <:+ '-' :: '-' :: inner := by
          simpa [endsDeclaration] using hends
        apply hbody
        have hsuffix : "--".toList <:+ inner :=
          List.suffix_of_suffix_length_le hlong.2 (List.suffix_append ['-', '-'] inner) hlong.1
        rw [hinner]
        exact hsuffix.isInfix.trans (List.prefix_append inner _).isInfix
    rw [List.nil_append, step, if_neg hopen]
  have hends : endsDeclaration ("--".toList ++ body.toList ++ "--".toList) = true := by
    have hsuffix : "--".toList <:+ "--".toList ++ body.toList ++ "--".toList :=
      List.suffix_append _ _
    rw [endsDeclaration, List.isSuffixOf_iff_suffix.2 hsuffix]
    simp
  have hlast : step (.declaration ("--".toList ++ body.toList ++ "--".toList)) '>' =
      some (.text, [.declaration ("--" ++ body ++ "--")]) := by
    rw [step, hends]
    simp only [String.ofList_append, String.ofList_toList, decide_true, Bool.and_true, if_true]
  have hsplit : "<!--".toList ++ body.toList ++ "-->".toList =
      '<' :: '!' :: ("--".toList ++ body.toList ++ "--".toList ++ ['>']) := by simp
  rw [hsplit, run_cons_silent .tagStart _ rfl,
    run_cons_silent (.declaration []) _ rfl, run_append_silent _ hinner]
  exact run_cons hlast rfl

namespace Node

/-! ## Trees -/

variable {allow : String → Prop}

@[simp] theorem wellFormedAll_nil : WellFormedAll allow [] := trivial

@[simp] theorem wellFormedAll_cons {n : Node} {ns : List Node} :
    WellFormedAll allow (n :: ns) ↔ n.WellFormed allow ∧ WellFormedAll allow ns := Iff.rfl

/-- `WellFormedAll` asks the same of each node. -/
theorem wellFormedAll_iff {ns : List Node} :
    WellFormedAll allow ns ↔ ∀ n ∈ ns, n.WellFormed allow := by
  induction ns with
  | nil => simp
  | cons n ns ih => simp [ih]

/-- `WellFormedAll` of nodes in front of others. -/
@[simp] theorem wellFormedAll_append {xs ys : List Node} :
    WellFormedAll allow (xs ++ ys) ↔ WellFormedAll allow xs ∧ WellFormedAll allow ys := by
  simp only [wellFormedAll_iff, List.mem_append, or_imp, forall_and]

mutual

/-- `run` over what a node is written as gives its tokens. -/
theorem run_chars (n : Node) (h : n.WellFormed Balanced) :
    run .text n.chars = some (.text, n.tokens) := by
  cases n with
  | text s =>
    rw [chars, tokens]
    apply run_text
    intro hmem
    simpa [isMarkup] using not_isMarkup_of_mem_escapeChars hmem
  | entity name =>
    rw [chars, tokens]
    apply run_text
    intro hmem
    have hname : '<' ∈ name.toList := by simpa using hmem
    exact absurd (isNameChar_of_isName h hname) (by decide)
  | void tag attrs =>
    obtain ⟨hvoid, hattrs⟩ := h
    obtain ⟨htag, -, hnotraw⟩ := isVoidTag_iff.1 hvoid
    rw [chars, run_openChars htag hattrs, finish, if_neg hnotraw]
    rfl
  | element tag attrs children =>
    obtain ⟨helement, hattrs, hchildren⟩ := h
    obtain ⟨htag, -, hnotraw⟩ := isElementTag_iff.1 helement
    have hopen : run .text (openChars tag attrs) =
        some (.text, [.opening tag (attrs.map Attr.scanned)]) := by
      rw [run_openChars htag hattrs, finish, if_neg hnotraw]
    rw [chars, List.append_assoc]
    -- All three runs begin and end in text.
    exact run_append_of_run hopen
      (run_append_of_run (run_charsAll children hchildren) (run_closeChars htag))
  | verbatim tag body => exact run_verbatim h.1 h.2
  | comment body => exact run_comment h
  | raw html =>
    obtain ⟨ts, hts, -⟩ := h
    have hscan : scan html.toList = some ts := hts
    rw [chars, tokens, hscan, Option.getD_some]
    exact scan_eq_some_iff.1 hscan

/-- `run` over what nodes in a row are written as gives their tokens. -/
theorem run_charsAll (ns : List Node) (h : WellFormedAll Balanced ns) :
    run .text (charsAll ns) = some (.text, tokensAll ns) := by
  cases ns with
  | nil => rfl
  | cons n ns =>
    rw [charsAll, tokensAll]
    exact run_append_of_run (run_chars n h.1) (run_charsAll ns h.2)

end

/-- `scan` of the text of a tree gives the tokens of the tree. -/
theorem scan_html {ns : List Node} (h : WellFormedAll Balanced ns) :
    scan (html ns).toList = some (tokensAll ns) := by
  rw [toList_html, scan_eq_some_iff]
  exact run_charsAll ns h

/-- `nest` does not look at text. -/
theorem nest_map_text (stack : List String) (cs : List Char) :
    nest stack (cs.map .text) = some stack := by
  induction cs with
  | nil => rfl
  | cons c cs ih => exact ih

mutual

/-- `nest` of the tokens of a node leaves no element open. -/
theorem nest_tokens (n : Node) (h : n.WellFormed Balanced) : nest [] n.tokens = some [] := by
  cases n with
  | text s => exact nest_map_text [] _
  | entity name => exact nest_map_text [] _
  | void tag attrs =>
    obtain ⟨-, hvoid, -⟩ := isVoidTag_iff.1 h.1
    rw [tokens, nest_cons, Token.nest, if_pos hvoid]
    rfl
  | element tag attrs children => exact (isElement_tokens h).nest_eq []
  | verbatim tag body =>
    obtain ⟨-, hnotvoid, -⟩ := isRawTag_iff.1 h.1
    simp [tokens, nest_cons, Token.nest, hnotvoid]
  | comment body => rfl
  | raw html =>
    obtain ⟨ts, hts, hnest⟩ := h
    have hscan : scan html.toList = some ts := hts
    rw [tokens, hscan]
    exact hnest

/-- `nest` of the tokens of nodes in a row leaves no element open. -/
theorem nest_tokensAll (ns : List Node) (h : WellFormedAll Balanced ns) :
    nest [] (tokensAll ns) = some [] := by
  cases ns with
  | nil => rfl
  | cons n ns =>
    rw [tokensAll, nest_append, nest_tokens n h.1, Option.bind_some]
    exact nest_tokensAll ns h.2

/-- `tokens` of an element are one element. -/
theorem isElement_tokens {tag : String} {attrs : List Attr} {children : List Node}
    (h : (element tag attrs children).WellFormed Balanced) :
    IsElement tag (element tag attrs children).tokens := by
  obtain ⟨helement, -, hchildren⟩ := h
  obtain ⟨-, hnotvoid, -⟩ := isElementTag_iff.1 helement
  exact ⟨attrs.map Attr.scanned, tokensAll children, rfl, hnotvoid,
    nest_tokensAll children hchildren⟩

end

end Node

end Bulletin.Html
