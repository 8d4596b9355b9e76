import Bulletin.Proofs.Markup.Fragments
import Bulletin.Proofs.Markup.Reading

/-!
# The contents of elements

What stands in the elements of a kind, up to the closing tag of their name.  An element that holds
no other of its name gives all that stands in it, and elements in a row give theirs in order.

## Main statements

- `Node.gives_element`: an element gives what stands in it
- `Node.contents_tokensAll_append`: elements in a row give theirs in order
-/

namespace Bulletin.Html

variable {α : Type} {f : Token → Option α} {tag : String}

/-- What stands behind each token that something is read off, up to the next closing tag. -/
def contents (f : Token → Option α) (tag : String) : List Token → List (List Token)
  | [] => []
  | t :: ts =>
    if (f t).isSome then ts.takeWhile (fun u => u ≠ .closing tag) :: contents f tag ts
    else contents f tag ts

/-- The text between some tags. -/
def textOf (ts : List Token) : List Char :=
  ts.filterMap fun
    | .text c => some c
    | _ => none

/-! ## Elements -/

/-- `contents` begins no earlier than `gather` finds something. -/
theorem contents_append_of_gather {xs : List Token} (h : gather f xs = []) (ys : List Token) :
    contents f tag (xs ++ ys) = contents f tag ys := by
  induction xs with
  | nil => rfl
  | cons t xs ih =>
    rw [gather_cons, List.append_eq_nil_iff, Option.toList_eq_nil_iff] at h
    rw [List.cons_append, contents, h.1]
    exact ih h.2

/-- `contents` are none where `gather` finds nothing. -/
theorem contents_eq_nil_of_gather {xs : List Token} (h : gather f xs = []) :
    contents f tag xs = [] := by
  simpa [contents] using contents_append_of_gather h []

/-- `contents` behind an opening tag go up to the first closing tag of its name. -/
theorem contents_cons_append [Token.IsReader f] {t : Token} (hopen : (f t).isSome)
    {inner : List Token} (hinner : gather f inner = []) (hclosed : .closing tag ∉ inner)
    (rest : List Token) :
    contents f tag (t :: (inner ++ .closing tag :: rest)) = inner :: contents f tag rest := by
  have hall : ∀ u ∈ inner, decide (u ≠ .closing tag) = true := by
    intro u hu
    have hne : u ≠ .closing tag := fun h => hclosed (h ▸ hu)
    simpa using hne
  have hbehind : contents f tag (.closing tag :: rest) = contents f tag rest :=
    contents_append_of_gather (gather_closing tag) rest
  rw [contents, if_pos hopen, contents_append_of_gather hinner, hbehind,
    List.takeWhile_append_of_pos hall]
  simp

namespace Node

variable {n : Node} {ns : List Node}

/-- What stands in an element. -/
def inside : Node → List Token
  | element _ _ children => tokensAll children
  | _ => []

/-- A node is one element that something is read off, and gives what stands in it. -/
def Gives (f : Token → Option α) (tag : String) (n : Node) : Prop :=
  ∀ rest, contents f tag (n.tokens ++ rest) = n.inside :: contents f tag rest

/-- An element gives what stands in it, unless it holds another of its kind. -/
theorem gives_element [Token.IsReader f] {attrs : List Attr} {children : List Node}
    (hopen : (f (.opening tag (attrs.map Attr.scanned))).isSome)
    (hinner : gather f (tokensAll children) = []) (hclosed : .closing tag ∉ tokensAll children) :
    (element tag attrs children).Gives f tag := by
  intro rest
  rw [tokens, List.cons_append, List.append_assoc]
  exact contents_cons_append hopen hinner hclosed rest

/-- `contents` of elements in a row are what stands in them, in order. -/
theorem contents_tokensAll_append (h : ∀ n ∈ ns, n.Gives f tag) (rest : List Token) :
    contents f tag (tokensAll ns ++ rest) = ns.map inside ++ contents f tag rest := by
  induction ns with
  | nil => rfl
  | cons n ns ih =>
    rw [List.forall_mem_cons] at h
    rw [tokensAll, List.append_assoc, h.1, ih h.2, List.map_cons, List.cons_append]

/-- `contents` of elements with something between them are what stands in the elements. -/
theorem contents_separated_append {separator : Node} (hsep : gather f separator.tokens = [])
    (h : ∀ n ∈ ns, n.Gives f tag) (rest : List Token) :
    contents f tag (tokensAll (separated separator ns) ++ rest) =
      ns.map inside ++ contents f tag rest := by
  fun_induction separated separator ns with
  | case1 => rfl
  | case2 n => exact contents_tokensAll_append h rest
  | case3 n ns hne ih =>
    rw [List.forall_mem_cons] at h
    rw [tokensAll, tokensAll, List.append_assoc, List.append_assoc, h.1,
      contents_append_of_gather hsep, ih h.2, List.map_cons, List.cons_append]

/-- `gather` finds nothing between nodes. -/
theorem gather_separated {separator : Node} (hsep : gather f separator.tokens = [])
    (ns : List Node) : gather f (tokensAll (separated separator ns)) = gather f (tokensAll ns) := by
  fun_induction separated separator ns with
  | case1 => rfl
  | case2 n => rfl
  | case3 n ns hne ih =>
    rw [gather_tokensAll_cons, gather_tokensAll_cons, hsep, ih, List.nil_append,
      gather_tokensAll_cons]

/-- `multiline` has nothing to read, if line breaks have not. -/
theorem gather_multiline [Token.IsReader f] (hbreak : f (.opening "br" []) = none) (s : String) :
    gather f (tokensAll (multiline s)) = [] := by
  have hsep : gather f lineBreak.tokens = [] := by simp [lineBreak, hbreak]
  rw [multiline, gather_separated hsep]
  apply gather_tokensAll_eq_nil
  intro n hn
  obtain ⟨line, -, rfl⟩ := List.mem_map.1 hn
  exact gather_text _

/-! ## Closing tags -/

/-- A text closes no tag. -/
@[simp] theorem closing_notMem_text (s : String) : .closing tag ∉ (text s).tokens := by
  simp [tokens]

/-- An entity closes no tag. -/
@[simp] theorem closing_notMem_entity (name : String) : .closing tag ∉ (entity name).tokens := by
  simp [tokens]

/-- A void element closes no tag. -/
@[simp] theorem closing_notMem_void (tag' : String) (attrs : List Attr) :
    .closing tag ∉ (void tag' attrs).tokens := by
  simp [tokens]

/-- An element closes its own tag, and those that are closed in it. -/
@[simp] theorem closing_mem_element {tag' : String} {attrs : List Attr} {children : List Node} :
    .closing tag ∈ (element tag' attrs children).tokens ↔
      .closing tag ∈ tokensAll children ∨ tag = tag' := by
  simp [tokens]

@[simp] theorem closing_notMem_tokensAll_nil : .closing tag ∉ tokensAll [] := List.not_mem_nil

/-- Nodes close the tags that one of them closes. -/
@[simp] theorem closing_mem_tokensAll_cons :
    .closing tag ∈ tokensAll (n :: ns) ↔ .closing tag ∈ n.tokens ∨ .closing tag ∈ tokensAll ns :=
  List.mem_append

/-- What stands in nodes with something between them stands in one of them or between. -/
theorem mem_tokensAll_separated {separator : Node} {t : Token}
    (h : t ∈ tokensAll (separated separator ns)) : t ∈ separator.tokens ∨ t ∈ tokensAll ns := by
  fun_induction separated separator ns with
  | case1 => exact .inr h
  | case2 n => exact .inr h
  | case3 n ns hne ih =>
    rw [tokensAll, tokensAll, List.mem_append, List.mem_append] at h
    rw [tokensAll, List.mem_append]
    obtain hn | hsep | hns := h
    · exact .inr (.inl hn)
    · exact .inl hsep
    · exact (ih hns).imp_right .inr

/-- Nodes close no tag that none of them closes. -/
theorem closing_notMem_tokensAll (h : ∀ n ∈ ns, .closing tag ∉ n.tokens) :
    .closing tag ∉ tokensAll ns := by
  induction ns with
  | nil => exact closing_notMem_tokensAll_nil
  | cons n ns ih =>
    rw [List.forall_mem_cons] at h
    rw [closing_mem_tokensAll_cons, not_or]
    exact ⟨h.1, ih h.2⟩

/-! ## Texts -/

/-- `textOf` goes token by token. -/
theorem textOf_append (xs ys : List Token) : textOf (xs ++ ys) = textOf xs ++ textOf ys :=
  List.filterMap_append

/-- `text` shows its characters, escaped. -/
@[simp] theorem textOf_text (s : String) : textOf (text s).tokens = escapeChars s.toList := by
  simp [tokens, textOf, List.filterMap_map]

/-- An element shows what stands in it. -/
@[simp] theorem textOf_element (tag' : String) (attrs : List Attr) (children : List Node) :
    textOf (element tag' attrs children).tokens = textOf (tokensAll children) := by
  rw [tokens, textOf, List.filterMap_cons_none rfl, ← textOf, textOf_append]
  exact List.append_nil _

@[simp] theorem textOf_tokensAll_nil : textOf (tokensAll []) = [] := rfl

@[simp] theorem textOf_tokensAll_cons :
    textOf (tokensAll (n :: ns)) = textOf n.tokens ++ textOf (tokensAll ns) := textOf_append _ _

end Node

end Bulletin.Html
