import Bulletin.Proofs.Markup.Tree

/-!
# Reading data off tokens

A reader looks at one token at a time, and only at opening tags and raw text: the name of an input,
the handler of a link, the text of a script.  What is read off a tree is then read off its elements,
in order, and which tags a reader passes over is all that a proof needs to know of it.
-/

namespace Bulletin.Html

variable {α : Type}

/-- Nothing is read off text and closing tags. -/
class Token.IsReader (f : Token → Option α) : Prop where
  text : ∀ c, f (.text c) = none
  closing : ∀ tag, f (.closing tag) = none

/-- What is read off some tokens. -/
def gather (f : Token → Option α) (ts : List Token) : List α := ts.filterMap f

variable {f : Token → Option α}

@[simp] theorem gather_nil : gather f [] = [] := rfl

/-- `gather` goes token by token. -/
@[simp] theorem gather_append (xs ys : List Token) :
    gather f (xs ++ ys) = gather f xs ++ gather f ys := List.filterMap_append

/-- `gather` reads the first token, and then the others. -/
theorem gather_cons (t : Token) (ts : List Token) :
    gather f (t :: ts) = (f t).toList ++ gather f ts := by
  unfold gather
  rw [List.filterMap_cons]
  cases f t <;> rfl

/-- `gather` of tokens that are made of some items. -/
theorem gather_map {β : Type} (g : β → Token) (xs : List β) :
    gather f (xs.map g) = xs.flatMap fun x => (f (g x)).toList := by
  induction xs with
  | nil => rfl
  | cons x xs ih => rw [List.map_cons, gather_cons, ih, List.flatMap_cons]

/-- `gather` reads nothing off a closing tag. -/
theorem gather_closing [Token.IsReader f] (tag : String) : gather f [.closing tag] = [] := by
  have hnone : f (.closing tag) = none := Token.IsReader.closing tag
  rw [gather_cons, hnone]
  rfl

namespace Node

/-- `tokensAll` goes node by node. -/
@[simp] theorem tokensAll_append (xs ys : List Node) :
    tokensAll (xs ++ ys) = tokensAll xs ++ tokensAll ys := by
  induction xs with
  | nil => rfl
  | cons n ns ih => rw [List.cons_append, tokensAll, tokensAll, ih, List.append_assoc]

@[simp] theorem gather_tokensAll_nil : gather f (tokensAll []) = [] := rfl

@[simp] theorem gather_tokensAll_cons (n : Node) (ns : List Node) :
    gather f (tokensAll (n :: ns)) = gather f n.tokens ++ gather f (tokensAll ns) :=
  gather_append _ _

/-- `gather` goes node by node. -/
theorem gather_tokensAll (ns : List Node) :
    gather f (tokensAll ns) = ns.flatMap fun n => gather f n.tokens := by
  induction ns with
  | nil => rfl
  | cons n ns ih => rw [gather_tokensAll_cons, ih, List.flatMap_cons]

/-- `gather` finds nothing in nodes that have nothing to read. -/
theorem gather_tokensAll_eq_nil {ns : List Node} (h : ∀ n ∈ ns, gather f n.tokens = []) :
    gather f (tokensAll ns) = [] := by
  rw [gather_tokensAll, List.flatMap_eq_nil_iff]
  exact h

/-- `gather` reads a void element off its tag. -/
@[simp] theorem gather_void (tag : String) (attrs : List Attr) :
    gather f (void tag attrs).tokens = (f (.opening tag (attrs.map Attr.scanned))).toList := by
  rw [tokens, gather_cons, gather_nil, List.append_nil]

variable [Token.IsReader f]

/-- `gather` reads nothing off text. -/
@[simp] theorem gather_text (s : String) : gather f (text s).tokens = [] := by
  apply List.filterMap_eq_nil_iff.2
  intro t ht
  obtain ⟨c, -, rfl⟩ := List.mem_map.1 ht
  exact Token.IsReader.text c

/-- `gather` reads nothing off an entity. -/
@[simp] theorem gather_entity (name : String) : gather f (entity name).tokens = [] := by
  apply List.filterMap_eq_nil_iff.2
  intro t ht
  obtain ⟨c, -, rfl⟩ := List.mem_map.1 ht
  exact Token.IsReader.text c

/-- `gather` reads an element off its tag and off what stands in it. -/
@[simp] theorem gather_element (tag : String) (attrs : List Attr) (children : List Node) :
    gather f (element tag attrs children).tokens =
      (f (.opening tag (attrs.map Attr.scanned))).toList ++ gather f (tokensAll children) := by
  rw [tokens, gather_cons, gather_append, gather_closing, List.append_nil]

/-- `gather` reads a verbatim element off its tag and off its text. -/
@[simp] theorem gather_verbatim (tag body : String) :
    gather f (verbatim tag body).tokens =
      (f (.opening tag [])).toList ++ (f (.rawText body)).toList := by
  rw [tokens, gather_cons, gather_cons, gather_closing, List.append_nil]

end Node

end Bulletin.Html
