import Bulletin.Proofs.Markup.Contents

/-!
# Elements and what stands in them

An element ends at the closing tag that belongs to its opening tag, however many elements of its
name stand in it.  With the elements that a reader looks for, this gives the layout of a fragment:
which pieces follow each other, and what is in each of them.

## Main statements

- `within_append_closing`: what stands in an element is found again
- `Node.Yields.element`, `Node.Yields.separated`: what is found in a tree is found in its parts
-/

namespace Bulletin.Html

variable {α : Type} {f : Token → Option α}

/-- The tokens in front of the first closing tag that closes none of the elements opened so far,
when those of a stack are open already. -/
def within (stack : List String) : List Token → List Token
  | [] => []
  | t :: ts =>
    match t.nest stack with
    | some stack' => t :: within stack' ts
    | none => []

/-- The elements that something is read off, in the order of their opening tags, each with what
stands in it; one without content, with what stands behind it in the element around it. -/
def elements (f : Token → Option α) : List Token → List (α × List Token)
  | [] => []
  | t :: ts => ((f t).map fun a => (a, within [] ts)).toList ++ elements f ts

/-! ## Tokens -/

/-- `within` takes tokens that nest as a whole. -/
theorem within_append {stack stack' : List String} {xs : List Token}
    (h : nest stack xs = some stack') (ys : List Token) :
    within stack (xs ++ ys) = xs ++ within stack' ys := by
  -- Induction on the tokens, for every stack: each token leaves a stack for those behind it.
  induction xs generalizing stack with
  | nil =>
    obtain rfl : stack = stack' := by simpa using h
    rfl
  | cons t xs ih =>
    rw [nest_cons, Option.bind_eq_some_iff] at h
    obtain ⟨mid, ht, hxs⟩ := h
    rw [List.cons_append, within, ht]
    exact congrArg _ (ih hxs)

/-- `within` goes up to the closing tag that belongs to the element. -/
theorem within_append_closing {content : List Token} (h : nest [] content = some [])
    (tag : String) (rest : List Token) : within [] (content ++ .closing tag :: rest) = content := by
  rw [within_append h, within, Token.nest, List.append_nil]

/-- `elements` begin no earlier than `gather` finds something. -/
theorem elements_append_of_gather {xs : List Token} (h : gather f xs = []) (ys : List Token) :
    elements f (xs ++ ys) = elements f ys := by
  induction xs with
  | nil => rfl
  | cons t xs ih =>
    rw [gather_cons, List.append_eq_nil_iff, Option.toList_eq_nil_iff] at h
    rw [List.cons_append, elements, h.1, ih h.2]
    rfl

/-! ## Trees -/

namespace Node

variable {ns : List Node} {es : List (α × List Token)}

/-- What is found in nodes, whatever stands behind them. -/
def Yields (f : Token → Option α) (ns : List Node) (es : List (α × List Token)) : Prop :=
  ∀ rest, elements f (tokensAll ns ++ rest) = es ++ elements f rest

namespace Yields

/-- `Yields` says what the elements are. -/
theorem elements_eq (h : Yields f ns es) : elements f (tokensAll ns) = es := by
  simpa [elements] using h []

/-- `Yields` nothing where `gather` finds nothing. -/
theorem of_gather (h : gather f (tokensAll ns) = []) : Yields f ns [] :=
  elements_append_of_gather h

theorem nil : Yields f [] [] := of_gather rfl

/-- `Yields` for nodes in front of others. -/
theorem append {ms : List Node} {ds : List (α × List Token)} (h : Yields f ns es)
    (h' : Yields f ms ds) : Yields f (ns ++ ms) (es ++ ds) := by
  intro rest
  rw [tokensAll_append, List.append_assoc, h, h', List.append_assoc]

theorem cons {n : Node} {ds : List (α × List Token)} (h : Yields f [n] ds) (h' : Yields f ns es) :
    Yields f (n :: ns) (ds ++ es) :=
  h.append h'

variable {tag : String} {attrs : List Attr}

/-- `Yields` an element with what stands in it, and what is found there. -/
theorem element [Token.IsReader f] {a : α}
    (hread : f (.opening tag (attrs.map Attr.scanned)) = some a)
    (hwell : WellFormedAll Balanced ns) (h : Yields f ns es) :
    Yields f [.element tag attrs ns] ((a, tokensAll ns) :: es) := by
  intro rest
  have hnest : nest [] (tokensAll ns) = some [] := nest_tokensAll ns hwell
  have hclosing : elements f (.closing tag :: rest) = elements f rest :=
    elements_append_of_gather (gather_closing tag) rest
  have htokens : tokensAll [.element tag attrs ns] ++ rest =
      .opening tag (attrs.map Attr.scanned) :: (tokensAll ns ++ .closing tag :: rest) := by
    simp [tokensAll, tokens]
  rw [htokens, elements, hread, within_append_closing hnest, h, hclosing]
  rfl

/-- `Yields` what is found in an element that is not looked for. -/
theorem wrapped [Token.IsReader f] (hnone : f (.opening tag (attrs.map Attr.scanned)) = none)
    (h : Yields f ns es) : Yields f [.element tag attrs ns] es := by
  intro rest
  have hclosing : elements f (.closing tag :: rest) = elements f rest :=
    elements_append_of_gather (gather_closing tag) rest
  have htokens : tokensAll [.element tag attrs ns] ++ rest =
      .opening tag (attrs.map Attr.scanned) :: (tokensAll ns ++ .closing tag :: rest) := by
    simp [tokensAll, tokens]
  rw [htokens, elements, hnone, h, hclosing]
  rfl

/-- `Yields` an element without content with what stands behind it in the element around it. -/
theorem wrapped_void [Token.IsReader f] {tag' : String} {attrs' : List Attr} {a : α}
    (hnone : f (.opening tag (attrs.map Attr.scanned)) = none)
    (hread : f (.opening tag' (attrs'.map Attr.scanned)) = some a)
    (hwell : WellFormedAll Balanced ns) (h : Yields f ns es) :
    Yields f [.element tag attrs (.void tag' attrs' :: ns)] ((a, tokensAll ns) :: es) := by
  intro rest
  have hnest : nest [] (tokensAll ns) = some [] := nest_tokensAll ns hwell
  have hclosing : elements f (.closing tag :: rest) = elements f rest :=
    elements_append_of_gather (gather_closing tag) rest
  have htokens : tokensAll [.element tag attrs (.void tag' attrs' :: ns)] ++ rest =
      .opening tag (attrs.map Attr.scanned) :: .opening tag' (attrs'.map Attr.scanned) ::
        (tokensAll ns ++ .closing tag :: rest) := by
    simp [tokensAll, tokens]
  -- No tag closes the inner one, so what belongs to it ends with the element around it.
  rw [htokens, elements, hnone, elements, hread, within_append_closing hnest, h, hclosing]
  rfl

/-- `Yields` for nodes in a row what is found in each of them. -/
theorem flatMap {pieces : Node → List (α × List Token)} (h : ∀ n ∈ ns, Yields f [n] (pieces n)) :
    Yields f ns (ns.flatMap pieces) := by
  induction ns with
  | nil => exact nil
  | cons n ns ih =>
    rw [List.forall_mem_cons] at h
    exact h.1.cons (ih h.2)

section Items

variable {β : Type}

/-- `Yields` one piece for each of some items, which may depend on their positions. -/
theorem mapIdx {draw : Nat → β → Node} {piece : Nat → β → α × List Token}
    (h : ∀ i x, Yields f [draw i x] [piece i x]) (xs : List β) :
    Yields f (xs.mapIdx draw) (xs.mapIdx piece) := by
  induction xs generalizing draw piece with
  | nil => exact nil
  | cons x xs ih =>
    rw [List.mapIdx_cons, List.mapIdx_cons]
    exact (h 0 x).cons (ih fun i => h (i + 1))

variable {draw : β → Node} {piece : β → α × List Token}

/-- `Yields` one piece for each of some items. -/
theorem map (h : ∀ x, Yields f [draw x] [piece x]) (xs : List β) :
    Yields f (xs.map draw) (xs.map piece) := by
  induction xs with
  | nil => exact nil
  | cons x xs ih => exact (h x).cons ih

/-- `Yields` one piece for each of some items, and another between each two. -/
theorem separated {separator : Node} {gap : α × List Token} (hgap : Yields f [separator] [gap])
    (h : ∀ x, Yields f [draw x] [piece x]) (xs : List β) :
    Yields f (separated separator (xs.map draw)) ((xs.map piece).intersperse gap) := by
  induction xs with
  | nil => exact nil
  | cons x xs ih =>
    cases xs with
    | nil => exact h x
    | cons y ys => exact (h x).cons (hgap.cons ih)

end Items

end Yields

end Node

end Bulletin.Html
