import Bulletin.Proofs.Markup.Scanner
import Bulletin.Text.Blank

/-!
# Nesting of tags

Tags nest when every closing tag closes the innermost element that is still open.  The elements that
are open are a stack of names, and a token takes one stack to another or is refused.

A text is *balanced* when its tags nest and leave nothing open; it is *one element* when it is an
opening tag, balanced content and the closing tag that belongs to it.
-/

namespace Bulletin.Html

/-- The elements open behind a token, innermost first. -/
def Token.nest (stack : List String) : Token → Option (List String)
  | .opening tag _ => some (if tag ∈ voidTags then stack else tag :: stack)
  | .closing tag =>
    match stack with
    | [] => none
    | inner :: rest => if inner = tag then some rest else none
  | .text _ | .rawText _ | .declaration _ => some stack

/-- The elements open behind some tokens. -/
def nest (stack : List String) (ts : List Token) : Option (List String) :=
  ts.foldlM Token.nest stack

/-- Every tag is closed by its own closing tag, in the right order. -/
def Balanced (html : String) : Prop := ∃ ts ∈ scan html.toList, nest [] ts = some []

instance (html : String) : Decidable (Balanced html) := inferInstanceAs (Decidable (∃ _ ∈ _, _))

/-- An opening tag, balanced content, and the tag that closes it. -/
def IsElement (tag : String) (ts : List Token) : Prop :=
  ∃ attrs content, ts = .opening tag attrs :: (content ++ [.closing tag]) ∧
    tag ∉ voidTags ∧ nest [] content = some []

/-- A token that may stand around the root of a document. -/
def Token.IsAround : Token → Prop
  | .text c => Text.isBlankChar c = true
  | .declaration _ => True
  | .opening _ _ | .closing _ | .rawText _ => False

/-- One element, and nothing around it but white space and declarations. -/
def IsDocument (tag : String) (ts : List Token) : Prop :=
  ∃ before element after, ts = before ++ element ++ after ∧ IsElement tag element ∧
    ∀ t ∈ before ++ after, t.IsAround

@[simp] theorem nest_nil (stack : List String) : nest stack [] = some stack := rfl

theorem nest_cons (stack : List String) (t : Token) (ts : List Token) :
    nest stack (t :: ts) = (t.nest stack).bind fun stack' => nest stack' ts := rfl

/-- `nest` goes token by token. -/
theorem nest_append (stack : List String) (xs ys : List Token) :
    nest stack (xs ++ ys) = (nest stack xs).bind fun stack' => nest stack' ys :=
  List.foldlM_append

/-- `Token.nest` does not look at what lies deeper in the stack. -/
theorem Token.nest_below {stack stack' : List String} {t : Token} (below : List String)
    (h : t.nest stack = some stack') : t.nest (stack ++ below) = some (stack' ++ below) := by
  cases t with
  | opening tag attrs =>
    simp only [Token.nest, Option.some.injEq] at h ⊢
    subst h
    split <;> rfl
  | closing tag =>
    -- A closing tag looks at the innermost element only, which is not one of those below.
    cases stack with
    | nil => simp [Token.nest] at h
    | cons inner rest =>
      simp only [Token.nest, List.cons_append, Option.ite_none_right_eq_some] at h ⊢
      obtain ⟨heq, hrest⟩ := h
      rw [Option.some.injEq] at hrest
      exact ⟨heq, by rw [hrest]⟩
  | text _ | rawText _ | declaration _ =>
    simp only [Token.nest, Option.some.injEq] at h ⊢
    rw [h]

/-- `nest` of tokens that nest on their own works inside of any open elements. -/
theorem nest_below {stack stack' : List String} {ts : List Token} (below : List String)
    (h : nest stack ts = some stack') : nest (stack ++ below) ts = some (stack' ++ below) := by
  induction ts generalizing stack with
  | nil =>
    obtain rfl : stack = stack' := by simpa using h
    rfl
  | cons t ts ih =>
    rw [nest_cons, Option.bind_eq_some_iff] at h
    obtain ⟨mid, ht, hts⟩ := h
    -- Each token leaves a stack, and the lower part stays below it.
    rw [nest_cons, Token.nest_below below ht, Option.bind_some]
    exact ih hts

/-- `nest` of balanced tokens leaves the open elements as they were. -/
theorem nest_of_balanced {ts : List Token} (stack : List String) (h : nest [] ts = some []) :
    nest stack ts = some stack :=
  nest_below stack h

/-- `nest` of an element leaves the open elements as they were. -/
theorem IsElement.nest_eq {tag : String} {ts : List Token} (h : IsElement tag ts)
    (stack : List String) : nest stack ts = some stack := by
  obtain ⟨attrs, content, rfl, htag, hcontent⟩ := h
  -- The opening tag pushes the name, the content leaves it there, and the closing tag pops it.
  rw [nest_cons, Token.nest, if_neg htag, Option.bind_some, nest_append,
    nest_of_balanced _ hcontent, Option.bind_some, nest_cons, Token.nest, if_pos rfl]
  rfl

end Bulletin.Html
