import Bulletin.Html.Node

/-!
# Reading tags back

A reference scanner for HTML, one character a step.  It knows the parts that decide what is a tag:
quoted attribute values, comments and document types, and the elements whose content is raw text.
Everything else is text, a character a token.

The scanner refuses a `<` that begins nothing, an attribute value without quotes, and a text that
ends inside of a tag.  Since a run from between two tags ends there again, what is scanned piece by
piece is scanned as a whole.

## Main statements

- `run_append`: two runs, one after the other, are one run
- `scan_eq_some_iff`: a text is scanned when its run ends in text
-/

namespace Bulletin.Html

/-- A piece of scanned HTML. -/
inductive Token where
  /-- A character outside of tags. -/
  | text (c : Char)
  /-- An opening tag, its attribute values as they are written. -/
  | opening (tag : String) (attrs : List (String × String))
  | closing (tag : String)
  /-- The content of an element of raw text. -/
  | rawText (body : String)
  /-- A comment or a document type, less the signs at both ends. -/
  | declaration (body : String)
deriving DecidableEq

/-- The elements without content or closing tag. -/
def voidTags : List String := ["img", "input", "hr", "br", "meta"]

/-- The elements whose content is no markup. -/
def rawTags : List String := ["script", "style"]

namespace Scanner

/-- What the scanner is in the middle of. -/
inductive Mode where
  | text
  /-- Behind a `<`. -/
  | tagStart
  | tagName (name : List Char)
  | closingName (name : List Char)
  /-- Between the attributes of a tag. -/
  | attrs (tag : String) (done : List (String × String))
  | attrName (tag : String) (done : List (String × String)) (name : List Char)
  /-- Behind the `=` of an attribute. -/
  | valueStart (tag : String) (done : List (String × String)) (name : List Char)
  | value (tag : String) (done : List (String × String)) (name : List Char) (quote : Char)
      (value : List Char)
  /-- Behind a `<!`. -/
  | declaration (body : List Char)
  | rawText (tag : String) (body : List Char)
deriving DecidableEq

/-- A character that stands between attributes. -/
def isGap (c : Char) : Bool :=
  c = ' ' || c = '\n' || c = '\t' || c = '\r' || c = '\x0c' || c = '/'

/-- A character of a tag's or an attribute's name. -/
def isNameChar (c : Char) : Bool :=
  !(isGap c || c = '=' || c = '<' || c = '>' || c = '"' || c = '\'')

/-- Where a declaration may end: a comment only behind two dashes that are not its first. -/
def endsDeclaration (body : List Char) : Bool :=
  !"--".toList.isPrefixOf body || (4 ≤ body.length && "--".toList.isSuffixOf body)

/-- What begins the closing tag of an element. -/
def endMark (tag : String) : List Char := '<' :: '/' :: tag.toList

/-- The end of an opening tag. -/
def finish (tag : String) (attrs : List (String × String)) : Mode × List Token :=
  (if tag ∈ rawTags then .rawText tag [] else .text, [.opening tag attrs])

/-- Reads one character: the mode behind it and the tokens that are complete. -/
def step : Mode → Char → Option (Mode × List Token)
  | .text, c => if c = '<' then some (.tagStart, []) else some (.text, [.text c])
  | .tagStart, c =>
    if c = '/' then some (.closingName [], [])
    else if c = '!' then some (.declaration [], [])
    else if c.isAlpha then some (.tagName [c], [])
    else none
  | .tagName name, c =>
    if isGap c then some (.attrs (.ofList name) [], [])
    else if c = '>' then some (finish (.ofList name) [])
    else if isNameChar c then some (.tagName (name ++ [c]), [])
    else none
  | .closingName name, c =>
    if c = '>' then some (.text, [.closing (.ofList name)])
    else if isNameChar c then some (.closingName (name ++ [c]), [])
    else none
  | .attrs tag done, c =>
    if isGap c then some (.attrs tag done, [])
    else if c = '>' then some (finish tag done)
    else if isNameChar c then some (.attrName tag done [c], [])
    else none
  | .attrName tag done name, c =>
    if isGap c then some (.attrs tag (done ++ [(.ofList name, "")]), [])
    else if c = '>' then some (finish tag (done ++ [(.ofList name, "")]))
    else if c = '=' then some (.valueStart tag done name, [])
    else if isNameChar c then some (.attrName tag done (name ++ [c]), [])
    else none
  | .valueStart tag done name, c =>
    if c = '"' || c = '\'' then some (.value tag done name c [], []) else none
  | .value tag done name quote value, c =>
    if c = quote then some (.attrs tag (done ++ [(.ofList name, .ofList value)]), [])
    else some (.value tag done name quote (value ++ [c]), [])
  | .declaration body, c =>
    if c = '>' && endsDeclaration body then some (.text, [.declaration (.ofList body)])
    else some (.declaration (body ++ [c]), [])
  | .rawText tag body, c =>
    if c = '>' && (endMark tag).isSuffixOf body then
      let content := body.take (body.length - (endMark tag).length)
      some (.text, [.rawText (.ofList content), .closing tag])
    else some (.rawText tag (body ++ [c]), [])

/-- Reads some characters. -/
def run (m : Mode) : List Char → Option (Mode × List Token)
  | [] => some (m, [])
  | c :: cs =>
    match step m c with
    | none => none
    | some (m', ts) => (run m' cs).map fun r => (r.1, ts ++ r.2)

/-- `run` over one text after the other is two runs. -/
theorem run_append (m : Mode) (xs ys : List Char) :
    run m (xs ++ ys) =
      (run m xs).bind fun p => (run p.1 ys).map fun r => (r.1, p.2 ++ r.2) := by
  induction xs generalizing m with
  | nil => simp [run]
  | cons c cs ih =>
    rw [List.cons_append, run, run]
    -- The first step is the same on both sides, and behind it the induction takes over.
    cases step m c with
    | none => rfl
    | some p =>
      obtain ⟨m', ts⟩ := p
      simp only [ih, Option.map_bind, Option.bind_map, Function.comp_def, Option.map_map,
        List.append_assoc]

/-- `run` begins with a step. -/
theorem run_cons {m m₁ m₂ : Mode} {c : Char} {cs : List Char} {ts₁ ts₂ : List Token}
    (h₁ : step m c = some (m₁, ts₁)) (h₂ : run m₁ cs = some (m₂, ts₂)) :
    run m (c :: cs) = some (m₂, ts₁ ++ ts₂) := by
  simp only [run, h₁, h₂, Option.map_some]

/-- `run` over a character that completes no token. -/
theorem run_cons_silent {m : Mode} {c : Char} (m' : Mode) (cs : List Char)
    (h : step m c = some (m', [])) : run m (c :: cs) = run m' cs := by
  simp [run, h]

/-- `run` over a text, and then over another one from where the first run ends. -/
theorem run_append_of_run {m m₁ m₂ : Mode} {xs ys : List Char} {ts₁ ts₂ : List Token}
    (h₁ : run m xs = some (m₁, ts₁)) (h₂ : run m₁ ys = some (m₂, ts₂)) :
    run m (xs ++ ys) = some (m₂, ts₁ ++ ts₂) := by
  rw [run_append, h₁, Option.bind_some, h₂, Option.map_some]

/-- `run` over a text that completes no token. -/
theorem run_append_silent {m m₁ : Mode} {xs : List Char} (ys : List Char)
    (h : run m xs = some (m₁, [])) : run m (xs ++ ys) = run m₁ ys := by
  simp [run_append, h]

end Scanner

/-- The tokens of a text that begins and ends between tags. -/
def scan (html : List Char) : Option (List Token) :=
  match Scanner.run .text html with
  | some (.text, ts) => some ts
  | _ => none

/-- `scan` gives tokens when the run ends in text. -/
theorem scan_eq_some_iff {html : List Char} {ts : List Token} :
    scan html = some ts ↔ Scanner.run .text html = some (.text, ts) := by
  unfold scan
  split
  · rename_i ts' h
    simp [h]
  · rename_i h
    constructor
    · exact nofun
    · intro h'
      exact absurd h' (h ts)

end Bulletin.Html
