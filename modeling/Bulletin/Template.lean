import Bulletin.Block.Basic

/-!
# Templates

A template is a saved newsletter: its blocks, in order, and the theme they are drawn in.  Its JSON
text is an object with a `blocks` list and perhaps a `theme`, or just the list.  Items that are no
blocks are left out, and a theme that is no object counts as none: beyond the syntax, only the
outermost shape of the text can be wrong.
-/

namespace Bulletin

/-- A saved newsletter. -/
structure Template where
  theme : Theme
  blocks : List Block
deriving DecidableEq

/-- Why a template is refused. -/
inductive TemplateError where
  | json (e : JsonError)
  | missingBlocks
  | blocksNotList
  | noTemplate

namespace TemplateError

/-- The wording of an error. -/
def message : TemplateError → String
  | .json e => "JSON error: " ++ e.message
  | .missingBlocks => "Invalid template: missing \"blocks\" field"
  | .blocksNotList => "Invalid template: \"blocks\" must be an array"
  | .noTemplate => "Invalid template: expected an object or an array of blocks"

end TemplateError

namespace Template

/-- The blocks of a list, in order. -/
def blocksOf (items : List Json) : List Block := items.filterMap Record.ofJson?

/-- The theme of a template's object. -/
def themeOf (ms : Members) : Theme := ((ms.lookup "theme").bind Record.ofObject?).getD .standard

/-- The template a value stands for. -/
def ofJson : Json → Except TemplateError Template
  | .array items => .ok ⟨.standard, blocksOf items⟩
  | .object ms =>
    match ms.lookup "blocks" with
    | none => .error .missingBlocks
    | some (.array items) => .ok ⟨themeOf ms, blocksOf items⟩
    | some _ => .error .blocksNotList
  | _ => .error .noTemplate

/-- Reads the JSON text of a template. -/
def read (text : String) : Except TemplateError Template :=
  match Json.parse text with
  | .ok value => ofJson value
  | .error e => .error (.json e)

end Template

end Bulletin
