import Bulletin.Options
import Bulletin.Yaml.Value

/-!
# Options in YAML

Options are the fields of a mapping, each of its own type.  Texts are taken as they are written,
whatever they stand for; numbers and truth values may not be quoted.
-/

namespace Bulletin.RenderOptions

/-- The keys of the options. -/
def keys : List String :=
  ["title", "preheader", "containerWidth", "includeScripts", "copyrightYear"]

/-- The options that a document holds. -/
def ofDocument (d : Yaml.Document) : Yaml.Decoding RenderOptions := do
  let fields ← d.fields keys
  let title ← Yaml.Document.field fields "title" standard.title d.text
  let preheader ← Yaml.Document.field fields "preheader" standard.preheader fun node => do
    (← d.optional node).mapM d.text
  let containerWidth ←
    Yaml.Document.field fields "containerWidth" standard.containerWidth d.nat32
  let includeScripts ←
    Yaml.Document.field fields "includeScripts" standard.includeScripts d.bool
  let copyrightYear ←
    Yaml.Document.field fields "copyrightYear" standard.copyrightYear fun node => do
      (← d.optional node).mapM d.year
  return ⟨title, preheader, containerWidth, includeScripts, copyrightYear⟩

/-- Reads the YAML text of options.  A blank text chooses nothing. -/
def read (text : String) : Except Yaml.YamlError RenderOptions := do
  if Text.isBlank text then .ok standard
  else
    match ← Yaml.Document.read text with
    | some d => d.decode (ofDocument d)
    | none => .ok standard

end Bulletin.RenderOptions
