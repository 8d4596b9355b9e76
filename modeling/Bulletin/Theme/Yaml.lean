import Bulletin.Theme
import Bulletin.Yaml.Value

/-!
# Themes in YAML

The fields of a theme are read as values, so that a number or a truth value stands for its text, as
it does in JSON.
-/

namespace Bulletin.Theme

/-- The theme that a document holds. -/
def ofDocument (d : Yaml.Document) : Yaml.Decoding Theme := do
  let fields ← d.fields (Record.keys Theme)
  let members ← fields.mapM fun f => do
    return (f.1, ← d.value (Yaml.Document.depthLimit - 1) f.2)
  return Record.ofMembers members

/-- Reads the YAML text of a theme. -/
def readYaml (text : String) : Except Yaml.YamlError Theme := do
  match ← Yaml.Document.read text with
  | some d => d.decode (ofDocument d)
  | none => .ok standard

end Bulletin.Theme
