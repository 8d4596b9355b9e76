import Bulletin.Yaml.Document
import Bulletin.Yaml.Plain
import Bulletin.Year

/-!
# Values of a YAML document

What the nodes of a document stand for: a record's fields, their texts and numbers, and values in
general.  Aliases are followed on the way.  So that a short text cannot stand for an endless value,
collections nest to a limit, and the aliases that may be followed are a multiple of the size of the
document.
-/

namespace Bulletin.Yaml

/-- Reading a document, with the number of aliases that may still be followed. -/
abbrev Decoding := StateT Nat (Except YamlError)

/-- The tags that say what a scalar stands for. -/
inductive ScalarTag where
  | bool
  | int
  | float
  | null
deriving DecidableEq

/-- The name of a tag, behind what all of them start with. -/
def ScalarTag.name : ScalarTag → String
  | .bool => "bool"
  | .int => "int"
  | .float => "float"
  | .null => "null"

/-- Is a tag this one? -/
def ScalarTag.is (t : ScalarTag) (tag : Option (List UInt8)) : Bool :=
  tag = some (Text.utf8Bytes ("tag:yaml.org,2002:" ++ t.name).toList)

/-- A tag of an application, which starts with an exclamation mark. -/
def isLocalTag (tag : List UInt8) : Bool := tag.head? = some 0x21

/-- Does a node's tag name a type of the application?  What stands behind the exclamation mark must
be text, be it empty. -/
def namesType (tag : Option (List UInt8)) : Bool :=
  tag.any fun t => isLocalTag t && (String.fromUTF8? ⟨(t.drop 1).toArray⟩).isSome

/-- Is it left to the spelling of a plain scalar what it stands for?  A tag of an application that
names no type counts for nothing. -/
def isUntyped (tag : Option (List UInt8)) : Bool := tag.all isLocalTag

/-- What a scalar stands for, by its tag, its form and its spelling. -/
def scalarValue (tag : Option (List UInt8)) (style : ScalarStyle) (text : List Char) :
    Except YamlError Json :=
  if namesType tag then .error .wrongShape
  else if ScalarTag.bool.is tag then
    match truthValue? text with
    | some b => .ok (.bool b)
    | none => .error .wrongShape
  else if ScalarTag.int.is tag then (integerValue? text).getD (.error .wrongShape)
  else if ScalarTag.float.is tag then
    match realValue? text with
    | some v => .ok v
    | none => .error .wrongShape
  else if ScalarTag.null.is tag then
    if isNullWord text then .ok .null else .error .wrongShape
  else if isUntyped tag && style = .plain then plainValue text
  else .ok (.string (String.ofList text))

namespace Document

/-- How many collections may be open at once. -/
def depthLimit : Nat := 128

/-- How many aliases may be followed, for each unit of size. -/
def aliasesPerUnit : Nat := 100

/-- Reads something from a document. -/
def decode {α : Type} (d : Document) (x : Decoding α) : Except YamlError α :=
  x.run' (aliasesPerUnit * d.root.size)

/-- The node that a node stands for. -/
def follow (d : Document) : Node Nat → Decoding (Node Nat)
  | .alias n => do
    let left ← get
    if left = 0 then throw .tooManyAliases
    else
      set (left - 1)
      match d.anchored.lookup n with
      | some node => pure node
      | none => throw .unknownAnchor
  | node => pure node

/-- The text of a scalar, whatever it stands for. -/
def text (d : Document) (node : Node Nat) : Decoding String := do
  match ← d.follow node with
  | .scalar _ _ text => pure (String.ofList text)
  | _ => throw .wrongShape

/-- The value of a node in which `depth` further collections may be open. -/
def value (d : Document) (depth : Nat) (node : Node Nat) : Decoding Json := do
  match ← d.follow node with
  | .alias _ => throw .unknownAnchor
  | .scalar p style text => scalarValue p.tag style text
  | .sequence p items =>
    if namesType p.tag then throw .wrongShape
    else
      match depth with
      | 0 => throw .tooDeep
      | depth + 1 => return .array (← items.mapM (d.value depth))
  | .mapping p entries =>
    if namesType p.tag then throw .wrongShape
    else
      match depth with
      | 0 => throw .tooDeep
      | depth + 1 =>
        let members ← entries.mapM fun e => do return (← d.text e.1, ← d.value depth e.2)
        return .object (members.foldl (fun ms m => Members.insert m.1 m.2 ms) [])

/-! ## Records -/

/-- The nodes of a record's fields, by key; of other keys, nothing but that they are texts is
asked.  A document that holds an empty node has no fields. -/
def fields (d : Document) (keys : List String) : Decoding (List (String × Node Nat)) :=
  match d.root with
  | .scalar _ .plain [] => pure []
  | .mapping _ entries =>
    entries.foldlM (fun fields e => do
      let key ← d.text e.1
      if key ∉ keys then pure fields
      else if (fields.lookup key).isSome then throw .repeatedField
      else pure (fields ++ [(key, e.2)])) []
  | _ => throw .wrongShape

/-- The node of a field that may be null. -/
def optional (d : Document) (node : Node Nat) : Decoding (Option (Node Nat)) := do
  match ← d.follow node with
  | .scalar p .plain text =>
    if p.tag.isNone then
      pure (if text.isEmpty || isNullWord text then none else some (.scalar p .plain text))
    else if ScalarTag.null.is p.tag then
      if isNullWord text then pure none else throw .wrongShape
    else pure (some (.scalar p .plain text))
  | node => pure (some node)

/-- The text of a field that is a number or a truth value: it is written plain, or as a literal
block with the tag of its type. -/
def typed (d : Document) (tag : ScalarTag) (node : Node Nat) : Decoding (List Char) := do
  match ← d.follow node with
  | .scalar p style text =>
    if style = .plain || (style = .literal && tag.is p.tag) then pure text else throw .wrongShape
  | _ => throw .wrongShape

/-- A truth value. -/
def bool (d : Document) (node : Node Nat) : Decoding Bool := do
  match truthValue? (← d.typed .bool node) with
  | some b => pure b
  | none => throw .wrongShape

/-- A natural number of 32 bits, which has no minus sign. -/
def nat32 (d : Document) (node : Node Nat) : Decoding Nat := do
  match integer? (← d.typed .int node) with
  | some (false, n) => if n < twoPow 32 then pure n else throw .wrongShape
  | _ => throw .wrongShape

/-- A year. -/
def year (d : Document) (node : Node Nat) : Decoding Int := do
  match (integer? (← d.typed .int node)).bind fun i => year? i.1 i.2 with
  | some y => pure y
  | none => throw .wrongShape

/-- Reads a field, if there is one. -/
def field {α : Type} (fields : List (String × Node Nat)) (key : String) (default : α)
    (read : Node Nat → Decoding α) : Decoding α :=
  match fields.lookup key with
  | some node => read node
  | none => pure default

end Document

end Bulletin.Yaml
