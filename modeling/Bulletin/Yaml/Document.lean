import Bulletin.Yaml.Node

/-!
# YAML documents

A text holds at most one document here: directives, a node, and marks around them.  A text without
a document is one too, with no node.

The anchor of a node is numbered by how many names are known when the node begins, and an alias
stands for the last node of its number.  So an anchor may be given again, also behind the alias;
and a name that is given again has its number in common with the next new name.
-/

namespace Bulletin.Yaml

/-! ## Directives -/

/-- What the handles stand for that no directive speaks of. -/
def standardHandles : Handles :=
  [(['!'], Text.utf8Bytes ['!']), (['!', '!'], Text.utf8Bytes "tag:yaml.org,2002:".toList)]

/-- Reads the directives of a document: its version, if it is the first one, and what handles stand
for. -/
def readDirectives (versioned : Bool) (handles : Handles) :
    List Token → Except YamlError (Handles × List Token)
  | .version major minor :: rest =>
    if versioned || major ≠ 1 || (minor ≠ 1 && minor ≠ 2) then .error .badDirective
    else readDirectives true handles rest
  | .handle name meaning :: rest =>
    if (handles.lookup name).isSome then .error .badDirective
    else readDirectives versioned (handles ++ [(name, meaning)]) rest
  | rest => .ok (handles, rest)

/-- The tokens that start or end a document. -/
def Token.boundsDocument : Token → Bool
  | .version .. | .handle .. | .documentStart | .documentEnd | .streamEnd => true
  | _ => false

/-- The tokens behind the marks that end a document. -/
def skipDocumentEnds : List Token → List Token
  | .documentEnd :: rest => skipDocumentEnds rest
  | rest => rest

/-- Reads the root of the only document, if there is one. -/
def readRoot (ts : List Token) : Except YamlError (Option WrittenNode) :=
  if ts = [.streamEnd] then .ok none
  else do
    let (handles, ts') ← readDirectives false [] ts
    let (root, rest) ←
      match ts' with
      | .documentStart :: rest =>
        if rest.head?.any Token.boundsDocument then .ok (.absent, rest)
        else do
          let (root, r) ← readNode (handles ++ standardHandles) .item rest
          .ok (root, r.1)
      | _ =>
        if ts'.length = ts.length then do
          let (root, r) ← readNode standardHandles .item ts
          .ok (root, r.1)
        else .error .badDirective
    if skipDocumentEnds rest = [.streamEnd] then .ok (some root) else .error .severalDocuments

/-! ## Anchors -/

/-- The numbers of the anchors that are known by name. -/
abbrev AnchorNames := List (List Char × Nat)

/-- Numbers an anchor. -/
def AnchorNames.define (names : AnchorNames) : Option (List Char) → Option Nat × AnchorNames
  | none => (none, names)
  | some a => (some names.length, (a, names.length) :: names.filter fun n => n.1 ≠ a)

mutual

/-- Numbers the anchors of a node, in the order of the text. -/
def WrittenNode.number (names : AnchorNames) :
    WrittenNode → Except YamlError (Node Nat × AnchorNames)
  | .alias a =>
    match names.lookup a with
    | some n => .ok (.alias n, names)
    | none => .error .unknownAnchor
  | .scalar p style text =>
    let (anchor, names) := names.define p.anchor
    .ok (.scalar ⟨anchor, p.tag⟩ style text, names)
  | .sequence p items => do
    let (anchor, names) := names.define p.anchor
    let (items, names) ← numberItems names items
    .ok (.sequence ⟨anchor, p.tag⟩ items, names)
  | .mapping p entries => do
    let (anchor, names) := names.define p.anchor
    let (entries, names) ← numberEntries names entries
    .ok (.mapping ⟨anchor, p.tag⟩ entries, names)

/-- Numbers the anchors of several nodes. -/
def numberItems (names : AnchorNames) :
    List WrittenNode → Except YamlError (List (Node Nat) × AnchorNames)
  | [] => .ok ([], names)
  | node :: rest => do
    let (node, names) ← WrittenNode.number names node
    let (nodes, names) ← numberItems names rest
    .ok (node :: nodes, names)

/-- Numbers the anchors of the entries of a mapping. -/
def numberEntries (names : AnchorNames) :
    List (WrittenNode × WrittenNode) → Except YamlError (List (Node Nat × Node Nat) × AnchorNames)
  | [] => .ok ([], names)
  | (key, value) :: rest => do
    let (key, names) ← WrittenNode.number names key
    let (value, names) ← WrittenNode.number names value
    let (entries, names) ← numberEntries names rest
    .ok ((key, value) :: entries, names)

end

/-- A node behind its number, if it has one. -/
def Properties.numbered (p : Properties Nat) (node : Node Nat) : List (Nat × Node Nat) :=
  match p.anchor with
  | some n => [(n, node)]
  | none => []

mutual

/-- The nodes that have an anchor, in the order of the text. -/
def Node.anchored : Node Nat → List (Nat × Node Nat)
  | .alias _ => []
  | .scalar p style text => p.numbered (.scalar p style text)
  | .sequence p items => p.numbered (.sequence p items) ++ anchoredItems items
  | .mapping p entries => p.numbered (.mapping p entries) ++ anchoredEntries entries

/-- The nodes among several that have an anchor. -/
def anchoredItems : List (Node Nat) → List (Nat × Node Nat)
  | [] => []
  | node :: rest => Node.anchored node ++ anchoredItems rest

/-- The nodes of entries that have an anchor. -/
def anchoredEntries : List (Node Nat × Node Nat) → List (Nat × Node Nat)
  | [] => []
  | (key, value) :: rest => Node.anchored key ++ Node.anchored value ++ anchoredEntries rest

end

mutual

/-- The size of a node: one for a scalar or an alias, and two for a pair of brackets. -/
def Node.size : Node Nat → Nat
  | .alias _ => 1
  | .scalar .. => 1
  | .sequence _ items => 2 + sizeOfItems items
  | .mapping _ entries => 2 + sizeOfEntries entries

/-- The size of several nodes. -/
def sizeOfItems : List (Node Nat) → Nat
  | [] => 0
  | node :: rest => Node.size node + sizeOfItems rest

/-- The size of the entries of a mapping. -/
def sizeOfEntries : List (Node Nat × Node Nat) → Nat
  | [] => 0
  | (key, value) :: rest => Node.size key + Node.size value + sizeOfEntries rest

end

/-- A document: its root, and the nodes that aliases may stand for, the last of them first. -/
structure Document where
  root : Node Nat
  anchored : List (Nat × Node Nat)

/-- Reads the only document of a text, if it has one. -/
def Document.read (text : String) : Except YamlError (Option Document) := do
  match ← readRoot (← Token.ofChars text.toList) with
  | none => .ok none
  | some root =>
    let (root, _) ← WrittenNode.number [] root
    .ok (some ⟨root, root.anchored.reverse⟩)

end Bulletin.Yaml
