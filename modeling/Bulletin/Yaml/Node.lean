import Bulletin.Text.Rest
import Bulletin.Yaml.Lexer

/-!
# Nodes of a YAML document

A node is a scalar, a sequence, a mapping, or an alias of another node.  Nodes are read from tokens
by descent; each reader returns the tokens it leaves.  Where a key, a value or an item is left out,
an empty plain scalar stands for it.

`Node` takes the type of anchors as a parameter: first they are names, and once it is known which
node each name means, they are numbers.
-/

namespace Bulletin.Yaml

/-- The anchor and the tag in front of a node. -/
structure Properties (α : Type) where
  anchor : Option α
  tag : Option (List UInt8)

/-- A node of a document, with anchors of some type. -/
inductive Node (α : Type) where
  | alias (anchor : α)
  | scalar (properties : Properties α) (style : ScalarStyle) (text : List Char)
  | sequence (properties : Properties α) (items : List (Node α))
  | mapping (properties : Properties α) (entries : List (Node α × Node α))

/-- A node as it is written, with its anchors by name. -/
abbrev WrittenNode := Node (List Char)

namespace WrittenNode

/-- The node that stands where none is written. -/
def empty (p : Properties (List Char)) : WrittenNode := .scalar p .plain []

/-- The node that stands where not even an anchor is written. -/
def absent : WrittenNode := empty ⟨none, none⟩

end WrittenNode

/-- What the handles of tags stand for. -/
abbrev Handles := List (List Char × List UInt8)

/-- A tag in full. -/
def TagText.expand (handles : Handles) (t : TagText) : Except YamlError (List UInt8) :=
  if t.handle.isEmpty then .ok t.suffix
  else
    match handles.lookup t.handle with
    | some meaning => .ok (meaning ++ t.suffix)
    | none => .error .badProperty

/-- Reads an anchor and a tag, in either order. -/
def readProperties (handles : Handles) (ts : List Token) :
    Except YamlError (Properties (List Char) × Left ts) :=
  match ts with
  | .anchor a :: .tag t :: rest => do
    .ok (⟨some a, some (← t.expand handles)⟩, ⟨rest, by simp only [List.length_cons]; omega⟩)
  | .tag t :: .anchor a :: rest => do
    .ok (⟨some a, some (← t.expand handles)⟩, ⟨rest, by simp only [List.length_cons]; omega⟩)
  | .anchor a :: rest => .ok (⟨some a, none⟩, ⟨rest, by simp⟩)
  | .tag t :: rest => do .ok (⟨none, some (← t.expand handles)⟩, ⟨rest, by simp⟩)
  | rest => .ok (⟨none, none⟩, ⟨rest, Nat.le_refl _⟩)

/-- Where a node stands, which says in what forms it may be written. -/
inductive Place where
  /-- An item of a block sequence, or the root. -/
  | item
  /-- A key or a value of a block mapping, where a sequence need not be indented further. -/
  | field
  /-- Inside of flow brackets, where blocks may not stand. -/
  | flow
deriving DecidableEq

/-- Reads a node from tokens, and returns those that are left. -/
abbrev NodeReading (α : Type) (ts : List Token) := Except YamlError (α × Rest ts)

mutual

/-- Reads a node. -/
def readNode (handles : Handles) (place : Place) (ts : List Token) : NodeReading WrittenNode ts :=
  match ts with
  | .alias a :: _ => .ok (.alias a, .tail)
  | ts => do
    let (p, r) ← readProperties handles ts
    match h : r.1 with
    | [] => .error .unexpectedToken
    | t :: rest =>
      let behind : Rest ts := ⟨rest, r.length_tail_lt h⟩
      match t, place with
      | .scalar style text, _ => .ok (.scalar p style text, behind)
      | .flowSequenceStart, _ =>
        let (items, r') ← readFlowItems handles behind.1
        .ok (.sequence p items, behind.trans r')
      | .flowMappingStart, _ =>
        let (entries, r') ← readFlowEntries handles behind.1
        .ok (.mapping p entries, behind.trans r')
      | .blockEntry, .field =>
        let (items, r') ← readDashes handles behind.1
        .ok (.sequence p items, behind.transLeft r')
      | .blockSequenceStart, .item | .blockSequenceStart, .field =>
        let (items, r') ← readBlockItems handles behind.1
        .ok (.sequence p items, behind.trans r')
      | .blockMappingStart, .item | .blockMappingStart, .field =>
        let (entries, r') ← readBlockEntries handles behind.1
        .ok (.mapping p entries, behind.trans r')
      | _, _ =>
        -- Nothing stands here, but with a property even nothing is a node.
        if h' : r.1.length < ts.length then .ok (.empty p, ⟨r.1, h'⟩)
        else .error .unexpectedToken
termination_by (ts.length, 0)
decreasing_by
  all_goals exact Prod.Lex.left _ _ behind.2

/-- Reads a node, unless one of the given tokens stands there, before which none is written. -/
def readNodeUnless (handles : Handles) (place : Place) (before : List Token) (ts : List Token) :
    Except YamlError (WrittenNode × Left ts) := do
  if (ts.head?.any fun t => t ∈ before) then .ok (.absent, .all)
  else
    let (node, r) ← readNode handles place ts
    .ok (node, r.toLeft)
termination_by (ts.length, 1)

/-- Reads the value of an entry, if a colon stands before one. -/
def readValueUnless (handles : Handles) (place : Place) (before : List Token) (ts : List Token) :
    Except YamlError (WrittenNode × Left ts) :=
  match ts with
  | .value :: rest => do
    let (node, r) ← readNodeUnless handles place before rest
    .ok (node, r.behind.toLeft)
  | _ => .ok (.absent, .all)
termination_by (ts.length, 0)

/-- Reads the items of a sequence that is indented no further than its mapping, from behind the
first dash on. -/
def readDashes (handles : Handles) (ts : List Token) :
    Except YamlError (List WrittenNode × Left ts) := do
  let (item, r) ← readNodeUnless handles .item [.blockEntry, .key, .value, .blockEnd] ts
  match h : r.1 with
  | .blockEntry :: rest =>
    let behind : Rest ts := ⟨rest, r.length_tail_lt h⟩
    let (items, r') ← readDashes handles behind.1
    .ok (item :: items, (behind.transLeft r').toLeft)
  | _ => .ok ([item], r)
termination_by (ts.length, 2)
decreasing_by
  · exact Prod.Lex.right _ (by decide)
  · exact Prod.Lex.left _ _ behind.2

/-- Reads the items of a block sequence up to its end. -/
def readBlockItems (handles : Handles) (ts : List Token) : NodeReading (List WrittenNode) ts :=
  match ts with
  | .blockEnd :: _ => .ok ([], .tail)
  | .blockEntry :: rest => do
    let (item, r) ← readNodeUnless handles .item [.blockEntry, .blockEnd] rest
    let (items, r') ← readBlockItems handles r.behind.1
    .ok (item :: items, r.behind.trans r')
  | _ => .error .unexpectedToken
termination_by (ts.length, 0)
decreasing_by
  · exact Prod.Lex.left _ _ (Nat.lt_succ_self _)
  · exact Prod.Lex.left _ _ r.behind.2

/-- Reads the entries of a block mapping up to its end. -/
def readBlockEntries (handles : Handles) (ts : List Token) :
    NodeReading (List (WrittenNode × WrittenNode)) ts :=
  match ts with
  | .blockEnd :: _ => .ok ([], .tail)
  | .key :: rest => do
    let (key, r) ← readNodeUnless handles .field [.key, .value, .blockEnd] rest
    let (value, r₁) ← readValueUnless handles .field [.key, .value, .blockEnd] r.behind.1
    let behind := r.behind.transLeft r₁
    let (entries, r₂) ← readBlockEntries handles behind.1
    .ok ((key, value) :: entries, behind.trans r₂)
  | _ => .error .unexpectedToken
termination_by (ts.length, 0)
decreasing_by
  · exact Prod.Lex.left _ _ (Nat.lt_succ_self _)
  · exact Prod.Lex.left _ _ r.behind.2
  · exact Prod.Lex.left _ _ behind.2

/-- Reads an entry that stands by itself in a flow sequence, from behind its question mark on, or
from where that is left out.  A question mark with nothing behind it takes the next token for its
key. -/
def readPair (handles : Handles) (ts : List Token) : NodeReading (WrittenNode × WrittenNode) ts :=
  match ts with
  | [] => .error .unexpectedToken
  | t :: rest => do
    let (key, r) ←
      (if t = .value || t = .flowEntry || t = .flowSequenceEnd then .ok (.absent, .tail)
      else readNode handles .flow (t :: rest) : NodeReading WrittenNode (t :: rest))
    let (value, r') ← readValueUnless handles .flow [.flowEntry, .flowSequenceEnd] r.1
    .ok ((key, value), r.transLeft r')
termination_by (ts.length, 1)
decreasing_by
  · exact Prod.Lex.right _ (by decide)
  · exact Prod.Lex.left _ _ r.2

/-- Reads an item of a flow sequence. -/
def readFlowItem (handles : Handles) (ts : List Token) : NodeReading WrittenNode ts :=
  match ts with
  | .key :: rest => do
    let (pair, r) ← readPair handles rest
    .ok (.mapping ⟨none, none⟩ [pair], r.toLeft.behind)
  | ts => readNode handles .flow ts
termination_by (ts.length, 2)

/-- Reads the items of a flow sequence up to its end. -/
def readFlowItems (handles : Handles) (ts : List Token) : NodeReading (List WrittenNode) ts :=
  match ts with
  | .flowSequenceEnd :: _ => .ok ([], .tail)
  | ts => do
    let (item, r) ← readFlowItem handles ts
    match h : r.1 with
    | .flowEntry :: rest =>
      let behind : Rest ts := ⟨rest, r.length_tail_lt h⟩
      let (items, r') ← readFlowItems handles behind.1
      .ok (item :: items, behind.trans r')
    | .flowSequenceEnd :: rest => .ok ([item], ⟨rest, r.length_tail_lt h⟩)
    | _ => .error .unexpectedToken
termination_by (ts.length, 3)
decreasing_by
  · exact Prod.Lex.right _ (by decide)
  · exact Prod.Lex.left _ _ behind.2

/-- Reads an entry of a flow mapping. -/
def readFlowEntry (handles : Handles) (ts : List Token) :
    NodeReading (WrittenNode × WrittenNode) ts :=
  match ts with
  | .key :: rest => do
    let (key, r) ← readNodeUnless handles .flow [.value, .flowEntry, .flowMappingEnd] rest
    let (value, r') ← readValueUnless handles .flow [.flowEntry, .flowMappingEnd] r.behind.1
    .ok ((key, value), r.behind.transLeft r')
  | ts => do
    let (key, r) ← readNode handles .flow ts
    .ok ((key, .absent), r)
termination_by (ts.length, 2)
decreasing_by
  · exact Prod.Lex.left _ _ (Nat.lt_succ_self _)
  · exact Prod.Lex.left _ _ r.behind.2
  · exact Prod.Lex.right _ (by decide)

/-- Reads the entries of a flow mapping up to its end. -/
def readFlowEntries (handles : Handles) (ts : List Token) :
    NodeReading (List (WrittenNode × WrittenNode)) ts :=
  match ts with
  | .flowMappingEnd :: _ => .ok ([], .tail)
  | ts => do
    let (entry, r) ← readFlowEntry handles ts
    match h : r.1 with
    | .flowEntry :: rest =>
      let behind : Rest ts := ⟨rest, r.length_tail_lt h⟩
      let (entries, r') ← readFlowEntries handles behind.1
      .ok (entry :: entries, behind.trans r')
    | .flowMappingEnd :: rest => .ok ([entry], ⟨rest, r.length_tail_lt h⟩)
    | _ => .error .unexpectedToken
termination_by (ts.length, 3)
decreasing_by
  · exact Prod.Lex.right _ (by decide)
  · exact Prod.Lex.left _ _ behind.2

end

end Bulletin.Yaml
