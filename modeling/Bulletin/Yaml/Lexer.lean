import Bulletin.Yaml.Token

/-!
# From text to tokens

Indentation is read as brackets: a key or an item further to the right than the node around it opens
a block, and a line further to the left closes those it leaves.  Whether a scalar is a key is known
only at the colon behind it, so the lexer remembers, for each level of flow brackets, where a key
may have begun, and puts the tokens of the key in there once the colon is found.  Such a key must
lie on one line and within 1024 bytes.
-/

namespace Bulletin.Yaml

/-- Where a key may have begun. -/
structure PossibleKey where
  /-- A node at the indentation of a mapping can be nothing but a key. -/
  required : Bool
  /-- How many tokens stand before it. -/
  position : Nat
  index : Nat
  line : Nat
  column : Nat

/-- How many bytes behind its beginning the colon of a key may stand. -/
def keyLimit : Nat := 1024

/-- Is it too late for the colon of a key?  It must stand on the line of the key, and near. -/
def PossibleKey.isStale (k : PossibleKey) (c : Cursor) : Bool :=
  k.line < c.line || k.index + keyLimit < c.index

/-- The state of a lexer. -/
structure Lexer where
  cursor : Cursor
  /-- The tokens so far. -/
  tokens : Array Token := #[]
  /-- The column of the innermost block, and of those around it. -/
  indent : Int := -1
  indents : List Int := []
  /-- The key that may have begun, for each level of flow brackets from the innermost one out. -/
  keys : List (Option PossibleKey) := [none]
  /-- May a key begin here? -/
  keyAllowed : Bool := true

namespace Lexer

/-- Is the lexer inside of flow brackets? -/
def inFlow (l : Lexer) : Bool := !(l.keys.drop 1).isEmpty

/-- The lexer with one more token. -/
def emit (l : Lexer) (t : Token) : Lexer := { l with tokens := l.tokens.push t }

/-- The lexer with a token put in behind the first `n`. -/
def insert (l : Lexer) (n : Nat) (t : Token) : Lexer :=
  { l with tokens := l.tokens.insertIdxIfInBounds n t }

/-- Closes the blocks to the right of a column. -/
def unrollTo (column : Int) (tokens : Array Token) (indent : Int) :
    List Int → Array Token × Int × List Int
  | [] => (tokens, indent, [])
  | outer :: indents =>
    if column < indent then unrollTo column (tokens.push .blockEnd) outer indents
    else (tokens, indent, outer :: indents)

/-- Closes the blocks to the right of a column; flow brackets know no blocks. -/
def unroll (l : Lexer) (column : Int) : Lexer :=
  if l.inFlow then l
  else
    let (tokens, indent, indents) := unrollTo column l.tokens l.indent l.indents
    { l with tokens := tokens, indent := indent, indents := indents }

/-- Opens a block at a column to the right of the innermost one, with its token behind the first
`n`. -/
def roll (l : Lexer) (column : Nat) (n : Nat) (t : Token) : Lexer :=
  if l.inFlow || (column : Int) ≤ l.indent then l
  else { l.insert n t with indent := column, indents := l.indent :: l.indents }

/-- Gives up the key that may have begun at this level. -/
def dropKey (l : Lexer) : Except YamlError Lexer :=
  match l.keys with
  | some k :: keys =>
    if k.required then .error .misplacedKey else .ok { l with keys := none :: keys }
  | _ => .ok l

/-- Notes that a key may begin here. -/
def saveKey (l : Lexer) : Except YamlError Lexer := do
  if l.keyAllowed then
    let l ← l.dropKey
    let c := l.cursor
    let required := !l.inFlow && l.indent = (c.column : Int)
    let key := ⟨required, l.tokens.size, c.index, c.line, c.column⟩
    .ok { l with keys := some key :: l.keys.drop 1 }
  else .ok l

/-- Gives up the keys whose colon is missing, if none of them was required. -/
def dropStaleKeys (c : Cursor) (keys : List (Option PossibleKey)) :
    Except YamlError (List (Option PossibleKey)) :=
  let stale := keys.filterMap fun k => k.filter (·.isStale c)
  if stale.isEmpty then .ok keys
  else if stale.any PossibleKey.required then .error .misplacedKey
  else .ok (keys.map fun k => k.filter fun k => !k.isStale c)

/-- Goes on by some characters and emits a token. -/
def take (l : Lexer) (n : Nat) (t : Token) : Lexer :=
  { l.emit t with cursor := l.cursor.skip n }

/-- The lexer that allows a key here, or does not. -/
def allowKey (l : Lexer) (allowed : Bool) : Lexer := { l with keyAllowed := allowed }

/-- Goes on to the next token: over spacing, comments and line breaks.  A byte order mark may start
a line, and a line break outside of flow brackets allows a key. -/
def toToken (flow : Bool) (allowed : Bool) (c : Cursor) : Bool × Cursor :=
  let c₀ := if c.column = 0 && c.rest.head? = some '\ufeff' then c.skip 1 else c
  let c₁ := c₀.skipWhile fun d => d = ' ' || ((flow || !allowed) && d = '\t')
  let c₂ := if c₁.rest.head? = some '#' then c₁.toBreak else c₁
  let c₃ := c₂.skipBreak
  if _h : c₂.rest.head?.any isBreak = true ∧ c₃.rest.length < c.rest.length then
    toToken flow (allowed || !flow) c₃
  else (allowed, c₂)
termination_by c.rest.length
decreasing_by exact _h.2

/-- Ends all blocks before a directive, a document mark or the end. -/
def endBlocks (l : Lexer) : Except YamlError Lexer := do
  .ok ((← (l.unroll (-1)).dropKey).allowKey false)

/-- Reads the scalars that may be keys, and other nodes that may. -/
def node (l : Lexer) (read : Lexer → Except YamlError (Token × Cursor)) :
    Except YamlError Lexer := do
  let l ← l.saveKey
  let l := l.allowKey false
  let (t, c) ← read l
  .ok { l.emit t with cursor := c }

/-- Reads an opening flow bracket. -/
def openFlow (l : Lexer) (t : Token) : Except YamlError Lexer := do
  let l ← l.saveKey
  .ok ({ l with keys := none :: l.keys }.allowKey true |>.take 1 t)

/-- Reads a closing flow bracket. -/
def closeFlow (l : Lexer) (t : Token) : Except YamlError Lexer := do
  let l ← l.dropKey
  -- A bracket that closes nothing is found out by the grammar.
  let l := if l.inFlow then { l with keys := l.keys.drop 1 } else l
  .ok ((l.allowKey false).take 1 t)

/-- Reads the dash of an item.  Inside of flow brackets it stands for nothing, which is found out
later. -/
def entry (l : Lexer) : Except YamlError Lexer := do
  if !l.inFlow && !l.keyAllowed then .error .misplacedKey
  else
    let l := l.roll l.cursor.column l.tokens.size .blockSequenceStart
    .ok (((← l.dropKey).allowKey true).take 1 .blockEntry)

/-- Reads the question mark of a key. -/
def explicitKey (l : Lexer) : Except YamlError Lexer := do
  if !l.inFlow && !l.keyAllowed then .error .misplacedKey
  else
    let l := l.roll l.cursor.column l.tokens.size .blockMappingStart
    let l ← l.dropKey
    .ok ((l.allowKey (!l.inFlow)).take 1 .key)

/-- Reads the colon before a value. -/
def colon (l : Lexer) : Except YamlError Lexer :=
  match l.keys with
  | some k :: keys =>
    -- What has been read turns out to be a key, which may open the mapping around it.
    let l := (l.insert k.position .key).roll k.column k.position .blockMappingStart
    .ok (({ l with keys := none :: keys }.allowKey false).take 1 .value)
  | _ =>
    if !l.inFlow && !l.keyAllowed then .error .misplacedKey
    else
      let l := l.roll l.cursor.column l.tokens.size .blockMappingStart
      .ok ((l.allowKey (!l.inFlow)).take 1 .value)

/-- Reads a block scalar. -/
def blockScalar (l : Lexer) (style : ScalarStyle) : Except YamlError Lexer := do
  let l := (← l.dropKey).allowKey true
  let (text, c) ← readBlock (style = .literal) l.indent (l.cursor.skip 1)
  .ok { l.emit (.scalar style text) with cursor := c }

/-- Reads a quoted scalar. -/
def quoted (l : Lexer) (style : ScalarStyle) : Except YamlError Lexer :=
  l.node fun l => do
    let (text, c) ← readQuoted (style = .doubleQuoted) [] (l.cursor.skip 1)
    .ok (.scalar style text, c)

/-- Reads a plain scalar; behind a line break a key may follow it. -/
def plain (l : Lexer) : Except YamlError Lexer := do
  let l ← l.saveKey
  let (text, broken, c) ← readPlain l.inFlow (l.indent + 1) [] {} l.cursor
  .ok { (l.allowKey broken).emit (.scalar .plain text) with cursor := c }

/-- May a plain scalar start with this character, whatever follows it? -/
def startsPlain (c : Char) : Bool :=
  !(isSpacing c || isBreak c || c = '-' || c = '?' || c = ':' || c = ',' || c = '[' || c = ']' ||
    c = '\x7b' || c = '\x7d' || c = '#' || c = '&' || c = '*' || c = '!' || c = '|' || c = '>' ||
    c = '\'' || c = '"' || c = '%' || c = '@' || c = '\x60')

/-- Reads the token at the cursor. -/
def token (l : Lexer) : Except YamlError Lexer :=
  let c := l.cursor
  match c.rest with
  | [] => do .ok ((← l.endBlocks).emit .streamEnd)
  | d :: rest =>
    -- Directives and the marks between documents stand at the beginning of a line only.
    if c.column = 0 && d = '%' then do
      let l ← l.endBlocks
      let (t, c) ← readDirective l.cursor
      .ok { l.emit t with cursor := c }
    else if c.column = 0 && atMark '-' c.rest then do .ok ((← l.endBlocks).take 3 .documentStart)
    else if c.column = 0 && atMark '.' c.rest then do .ok ((← l.endBlocks).take 3 .documentEnd)
    else if d = '[' then l.openFlow .flowSequenceStart
    else if d = '\x7b' then l.openFlow .flowMappingStart
    else if d = ']' then l.closeFlow .flowSequenceEnd
    else if d = '\x7d' then l.closeFlow .flowMappingEnd
    else if d = ',' then do .ok (((← l.dropKey).allowKey true).take 1 .flowEntry)
    else if d = '-' && atBlank rest then l.entry
    else if d = '?' && (l.inFlow || atBlank rest) then l.explicitKey
    else if d = ':' && (l.inFlow || atBlank rest) then l.colon
    else if d = '*' then l.node fun l => do
      let (name, c) ← readName (l.cursor.skip 1)
      .ok (.alias name, c)
    else if d = '&' then l.node fun l => do
      let (name, c) ← readName (l.cursor.skip 1)
      .ok (.anchor name, c)
    else if d = '!' then l.node fun l => do
      let (t, c) ← readTag l.inFlow l.cursor
      .ok (.tag t, c)
    else if d = '|' && !l.inFlow then l.blockScalar .literal
    else if d = '>' && !l.inFlow then l.blockScalar .folded
    else if d = '\'' then l.quoted .singleQuoted
    else if d = '"' then l.quoted .doubleQuoted
    else if startsPlain d || (d = '-' && !(rest.head?.any isSpacing)) ||
        (!l.inFlow && (d = '?' || d = ':') && !atBlank rest) then l.plain
    else .error .unexpectedCharacter

/-- Goes to the next token and reads it. -/
def step (l : Lexer) : Except YamlError Lexer := do
  let (allowed, c) := toToken l.inFlow l.keyAllowed l.cursor
  -- A key whose colon is missing is given up before the blocks to the right are closed.
  let keys ← dropStaleKeys c l.keys
  let l := { l with cursor := c, keys := keys, keyAllowed := allowed }
  (l.unroll c.column).token

/-- Reads the tokens of a text of some bytes up to its end.  Every token but the last takes up some
of them. -/
def run (size : Nat) (l : Lexer) : Except YamlError (Array Token) := do
  let l' ← l.step
  if l'.tokens.back? = some .streamEnd then .ok l'.tokens
  else if l.cursor.index < l'.cursor.index ∧ l'.cursor.index ≤ size then run size l'
  else .error .unexpectedCharacter
termination_by size - l.cursor.index

end Lexer

/-- The tokens of a YAML text. -/
def Token.ofChars (cs : List Char) : Except YamlError (List Token) :=
  if cs.all isAllowed then
    (Lexer.run (Text.byteCount cs) { cursor := { rest := cs } }).map Array.toList
  else .error .forbiddenCharacter

end Bulletin.Yaml
