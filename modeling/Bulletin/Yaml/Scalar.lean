import Bulletin.Text.Digit
import Bulletin.Yaml.Cursor

/-!
# Scalars of YAML text

A scalar is written plain, between quotes of two kinds, or as a block of lines.  In the first three
forms the text is made of words, and what stands between two words is a `Gap`: within a line its
spacing is kept; across lines one break is folded to a space, and of several all but the first are
kept.  A block keeps its lines, folded or not, and its header says how it ends.
-/

namespace Bulletin.Yaml

/-- How a scalar is written. -/
inductive ScalarStyle where
  | plain
  | singleQuoted
  | doubleQuoted
  | literal
  | folded
deriving DecidableEq

/-! ## Gaps -/

/-- What stands between two words. -/
structure Gap where
  /-- The spacing before any line break. -/
  spaces : List Char := []
  /-- Whether a line ends in the gap. -/
  broken : Bool := false
  /-- The first line break, unless it was escaped. -/
  first : List Char := []
  /-- The further line breaks. -/
  further : List Char := []

namespace Gap

/-- What a gap leaves in the text. -/
def text (g : Gap) : List Char :=
  if !g.broken then g.spaces
  else if g.first = ['\n'] then (if g.further.isEmpty then [' '] else g.further)
  else g.first ++ g.further

/-- The gap with one more line break. -/
def addBreak (g : Gap) (b : List Char) : Gap :=
  if g.broken then { g with further := g.further ++ b }
  else { spaces := [], broken := true, first := b }

/-- The gap with one more space or tab, which counts only before a line break. -/
def addSpace (g : Gap) (c : Char) : Gap :=
  if g.broken then g else { g with spaces := g.spaces ++ [c] }

end Gap

/-- Reads spacing and line breaks.  A tab behind a line break must not stand before `tabsFrom`. -/
def readGap (tabsFrom : Int) (g : Gap) (c : Cursor) : Except YamlError (Gap × Cursor) :=
  match _h : c.rest with
  | [] => .ok (g, c)
  | d :: _ =>
    if isSpacing d then
      if d = '\t' && g.broken && (c.column : Int) < tabsFrom then .error .badIndentation
      else readGap tabsFrom (g.addSpace d) (c.skip 1)
    else if isBreak d then
      let (b, c') := c.takeBreak
      if _hlt : c'.rest.length < c.rest.length then readGap tabsFrom (g.addBreak b) c'
      else .ok (g, c)
    else .ok (g, c)
termination_by c.rest.length
decreasing_by
  · simp [Cursor.skip, _h]
  · exact _hlt

/-! ## Plain scalars -/

/-- Does a character end a plain scalar inside brackets or braces? -/
def isFlowMark (c : Char) : Bool :=
  c = ',' || c = '[' || c = ']' || c = '\x7b' || c = '\x7d'

/-- The leading word of a plain scalar. -/
def plainWord (flow : Bool) : List Char → Except YamlError (List Char)
  | [] => .ok []
  | c :: rest =>
    if isSpacing c || isBreak c then .ok []
    else if flow && c = ':' && (rest.head?.any fun d => isFlowMark d || d = '?') then
      .error .unexpectedCharacter
    else if (c = ':' && atBlank rest) || (flow && isFlowMark c) then .ok []
    else (plainWord flow rest).map (c :: ·)

/-- Reads a plain scalar from one of its words on: `text` is what has been read, `gap` stands behind
it, and outside of brackets the further lines start at the column `indent` at least.  The flag
returned says whether the scalar ends behind a line break. -/
def readPlain (flow : Bool) (indent : Int) (text : List Char) (gap : Gap) (c : Cursor) :
    Except YamlError (List Char × Bool × Cursor) := do
  if c.atDocumentMark || c.rest.head? = some '#' then .ok (text, gap.broken, c)
  else
    let word ← plainWord flow c.rest
    let text := if word.isEmpty then text else text ++ gap.text ++ word
    let gap : Gap := if word.isEmpty then gap else {}
    let c₁ := c.skip word.length
    -- A word that does not end at a blank is the last one.
    if !atBlank c₁.rest || c₁.rest.isEmpty then .ok (text, gap.broken, c₁)
    else
      let (gap, c₂) ← readGap indent gap c₁
      if !flow && (c₂.column : Int) < indent then .ok (text, gap.broken, c₂)
      else if c₂.rest.length < c.rest.length then readPlain flow indent text gap c₂
      else .ok (text, gap.broken, c₂)
termination_by c.rest.length

/-! ## Quoted scalars -/

/-- Why a stretch of a quoted scalar ends. -/
inductive StretchEnd where
  | quote
  /-- A line break behind a backslash. -/
  | escapedBreak
  /-- Spacing, a line break, or the end of the text. -/
  | blank

/-- A stretch of a quoted scalar: what it says, why it ends, and how many characters it is. -/
structure Stretch where
  word : List Char
  stop : StretchEnd
  length : Nat

/-- The stretch behind a character that is written with `n` characters. -/
def Stretch.behind (s : Stretch) (c : Char) (n : Nat) : Stretch :=
  { s with word := c :: s.word, length := n + s.length }

/-- The leading stretch of a single-quoted scalar. -/
def singleStretch : List Char → Stretch
  | [] => ⟨[], .blank, 0⟩
  | '\'' :: '\'' :: rest => (singleStretch rest).behind '\'' 2
  | '\'' :: _ => ⟨[], .quote, 0⟩
  | c :: rest =>
    if isSpacing c || isBreak c then ⟨[], .blank, 0⟩ else (singleStretch rest).behind c 1

/-- The character an escape of one letter stands for. -/
def letterEscape? : Char → Option Char
  | '0' => some '\x00'
  | 'a' => some '\x07'
  | 'b' => some '\x08'
  | 't' => some '\t'
  | '\t' => some '\t'
  | 'n' => some '\n'
  | 'v' => some '\x0b'
  | 'f' => some '\x0c'
  | 'r' => some '\r'
  | 'e' => some '\x1b'
  | ' ' => some ' '
  | '"' => some '"'
  | '/' => some '/'
  | '\\' => some '\\'
  | 'N' => some '\x85'
  | '_' => some '\xa0'
  | 'L' => some '\u2028'
  | 'P' => some '\u2029'
  | _ => none

/-- How many hexadecimal digits an escape takes. -/
def escapeLength? : Char → Option Nat
  | 'x' => some 2
  | 'u' => some 4
  | 'U' => some 8
  | _ => none

/-- The value of hexadecimal digits. -/
def hexValue? (cs : List Char) : Option Nat :=
  cs.foldl (fun v c => do some (16 * (← v) + (← Text.hexValue? c))) (some 0)

/-- The character of an escape by code point. -/
def codeEscape? (digits : List Char) (count : Nat) : Option Char := do
  let n ← if digits.length = count then hexValue? digits else none
  if n.isValidChar then some (Char.ofNat n) else none

/-- The leading stretch of a double-quoted scalar. -/
def doubleStretch (cs : List Char) : Except YamlError Stretch :=
  match cs with
  | [] => .ok ⟨[], .blank, 0⟩
  | '"' :: _ => .ok ⟨[], .quote, 0⟩
  | '\\' :: [] => .error .invalidEscape
  | '\\' :: d :: rest =>
    if isBreak d then .ok ⟨[], .escapedBreak, 1⟩
    else
      match letterEscape? d, escapeLength? d with
      | some e, _ => do .ok ((← doubleStretch rest).behind e 2)
      | none, some n =>
        match codeEscape? (rest.take n) n with
        | some e => do .ok ((← doubleStretch (rest.drop n)).behind e (2 + n))
        | none => .error .invalidEscape
      | none, none => .error .invalidEscape
  | c :: rest =>
    if isSpacing c || isBreak c then .ok ⟨[], .blank, 0⟩
    else do .ok ((← doubleStretch rest).behind c 1)
termination_by cs.length
decreasing_by
  all_goals simp only [List.length_cons, List.length_drop]
  all_goals omega

/-- Reads a quoted scalar from behind its opening quote on, after some text. -/
def readQuoted (double : Bool) (text : List Char) (c : Cursor) :
    Except YamlError (List Char × Cursor) := do
  if c.atDocumentMark || c.rest.isEmpty then .error .unfinishedScalar
  else
    let s ← if double then doubleStretch c.rest else .ok (singleStretch c.rest)
    let c₁ := c.skip s.length
    match s.stop with
    | .quote => .ok (text ++ s.word, c₁.skip 1)
    | stop =>
      -- An escaped break leaves nothing of itself, but the breaks behind it are kept.
      let (gap, c₂) ← match stop with
        | .escapedBreak => readGap 0 { broken := true } c₁.skipBreak
        | _ => readGap 0 {} c₁
      if c₂.rest.length < c.rest.length then readQuoted double (text ++ s.word ++ gap.text) c₂
      else .error .unfinishedScalar
termination_by c.rest.length

/-! ## Block scalars -/

/-- What becomes of the line breaks at the end of a block. -/
inductive Chomping where
  /-- None is kept. -/
  | strip
  /-- The last line's own is kept. -/
  | clip
  /-- All are kept. -/
  | keep
deriving DecidableEq

/-- A chomping indicator. -/
def chomping? : Char → Option Chomping
  | '-' => some .strip
  | '+' => some .keep
  | _ => none

/-- An indentation indicator, which is not zero. -/
def takeIndentation (c : Cursor) : Except YamlError (Nat × Cursor) :=
  match c.rest with
  | d :: _ =>
    if d = '0' then .error .badIndentation
    else if d.isDigit then .ok (Text.digitValue d, c.skip 1)
    else .ok (0, c)
  | [] => .ok (0, c)

/-- A chomping indicator, clip where none is written. -/
def takeChomping (c : Cursor) : Chomping × Cursor :=
  match c.rest.head?.bind chomping? with
  | some k => (k, c.skip 1)
  | none => (.clip, c)

/-- The two indicators of a block's header, in either order; zero stands for no indentation. -/
def readHeader (c : Cursor) : Except YamlError (Chomping × Nat × Cursor) :=
  match c.rest.head?.bind chomping? with
  | some k => do
    let (n, c) ← takeIndentation (c.skip 1)
    .ok (k, n, c)
  | none => do
    let (n, c) ← takeIndentation c
    if n = 0 then .ok (.clip, 0, c)
    else
      let (k, c) := takeChomping c
      .ok (k, n, c)

/-- Reads the empty lines before a line of a block, and the indentation of that line.  An indentation
of zero is not known yet; the widest of the lines is returned. -/
def readEmptyLines (indent : Nat) (widest : Nat) (breaks : List Char) (c : Cursor) :
    Except YamlError (Nat × List Char × Cursor) :=
  -- Spaces beyond a known indentation belong to the text of the line.
  let room := indent - c.column
  let spaces := c.rest.takeWhile (· = ' ')
  let c₁ := c.skip (if indent = 0 then spaces.length else min room spaces.length)
  let widest := max widest c₁.column
  if (indent = 0 || c₁.column < indent) && c₁.rest.head? = some '\t' then .error .badIndentation
  else
    let (b, c₂) := c₁.takeBreak
    if b.isEmpty then .ok (widest, breaks, c₁)
    else if c₂.rest.length < c.rest.length then readEmptyLines indent widest (breaks ++ b) c₂
    else .ok (widest, breaks, c₁)
termination_by c.rest.length

/-- The lines of a block that have been read. -/
structure BlockText where
  text : List Char := []
  /-- The break behind the last line. -/
  last : List Char := []
  /-- The breaks of the empty lines behind it. -/
  empty : List Char := []
  /-- Whether the last line starts with spacing. -/
  indented : Bool := false

/-- What stands between the last line of a block and the next one. -/
def BlockText.joint (b : BlockText) (literal : Bool) (nextIndented : Bool) : List Char :=
  if !literal && b.last = ['\n'] && !b.indented && !nextIndented then
    if b.empty.isEmpty then [' '] else b.empty
  else b.last ++ b.empty

/-- Reads the lines of a block with a known indentation. -/
def readLines (literal : Bool) (indent : Nat) (b : BlockText) (c : Cursor) :
    Except YamlError (BlockText × Cursor) := do
  if c.column ≠ indent || c.rest.isEmpty then .ok (b, c)
  else
    let indented := c.rest.head?.any isSpacing
    let (line, c₁) := c.takeWhile fun d => !isBreak d
    let (last, c₂) := c₁.takeBreak
    let (_, empty, c₃) ← readEmptyLines indent 0 [] c₂
    let b := ⟨b.text ++ b.joint literal indented ++ line, last, empty, indented⟩
    if c₃.rest.length < c.rest.length then readLines literal indent b c₃ else .ok (b, c₃)
termination_by c.rest.length

/-- Reads a block scalar from behind its indicator on, in a node with the given indentation. -/
def readBlock (literal : Bool) (parent : Int) (c : Cursor) :
    Except YamlError (List Char × Cursor) := do
  let (chomping, increment, c) ← readHeader c
  let c ← c.skipRestOfLine
  -- Without an indicator, the first line that is not empty tells the indentation.
  let stated := if increment = 0 then 0 else (max parent 0).toNat + increment
  let (widest, empty, c) ← readEmptyLines stated 0 [] c
  let indent := if increment = 0 then max (max widest (parent + 1).toNat) 1 else stated
  let (b, c) ← readLines literal indent { empty := empty } c
  .ok (match chomping with
    | .strip => b.text
    | .clip => b.text ++ b.last
    | .keep => b.text ++ b.last ++ b.empty, c)

end Bulletin.Yaml
