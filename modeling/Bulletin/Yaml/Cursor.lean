import Bulletin.Text.Bytes

/-!
# Reading YAML text

A cursor is a place in a YAML text: what is left to read, the line and column, and the number of
bytes before it.  Columns count characters, and a carriage return with the line feed behind it
is one line break.  Five characters break lines; of these the two separators of Unicode are kept in
scalars as they are, and the others are all read as a line feed.
-/

namespace Bulletin.Yaml

/-- Why a YAML text is refused. -/
inductive YamlError where
  /-- A character that may not occur in YAML text. -/
  | forbiddenCharacter
  /-- Something that cannot start or continue a token. -/
  | unexpectedCharacter
  /-- A quoted scalar without its end, or with a document mark in it. -/
  | unfinishedScalar
  /-- An escape that stands for nothing. -/
  | invalidEscape
  /-- A tab, or an indentation indicator, that breaks the indentation. -/
  | badIndentation
  /-- A directive that is no directive, is repeated, or asks for another version. -/
  | badDirective
  /-- A tag or an anchor that is misspelt, or whose handle is unknown. -/
  | badProperty
  /-- A key without its colon, or a key or an item where none may stand. -/
  | misplacedKey
  /-- A token that does not continue the node it stands in. -/
  | unexpectedToken
  | unknownAnchor
  | severalDocuments
  /-- A node of another shape than the field it is read for. -/
  | wrongShape
  | repeatedField
  | tooDeep
  /-- Aliases that stand for too much. -/
  | tooManyAliases
deriving DecidableEq

/-- A character that YAML text may hold. -/
def isAllowed (c : Char) : Bool :=
  let n := c.toNat
  n = 0x09 || n = 0x0A || n = 0x0D || (0x20 ≤ n && n ≤ 0x7E) || n = 0x85 ||
    (0xA0 ≤ n && n ≤ 0xD7FF) || (0xE000 ≤ n && n ≤ 0xFFFD) || 0x10000 ≤ n

/-- A character that breaks a line. -/
def isBreak (c : Char) : Bool :=
  c = '\r' || c = '\n' || c = '\x85' || c = '\u2028' || c = '\u2029'

/-- A space or a tab. -/
def isSpacing (c : Char) : Bool := c = ' ' || c = '\t'

/-- A character of names: anchors, handles and directives. -/
def isNameChar (c : Char) : Bool := c.isAlphanum || c = '_' || c = '-'

/-- Is the text at its end, or at spacing or a line break? -/
def atBlank : List Char → Bool
  | [] => true
  | c :: _ => isSpacing c || isBreak c

/-- Is the text at its end, or at a line break? -/
def atBreak : List Char → Bool
  | [] => true
  | c :: _ => isBreak c

/-- A mark of three characters that starts or ends a document, with a blank behind it. -/
def atMark (c : Char) : List Char → Bool
  | a :: b :: d :: rest => a = c && b = c && d = c && atBlank rest
  | _ => false

/-- A place in a text. -/
structure Cursor where
  rest : List Char
  /-- How many bytes stand before it. -/
  index : Nat := 0
  line : Nat := 0
  column : Nat := 0

namespace Cursor

/-- Is a document mark the next thing on a new line? -/
def atDocumentMark (c : Cursor) : Bool :=
  c.column = 0 && (atMark '-' c.rest || atMark '.' c.rest)

/-- Goes on by some characters of the line. -/
def skip (c : Cursor) (n : Nat) : Cursor :=
  let taken := c.rest.take n
  { c with
    rest := c.rest.drop n
    index := c.index + Text.byteCount taken
    column := c.column + taken.length }

/-- Goes on within the line to what is left of it. -/
def moveTo (c : Cursor) (rest : List Char) : Cursor := c.skip (c.rest.length - rest.length)

/-- Goes on as long as the characters of the line are of a class. -/
def skipWhile (c : Cursor) (p : Char → Bool) : Cursor := c.skip (c.rest.takeWhile p).length

/-- Takes the characters of a class. -/
def takeWhile (c : Cursor) (p : Char → Bool) : List Char × Cursor :=
  (c.rest.takeWhile p, c.skipWhile p)

/-- Goes on to the end of the line. -/
def toBreak (c : Cursor) : Cursor := c.skipWhile fun d => !isBreak d

/-- Goes on behind a line break; `n` is the number of its bytes. -/
def newline (c : Cursor) (n : Nat) (rest : List Char) : Cursor :=
  { rest := rest, index := c.index + n, line := c.line + 1, column := 0 }

/-- Takes a line break, as the text it leaves in a scalar; at anything else nothing is taken. -/
def takeBreak (c : Cursor) : List Char × Cursor :=
  match c.rest with
  | '\r' :: '\n' :: rest => (['\n'], c.newline 2 rest)
  | d :: rest =>
    if d = '\u2028' || d = '\u2029' then ([d], c.newline d.utf8Size rest)
    else if isBreak d then (['\n'], c.newline d.utf8Size rest)
    else ([], c)
  | [] => ([], c)

/-- Goes on behind a line break, if there is one. -/
def skipBreak (c : Cursor) : Cursor := c.takeBreak.2

/-- Passes spacing and a comment up to the end of the line; anything else is refused. -/
def skipRestOfLine (c : Cursor) : Except YamlError Cursor :=
  let c := c.skipWhile isSpacing
  let c := match c.rest with
    | '#' :: _ => c.toBreak
    | _ => c
  if atBreak c.rest then .ok c.skipBreak else .error .unexpectedCharacter

end Cursor

end Bulletin.Yaml
