import Bulletin.Double.Power
import Bulletin.Yaml.Scalar

/-!
# Tokens of YAML text

The indicators of the text, its scalars, and the brackets that indentation stands for.  A directive
and a tag are tokens with their parts; what a tag's handle means is settled later.

A tag is a run of bytes, because percent signs can write bytes that are no text.  A zero byte ends
it, whatever is written behind.
-/

namespace Bulletin.Yaml

/-- A tag as written: a handle, which may be empty, and what follows it. -/
structure TagText where
  handle : List Char
  suffix : List UInt8
deriving DecidableEq

/-- A token of YAML text. -/
inductive Token where
  | version (major minor : Nat)
  /-- What a handle stands for. -/
  | handle (name : List Char) (meaning : List UInt8)
  | documentStart
  | documentEnd
  | blockSequenceStart
  | blockMappingStart
  | blockEnd
  | flowSequenceStart
  | flowSequenceEnd
  | flowMappingStart
  | flowMappingEnd
  | blockEntry
  | flowEntry
  | key
  | value
  | alias (name : List Char)
  | anchor (name : List Char)
  | tag (t : TagText)
  | scalar (style : ScalarStyle) (text : List Char)
  | streamEnd
deriving DecidableEq

/-! ## Names, tags and directives -/

/-- A character that may stand behind the name of an anchor. -/
def endsName : List Char → Bool
  | [] => true
  | c :: _ =>
    isSpacing c || isBreak c || c = '?' || c = ':' || c = ',' || c = ']' || c = '\x7d' ||
      c = '%' || c = '@' || c = '\x60'

/-- Reads the name of an anchor or an alias. -/
def readName (c : Cursor) : Except YamlError (List Char × Cursor) :=
  let (name, c) := c.takeWhile isNameChar
  if name.isEmpty || !endsName c.rest then .error .badProperty else .ok (name, c)

/-- A character of a tag's suffix, besides the letters and digits of names. -/
def isUriMark (c : Char) : Bool :=
  c = ';' || c = '/' || c = '?' || c = ':' || c = '@' || c = '&' || c = '=' || c = '+' ||
    c = '$' || c = '.' || c = '!' || c = '~' || c = '*' || c = '\'' || c = '(' || c = ')'

/-- A character that a suffix may hold in full. -/
def isUriChar (flowMarks : Bool) (c : Char) : Bool :=
  isNameChar c || isUriMark c || (flowMarks && (c = ',' || c = '[' || c = ']'))

/-- A byte written as a percent sign and two hexadecimal digits. -/
def percentByte : List Char → Option (UInt8 × List Char)
  | '%' :: a :: b :: rest => do
    some (UInt8.ofNat (16 * (← Text.hexValue? a) + (← Text.hexValue? b)), rest)
  | _ => none

/-- How many bytes follow the first one of a character. -/
def furtherBytes? (first : UInt8) : Option Nat :=
  if first < 0x80 then some 0
  else if 0xC0 ≤ first && first < 0xE0 then some 1
  else if 0xE0 ≤ first && first < 0xF0 then some 2
  else if 0xF0 ≤ first && first < 0xF8 then some 3
  else none

/-- The further bytes of a character; whether they spell one is not asked. -/
def percentTail : Nat → List Char → Option (List UInt8 × List Char)
  | 0, cs => some ([], cs)
  | k + 1, cs => do
    let (byte, rest) ← percentByte cs
    if 0x80 ≤ byte && byte < 0xC0 then
      let (bytes, rest) ← percentTail k rest
      some (byte :: bytes, rest)
    else none

/-- The bytes of a character written in percent signs. -/
def percentChar (cs : List Char) : Option (List UInt8 × List Char) := do
  let (first, rest) ← percentByte cs
  let (bytes, rest) ← percentTail (← furtherBytes? first) rest
  some (first :: bytes, rest)

/-- Reads the suffix of a tag. -/
def readUri (flowMarks : Bool) (cs : List Char) : Except YamlError (List UInt8 × List Char) :=
  match cs with
  | [] => .ok ([], [])
  | c :: rest =>
    if c = '%' then
      match percentChar (c :: rest) with
      | some (bytes, r) =>
        if r.length < (c :: rest).length then do
          let (u, r') ← readUri flowMarks r
          .ok (bytes ++ u, r')
        else .error .badProperty
      | none => .error .badProperty
    else if isUriChar flowMarks c then do
      let (u, r) ← readUri flowMarks rest
      .ok (Text.utf8Bytes [c] ++ u, r)
    else .ok ([], c :: rest)
termination_by cs.length
decreasing_by
  · assumption
  · exact Nat.lt_succ_self _

/-- The bytes of a tag that count. -/
def upToZero (bytes : List UInt8) : List UInt8 := bytes.takeWhile (· ≠ 0)

/-- The handle that may start a tag: an exclamation mark, name characters, and perhaps another
mark. -/
def takeHandle (cs : List Char) : List Char × List Char :=
  let name := cs.takeWhile isNameChar
  match cs.drop name.length with
  | '!' :: rest => ('!' :: name ++ ['!'], rest)
  | rest => ('!' :: name, rest)

/-- Reads a tag, from its exclamation mark on. -/
def readTag (flow : Bool) (c : Cursor) : Except YamlError (TagText × Cursor) := do
  let (tag, rest) ← match c.rest.drop 1 with
    | '<' :: cs => do
      let (uri, rest) ← readUri true cs
      match rest with
      | '>' :: rest => if uri.isEmpty then .error .badProperty else .ok (⟨[], upToZero uri⟩, rest)
      | _ => .error .badProperty
    | cs =>
      let (handle, rest) := takeHandle cs
      if 2 ≤ handle.length && handle.getLast? = some '!' then do
        let (uri, rest) ← readUri false rest
        if uri.isEmpty then .error .badProperty else .ok (⟨handle, upToZero uri⟩, rest)
      else do
        let (uri, rest) ← readUri false rest
        let suffix := upToZero (Text.utf8Bytes (handle.drop 1) ++ uri)
        .ok (if suffix.isEmpty then ⟨[], Text.utf8Bytes ['!']⟩ else ⟨['!'], suffix⟩, rest)
  let inFlow := flow && rest.head? = some ','
  if atBlank rest || inFlow then .ok (tag, c.moveTo rest) else .error .badProperty

/-- Digits of a version, of which there are at most nine. -/
def readVersionNumber (c : Cursor) : Except YamlError (Nat × Cursor) :=
  let (ds, c) := c.takeWhile Char.isDigit
  if ds.isEmpty || 9 < ds.length then .error .badDirective else .ok (Text.valueOf ds, c)

/-- Reads the version a directive asks for. -/
def readVersion (c : Cursor) : Except YamlError (Token × Cursor) := do
  let (major, c) ← readVersionNumber (c.skipWhile isSpacing)
  if c.rest.head? ≠ some '.' then .error .badDirective
  else
    let (minor, c) ← readVersionNumber (c.skip 1)
    .ok (.version major minor, c)

/-- Reads the handle and the meaning that a directive gives it. -/
def readHandle (c : Cursor) : Except YamlError (Token × Cursor) := do
  let c := c.skipWhile isSpacing
  match c.rest with
  | '!' :: cs =>
    let (handle, rest) := takeHandle cs
    if handle.getLast? ≠ some '!' || !(rest.head?.any isSpacing) then .error .badDirective
    else
      let (uri, rest) ← readUri true (rest.dropWhile isSpacing)
      if uri.isEmpty || !atBlank rest then .error .badDirective
      else .ok (.handle handle (upToZero uri), c.moveTo rest)
  | _ => .error .badDirective

/-- Reads a directive, from its percent sign on, and the rest of its line. -/
def readDirective (c : Cursor) : Except YamlError (Token × Cursor) := do
  let (name, c) := (c.skip 1).takeWhile isNameChar
  if name.isEmpty || !atBlank c.rest then .error .badDirective
  else
    let (token, c) ←
      if name = ['Y', 'A', 'M', 'L'] then readVersion c
      else if name = ['T', 'A', 'G'] then readHandle c
      else .error .badDirective
    .ok (token, ← c.skipRestOfLine)

end Bulletin.Yaml
