import Bulletin.Json.Basic
import Bulletin.Text.Bytes
import Bulletin.Text.Printable

/-!
# Why JSON text is refused

A reader that gives up says why and where: the cause, the text it had still to read, and how many
bytes of that it had already looked at.  `locate` turns the place into a line and a column of the
whole text.  Lines count from one; a column is the number of bytes of its line up to the place, so
that it is zero right behind a line feed.
-/

namespace Bulletin

/-- Why a JSON text is refused. -/
inductive JsonCause where
  | endOfList
  | endOfObject
  | endOfString
  | endOfValue
  | expectedColon
  | expectedListEnd
  | expectedObjectEnd
  | expectedWord
  | expectedValue
  | invalidEscape
  | invalidNumber
  | numberTooLarge
  | controlCharacter
  | keyNotString
  | loneSurrogate
  | unfinishedSurrogate
  | trailingComma
  | trailingCharacters
  | tooDeep
  /-- A record's field is given twice. -/
  | repeatedField (key : String)
  /-- A scalar stands where the named record is expected. -/
  | wrongShape (found : Json) (record : String)

/-- What a scalar is called in a message; lists and objects never occur there. -/
def Json.described : Json → String
  | .null => "null"
  | .bool b => "boolean `" ++ (if b then "true" else "false") ++ "`"
  | .number (.integer i) => "integer `" ++ Text.ofInt i ++ "`"
  | .number (.double x) => "floating point `" ++ NumberLayout.json.write x ++ "`"
  | .string s => "string " ++ Text.quotePrintable s
  | .array _ => "sequence"
  | .object _ => "map"

/-- The wording of a cause. -/
def JsonCause.text : JsonCause → String
  | .endOfList => "EOF while parsing a list"
  | .endOfObject => "EOF while parsing an object"
  | .endOfString => "EOF while parsing a string"
  | .endOfValue => "EOF while parsing a value"
  | .expectedColon => "expected `:`"
  | .expectedListEnd => "expected `,` or `]`"
  | .expectedObjectEnd => "expected `,` or `\x7d`"
  | .expectedWord => "expected ident"
  | .expectedValue => "expected value"
  | .invalidEscape => "invalid escape"
  | .invalidNumber => "invalid number"
  | .numberTooLarge => "number out of range"
  | .controlCharacter => "control character (\\u0000-\\u001F) found while parsing a string"
  | .keyNotString => "key must be a string"
  | .loneSurrogate => "lone leading surrogate in hex escape"
  | .unfinishedSurrogate => "unexpected end of hex escape"
  | .trailingComma => "trailing comma"
  | .trailingCharacters => "trailing characters"
  | .tooDeep => "recursion limit exceeded"
  | .repeatedField key => "duplicate field `" ++ key ++ "`"
  | .wrongShape found record =>
    "invalid type: " ++ found.described ++ ", expected struct " ++ record

/-- Where a reader stopped: some bytes into the text it had still to read. -/
structure JsonFailure where
  cause : JsonCause
  rest : List Char
  bytes : Nat

namespace JsonFailure

/-- A reader that stopped right before what is left. -/
def before (cause : JsonCause) (rest : List Char) : JsonFailure := ⟨cause, rest, 0⟩

/-- A reader that stopped having looked at the first byte of what is left, if there is one. -/
def looking (cause : JsonCause) (rest : List Char) : JsonFailure :=
  ⟨cause, rest, if rest.isEmpty then 0 else 1⟩

end JsonFailure

/-- A refused text. -/
structure JsonError where
  cause : JsonCause
  line : Nat
  column : Nat

namespace JsonError

/-- The line and column some bytes further on in a text. -/
def advance (line column : Nat) : Nat → List Char → Nat × Nat
  | 0, _ => (line, column)
  | n, [] => (line, column + n)
  | n + 1, c :: rest =>
    if c.utf8Size ≤ n + 1 then
      if c = '\n' then advance (line + 1) 0 n rest
      else advance line (column + c.utf8Size) (n + 1 - c.utf8Size) rest
    else (line, column + (n + 1))
termination_by _ cs => cs.length

/-- The error of a reader that failed on a text. -/
def locate (text : List Char) (f : JsonFailure) : JsonError :=
  let (line, column) := advance 1 0 (Text.byteCount text - Text.byteCount f.rest + f.bytes) text
  ⟨f.cause, line, column⟩

/-- The full wording of an error. -/
def message (e : JsonError) : String :=
  e.cause.text ++ " at line " ++ Text.ofNat e.line ++ " column " ++ Text.ofNat e.column

end JsonError

end Bulletin
