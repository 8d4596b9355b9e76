import Bulletin.Json.Basic

/-!
# Writing JSON text

The compact form: no white space, members in the order they are held.  In a string only the quote,
the backslash and the control characters are escaped; everything else is written as it is.
-/

namespace Bulletin.Json

/-- A control character by its code. -/
def controlEscape (c : Char) : List Char :=
  ['\\', 'u', '0', '0'] ++ [Nat.digitChar (c.toNat / 16), Nat.digitChar (c.toNat % 16)]

/-- One character inside a string. -/
def escapeChar (c : Char) : List Char :=
  match c with
  | '"' => ['\\', '"']
  | '\\' => ['\\', '\\']
  | '\x08' => ['\\', 'b']
  | '\x0c' => ['\\', 'f']
  | '\n' => ['\\', 'n']
  | '\r' => ['\\', 'r']
  | '\t' => ['\\', 't']
  | c => if c < ' ' then controlEscape c else [c]

/-- A string between its quotes. -/
def quote (s : String) : List Char := '"' :: s.toList.flatMap escapeChar ++ ['"']

mutual

/-- The characters of a value's compact form. -/
def chars : Json → List Char
  | .null => "null".toList
  | .bool true => "true".toList
  | .bool false => "false".toList
  | .number n => n.text.toList
  | .string s => quote s
  | .array [] => ['[', ']']
  | .array (v :: vs) => '[' :: chars v ++ itemChars vs ++ [']']
  | .object [] => ['\x7b', '\x7d']
  | .object ((k, v) :: ms) =>
    '\x7b' :: quote k ++ ':' :: chars v ++ memberChars ms ++ ['\x7d']

/-- The further items of a list. -/
def itemChars : List Json → List Char
  | [] => []
  | v :: vs => ',' :: chars v ++ itemChars vs

/-- The further members of an object. -/
def memberChars : Members → List Char
  | [] => []
  | (k, v) :: ms => ',' :: quote k ++ ':' :: chars v ++ memberChars ms

end

/-- The compact text of a value. -/
def print (j : Json) : String := String.ofList j.chars

end Bulletin.Json
