import Bulletin.Json.Reader
import Bulletin.Text.Blank
import Bulletin.Double.Numeral

/-!
# Records

A `Record` is a type whose values are built from the members of an object, or from a list that
holds the fields in their declared order.  Missing fields, and fields of the wrong shape, are
absent: a record is never refused for what its fields hold.  There are two ways to one:

* `Record.ofJson?` takes a value that has been read.  A list longer than the record, or a scalar,
  is no record.
* `Record.read` takes the text itself and says what is wrong with it: besides the errors of the
  syntax, a field that is given twice, a list that is too long, or a scalar.  Fields the record does
  not have are passed over unread.

Both end in the same `Record.ofMembers`, so a record read from text and one taken from a value
differ in nothing but the texts they refuse.
-/

namespace Bulletin

/-- A type of records. -/
class Record (α : Type) where
  /-- The keys of the fields, in the order a list holds them. -/
  keys : List String
  ofMembers : Members → α

/-- The number a text stands for: a decimal numeral, blanks around it, and `px` behind it. -/
def measure? (s : String) : Option Double :=
  let cs := Text.trimEnd (Text.trimStart s.toList)
  let cs := match cs.reverse with
    | 'x' :: 'p' :: rest => rest.reverse
    | _ => cs
  Double.ofNumeral? (Text.trimEnd cs)

namespace Json

/-- A scalar as text. -/
def asText? : Json → Option String
  | .string s => some s
  | .number n => some n.text
  | .bool true => some "true"
  | .bool false => some "false"
  | _ => none

/-- A number, or a text that stands for one. -/
def asNumber? : Json → Option Double
  | .number n => n.toDouble?
  | .string s => measure? s
  | _ => none

/-- The items of a list; anything else has none. -/
def items : Json → List Json
  | .array xs => xs
  | _ => []

/-- The members of a record with these keys. -/
def membersOf? (keys : List String) : Json → Option Members
  | .object ms => some ms
  | .array xs => if xs.length ≤ keys.length then some (keys.zip xs) else none
  | _ => none

end Json

namespace Members

/-- The text of a field. -/
def text (ms : Members) (key : String) : Option String := (ms.lookup key).bind Json.asText?

/-- The number of a field. -/
def number (ms : Members) (key : String) : Option Double := (ms.lookup key).bind Json.asNumber?

/-- What the items of a field's list stand for; items that stand for nothing are left out. -/
def list {α : Type} (item : Json → Option α) (ms : Members) (key : String) : List α :=
  match ms.lookup key with
  | some v => v.items.filterMap item
  | none => []

end Members

namespace Record

variable {α : Type} [Record α]

/-- The record a value stands for. -/
def ofJson? (j : Json) : Option α := (j.membersOf? (keys α)).map ofMembers

/-- The record without any field. -/
def blank : α := ofMembers []

/-- The record an object stands for. -/
def ofObject? : Json → Option α
  | .object ms => some (ofMembers ms)
  | _ => none

end Record

namespace Json

/-! ## From text -/

/-- Ends a list whose record has no further field. -/
def endOfRecord (cs : List Char) : Except JsonFailure (Rest cs) :=
  match nextChar cs with
  | none => .error (.before .endOfList [])
  | some (']', r) => .ok r
  | some (',', r) =>
    match skipSpace r.1 with
    | ']' :: rest => .error (.looking .trailingComma (']' :: rest))
    | rest => .error (.looking .trailingCharacters rest)
  | some (c, r) => .error (.looking .trailingCharacters (c :: r.1))

/-- Reads the fields of a record from a list, from the item of the first key on. -/
def readFields (depth : Nat) (key : String) (keys : List String) (cs : List Char) :
    Reading Members cs := do
  let (v, r) ← readValue depth cs
  match keys with
  | [] => .ok ([(key, v)], r.trans (← endOfRecord r.1))
  | key' :: keys =>
    match ← afterItem r.1 with
    | .close r' => .ok ([(key, v)], r.trans r')
    | .more r' =>
      let (ms, r'') ← readFields depth key' keys (r.trans r').1
      .ok ((key, v) :: ms, (r.trans r').trans r'')

/-- Where a reader is left that finds a field repeated: behind the key, its white space, and a
closing brace if one follows. -/
def behindRepeated (cs : List Char) : List Char :=
  match skipSpace cs with
  | '\x7d' :: rest => rest
  | rest => rest

/-- Reads the fields of a record from an object, from behind the quote of a key on. -/
def readNamedFields (depth : Nat) (keys : List String) (before : Members) (cs : List Char) :
    Reading Members cs := do
  let (k, r) ← readString cs
  let key := String.ofList k
  if key ∈ keys then
    if (before.lookup key).isSome then
      .error (.before (.repeatedField key) (behindRepeated r.1))
    else
      let r₁ ← readColon r.1
      let (v, r₂) ← readValue depth (r.trans r₁).1
      let behind := (r.trans r₁).trans r₂
      let ms := before ++ [(key, v)]
      match ← afterMember behind.1 with
      | .close r₃ => .ok (ms, behind.trans r₃)
      | .more r₃ =>
        let (ms, r₄) ← readNamedFields depth keys ms (behind.trans r₃).1
        .ok (ms, (behind.trans r₃).trans r₄)
  else
    let r₁ ← readColon r.1
    let r₂ ← skipValue (r.trans r₁).1
    let behind := (r.trans r₁).trans r₂
    match ← afterMember behind.1 with
    | .close r₃ => .ok (before, behind.trans r₃)
    | .more r₃ =>
      let (ms, r₄) ← readNamedFields depth keys before (behind.trans r₃).1
      .ok (ms, (behind.trans r₃).trans r₄)
termination_by cs.length
decreasing_by
  all_goals exact (behind.trans r₃).2

/-- Reads the members of a record. -/
def readRecord (name : String) (keys : List String) (cs : List Char) : Reading Members cs :=
  match nextChar cs with
  | none => .error (.before .endOfValue [])
  | some (c, r) =>
    match c with
    | '[' => do
      match ← firstItem r.1 with
      | some r' => .ok ([], r.trans r')
      | none =>
        match keys with
        | [] => .ok ([], r.trans (← endOfRecord r.1))
        | key :: keys =>
          let (ms, r') ← readFields (depthLimit - 1) key keys r.1
          .ok (ms, r.trans r')
    | '\x7b' => do
      match ← firstMember r.1 with
      | .close r' => .ok ([], r.trans r')
      | .more r' =>
        let (ms, r'') ← readNamedFields (depthLimit - 1) keys [] (r.trans r').1
        .ok (ms, (r.trans r').trans r'')
    | _ => do
      let (v, r) ← readValue depthLimit cs
      .error (.before (.wrongShape v name) r.1)

end Json

/-- Reads a whole text as one record, which messages call by the given name. -/
def Record.readChars {α : Type} [Record α] (name : String) (cs : List Char) :
    Except JsonFailure α := do
  let (ms, r) ← Json.readRecord name (keys α) cs
  Json.expectEnd r.1
  .ok (ofMembers ms)

/-- Reads a whole text as one record, which messages call by the given name. -/
def Record.read {α : Type} [Record α] (name : String) (text : String) : Except JsonError α :=
  (Record.readChars name text.toList).mapError (JsonError.locate text.toList)

end Bulletin
