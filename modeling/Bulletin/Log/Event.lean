import Bulletin.Fragment.Articles
import Bulletin.Json.Error

/-!
# Log events

Nothing that an author writes stops a template from being loaded or drawn, so what is left out on
the way is told to a log.  An event has a level, a message and fields; a log keeps the events from
some level on, or those that its environment asks for, and writes a line for each.

* `LogEvent` has one constructor for each place that tells the log something.  Places that are never
  reached have none: no object is refused as a style or a theme, and writing to a text never fails
* `LogSettings.line` is the line for an event, empty if the event is not kept
* `LogEvent.compactLine` is the usual layout of a line
-/

namespace Bulletin

open Text

/-! ## Levels -/

/-- How much an event matters.  The levels `info` and `error` are not in use. -/
inductive LogLevel where
  | trace
  | debug
  | warn
deriving DecidableEq

namespace LogLevel

/-- The place of a level among the others; what matters more comes later. -/
def rank : LogLevel → Nat
  | .trace => 0
  | .debug => 1
  | .warn => 2

/-- Does a log that is kept from `least` on let this level through? -/
def admits (least level : LogLevel) : Bool := least.rank ≤ level.rank

/-- The level from which a log is kept when `-v` is given some number of times. -/
def ofVerbosity : Nat → LogLevel
  | 0 => .warn
  | 1 => .debug
  | _ => .trace

/-- The name of a level, to a width of five. -/
def padded : LogLevel → String
  | .trace => "TRACE"
  | .debug => "DEBUG"
  | .warn => " WARN"

end LogLevel

/-! ## Values that do not fit -/

/-- Why a value is no record of the type it is decoded as. -/
inductive DecodeError where
  /-- A scalar stands where the named record is expected. -/
  | wrongShape (found : Json) (record : String)
  /-- A list has more items than the record has fields. -/
  | tooLong (length : Nat)
  /-- The value is of no form that the named type can have. -/
  | noVariant (name : String)

/-- The wording of a `DecodeError`. -/
def DecodeError.message : DecodeError → String
  | .wrongShape found record => (JsonCause.wrongShape found record).text
  | .tooLong length =>
    "invalid length " ++ ofNat length ++ ", expected fewer elements in array"
  | .noVariant name => "data did not match any variant of untagged enum " ++ name

/-- What sort of value this is. -/
def Json.sort : Json → String
  | .null => "null"
  | .bool _ => "boolean"
  | .number _ => "number"
  | .string _ => "string"
  | .array _ => "array"
  | .object _ => "object"

/-! ## Events -/

/-- Something that the log is told. -/
inductive LogEvent where
  /-- A field that holds a list is given something else, which counts as an empty list. -/
  | notList (found : Json)
  /-- An item of a list is left out. -/
  | itemSkipped (e : DecodeError)
  /-- The content of a block is read as empty. -/
  | contentEmptied (tag : String) (e : DecodeError)
  /-- A block is not drawn. -/
  | unknownType (id tag : String)
  /-- A block is drawn, or was passed over, in that many bytes. -/
  | blockDrawn (id tag : String) (bytes : Nat)
  /-- A block has more products than it shows. -/
  | productsCut (count : Nat)
  /-- A newsletter of some blocks is drawn, with that many fragments that are not empty. -/
  | newsletterDrawn (blocks drawn : Nat)
  /-- A template of some blocks is about to be drawn. -/
  | drawingStarts (blocks : Nat) (template : String)

/-- The value of an event's field. -/
inductive LogValue where
  /-- A text that is shown as it is. -/
  | shown (s : String)
  /-- A text that is shown in quotes. -/
  | quoted (s : String)
  | number (n : Nat)

/-- The text of a field's value. -/
def LogValue.text : LogValue → String
  | .shown s => s
  | .quoted s => quotePrintable s
  | .number n => ofNat n

namespace LogEvent

/-- How much an event matters. -/
def level : LogEvent → LogLevel
  | .contentEmptied .. => .warn
  | .blockDrawn .. => .trace
  | _ => .debug

/-- What an event says. -/
def message : LogEvent → String
  | .notList _ => "expected a list, treating as empty"
  | .itemSkipped _ => "skipping malformed list item"
  | .contentEmptied .. => "block content has an unexpected shape, rendering it empty"
  | .unknownType .. => "unknown block type, rendering nothing"
  | .blockDrawn .. => "rendered block"
  | .productsCut _ => "product recommendation truncated"
  | .newsletterDrawn .. => "rendered newsletter"
  | .drawingStarts .. => "rendering template"

/-- The fields of an event, by name. -/
def fields : LogEvent → List (String × LogValue)
  | .notList found => [("found", .shown found.sort)]
  | .itemSkipped e => [("error", .shown e.message)]
  | .contentEmptied tag e => [("block_type", .quoted tag), ("error", .shown e.message)]
  | .unknownType id tag => [("id", .shown id), ("block_type", .shown tag)]
  | .blockDrawn id tag bytes =>
    [("id", .shown id), ("block_type", .quoted tag), ("bytes", .number bytes)]
  | .productsCut count => [("count", .number count), ("shown", .number Fragment.maxProducts)]
  | .newsletterDrawn blocks drawn => [("blocks", .number blocks), ("rendered", .number drawn)]
  | .drawingStarts blocks template => [("blocks", .number blocks), ("template", .shown template)]

/-- The line on an event at some time: the time, the level, the message and the fields. -/
def compactLine (time : String) (e : LogEvent) : String :=
  time ++ " " ++ e.level.padded ++ " " ++ e.message ++
    String.join (e.fields.map fun f => " " ++ f.1 ++ "=" ++ f.2.text) ++ "\n"

end LogEvent

/-! ## Settings -/

/-- How a machine keeps a log. -/
structure LogSettings where
  /-- The events that the environment asks for, if it says anything about events.  What the
  command line says does not count then. -/
  filter : Option (LogEvent → Bool)
  /-- The time that lines are stamped with. -/
  time : String
  /-- The line on an event, by the time. -/
  layout : String → LogEvent → String

namespace LogSettings

/-- No event is kept. -/
def off : LogSettings := ⟨some fun _ => false, "", LogEvent.compactLine⟩

/-- Is an event kept in a log from `least` on? -/
def keeps (s : LogSettings) (least : LogLevel) (e : LogEvent) : Bool :=
  match s.filter with
  | some asked => asked e
  | none => least.admits e.level

/-- What is written for an event: nothing if it is not kept. -/
def line (s : LogSettings) (least : LogLevel) (e : LogEvent) : String :=
  if s.keeps least e then s.layout s.time e else ""

end LogSettings

end Bulletin
