import Bulletin.Command.FileTree
import Bulletin.Log.Event

/-!
# Machines

What a command asks of the machine it runs on: files, its input and output, the year, and lines for
the log.  A command that is written for any `Machine` runs on the real one and on a `World`, which is
a machine as a value.

Three things that a machine brings along are none of the program's own, so a `World` has them as
fields of its own: how it keeps a log and lays out the lines (`LogSettings`), how its YAML library
words errors, and how a program looks that ends because it cannot print.
-/

namespace Bulletin

/-- What is read from a YAML text. -/
inductive YamlTarget where
  | theme
  | options
deriving DecidableEq

/-- A machine that commands run on. -/
class Machine (m : Type → Type) where
  readFile : String → m (Except FileError String)
  /-- Reads the input up to its end. -/
  readInput : m (Except FileError String)
  /-- Writes a file, and returns what the output gets by that: nothing, but for a device of the
  output. -/
  writeFile : String → String → m (Except FileError String)
  /-- Writes to the output. -/
  writeOutput : String → m (Except FileError Unit)
  currentYear : m Int
  /-- What the log has for an event when it is kept from some level on. -/
  logLine : LogLevel → LogEvent → m String
  /-- How the YAML library words why it does not read a text, unless the machine cuts that off. -/
  yamlWording : YamlTarget → String → m (Option String)
  /-- The last words of a program that ends for this reason. -/
  lastWords : String → m String

/-- A machine as a value.  If nothing is said about them, the output takes everything, the log is
off, and the wording of YAML errors is cut off. -/
structure World where
  files : FileTree
  /-- What the input still holds. -/
  input : Except FileError String
  year : Int
  /-- Why the output takes nothing, if that is so. -/
  outputError : Option FileError := none
  log : LogSettings := .off
  yamlWording : YamlTarget → String → Option String := fun _ _ => none
  lastWords : String → String := id

/-- Writes a file of a world.  A text for a device of the output is left to the output. -/
def World.writeFile (w : World) (path text : String) : Except FileError String × World :=
  if w.files.isOutput path then
    match w.outputError with
    | none => (.ok text, w)
    | some e => (.error e, w)
  else
    match w.files.write path text with
    | .ok files => (.ok "", { w with files := files })
    | .error e => (.error e, w)

/-- A world is a machine.  Its input can be read once, after which nothing is left of it. -/
instance : Machine (StateM World) where
  readFile path := do return (← get).files.read path
  readInput := modifyGet fun w => (w.input, { w with input := .ok "" })
  writeFile path text := modifyGet fun w => w.writeFile path text
  writeOutput _ := do
    match (← get).outputError with
    | none => return .ok ()
    | some e => return .error e
  currentYear := do return (← get).year
  logLine least e := do return (← get).log.line least e
  yamlWording target text := do return (← get).yamlWording target text
  lastWords reason := do return (← get).lastWords reason

end Bulletin
