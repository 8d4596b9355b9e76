import Bulletin.Command.Report
import Std.Time.Format

/-!
The program: it runs the command of its arguments on the machine it is started on.
-/

namespace Bulletin

/-- What an error of the machine means for a file. -/
def FileError.ofMachine : IO.Error → FileError
  | .noFileOrDirectory .. => .notFound
  | .inappropriateType _ code _ => if code = 20 then .notDirectory else .isDirectory
  | .permissionDenied .. => .other "Permission denied (os error 13)"
  | e => .other (toString e)

/-- The text that bytes hold. -/
def textOfBytes (bytes : ByteArray) : Except FileError String :=
  match String.fromUTF8? bytes with
  | some s => .ok s
  | none => .error .notText

/-- What the environment asks the log for: the name of a level stands for all events from there on,
and `off` for none.  Anything else counts as nothing asked for. -/
def logFilter? (asked : Option String) : Option (LogEvent → Bool) :=
  match asked.map fun s => String.ofList (s.toList.map Char.toLower) with
  | some "off" => some fun _ => false
  | some "error" => some fun _ => false
  | some "warn" => some fun e => LogLevel.warn.admits e.level
  | some "info" => some fun e => LogLevel.warn.admits e.level
  | some "debug" => some fun e => LogLevel.debug.admits e.level
  | some "trace" => some fun _ => true
  | _ => none

/-- What is wrong with a YAML text. -/
def Yaml.YamlError.wording (e : Yaml.YamlError) : String :=
  match e with
  | .forbiddenCharacter => "control characters are not allowed"
  | .unexpectedCharacter => "found character that cannot start any token"
  | .unfinishedScalar => "found unexpected end of a quoted scalar"
  | .invalidEscape => "found unknown escape character"
  | .badIndentation => "found a tab or an indicator that breaks the indentation"
  | .badDirective => "found an incompatible or repeated directive"
  | .badProperty => "found a tag or an anchor that is misspelt"
  | .misplacedKey => "mapping values are not allowed in this context"
  | .unexpectedToken => "did not find expected node content"
  | .unknownAnchor => "unknown anchor"
  | .severalDocuments => "deserializing from YAML containing more than one document is not supported"
  | .wrongShape => "invalid type"
  | .repeatedField => "duplicate field"
  | .tooDeep => "recursion limit exceeded"
  | .tooManyAliases => "repetition limit exceeded"

/-- The machine the program is started on. -/
instance : Machine IO where
  readFile path := do
    try return textOfBytes (← IO.FS.readBinFile path)
    catch e => return .error (.ofMachine e)
  readInput := do
    try return textOfBytes (← (← IO.getStdin).readBinToEnd)
    catch e => return .error (.ofMachine e)
  writeFile path text := do
    try
      IO.FS.writeFile path text
      return .ok ""
    catch e => return .error (.ofMachine e)
  writeOutput text := do
    try return .ok (← IO.print text)
    catch e => return .error (.ofMachine e)
  currentYear := do return (← Std.Time.PlainDate.now).year
  logLine least e := do
    let time ← Std.Time.PlainDateTime.now
    let settings : LogSettings :=
      ⟨logFilter? (← IO.getEnv "RUST_LOG"), time.toDateTimeString, LogEvent.compactLine⟩
    return settings.line least e
  yamlWording target text :=
    let refused {α : Type} : Except Yaml.YamlError α → Option String
      | .ok _ => none
      | .error e => some e.wording
    return match target with
      | .theme => refused (Theme.readYaml text)
      | .options => refused (RenderOptions.read text)
  lastWords reason := return reason ++ "\n"

end Bulletin

open Bulletin in
/-- Runs the command of the arguments; other arguments are answered with the usage. -/
def main (args : List String) : IO UInt32 := do
  match Command.read? args with
  | none =>
    IO.eprint Command.usage
    return 2
  | some c =>
    -- What goes to the output is written as the command runs.
    let report : Report ← (c.run : IO Report)
    IO.eprint report.errors
    return report.exitCode.toUInt32
