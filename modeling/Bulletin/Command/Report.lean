import Bulletin.Command.Line
import Bulletin.Command.Machine
import Bulletin.Document
import Bulletin.Lint
import Bulletin.Log.Decoding
import Bulletin.Log.Drawing
import Bulletin.Options.Yaml
import Bulletin.Theme.Yaml

/-!
# Running commands

A command ends in a report: what stands on its two streams, and its exit code.  The stream of errors
has the lines of the log on it too, in the order of the events and before what they lead to.

A rendering goes through its steps in the order template, theme, options, output, and the first that
fails ends it with nothing but the reason behind the lines of the log, so that the output is all or
nothing.  A check goes through all of its templates, and its report is the reports on them one after
another; only an output that takes nothing ends it before that.
-/

namespace Bulletin

/-- Why a command cannot do its work. -/
inductive Failure where
  | template (e : TemplateError)
  | theme (e : JsonError)
  /-- A YAML text is not read, for a reason that the YAML library has a wording for. -/
  | yaml (e : Yaml.YamlError) (wording : Option String)
  | file (name : String) (e : FileError)

/-- The wording of a failure. -/
def Failure.message : Failure → String
  | .template e => e.message
  | .theme e => "JSON error: " ++ e.message
  | .yaml _ (some wording) => "YAML error: " ++ wording
  | .yaml _ none => "YAML error"
  | .file name e => "I/O error on '" ++ name ++ "': " ++ e.message

/-- What a command leaves on its streams, and how it ends. -/
structure Report where
  exitCode : Nat
  output : String
  errors : String
deriving DecidableEq

namespace Report

/-- The report on nothing. -/
def empty : Report := ⟨0, "", ""⟩

/-- One report after another; the code of a failure stays. -/
def append (r s : Report) : Report :=
  ⟨max r.exitCode s.exitCode, r.output ++ s.output, r.errors ++ s.errors⟩

instance : Append Report := ⟨append⟩

/-- A report with lines of the log before it. -/
def behind (log : String) (r : Report) : Report := { r with errors := log ++ r.errors }

/-- The report on a rendering that fails. -/
def failed (f : Failure) : Report := ⟨1, "", "✗ " ++ f.message ++ "\n"⟩

/-- The exit code of a program that ends because it cannot print. -/
def abortCode : Nat := 101

end Report

section

variable {m : Type → Type} [Monad m] [Machine m]

/-- The lines that the log has for events. -/
def logLines (least : LogLevel) : List LogEvent → m String
  | [] => return ""
  | e :: events => do
    let line ← Machine.logLine least e
    return line ++ (← logLines least events)

/-! ## Loading -/

/-- Reads a file, or fails. -/
def readPath (path : String) : ExceptT Failure m String := do
  match ← (Machine.readFile path : m _) with
  | .ok text => return text
  | .error e => throw (.file path e)

/-- Reads the input, or fails. -/
def readStandardInput : ExceptT Failure m String := do
  match ← (Machine.readInput : m _) with
  | .ok text => return text
  | .error e => throw (.file "<stdin>" e)

/-- Loads the template of an operand; a dash stands for the input.  The events are those of the
loading, of which there are none if it fails. -/
def loadTemplate (operand : String) : ExceptT Failure m (Template × List LogEvent) := do
  let text ← if operand = "-" then readStandardInput else readPath operand
  let t ← (Template.read text).mapError Failure.template
  return (t, Template.loadingEvents text)

/-- What is read from a YAML text, or why it is not, in the wording of the machine. -/
def orYamlFailure {α : Type} (target : YamlTarget) (text : String) (r : Except Yaml.YamlError α) :
    ExceptT Failure m α := do
  match r with
  | .ok a => return a
  | .error e => throw (.yaml e (← (Machine.yamlWording target text : m _)))

/-- Is a path that of a JSON file? -/
def isJsonPath (path : String) : Bool :=
  ((pathExtension? path).map fun e => e.toList.map Char.toLower) = some "json".toList

/-- Loads a theme from a JSON file, or else from a YAML file. -/
def loadTheme (path : String) : ExceptT Failure m Theme := do
  let text ← readPath path
  if isJsonPath path then (Theme.read text).mapError Failure.theme
  else orYamlFailure .theme text (Theme.readYaml text)

/-- Loads options from a YAML file. -/
def loadOptions (path : String) : ExceptT Failure m RenderOptions := do
  let text ← readPath path
  orYamlFailure .options text (RenderOptions.read text)

/-! ## Renderings -/

namespace RenderCommand

/-- The options with those of the command line instead. -/
def override (c : RenderCommand) (o : RenderOptions) : RenderOptions :=
  { o with
    title := c.title.getD o.title
    copyrightYear := c.year.or o.copyrightYear
    includeScripts := !c.noScripts && o.includeScripts }

/-- Loads the theme and the options that a template is drawn with. -/
def setUp (c : RenderCommand) (t : Template) : ExceptT Failure m (Template × RenderOptions) := do
  let theme ← match c.theme with
    | some path => loadTheme path
    | none => pure t.theme
  let options ← match c.config with
    | some path => loadOptions path
    | none => pure .standard
  return ({ t with theme := theme }, c.override options)

/-- Writes a document to the output, or to the file if there is one to write.  Returns what the
output gets. -/
def deliver (c : RenderCommand) (html : String) : ExceptT Failure m String := do
  match c.out with
  | none =>
    match ← (Machine.writeOutput html : m _) with
    | .ok () => return html
    | .error e => throw (.file "<stdout>" e)
  | some path =>
    match ← (Machine.writeFile path html : m _) with
    | .ok output => return output
    | .error e => throw (.file path e)

/-- What the log is told about drawing. -/
def drawingEvents (c : RenderCommand) (t : Template) (o : RenderOptions) (currentYear : Int) :
    List LogEvent :=
  .drawingStarts t.blocks.length c.template :: t.drawingEvents o currentYear

/-- Renders and reports.  What the log has is told before the reason of a failure. -/
def run (least : LogLevel) (c : RenderCommand) : m Report := do
  match ← (loadTemplate c.template).run with
  | .error f => return .failed f
  | .ok (t, events) =>
    let loading ← logLines least events
    match ← (c.setUp t).run with
    | .error f => return .behind loading (.failed f)
    | .ok (t, o) =>
      let year ← (Machine.currentYear : m Int)
      let drawing ← logLines least (c.drawingEvents t o year)
      match ← (c.deliver (t.render o year)).run with
      | .error f => return .behind (loading ++ drawing) (.failed f)
      | .ok output => return .behind (loading ++ drawing) ⟨0, output, ""⟩

end RenderCommand

/-! ## Checks -/

/-- The report on a template that was linted: its findings follow a line that says whether an error
is among them. -/
def lintReport (operand : String) (ds : List Diagnostic) : Report :=
  let findings := String.join (ds.map fun d => "  " ++ d.text ++ "\n")
  if ds.any Diagnostic.isError then ⟨1, "", "✗ " ++ operand ++ " has errors:\n" ++ findings⟩
  else ⟨0, "✓ " ++ operand ++ " is valid\n" ++ findings, ""⟩

/-- The report on a template that was not loaded. -/
def unloadedReport (operand : String) (f : Failure) : Report :=
  ⟨1, "", "✗ " ++ operand ++ " has errors:\n  " ++ f.message ++ "\n"⟩

/-- Prints what a report has for the output.  If the output does not take it, the program ends with
the report in its place. -/
def printReport (r : Report) : ExceptT Report m Report := do
  if r.output.isEmpty then return r
  else
    match ← (Machine.writeOutput r.output : m _) with
    | .ok () => return r
    | .error e =>
      let words ← (Machine.lastWords ("failed printing to stdout: " ++ e.message) : m _)
      throw ⟨Report.abortCode, "", r.errors ++ words⟩

/-- Lints a template and reports.  The report is an error if the program ends with it. -/
def checkTemplate (least : LogLevel) (operand : String) : ExceptT Report m Report := do
  match ← ((loadTemplate operand).run : m _) with
  | .error f => return unloadedReport operand f
  | .ok (t, events) =>
    let log ← (logLines least events : m _)
    printReport (.behind log (lintReport operand (lint t.blocks)))

/-- Lints templates and reports on them in order. -/
def checkTemplates (least : LogLevel) : List String → m Report
  | [] => return .empty
  | operand :: rest => do
    match ← (checkTemplate least operand).run with
    | .error last => return last
    | .ok r => return r ++ (← checkTemplates least rest)

/-- Runs a command. -/
def Command.run (c : Command) : m Report :=
  match c.action with
  | .render r => r.run (.ofVerbosity c.verbosity)
  | .check templates => checkTemplates (.ofVerbosity c.verbosity) templates

end

end Bulletin
