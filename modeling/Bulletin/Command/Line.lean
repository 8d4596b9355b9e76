import Bulletin.Text.Digit
import Bulletin.Year

/-!
# Command lines

A command line is the name of a command, options, and operands.  An option starts with a dash.
Some take a value, which is given with an equals sign or as the next argument, and then does not
start with a dash itself, unless it is nothing else.  Several short options may follow one dash.
Behind a double dash there are only operands.

How often `-v` is given is counted, since that decides how much the log tells.  It may stand before
the name of the command and behind it; if it stands in both places, only those behind count.
-/

namespace Bulletin

/-- The options of a rendering that stand on the command line, and its files. -/
structure RenderCommand where
  /-- The template's file, or a dash for the input. -/
  template : String
  theme : Option String
  config : Option String
  /-- The file to write instead of the output. -/
  out : Option String
  title : Option String
  year : Option Int
  noScripts : Bool
deriving DecidableEq

/-- What a command does. -/
inductive Action where
  | render (c : RenderCommand)
  /-- Lints templates, of which there is at least one. -/
  | check (templates : List String)
deriving DecidableEq

/-- What a command line asks for. -/
structure Command where
  /-- How often `-v` is given. -/
  verbosity : Nat
  action : Action
deriving DecidableEq

/-! ## Options -/

/-- An option without a value. -/
inductive Switch where
  | verbose
  | noScripts
deriving DecidableEq

/-- An option with a value. -/
inductive Setting where
  | theme
  | config
  | out
  | title
  | year
deriving DecidableEq

/-- The long name of a switch. -/
def Switch.name : Switch → String
  | .verbose => "verbose"
  | .noScripts => "no-scripts"

/-- The letter of a switch. -/
def Switch.letter? : Switch → Option Char
  | .verbose => some 'v'
  | .noScripts => none

/-- The long name of a setting. -/
def Setting.name : Setting → String
  | .theme => "theme"
  | .config => "config"
  | .out => "out"
  | .title => "title"
  | .year => "year"

/-- The letter of a setting. -/
def Setting.letter? : Setting → Option Char
  | .out => some 'o'
  | _ => none

/-- The options a command knows. -/
structure OptionTable where
  switches : List Switch
  settings : List Setting

/-- The options that may stand before the name of a command, and in every command. -/
def OptionTable.general : OptionTable := ⟨[.verbose], []⟩

/-- The options of a rendering. -/
def OptionTable.render : OptionTable :=
  ⟨[.verbose, .noScripts], [.theme, .config, .out, .title, .year]⟩

/-- A part of a command line. -/
inductive Argument where
  | switch (s : Switch)
  | setting (s : Setting) (value : String)
  | operand (value : String)
deriving DecidableEq

namespace OptionTable

/-- What options of one argument say, and the setting that waits for its value. -/
abbrev Options := List Argument × Option Setting

/-- Reads a long option, from behind its dashes on. -/
def readLong (t : OptionTable) (cs : List Char) : Option Options :=
  let name := String.ofList (cs.takeWhile (· ≠ '='))
  match t.switches.find? fun s => s.name = name, t.settings.find? fun s => s.name = name,
      cs.dropWhile (· ≠ '=') with
  | some s, _, [] => some ([.switch s], none)
  | none, some s, [] => some ([], some s)
  | none, some s, _ :: value => some ([.setting s (String.ofList value)], none)
  | _, _, _ => none

/-- Reads short options, from behind their dash on.  The value of a setting may follow its letter. -/
def readShort (t : OptionTable) : List Char → Option Options
  | [] => some ([], none)
  | c :: cs =>
    match t.switches.find? fun s => s.letter? = some c,
        t.settings.find? fun s => s.letter? = some c with
    | some s, _ => (readShort t cs).map fun o => (.switch s :: o.1, o.2)
    | none, some s =>
      match cs with
      | [] => some ([], some s)
      | '=' :: value => some ([.setting s (String.ofList value)], none)
      | value => some ([.setting s (String.ofList value)], none)
    | none, none => none

/-- Reads an argument that starts with a dash. -/
def readOptions (t : OptionTable) (arg : String) : Option Options :=
  match arg.toList with
  | '-' :: '-' :: cs => t.readLong cs
  | '-' :: cs => t.readShort cs
  | _ => none

end OptionTable

/-- Does an argument hold options? -/
def isOption (arg : String) : Bool :=
  match arg.toList with
  | '-' :: _ :: _ => true
  | _ => false

/-- Takes the arguments of a command apart, if they are its options and operands. -/
def Argument.readAll (t : OptionTable) : List String → Option (List Argument)
  | [] => some []
  | arg :: rest =>
    if arg = "--" then some (rest.map .operand)
    else if isOption arg then
      match t.readOptions arg, rest with
      | some (before, none), rest => (readAll t rest).map (before ++ ·)
      | some (before, some s), value :: rest =>
        if isOption value then none
        else (readAll t rest).map (before ++ .setting s value :: ·)
      | _, _ => none
    else (readAll t rest).map (.operand arg :: ·)

/-! ## Commands -/

/-- The operands among arguments. -/
def Argument.operands (args : List Argument) : List String :=
  args.filterMap fun
    | .operand v => some v
    | _ => none

/-- The values a setting is given. -/
def Argument.values (s : Setting) (args : List Argument) : List String :=
  args.filterMap fun
    | .setting s' v => if s' = s then some v else none
    | _ => none

/-- The only value of a setting, if it has one; it may not be given twice. -/
def Argument.value (s : Setting) (args : List Argument) : Option (Option String) :=
  match values s args with
  | [] => some none
  | [v] => some (some v)
  | _ => none

/-- The path of a setting, which is not empty. -/
def Argument.path (s : Setting) (args : List Argument) : Option (Option String) :=
  (value s args).filter (· ≠ some "")

/-- A year as it is written, perhaps with a sign. -/
def Argument.readYear (s : String) : Option Int :=
  let (negative, digits) := match s.toList with
    | '-' :: cs => (true, cs)
    | '+' :: cs => (false, cs)
    | cs => (false, cs)
  if digits.isEmpty || !digits.all Char.isDigit then none
  else year? negative (Text.valueOf digits)

/-- The year among arguments. -/
def Argument.year (args : List Argument) : Option (Option Int) :=
  match value .year args with
  | some (some v) => (readYear v).map some
  | some none => some none
  | none => none

/-- How often `-v` stands among arguments. -/
def Argument.verbosity (args : List Argument) : Nat := args.count (.switch .verbose)

namespace Command

/-- A command that `-v` is given for `before` times before its name, and among these arguments. -/
def ofArguments (before : Nat) (args : List Argument) (action : Action) : Command :=
  ⟨if Argument.verbosity args = 0 then before else Argument.verbosity args, action⟩

/-- Reads the arguments of a rendering. -/
def readRender (before : Nat) (args : List String) : Option Command := do
  let args ← Argument.readAll .render args
  let [template] := Argument.operands args | none
  let switches := args.filter (· = .switch .noScripts)
  if 1 < switches.length then none
  else
    some (ofArguments before args (.render
      { template := template
        theme := ← Argument.path .theme args
        config := ← Argument.path .config args
        out := ← Argument.path .out args
        title := ← Argument.value .title args
        year := ← Argument.year args
        noScripts := !switches.isEmpty }))

/-- Reads the arguments of a check. -/
def readCheck (before : Nat) (args : List String) : Option Command := do
  let args ← Argument.readAll .general args
  let templates := Argument.operands args
  if templates.isEmpty then none else some (ofArguments before args (.check templates))

/-- Reads a command line from some place on, before which `-v` is given `before` times. -/
def readFrom (before : Nat) : List String → Option Command
  | [] => none
  | arg :: rest =>
    if arg = "render" then readRender before rest
    else if arg = "check" then readCheck before rest
    else if isOption arg then
      match OptionTable.general.readOptions arg with
      | some (options, _) => readFrom (before + Argument.verbosity options) rest
      | none => none
    else none

/-- Reads a command line.  There is no command if the line is not one. -/
def read? (args : List String) : Option Command := readFrom 0 args

/-- How the commands are used. -/
def usage : String :=
  "Usage: bulletin [-v]... render <TEMPLATE> [--theme <PATH>] [--config <PATH>] [-o <PATH>]\n" ++
  "                [--title <TITLE>] [--year <YEAR>] [--no-scripts]\n" ++
  "       bulletin [-v]... check <TEMPLATE>...\n"

end Command

end Bulletin
