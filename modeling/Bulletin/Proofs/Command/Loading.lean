import Bulletin.Proofs.Command.Files

/-!
# What commands load

On a `World`, reading a file changes nothing, and reading the input uses it up.  So what a command
loads is a function of the world, given here for every loader on its own: `World.template` for
`loadTemplate`, `themeOf` for `loadTheme` and `optionsOf` for `loadOptions`.  What the log has on
loading a template is one too, `World.loadingEvents`.

## Main statements

- `run_loadTemplate`: the template of an operand, and the events of loading it
- `run_loadTheme`, `run_loadOptions`: a theme and options from files
- `run_logLines`: the lines of the log for events, which are `World.logText`
-/

namespace Bulletin

namespace World

/-- The text of a file. -/
def fileText (w : World) (path : String) : Except Failure String :=
  (w.files.read path).mapError (.file path)

/-- The text that an operand stands for: a file's, or the input for a dash. -/
def source (w : World) (operand : String) : Except Failure String :=
  if operand = "-" then w.input.mapError (.file "<stdin>") else w.fileText operand

/-- What is left when the text of an operand has been read. -/
def afterReading (w : World) (operand : String) : World :=
  if operand = "-" then { w with input := .ok "" } else w

/-- The lines that the log of a world has for events, one after another. -/
def logText (w : World) (least : LogLevel) (events : List LogEvent) : String :=
  String.join (events.map (w.log.line least))

/-- `logText` keeps the lines in the order of their events. -/
theorem logText_append (w : World) (least : LogLevel) (events events' : List LogEvent) :
    w.logText least (events ++ events') = w.logText least events ++ w.logText least events' := by
  rw [logText, List.map_append, String.join_append, logText, logText]

section AfterReading

variable (w : World) (operand : String)

/-- `afterReading` leaves the files as they are. -/
@[simp] theorem files_afterReading : (w.afterReading operand).files = w.files := by
  unfold afterReading
  split <;> rfl

/-- `afterReading` leaves the year as it is. -/
@[simp] theorem year_afterReading : (w.afterReading operand).year = w.year := by
  unfold afterReading
  split <;> rfl

/-- `afterReading` has no influence on what the output takes. -/
@[simp] theorem outputError_afterReading :
    (w.afterReading operand).outputError = w.outputError := by
  unfold afterReading
  split <;> rfl

/-- `afterReading` leaves the texts of files as they are. -/
@[simp] theorem fileText_afterReading (path : String) :
    (w.afterReading operand).fileText path = w.fileText path := by
  rw [fileText, fileText, files_afterReading]

/-- `afterReading` leaves the log as it is. -/
@[simp] theorem logText_afterReading (least : LogLevel) (events : List LogEvent) :
    (w.afterReading operand).logText least events = w.logText least events := by
  unfold afterReading
  split <;> rfl

/-- `afterReading` leaves the YAML library as it is. -/
@[simp] theorem yamlWording_afterReading :
    (w.afterReading operand).yamlWording = w.yamlWording := by
  unfold afterReading
  split <;> rfl

end AfterReading

end World

/-- The template that a text holds. -/
def templateOf (text : String) : Except Failure Template :=
  (Template.read text).mapError .template

/-- `Template.loadingEvents` are none for a text that holds no template. -/
theorem loadingEvents_eq_nil_of_error {text : String} {f : Failure}
    (h : templateOf text = .error f) : Template.loadingEvents text = [] := by
  unfold templateOf Template.read at h
  unfold Template.loadingEvents
  cases hparse : Json.parse text with
  | error e => rfl
  | ok value =>
    rw [hparse] at h
    -- A value that `Template.ofJson` refuses has no list of blocks to go through.
    cases value with
    | array items => cases h
    | object ms =>
      simp only [Template.ofJson, Template.decodingEvents] at h ⊢
      cases hblocks : ms.lookup "blocks" with
      | none => rfl
      | some blocks =>
        rw [hblocks] at h
        cases blocks with
        | array items => cases h
        | _ => rfl
    | _ => rfl

namespace World

/-- The template that an operand stands for. -/
def template (w : World) (operand : String) : Except Failure Template :=
  (w.source operand).bind templateOf

/-- The events of loading the template of an operand. -/
def loadingEvents (w : World) (operand : String) : List LogEvent :=
  match w.source operand with
  | .ok text => Template.loadingEvents text
  | .error _ => []

/-- `World.loadingEvents` are none for a template that is not loaded. -/
theorem loadingEvents_eq_nil {w : World} {operand : String} {f : Failure}
    (h : w.template operand = .error f) : w.loadingEvents operand = [] := by
  unfold template at h
  unfold loadingEvents
  cases hsource : w.source operand with
  | error e => rfl
  | ok text =>
    rw [hsource] at h
    exact loadingEvents_eq_nil_of_error h

end World

/-- The theme that the text of a file holds, by the name of the file. -/
def themeOf (w : World) (path text : String) : Except Failure Theme :=
  if isJsonPath path then (Theme.read text).mapError .theme
  else (Theme.readYaml text).mapError fun e => .yaml e (w.yamlWording .theme text)

/-- The options that a text holds. -/
def optionsOf (w : World) (text : String) : Except Failure RenderOptions :=
  (RenderOptions.read text).mapError fun e => .yaml e (w.yamlWording .options text)

/-! ## Runs -/

/-- What a computation that may fail comes to on a world, and what it leaves of the world. -/
def runOn {ε α : Type} (x : ExceptT ε (StateM World) α) (w : World) : Except ε α × World :=
  x.run.run w

section Runs

variable {ε α β : Type}

/-- `x >>= f` goes on with what `x` comes to. -/
theorem run_bind_of_run_eq {x : StateM World α} {f : α → StateM World β} {a : α} {w w' : World}
    (h : x.run w = ((a, w') : α × World)) : (x >>= f).run w = (f a).run w' := by
  rw [StateT.run_bind, h]
  rfl

variable {x : ExceptT ε (StateM World) α}

/-- `runOn` of `x >>= f` goes on with what `x` comes to, and stops at its failure. -/
theorem runOn_bind (f : α → ExceptT ε (StateM World) β) (w : World) :
    runOn (x >>= f) w =
      match runOn x w with
      | (.ok a, w') => runOn (f a) w'
      | (.error e, w') => (.error e, w') := by
  unfold runOn
  rw [ExceptT.run_bind, StateT.run_bind]
  rcases x.run.run w with ⟨r, w'⟩
  cases r <;> rfl

/-- `runOn` of a result that is there already leaves the world as it is. -/
@[simp] theorem runOn_except (r : Except ε α) (w : World) :
    runOn (liftM r : ExceptT ε (StateM World) α) w = (r, w) := rfl

/-- `runOn` goes on with the answer of the machine. -/
theorem runOn_lift_bind {y : StateM World α} {a : α} {w w' : World}
    (h : y.run w = ((a, w') : α × World)) (f : α → ExceptT ε (StateM World) β) :
    runOn ((liftM y : ExceptT ε (StateM World) α) >>= f) w = runOn (f a) w' := by
  have hlift : runOn (liftM y : ExceptT ε (StateM World) α) w =
      ((.ok (y.run w).1, (y.run w).2) : Except ε α × World) := rfl
  rw [runOn_bind, hlift, h]

/-- `runOn` of something that may be loaded goes on with what is loaded, or else with the default.
-/
theorem runOn_match {path? : Option String}
    {load : String → ExceptT ε (StateM World) α} {default : α} {w : World}
    {r : Except ε α} (f : α → ExceptT ε (StateM World) β) :
    (∀ path, path? = some path → runOn (load path) w = (r, w)) →
    (path? = none → r = .ok default) →
    runOn
        (match path? with
        | some path => load path >>= f
        | none => pure default >>= f) w =
      match r with
      | .ok a => runOn (f a) w
      | .error e => (.error e, w) := by
  intro hload hdefault
  -- Nothing is run for the default.
  cases path? with
  | none =>
    obtain rfl := hdefault rfl
    rfl
  | some path =>
    refine (runOn_bind f w).trans ?_
    rw [hload path rfl]
    cases r <;> rfl

end Runs

/-- `readPath` comes to the text of the file. -/
theorem run_readPath (path : String) (w : World) :
    runOn (readPath path) w = (w.fileText path, w) := by
  have hread : (Machine.readFile path : StateM World _).run w =
      ((w.files.read path, w) : Except FileError String × World) := rfl
  rw [readPath, runOn_lift_bind hread, World.fileText]
  cases w.files.read path <;> rfl

/-- `readStandardInput` comes to what the input holds, and uses it up. -/
theorem run_readStandardInput (w : World) :
    runOn readStandardInput w =
      (w.input.mapError (.file "<stdin>"), { w with input := .ok "" }) := by
  have hread : (Machine.readInput : StateM World _).run w =
      ((w.input, { w with input := .ok "" }) : Except FileError String × World) := rfl
  rw [readStandardInput, runOn_lift_bind hread]
  cases w.input <;> rfl

/-- `Machine.writeOutput` is refused for the reason that the world has for that, if it has one. -/
theorem run_writeOutput (text : String) (w : World) :
    (Machine.writeOutput text : StateM World _).run w =
      ((w.outputError.elim (.ok ()) .error, w) : Except FileError Unit × World) := by
  obtain ⟨files, input, year, outputError, log, yamlWording, lastWords⟩ := w
  cases outputError <;> rfl

/-- `logLines` comes to the lines of the events, and changes nothing. -/
theorem run_logLines (least : LogLevel) (events : List LogEvent) (w : World) :
    (logLines least events : StateM World String).run w =
      ((w.logText least events, w) : String × World) := by
  induction events with
  | nil => rfl
  | cons e events ih =>
    have hline : (Machine.logLine least e : StateM World String).run w =
        ((w.log.line least e, w) : String × World) := rfl
    rw [logLines, run_bind_of_run_eq hline, run_bind_of_run_eq ih]
    simp only [World.logText, List.map_cons, String.join_cons]
    rfl

/-- `loadTemplate` reads the template of an operand from its text, with the events of that. -/
theorem run_loadTemplate (operand : String) (w : World) :
    runOn (loadTemplate operand) w =
      ((w.template operand).map fun t => (t, w.loadingEvents operand),
        w.afterReading operand) := by
  -- What is done with the text does not depend on where it comes from.
  have htext (text : String) (w' : World) :
      runOn ((Template.read text).mapError Failure.template >>= fun t =>
          pure (t, Template.loadingEvents text) : ExceptT Failure (StateM World) _) w' =
        ((templateOf text).map fun t => (t, Template.loadingEvents text), w') := by
    unfold templateOf
    cases Template.read text <;> rfl
  unfold loadTemplate World.template World.loadingEvents World.source World.afterReading
  -- A dash stands for the input, which is used up.
  split
  · rw [runOn_bind, run_readStandardInput]
    cases w.input with
    | error e => rfl
    | ok text => exact htext text _
  · rw [runOn_bind, run_readPath]
    cases w.fileText operand with
    | error e => rfl
    | ok text => exact htext text _

/-- `orYamlFailure` words a failure as the world does. -/
theorem run_orYamlFailure {α : Type} (target : YamlTarget) (text : String)
    (r : Except Yaml.YamlError α) (w : World) :
    runOn (orYamlFailure target text r) w =
      (r.mapError fun e => .yaml e (w.yamlWording target text), w) := by
  cases r <;> rfl

/-- `loadTheme` reads a theme from the text of its file. -/
theorem run_loadTheme (path : String) (w : World) :
    runOn (loadTheme path) w = ((w.fileText path).bind (themeOf w path), w) := by
  rw [loadTheme, runOn_bind, run_readPath]
  cases w.fileText path with
  | error e => rfl
  | ok text =>
    -- The name of the file decides which of the two notations it is read in.
    by_cases hjson : isJsonPath path = true <;>
      simp [themeOf, Except.bind, hjson, run_orYamlFailure]

/-- `loadOptions` reads options from the text of their file. -/
theorem run_loadOptions (path : String) (w : World) :
    runOn (loadOptions path) w = ((w.fileText path).bind (optionsOf w), w) := by
  rw [loadOptions, runOn_bind, run_readPath]
  cases w.fileText path with
  | error e => rfl
  | ok text => exact run_orYamlFailure .options text _ w

end Bulletin
