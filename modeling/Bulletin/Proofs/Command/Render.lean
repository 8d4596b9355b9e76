import Bulletin.Proofs.Command.Loading
import Bulletin.Proofs.Json.Printed
import Bulletin.Proofs.Yaml.Options

/-!
# Renderings are all or nothing

A rendering goes through seven steps that may fail, some of them only if the command line asks for
them.  The first step that fails decides over the report, and nothing is changed then.  Otherwise
the document is that of the template, in the theme and with the options that the command line asks
for, and goes either to the output or to the one file that is written.

Whatever happens, the lines of the log stand first on the stream of errors: those about a template
that is loaded, and those about a document that is drawn.  So a failure is not all that this stream
shows, unless nothing was logged.

## Main statements

- `run_render`: what `RenderCommand.run` comes to on a world
- `RenderCommand.failureOf?_drawn`: why there is nothing to draw
- `RenderCommand.delivers_delivered`, `RenderCommand.comesTo_result`: what can become of a document
  and of a rendering
- `render_all_or_nothing`: the report and the files, whether a step fails or not
- `render_report_behind_log`: a run whose reason of failure is not all that stands on the stream of
  errors, and one whose document goes to the output although there is a file to write
-/

namespace Bulletin

/-- `failureOf?` of a computation in two parts is that of the first, or else that of the second. -/
theorem failureOf?_bind {ε α β : Type} (x : Except ε α) (f : α → Except ε β) :
    failureOf? (x.bind f) = (failureOf? x).or (x.toOption.bind fun a => failureOf? (f a)) := by
  cases x <;> rfl

/-- `failureOf?` does not look at what a computation comes to. -/
@[simp] theorem failureOf?_map {ε α β : Type} (x : Except ε α) (f : α → β) :
    failureOf? (x.map f) = failureOf? x := by
  cases x <;> rfl

/-- `Except.bind` comes to something if both parts do. -/
theorem exists_of_bind_eq_ok {ε α β : Type} {x : Except ε α} {f : α → Except ε β} {b : β}
    (h : x.bind f = .ok b) : ∃ a, x = .ok a ∧ f a = .ok b := by
  cases x with
  | error e => cases h
  | ok a => exact ⟨a, rfl, h⟩

/-- `List.findSome?` asks the first item before the others. -/
theorem findSome?_cons_eq_or {α β : Type} (f : α → Option β) (x : α) (xs : List α) :
    (x :: xs).findSome? f = (f x).or (xs.findSome? f) := by
  rw [List.findSome?_cons]
  cases f x <;> rfl

/-- The steps of a rendering that may fail, in order. -/
inductive RenderStep where
  | readTemplate
  | parseTemplate
  | readTheme
  | parseTheme
  | readOptions
  | parseOptions
  | writeOutput
deriving DecidableEq

namespace RenderStep

/-- All steps, in order. -/
def all : List RenderStep :=
  [.readTemplate, .parseTemplate, .readTheme, .parseTheme, .readOptions, .parseOptions,
    .writeOutput]

/-- Why a step fails on a world, if it does.  Each step is looked at on its own: a text that is not
there is not parsed, and what the command line leaves out cannot fail. -/
def failure? (c : RenderCommand) (w : World) : RenderStep → Option Failure
  | .readTemplate => failureOf? (w.source c.template)
  | .parseTemplate => (w.source c.template).toOption.bind fun text => failureOf? (templateOf text)
  | .readTheme => c.theme.bind fun path => failureOf? (w.fileText path)
  | .parseTheme =>
    c.theme.bind fun path =>
      (w.fileText path).toOption.bind fun text => failureOf? (themeOf w path text)
  | .readOptions => c.config.bind fun path => failureOf? (w.fileText path)
  | .parseOptions =>
    c.config.bind fun path =>
      (w.fileText path).toOption.bind fun text => failureOf? (optionsOf w text)
  | .writeOutput =>
    match c.out with
    | none => w.outputError.map (.file "<stdout>")
    | some path =>
      if w.files.isOutput path then w.outputError.map (.file path)
      -- Whether a file can be written does not depend on the text.
      else (failureOf? (w.files.write path "")).map (.file path)

end RenderStep

namespace RenderCommand

/-- The theme that a rendering is given instead of that of its template. -/
def themeFor (c : RenderCommand) (w : World) (t : Template) : Except Failure Theme :=
  match c.theme with
  | some path => (w.fileText path).bind (themeOf w path)
  | none => .ok t.theme

/-- The options that a rendering starts from. -/
def optionsFor (c : RenderCommand) (w : World) : Except Failure RenderOptions :=
  match c.config with
  | some path => (w.fileText path).bind (optionsOf w)
  | none => .ok .standard

/-- What `setUp` makes of a template: the template in its theme, and the options to draw it with. -/
def choices (c : RenderCommand) (w : World) (t : Template) :
    Except Failure (Template × RenderOptions) :=
  (c.themeFor w t).bind fun theme =>
    (c.optionsFor w).map fun o => ({ t with theme := theme }, c.override o)

/-- What a rendering draws, if everything that goes into it can be loaded. -/
def drawn (c : RenderCommand) (w : World) : Except Failure (Template × RenderOptions) :=
  (w.template c.template).bind (c.choices w)

/-- What becomes of a document: what the output gets of it, and the world behind that. -/
def delivered (c : RenderCommand) (w : World) (html : String) : Except Failure String × World :=
  match c.out with
  | none =>
    match w.outputError with
    | none => (.ok html, w)
    | some e => (.error (.file "<stdout>" e), w)
  | some path => ((w.writeFile path html).1.mapError (.file path), (w.writeFile path html).2)

/-- What a rendering comes to, and what it leaves of the world. -/
def result (c : RenderCommand) (w : World) : Except Failure String × World :=
  match c.drawn w with
  | .ok (t, o) => c.delivered (w.afterReading c.template) (t.render o w.year)
  | .error f => (.error f, w.afterReading c.template)

/-- What a rendering tells the log: what there is to tell about its template, and then about its
document if there is one. -/
def eventsOn (c : RenderCommand) (w : World) : List LogEvent :=
  w.loadingEvents c.template ++
    match c.drawn w with
    | .ok (t, o) => c.drawingEvents t o w.year
    | .error _ => []

/-! ## Runs -/

/-- `setUp` loads the theme and the options that are asked for, and changes nothing. -/
theorem run_setUp (c : RenderCommand) (w : World) (t : Template) :
    runOn (c.setUp t) w = (c.choices w t, w) := by
  rw [setUp, choices]
  refine (runOn_match (r := c.themeFor w t) _ ?_ ?_).trans ?_
  · intro path hpath
    rw [run_loadTheme, themeFor, hpath]
  · intro hpath
    rw [themeFor, hpath]
  -- With the theme at hand, the options are loaded in the same way.
  cases c.themeFor w t with
  | error f => rfl
  | ok theme =>
    refine (runOn_match (r := c.optionsFor w) _ ?_ ?_).trans ?_
    · intro path hpath
      rw [run_loadOptions, optionsFor, hpath]
    · intro hpath
      rw [optionsFor, hpath]
    cases c.optionsFor w <;> rfl

/-- `setUp` makes the same choices when the template has been read. -/
@[simp] theorem choices_afterReading (c : RenderCommand) (w : World) (operand : String)
    (t : Template) : c.choices (w.afterReading operand) t = c.choices w t := by
  have htheme (path : String) : themeOf (w.afterReading operand) path = themeOf w path := by
    funext text
    rw [themeOf, themeOf, World.yamlWording_afterReading]
  have hoptions : optionsOf (w.afterReading operand) = optionsOf w := by
    funext text
    rw [optionsOf, optionsOf, World.yamlWording_afterReading]
  simp only [choices, themeFor, optionsFor, World.fileText_afterReading, htheme, hoptions]

/-- `deliver` comes to `delivered`. -/
theorem run_deliver (c : RenderCommand) (w : World) (html : String) :
    runOn (c.deliver html) w = c.delivered w html := by
  unfold deliver delivered
  cases c.out with
  | none =>
    refine (runOn_lift_bind (run_writeOutput html w) _).trans ?_
    cases w.outputError <;> rfl
  | some path =>
    rcases hwritten : w.writeFile path html with ⟨r, w'⟩
    have hwrite : (Machine.writeFile path html : StateM World _).run w =
        ((r, w') : Except FileError String × World) := hwritten
    refine (runOn_lift_bind hwrite _).trans ?_
    dsimp only
    rw [hwritten]
    cases r <;> rfl

end RenderCommand

/-- The report on a rendering that comes to a text for the output, or fails. -/
def renderReport : Except Failure String → Report
  | .ok output => ⟨0, output, ""⟩
  | .error f => .failed f

/-- `RenderCommand.run` reports the lines of the log, and behind them what `result` comes to. -/
theorem run_render (least : LogLevel) (c : RenderCommand) (w : World) :
    (c.run least : StateM World Report).run w =
      ((.behind (w.logText least (c.eventsOn w)) (renderReport (c.result w).1), (c.result w).2) :
        Report × World) := by
  unfold RenderCommand.run RenderCommand.eventsOn RenderCommand.result RenderCommand.drawn
  refine (run_bind_of_run_eq (run_loadTemplate c.template w)).trans ?_
  cases htemplate : w.template c.template with
  | error f =>
    -- Nothing is told about a template that is not loaded.
    rw [World.loadingEvents_eq_nil htemplate]
    rfl
  | ok t =>
    -- The template is loaded, and its events stand in the log whatever follows.
    refine (run_bind_of_run_eq (run_logLines _ _ _)).trans ?_
    refine (run_bind_of_run_eq (c.run_setUp _ t)).trans ?_
    rw [c.choices_afterReading, w.logText_afterReading]
    simp only [Except.bind]
    cases c.choices w t with
    | error f =>
      rw [List.append_nil]
      rfl
    | ok r =>
      obtain ⟨t, o⟩ := r
      have hyear : (Machine.currentYear : StateM World Int).run (w.afterReading c.template) =
          ((w.year, w.afterReading c.template) : Int × World) := by
        rw [← w.year_afterReading c.template]
        rfl
      refine (run_bind_of_run_eq hyear).trans ?_
      refine (run_bind_of_run_eq (run_logLines _ _ _)).trans ?_
      -- Both parts of the log are written when the document is delivered.
      rcases hdelivered : c.delivered (w.afterReading c.template) (t.render o w.year) with ⟨r, w'⟩
      refine (run_bind_of_run_eq ((c.run_deliver _ _).trans hdelivered)).trans ?_
      rw [w.logText_append, w.logText_afterReading]
      dsimp only
      rw [hdelivered]
      cases r <;> rfl

namespace RenderCommand

/-! ## The first failure -/

/-- `failureOf?` of a file that may be left out is that of reading it, or else that of parsing it.
-/
theorem failureOf?_match {α : Type} (path? : Option String) (w : World)
    (parse : String → String → Except Failure α) (default : α) :
    failureOf? (match path? with
      | some path => (w.fileText path).bind (parse path)
      | none => .ok default) =
    (path?.bind fun path => failureOf? (w.fileText path)).or
      (path?.bind fun path =>
        (w.fileText path).toOption.bind fun text => failureOf? (parse path text)) := by
  cases path? with
  | none => rfl
  | some path => exact failureOf?_bind _ _

/-- `drawn` fails if a step before the last one fails, for the reason of the first. -/
theorem failureOf?_drawn (c : RenderCommand) (w : World) :
    failureOf? (c.drawn w) =
      [RenderStep.readTemplate, .parseTemplate, .readTheme, .parseTheme, .readOptions,
        .parseOptions].findSome? (RenderStep.failure? c w) := by
  have htemplate : failureOf? (w.template c.template) =
      (RenderStep.failure? c w .readTemplate).or (RenderStep.failure? c w .parseTemplate) :=
    failureOf?_bind (w.source c.template) templateOf
  have htheme : ∀ t, failureOf? (c.themeFor w t) =
      (RenderStep.failure? c w .readTheme).or (RenderStep.failure? c w .parseTheme) := fun t =>
    failureOf?_match c.theme w (themeOf w) t.theme
  have hoptions : failureOf? (c.optionsFor w) =
      (RenderStep.failure? c w .readOptions).or (RenderStep.failure? c w .parseOptions) :=
    failureOf?_match c.config w (fun _ => optionsOf w) .standard
  -- The steps come in pairs, and the template itself has no say in how the theme fails.
  have hsteps : [RenderStep.readTemplate, .parseTemplate, .readTheme, .parseTheme, .readOptions,
      .parseOptions].findSome? (RenderStep.failure? c w) =
      (failureOf? (w.template c.template)).or
        (((RenderStep.failure? c w .readTheme).or (RenderStep.failure? c w .parseTheme)).or
          (failureOf? (c.optionsFor w))) := by
    simp only [findSome?_cons_eq_or, List.findSome?_nil, Option.or_none, htemplate, hoptions,
      Option.or_assoc]
  rw [hsteps, drawn]
  cases w.template c.template with
  | error f => rfl
  | ok t =>
    rw [← htheme t]
    change failureOf? ((c.themeFor w t).bind _) = (failureOf? (c.themeFor w t)).or _
    cases c.themeFor w t with
    | error f => rfl
    | ok theme => exact failureOf?_map _ _

/-- The options that a rendering starts from: what the text of its file says, or the usual ones if
no file is given. -/
inductive StartsFrom (c : RenderCommand) (w : World) : RenderOptions → Prop
  | config {path text : String} {o : RenderOptions} (h : c.config = some path)
      (hread : w.files.read path = .ok text) (ho : RenderOptions.Says text o) : StartsFrom c w o
  | standard (h : c.config = none) : StartsFrom c w ⟨"Newsletter", none, 600, true, none⟩

/-- `optionsFor` comes to the options that the rendering `StartsFrom`. -/
theorem startsFrom_of_optionsFor_eq_ok {c : RenderCommand} {w : World} {o : RenderOptions}
    (h : c.optionsFor w = .ok o) : c.StartsFrom w o := by
  unfold optionsFor at h
  cases hconfig : c.config with
  | none =>
    rw [hconfig] at h
    cases h
    exact .standard hconfig
  | some path =>
    rw [hconfig] at h
    obtain ⟨text, htext, ho⟩ := exists_of_bind_eq_ok h
    have hread : w.files.read path = .ok text := mapError_eq_ok_iff.1 htext
    have hoptions : RenderOptions.read text = .ok o := mapError_eq_ok_iff.1 ho
    exact .config hconfig hread ((RenderOptions.read_eq_ok_iff text o).1 hoptions)

/-- `drawn` comes to what was loaded. -/
theorem drawn_eq_ok {c : RenderCommand} {w : World} {t' : Template} {o' : RenderOptions}
    (h : c.drawn w = .ok (t', o')) :
    ∃ t theme o, w.template c.template = .ok t ∧ c.themeFor w t = .ok theme ∧
      c.StartsFrom w o ∧ t' = { t with theme := theme } ∧ o' = c.override o := by
  obtain ⟨t, ht, h⟩ := exists_of_bind_eq_ok h
  obtain ⟨theme, htheme, h⟩ := exists_of_bind_eq_ok h
  cases ho : c.optionsFor w with
  | error f =>
    rw [ho] at h
    cases h
  | ok o =>
    rw [ho] at h
    cases h
    exact ⟨t, theme, o, ht, htheme, startsFrom_of_optionsFor_eq_ok ho, rfl, rfl⟩

/-! ## The output -/

/-- `writeOutput` fails for the same reason when an operand has been read. -/
@[simp] theorem failure?_writeOutput_afterReading (c : RenderCommand) (w : World)
    (operand : String) :
    RenderStep.failure? c (w.afterReading operand) .writeOutput =
      RenderStep.failure? c w .writeOutput := by
  simp only [RenderStep.failure?, w.outputError_afterReading, w.files_afterReading]

/-- What can become of a document: the output gets it, or a file does, or neither. -/
inductive Delivers (c : RenderCommand) (w : World) (html : String) :
    Except Failure String → World → Prop
  | printed (hnone : RenderStep.failure? c w .writeOutput = none)
      (hout : ∀ path, c.out = some path → w.files.isOutput path = true) :
      Delivers c w html (.ok html) w
  | written {path : String} {files : FileTree}
      (hnone : RenderStep.failure? c w .writeOutput = none) (hout : c.out = some path)
      (hfile : w.files.isOutput path = false) (hreplaces : w.files.Replaces files path html) :
      Delivers c w html (.ok "") { w with files := files }
  | failed {f : Failure} (hsome : RenderStep.failure? c w .writeOutput = some f) :
      Delivers c w html (.error f) w

/-- `delivered` is one of the things that can become of a document. -/
theorem delivers_delivered (c : RenderCommand) (w : World) (html : String) :
    c.Delivers w html (c.delivered w html).1 (c.delivered w html).2 := by
  unfold delivered
  cases hout : c.out with
  | none =>
    cases houtput : w.outputError with
    | none => exact .printed (by simp [RenderStep.failure?, hout, houtput]) (by simp [hout])
    | some e => exact .failed (by simp [RenderStep.failure?, hout, houtput])
  | some path =>
    dsimp only
    unfold World.writeFile
    -- A device of the output takes a document as the output does, and any other file is written.
    cases hdevice : w.files.isOutput path with
    | true =>
      rw [if_pos rfl]
      cases houtput : w.outputError with
      | none =>
        refine .printed (by simp [RenderStep.failure?, hout, hdevice, houtput]) ?_
        rintro path' hpath
        rwa [← Option.some.inj (hout.symm.trans hpath)]
      | some e => exact .failed (by simp [RenderStep.failure?, hout, hdevice, houtput])
    | false =>
      rw [if_neg Bool.false_ne_true]
      have hfailure : RenderStep.failure? c w .writeOutput =
          (failureOf? (w.files.write path html)).map (.file path) := by
        simp [RenderStep.failure?, hout, hdevice, FileTree.failureOf?_write _ _ html ""]
      cases hwrite : w.files.write path html with
      | error e => exact .failed (by rw [hfailure, hwrite]; rfl)
      | ok files =>
        exact .written (by rw [hfailure, hwrite]; rfl) hout hdevice
          (FileTree.replaces_of_write hwrite)

/-! ## The outcome -/

/-- What a rendering can come to: the first step that fails, with the files as they are, or else the
document of what is loaded, which is delivered. -/
inductive ComesTo (c : RenderCommand) (w : World) : Except Failure String → World → Prop
  | failed {f : Failure} {w' : World}
      (hsome : RenderStep.all.findSome? (RenderStep.failure? c w) = some f)
      (hfiles : w'.files = w.files) : ComesTo c w (.error f) w'
  | drawn {t : Template} {theme : Theme} {o : RenderOptions} {output : String} {w' : World}
      (hnone : RenderStep.all.findSome? (RenderStep.failure? c w) = none)
      (ht : w.template c.template = .ok t) (htheme : c.themeFor w t = .ok theme)
      (ho : c.StartsFrom w o)
      (hdelivers : c.Delivers (w.afterReading c.template)
        (Template.render { t with theme := theme } (c.override o) w.year) (.ok output) w') :
      ComesTo c w (.ok output) w'

/-- `result` is one of the things that a rendering can come to. -/
theorem comesTo_result (c : RenderCommand) (w : World) :
    c.ComesTo w (c.result w).1 (c.result w).2 := by
  -- The last step is looked at on its own, since only it sees the document.
  have hsteps : RenderStep.all.findSome? (RenderStep.failure? c w) =
      (failureOf? (c.drawn w)).or (RenderStep.failure? c w .writeOutput) := by
    rw [c.failureOf?_drawn, RenderStep.all]
    simp only [findSome?_cons_eq_or, List.findSome?_nil, Option.or_none, Option.or_assoc]
  unfold result
  cases hdrawn : c.drawn w with
  | error f =>
    rw [hdrawn, failureOf?_error, Option.some_or] at hsteps
    exact .failed hsteps (w.files_afterReading c.template)
  | ok r =>
    obtain ⟨t', o'⟩ := r
    obtain ⟨t, theme, o, ht, htheme, ho, rfl, rfl⟩ := drawn_eq_ok hdrawn
    rw [hdrawn, failureOf?_ok, Option.none_or, ← c.failure?_writeOutput_afterReading w c.template]
      at hsteps
    have hdelivers := c.delivers_delivered (w.afterReading c.template)
      (Template.render { t with theme := theme } (c.override o) w.year)
    dsimp only
    generalize c.delivered _ _ = r at hdelivers
    obtain ⟨r, w'⟩ := r
    cases r with
    | error f =>
      cases hdelivers with
      | failed hsome => exact .failed (hsteps.trans hsome) (w.files_afterReading c.template)
    | ok output =>
      have hnone : RenderStep.all.findSome? (RenderStep.failure? c w) = none := by
        cases hdelivers with
        | printed hnone _ => exact hsteps.trans hnone
        | written hnone _ _ _ => exact hsteps.trans hnone
      exact .drawn hnone ht htheme ho hdelivers

end RenderCommand

/-! ## Reports -/

/-- What a command reports on a world. -/
def Command.report (c : Command) (w : World) : Report := ((c.run : StateM World Report).run w).1

/-- What a command leaves of a world. -/
def Command.worldAfter (c : Command) (w : World) : World := ((c.run : StateM World Report).run w).2

/-- `Command.report` of a rendering has the lines of the log, and then what it comes to. -/
theorem report_render (v : Nat) (c : RenderCommand) (w : World) :
    (Command.mk v (.render c)).report w =
      .behind (w.logText (.ofVerbosity v) (c.eventsOn w)) (renderReport (c.result w).1) :=
  congrArg Prod.fst (run_render (.ofVerbosity v) c w)

/-- `Command.worldAfter` of a rendering is what its result leaves. -/
theorem worldAfter_render (v : Nat) (c : RenderCommand) (w : World) :
    (Command.mk v (.render c)).worldAfter w = (c.result w).2 :=
  congrArg Prod.snd (run_render (.ofVerbosity v) c w)

/-- The first step that fails ends a rendering: its failure is reported behind the lines of the log,
the output gets nothing, and no file is changed.  If no step fails, the document is that of the
template, with the theme and the options that the command line asks for, and the lines of the log
are all that is reported.  Without a file to write, the document is all of the output, and so it is
if the file is a device of the output; any other file holds the document then, with no other change
and no output. -/
theorem render_all_or_nothing (v : Nat) (c : RenderCommand) (w : World) :
    let report := (Command.mk v (.render c)).report w
    let files := ((Command.mk v (.render c)).worldAfter w).files
    let log := w.logText (.ofVerbosity v) (c.eventsOn w)
    (∃ f, RenderStep.all.findSome? (RenderStep.failure? c w) = some f ∧
      report = ⟨1, "", log ++ ("✗ " ++ f.message ++ "\n")⟩ ∧ files = w.files) ∨
    (RenderStep.all.findSome? (RenderStep.failure? c w) = none ∧
      ∃ t theme o html, w.template c.template = .ok t ∧
        c.themeFor w t = .ok theme ∧ c.StartsFrom w o ∧
        html = Template.render { t with theme := theme }
          { o with
            title := c.title.getD o.title
            copyrightYear := c.year.or o.copyrightYear
            includeScripts := !c.noScripts && o.includeScripts } w.year ∧
        match c.out with
        | none => report = ⟨0, html, log⟩ ∧ files = w.files
        | some path =>
          (w.files.isOutput path = true → report = ⟨0, html, log⟩ ∧ files = w.files) ∧
          (w.files.isOutput path = false →
            report = ⟨0, "", log⟩ ∧ w.files.Replaces files path html)) := by
  intro report files log
  have hreport : report = .behind log (renderReport (c.result w).1) := report_render v c w
  have hfiles : files = (c.result w).2.files := congrArg World.files (worldAfter_render v c w)
  clear_value report files log
  -- The report and the files are those of one of the things that a rendering can come to.
  have hcomesTo := c.comesTo_result w
  generalize c.result w = r at hreport hfiles hcomesTo
  obtain ⟨r, w'⟩ := r
  cases hcomesTo with
  | failed hsome hsame => exact .inl ⟨_, hsome, hreport, hfiles.trans hsame⟩
  | drawn hnone ht htheme ho hdelivers =>
    refine .inr ⟨hnone, _, _, _, _, ht, htheme, ho, rfl, ?_⟩
    rw [renderReport, Report.behind, String.append_empty] at hreport
    cases hdelivers with
    | printed _ hout =>
      have hsame : files = w.files := hfiles.trans (w.files_afterReading c.template)
      rw [w.files_afterReading] at hout
      cases hpath : c.out with
      | none => exact ⟨hreport, hsame⟩
      | some path =>
        have hdevice := hout path hpath
        exact ⟨fun _ => ⟨hreport, hsame⟩, fun hfile => absurd hdevice (by simp [hfile])⟩
    | written _ hout hfile hreplaces =>
      rw [w.files_afterReading] at hfile hreplaces
      rw [hout]
      subst hfiles
      exact ⟨fun hdevice => absurd hfile (by simp [hdevice]), fun _ => ⟨hreport, hreplaces⟩⟩

/-- `Template.render` is never empty. -/
theorem Template.render_ne_empty (t : Template) (o : RenderOptions) (year : Int) :
    t.render o year ≠ "" := by
  intro h
  have hdoctype : "<!DOCTYPE html>\n" = "" := (String.append_eq_empty_iff.1 h).1
  exact absurd hdoctype (by decide)

/-- A failure may stand behind lines of the log, and then is not all that stands on the stream of
errors; and a document may go to the output although there is a file to write, if the file is a
device of the output. -/
theorem render_report_behind_log :
    let stamp := "2024-05-01T12:00:00Z"
    let w : World :=
      { files :=
          ⟨[(["t.json"], .text "[\x7b\"type\":\"quiz\",\"content\":\"oops\"\x7d]")]⟩
        input := .ok "", year := 2024
        log := ⟨none, stamp, LogEvent.compactLine⟩ }
    let c : RenderCommand := ⟨"t.json", some "missing.json", none, none, none, none, false⟩
    let errors := stamp ++ "  WARN block content has an unexpected shape, rendering it empty" ++
      " block_type=\"quiz\" error=invalid type: string \"oops\"," ++
      " expected struct QuizContent\n" ++
      "✗ I/O error on 'missing.json': No such file or directory (os error 2)\n"
    let device : World :=
      { files := .ofEntries [("t.json", .text "[]")], input := .ok "", year := 2024 }
    let toDevice : RenderCommand :=
      ⟨"t.json", none, none, some "/dev/stdout", none, none, false⟩
    (Command.read? ["render", "t.json", "--theme", "missing.json"] = some ⟨0, .render c⟩ ∧
      (Command.mk 0 (.render c)).report w = ⟨1, "", errors⟩ ∧
      ¬∃ f : Failure, errors = "✗ " ++ f.message ++ "\n") ∧
    (Command.read? ["render", "t.json", "--out", "/dev/stdout"] = some ⟨0, .render toDevice⟩ ∧
      ((Command.mk 0 (.render toDevice)).report device).exitCode = 0 ∧
      ((Command.mk 0 (.render toDevice)).report device).output ≠ "" ∧
      ((Command.mk 0 (.render toDevice)).worldAfter device).files = device.files) := by
  intro stamp w c errors device toDevice
  have hquiz : Json.parse "[\x7b\"type\":\"quiz\",\"content\":\"oops\"\x7d]" = .ok (.array
      [.object [("type", .string "quiz"), ("content", .string "oops")]]) := by
    -- The text is what the object prints as, between brackets.
    obtain ⟨rest, hobject, hrest⟩ := Json.printsAs_object (by decide : 1 < Json.depthLimit - 1)
      (.cons ⟨rfl, Json.printsAs_string _ "quiz"⟩
        (.cons ⟨rfl, Json.printsAs_string _ "oops"⟩ .nil) :
        Json.MembersPrintAs (Json.depthLimit - 1 - 1)
          [("type", .string "quiz"), ("content", .string "oops")] _) ']' [] rfl rfl
    exact Json.parse_eq_ok_iff.2
      ⟨[], .list (by decide) (by rfl) (.lastItem hobject hrest), rfl⟩
  have hnone : Json.parse "[]" = .ok (.array []) :=
    Json.parse_eq_ok_iff.2 ⟨[], .emptyList (by decide) (by rfl) (by rfl), rfl⟩
  refine ⟨⟨by rfl, ?_, ?_⟩, by rfl, ?_⟩
  · -- The content is told about before the theme is missing.
    have hsource : w.source "t.json" =
        .ok "[\x7b\"type\":\"quiz\",\"content\":\"oops\"\x7d]" := rfl
    have htemplate : w.template "t.json" =
        .ok ⟨.standard, [⟨"", .quiz ⟨none, []⟩, none⟩]⟩ := by
      rw [World.template, hsource, Except.bind, templateOf, Template.read, hquiz]
      rfl
    have hevents : w.loadingEvents "t.json" =
        [.contentEmptied "quiz" (.wrongShape (.string "oops") "QuizContent")] := by
      rw [World.loadingEvents, hsource]
      dsimp only
      rw [Template.loadingEvents, hquiz]
      rfl
    have hdrawn : c.drawn w = .error (.file "missing.json" .notFound) := by
      rw [RenderCommand.drawn, htemplate]
      rfl
    rw [report_render, RenderCommand.eventsOn, RenderCommand.result, hdrawn, hevents]
    decide +kernel
  · rintro ⟨f, hf⟩
    have hdigit : errors.toList.head? = some '2' := by
      simp only [errors, stamp, String.toList_append, List.head?_append]
      rfl
    have hcross : ("✗ " ++ f.message ++ "\n").toList.head? = some '✗' := by
      simp [String.toList_append]
    rw [hf, hcross] at hdigit
    cases hdigit
  · have hsource : device.source "t.json" = .ok "[]" := by rfl
    have htemplate : device.template "t.json" = .ok ⟨.standard, []⟩ := by
      rw [World.template, hsource, Except.bind, templateOf, Template.read, hnone]
      rfl
    -- A template without blocks is drawn, and the device of the output gets the document.
    have hdrawn : toDevice.drawn device =
        .ok (⟨.standard, []⟩, toDevice.override .standard) := by
      rw [RenderCommand.drawn, htemplate]
      rfl
    have hresult : toDevice.result device =
        (.ok (Template.render ⟨.standard, []⟩ (toDevice.override .standard) 2024), device) := by
      rw [RenderCommand.result, hdrawn]
      dsimp only
      rfl
    have hreport := report_render 0 toDevice device
    have hafter := worldAfter_render 0 toDevice device
    rw [hresult] at hreport hafter
    rw [hreport, hafter]
    exact ⟨rfl, Template.render_ne_empty _ _ _, rfl⟩

end Bulletin
