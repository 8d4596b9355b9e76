import Bulletin.Proofs.Command.Render
import Bulletin.Proofs.Json.Grammar
import Bulletin.Proofs.Lint.Drawing
import Bulletin.Proofs.Lint.Message
import Bulletin.Proofs.Lint.Verdict

/-!
# Checks of several templates

A check reports on each template as if it were the only one, since reading a file changes nothing
and the input is read at most once.  Its exit code tells whether any template is refused, wherever
that stands in the list.  What is not refused can be rendered, and nothing in it goes undrawn.

On the stream of errors the lines of the log about a template stand before what is reported on it.
All of this is so as long as the output takes what is printed.  If it does not, a check ends at the
first template that it has anything to print about.

## Main statements

- `run_checkTemplates`: `checkTemplates` is the checks of its templates
- `check_compositional`: reports, exit codes, and what they mean for renderings
- `exitCode_check_of_outputError`: how a check ends that cannot print
-/

namespace Bulletin

open Lint

/-! ## One template -/

/-- The report on one template, behind the lines of the log. -/
def templateReport (least : LogLevel) (w : World) (operand : String) : Report :=
  match w.template operand with
  | .ok t =>
    .behind (w.logText least (w.loadingEvents operand)) (lintReport operand (lint t.blocks))
  | .error f => unloadedReport operand f

/-- What `printReport` comes to: the report, unless the output is asked for something and does not
take it. -/
def World.printed (w : World) (r : Report) : Except Report Report :=
  match w.outputError with
  | none => .ok r
  | some e =>
    if r.output = "" then .ok r
    else .error ⟨Report.abortCode, "",
      r.errors ++ w.lastWords ("failed printing to stdout: " ++ e.message)⟩

/-- `World.printed` keeps every report if the output takes everything. -/
theorem World.printed_eq_ok {w : World} (h : w.outputError = none) (r : Report) :
    w.printed r = .ok r := by
  rw [World.printed, h]

/-- `World.printed` keeps a report without anything for the output. -/
theorem World.printed_of_output_eq_empty (w : World) {r : Report} (h : r.output = "") :
    w.printed r = .ok r := by
  unfold World.printed
  cases w.outputError with
  | none => rfl
  | some e => exact if_pos h

/-- `World.printed` is the same when an operand has been read. -/
theorem World.printed_afterReading (w : World) (operand : String) (r : Report) :
    (w.afterReading operand).printed r = w.printed r := by
  unfold World.afterReading
  split <;> rfl

/-- `printReport` changes nothing, and comes to what `World.printed` says. -/
theorem run_printReport (r : Report) (w : World) :
    runOn (printReport r) w = (w.printed r, w) := by
  unfold printReport
  by_cases hempty : r.output = ""
  · rw [w.printed_of_output_eq_empty hempty, if_pos (String.isEmpty_iff.2 hempty)]
    rfl
  · rw [if_neg (by simpa using hempty)]
    refine (runOn_lift_bind (run_writeOutput r.output w) _).trans ?_
    unfold World.printed
    cases w.outputError with
    | none => rfl
    | some e =>
      dsimp only [Option.elim]
      rw [if_neg hempty]
      rfl

/-- `checkTemplate` reports on its template, if the output takes that. -/
theorem run_checkTemplate (least : LogLevel) (operand : String) (w : World) :
    runOn (checkTemplate least operand) w =
      (w.printed (templateReport least w operand), w.afterReading operand) := by
  unfold checkTemplate templateReport
  refine (runOn_lift_bind (run_loadTemplate operand w) _).trans ?_
  cases w.template operand with
  | error f =>
    dsimp only
    rw [w.printed_of_output_eq_empty (r := unloadedReport operand f) rfl]
    rfl
  | ok t =>
    refine (runOn_lift_bind (run_logLines _ _ _) _).trans ?_
    rw [run_printReport, w.logText_afterReading, w.printed_afterReading]

/-- The line on a finding: how bad it is, where its block stands, the block's id unless that is
empty, and what the finding says. -/
def findingLine (d : Diagnostic) : String :=
  "  " ++ (if d.severity = .error then "error" else "warning") ++ " [block #" ++
    Text.ofNat d.index ++ (if d.blockId = "" then "" else " '" ++ d.blockId ++ "'") ++ "]: " ++
    d.message ++ "\n"

/-- `findingLine` is the line that a report has. -/
theorem findingLine_eq (d : Diagnostic) : findingLine d = "  " ++ d.text ++ "\n" := by
  rw [findingLine, d.text_eq]
  simp only [String.append_assoc]

/-- The lines on findings. -/
def findingLines (ds : List Diagnostic) : String := String.join (ds.map findingLine)

/-! ## Several templates -/

section AfterReading

variable {operand operand' : String} (h : ¬(operand = "-" ∧ operand' = "-")) (w : World)

include h

/-- `source` is the same when another operand has been read, unless both are the input. -/
theorem source_afterReading : (w.afterReading operand).source operand' = w.source operand' := by
  unfold World.source
  split
  · rename_i hdash
    have hfile : operand ≠ "-" := fun hdash' => h ⟨hdash', hdash⟩
    rw [World.afterReading, if_neg hfile]
  · rw [World.fileText_afterReading]

/-- `template` is the same when another operand has been read, unless both are the input. -/
theorem template_afterReading :
    (w.afterReading operand).template operand' = w.template operand' := by
  rw [World.template, World.template, source_afterReading h]

/-- `templateReport` is the same when another operand has been read. -/
theorem templateReport_afterReading (least : LogLevel) :
    templateReport least (w.afterReading operand) operand' = templateReport least w operand' := by
  have hevents : (w.afterReading operand).loadingEvents operand' = w.loadingEvents operand' := by
    rw [World.loadingEvents, World.loadingEvents, source_afterReading h]
  rw [templateReport, templateReport, template_afterReading h, hevents]
  simp only [World.logText_afterReading]

end AfterReading

namespace Report

variable (r s : Report)

/-- `++` puts the outputs one after the other. -/
@[simp] theorem output_append : (r ++ s).output = r.output ++ s.output := rfl

/-- `++` puts the errors one after the other. -/
@[simp] theorem errors_append : (r ++ s).errors = r.errors ++ s.errors := rfl

/-- `++` has the larger of the codes. -/
@[simp] theorem exitCode_append : (r ++ s).exitCode = max r.exitCode s.exitCode := rfl

end Report

/-- The reports on templates one after another. -/
def joined (rs : List Report) : Report := rs.foldr Report.append .empty

/-- `joined` of no reports is the report on nothing. -/
@[simp] theorem joined_nil : joined [] = .empty := rfl

/-- `joined` has the first report in front of the others. -/
@[simp] theorem joined_cons (r : Report) (rs : List Report) : joined (r :: rs) = r ++ joined rs :=
  rfl

/-- `joined` reports have the outputs one after another. -/
theorem output_joined (rs : List Report) :
    (joined rs).output = String.join (rs.map Report.output) := by
  induction rs with
  | nil => rfl
  | cons r rs ih => rw [joined_cons, Report.output_append, ih, List.map_cons, String.join_cons]

/-- `joined` reports have the errors one after another. -/
theorem errors_joined (rs : List Report) :
    (joined rs).errors = String.join (rs.map Report.errors) := by
  induction rs with
  | nil => rfl
  | cons r rs ih => rw [joined_cons, Report.errors_append, ih, List.map_cons, String.join_cons]

/-- `joined` of one report is that report. -/
theorem joined_singleton (r : Report) : joined [r] = r := by
  cases r
  simp [joined, Report.append, Report.empty]

/-- `checkTemplates` reports on the first template and goes on, unless the output refuses that. -/
theorem run_checkTemplates_cons (least : LogLevel) (operand : String) (rest : List String)
    (w : World) :
    ((checkTemplates least (operand :: rest) : StateM World Report).run w).1 =
      match w.printed (templateReport least w operand) with
      | .ok r => r ++ ((checkTemplates least rest : StateM World Report).run
          (w.afterReading operand)).1
      | .error last => last := by
  rw [checkTemplates]
  have hrun : (checkTemplate least operand : ExceptT Report (StateM World) Report).run.run w = _ :=
    run_checkTemplate least operand w
  rw [run_bind_of_run_eq hrun]
  cases w.printed (templateReport least w operand) <;> rfl

/-- `count` of dashes at most one leaves no dash behind a first one. -/
theorem not_both_input {operand : String} {rest : List String}
    (h : (operand :: rest).count "-" ≤ 1) :
    ∀ operand' ∈ rest, ¬(operand = "-" ∧ operand' = "-") := by
  rintro operand' hmem ⟨rfl, rfl⟩
  have hpos := List.count_pos_iff.2 hmem
  rw [List.count_cons_self] at h
  omega

/-- `checkTemplates` is the checks of its templates, each from the same world, if the output takes
everything. -/
theorem run_checkTemplates {operands : List String} (h : operands.count "-" ≤ 1)
    (least : LogLevel) {w : World} (houtput : w.outputError = none) :
    ((checkTemplates least operands : StateM World Report).run w).1 =
      joined (operands.map (templateReport least w)) := by
  induction operands generalizing w with
  | nil => rfl
  | cons operand rest ih =>
    have hrest : rest.count "-" ≤ 1 := Nat.le_trans List.count_le_count_cons h
    -- What is left of the world makes no difference to the operands behind.
    have hsame : rest.map (templateReport least (w.afterReading operand)) =
        rest.map (templateReport least w) :=
      List.map_congr_left fun operand' hmem =>
        templateReport_afterReading (not_both_input h operand' hmem) w least
    rw [run_checkTemplates_cons, World.printed_eq_ok houtput]
    dsimp only
    rw [ih hrest (w.outputError_afterReading operand ▸ houtput), hsame]
    rfl

/-! ## Exit codes -/

/-- An operand that a check refuses: it cannot be read, or is no template, or has an error. -/
inductive World.Refuses (w : World) (operand : String) : Prop where
  | unread {f : Failure} (h : w.source operand = .error f)
  | unloaded {text : String} {e : TemplateError} (hsource : w.source operand = .ok text)
      (h : Template.read text = .error e)
  | faulty {text : String} {t : Template} {d : Diagnostic} (hsource : w.source operand = .ok text)
      (hread : Template.read text = .ok t) (hd : d ∈ lint t.blocks) (h : d.severity = .error)

/-- The report on one template: a line that begins with a cross or a check mark, and what is to be
said about the template, all on one stream.  A template that is loaded has the lines of the log on
the stream of errors, before anything else there. -/
inductive World.ReportsOn (w : World) (least : LogLevel) (operand : String) : Report → Prop where
  | unloaded {f : Failure} (h : w.template operand = .error f) :
      ReportsOn w least operand
        ⟨1, "", "✗ " ++ operand ++ " has errors:\n  " ++ f.message ++ "\n"⟩
  | faulty {t : Template} (h : w.template operand = .ok t)
      (herror : ∃ d ∈ lint t.blocks, d.severity = .error) :
      ReportsOn w least operand
        ⟨1, "", w.logText least (w.loadingEvents operand) ++
          ("✗ " ++ operand ++ " has errors:\n" ++ findingLines (lint t.blocks))⟩
  | valid {t : Template} (h : w.template operand = .ok t)
      (hvalid : ∀ d ∈ lint t.blocks, d.severity ≠ .error) :
      ReportsOn w least operand
        ⟨0, "✓ " ++ operand ++ " is valid\n" ++ findingLines (lint t.blocks),
          w.logText least (w.loadingEvents operand)⟩

/-- `Refuses` holds of an operand whose template is not loaded, or has an error. -/
theorem refuses_iff (w : World) (operand : String) :
    w.Refuses operand ↔
      (∃ f, w.template operand = .error f) ∨
        ∃ t, w.template operand = .ok t ∧ ∃ d ∈ lint t.blocks, d.severity = .error := by
  constructor
  · rintro (⟨hsource⟩ | ⟨hsource, hread⟩ | ⟨hsource, hread, hd, herror⟩)
    · exact .inl ⟨_, by rw [World.template, hsource]; rfl⟩
    · exact .inl ⟨_, by rw [World.template, hsource, Except.bind, templateOf, hread]; rfl⟩
    · exact .inr ⟨_, by rw [World.template, hsource, Except.bind, templateOf, hread]; rfl,
        _, hd, herror⟩
  · -- A template that is not loaded is not read, or else not parsed.
    cases hsource : w.source operand with
    | error f => exact fun _ => .unread hsource
    | ok text =>
      rw [World.template, hsource, Except.bind, templateOf]
      cases hread : Template.read text with
      | error e => exact fun _ => .unloaded hsource hread
      | ok t =>
        rintro (⟨f, hf⟩ | ⟨_, ⟨⟩, d, hd, herror⟩)
        · cases hf
        · exact .faulty hsource hread hd herror

/-- `Refuses` is the same when another operand has been read, unless both are the input. -/
theorem refuses_afterReading {operand operand' : String} (h : ¬(operand = "-" ∧ operand' = "-"))
    (w : World) : (w.afterReading operand).Refuses operand' ↔ w.Refuses operand' := by
  rw [refuses_iff, refuses_iff, template_afterReading h]

/-- `Diagnostic.isError` is about the severity. -/
theorem isError_iff (d : Diagnostic) : d.isError = true ↔ d.severity = .error := by
  simp [Diagnostic.isError]

/-- `lintReport` has the lines on what is found behind its first line. -/
theorem lintReport_eq (operand : String) (ds : List Diagnostic) :
    lintReport operand ds =
      if ds.any Diagnostic.isError then
        ⟨1, "", "✗ " ++ operand ++ " has errors:\n" ++ findingLines ds⟩
      else ⟨0, "✓ " ++ operand ++ " is valid\n" ++ findingLines ds, ""⟩ := by
  rw [findingLines, funext findingLine_eq, lintReport]

/-- `templateReport` is the report on its template. -/
theorem reportsOn_templateReport (least : LogLevel) (w : World) (operand : String) :
    w.ReportsOn least operand (templateReport least w operand) := by
  unfold templateReport
  cases htemplate : w.template operand with
  | error f => exact .unloaded htemplate
  | ok t =>
    dsimp only
    -- What the linter finds decides between the two reports.
    rw [lintReport_eq]
    split
    · rename_i herror
      simp only [List.any_eq_true, isError_iff] at herror
      exact .faulty htemplate herror
    · rename_i hvalid
      simp only [List.any_eq_true, isError_iff, not_exists, not_and] at hvalid
      have hreport : w.ReportsOn least operand _ := .valid htemplate hvalid
      rwa [← String.append_empty (s := w.logText least (w.loadingEvents operand))] at hreport

/-- `ReportsOn` gives the code one to operands that are refused, and prints the others with the code
zero. -/
theorem World.ReportsOn.exitCode_eq {w : World} {least : LogLevel} {operand : String} {r : Report}
    (h : w.ReportsOn least operand r) :
    (w.Refuses operand ∧ r.exitCode = 1 ∧ r.output = "") ∨
      (¬w.Refuses operand ∧ r.exitCode = 0 ∧ r.output ≠ "") := by
  rw [refuses_iff]
  cases h with
  | unloaded h => exact .inl ⟨.inl ⟨_, h⟩, rfl, rfl⟩
  | faulty h herror => exact .inl ⟨.inr ⟨_, h, herror⟩, rfl, rfl⟩
  | valid h hvalid =>
    refine .inr ⟨?_, rfl, ?_⟩
    · rintro (⟨f, hf⟩ | ⟨t, ht, d, hd, herror⟩)
      · rw [h] at hf
        cases hf
      · rw [h] at ht
        cases ht
        exact hvalid d hd herror
    · simp [String.append_eq_empty_iff]

/-- `joined` reports have the code one if any of them has. -/
theorem exitCode_joined {rs : List Report} (h : ∀ r ∈ rs, r.exitCode ≤ 1) :
    (joined rs).exitCode ≤ 1 ∧ ((joined rs).exitCode = 1 ↔ ∃ r ∈ rs, r.exitCode = 1) := by
  induction rs with
  | nil => simp [Report.empty]
  | cons r rs ih =>
    rw [List.forall_mem_cons] at h
    obtain ⟨hle, hiff⟩ := ih h.2
    have hr := h.1
    simp only [List.mem_cons, exists_eq_or_imp, ← hiff, joined_cons, Report.exitCode_append]
    omega

/-- `templateReport` has the code one for any of the operands if and only if one of them is refused.
-/
theorem exitCode_checks (operands : List String) (least : LogLevel) (w : World) :
    (joined (operands.map (templateReport least w))).exitCode ≤ 1 ∧
      ((joined (operands.map (templateReport least w))).exitCode = 1 ↔
        ∃ operand ∈ operands, w.Refuses operand) := by
  have hcode := fun operand => (reportsOn_templateReport least w operand).exitCode_eq
  have hle : ∀ r ∈ operands.map (templateReport least w), r.exitCode ≤ 1 := by
    intro r hr
    obtain ⟨operand, -, rfl⟩ := List.mem_map.1 hr
    rcases hcode operand with ⟨-, h, -⟩ | ⟨-, h, -⟩ <;> omega
  have hrefuses : ∀ operand,
      (templateReport least w operand).exitCode = 1 ↔ w.Refuses operand := by
    intro operand
    rcases hcode operand with ⟨hr, h, -⟩ | ⟨hr, h, -⟩ <;> simp [hr, h]
  obtain ⟨hbound, hiff⟩ := exitCode_joined hle
  refine ⟨hbound, hiff.trans ?_⟩
  simp [hrefuses]

/-! ## What is not refused -/

/-- `renderBlocks` draws no block as the empty text, if `lint` finds no error. -/
theorem ne_empty_of_lint {bs : List Block} (h : ∀ d ∈ lint bs, d.severity ≠ .error) (theme : Theme)
    (ctx : RenderContext) : ∀ html ∈ renderBlocks bs theme ctx, html ≠ "" := by
  intro html hhtml hempty
  rw [renderBlocks_eq_mapIdx] at hhtml
  obtain ⟨i, hi, rfl⟩ := List.mem_mapIdx.1 hhtml
  -- With another id a block is of the same kind.
  have hunknown : ∃ tag, bs[i].content = .unknown tag := by
    split at hempty
    · exact (Block.render_eq_empty_iff { bs[i] with id := scopeAt bs i } theme ctx).1 hempty
    · exact (Block.render_eq_empty_iff bs[i] theme ctx).1 hempty
  obtain ⟨tag, hc⟩ := hunknown
  have hkind := (forall_ne_error_lint_iff.1 h).1 bs[i] (List.getElem_mem hi)
  rw [hc] at hkind
  exact hkind rfl

/-- `Command.report` of a rendering with nothing else asked for has the code zero, if the template
is loaded and the output takes the document. -/
theorem exitCode_render {w : World} {operand : String} {t : Template}
    (h : w.template operand = .ok t) (houtput : w.outputError = none) (v : Nat)
    (title : Option String) (year : Option Int) (noScripts : Bool) :
    ((Command.mk v (.render ⟨operand, none, none, none, title, year, noScripts⟩)).report
      w).exitCode = 0 := by
  let c : RenderCommand := ⟨operand, none, none, none, title, year, noScripts⟩
  have hdrawn : c.drawn w = .ok ({ t with theme := t.theme }, c.override .standard) := by
    rw [RenderCommand.drawn, h]
    rfl
  have hresult : ∃ html, (c.result w).1 = .ok html := by
    rw [RenderCommand.result, hdrawn]
    refine ⟨Template.render t (c.override .standard) w.year, ?_⟩
    simp only [RenderCommand.delivered, c, w.outputError_afterReading, houtput]
  obtain ⟨html, hhtml⟩ := hresult
  rw [report_render, hhtml]
  rfl

/-! ## Checks -/

/-- `Command.read?` counts how often `-v` stands before the name of the command, and takes what is
behind a double dash for operands. -/
theorem read?_check {operands : List String} (h : operands ≠ []) (v : Nat) :
    Command.read? (List.replicate v "-v" ++ "check" :: "--" :: operands) =
      some ⟨v, .check operands⟩ := by
  have hoperands : Argument.operands (operands.map .operand) = operands := by
    rw [Argument.operands, List.filterMap_map]
    exact List.filterMap_some
  have hsilent : Argument.verbosity (operands.map .operand) = 0 := by
    simp [Argument.verbosity, List.count_eq_zero]
  have hread : Argument.readAll .general ("--" :: operands) = some (operands.map .operand) := rfl
  have hcheck (before : Nat) : Command.readCheck before ("--" :: operands) =
      some ⟨before, .check operands⟩ := by
    rw [Command.readCheck, hread, Option.bind_eq_bind, Option.bind_some, hoperands,
      if_neg (by simpa using h), Command.ofArguments, if_pos hsilent]
  -- Each `-v` counts one more.
  have hfrom (before : Nat) :
      Command.readFrom before (List.replicate v "-v" ++ "check" :: "--" :: operands) =
        some ⟨before + v, .check operands⟩ := by
    induction v generalizing before with
    | zero =>
      rw [List.replicate_zero, List.nil_append, Command.readFrom, if_neg (by decide), if_pos rfl,
        hcheck]
      rfl
    | succ v ih =>
      rw [List.replicate_succ, List.cons_append, Command.readFrom, if_neg (by decide),
        if_neg (by decide), if_pos (by decide)]
      have hswitch : OptionTable.general.readOptions "-v" = some ([.switch .verbose], none) := by
        rfl
      rw [hswitch]
      refine (ih (before + 1)).trans ?_
      rw [Nat.add_assoc, Nat.add_comm 1 v]
  rw [Command.read?, hfrom, Nat.zero_add]

/-- `Command.report` of a check is the reports on its templates, joined. -/
theorem report_check {operands : List String} (h : operands.count "-" ≤ 1) (v : Nat) {w : World}
    (houtput : w.outputError = none) :
    (Command.mk v (.check operands)).report w =
      joined (operands.map (templateReport (.ofVerbosity v) w)) :=
  run_checkTemplates h _ houtput

/-- `Command.report` of a check of one template is the report on it. -/
theorem report_check_singleton (operand : String) (v : Nat) {w : World}
    (houtput : w.outputError = none) :
    (Command.mk v (.check [operand])).report w = templateReport (.ofVerbosity v) w operand := by
  have hcount : [operand].count "-" ≤ 1 := List.count_le_length
  rw [report_check hcount v houtput, List.map_singleton, joined_singleton]

/-- `Command.report` of a check that cannot print has the code of that if any template is not
refused, and leaves nothing on the output. -/
theorem exitCode_check_of_outputError {operands : List String} (hinput : operands.count "-" ≤ 1)
    {v : Nat} {w : World} {e : FileError} (houtput : w.outputError = some e) {r : Report}
    (hr : (Command.mk v (.check operands)).report w = r) :
    r.output = "" ∧ r.exitCode ≤ Report.abortCode ∧
      (r.exitCode = Report.abortCode ↔ ∃ operand ∈ operands, ¬w.Refuses operand) := by
  replace hr : ((checkTemplates (.ofVerbosity v) operands : StateM World Report).run w).1 = r := hr
  induction operands generalizing w r with
  | nil =>
    obtain rfl : Report.empty = r := hr
    simp [Report.empty, Report.abortCode]
  | cons operand rest ih =>
    have hrest : rest.count "-" ≤ 1 := Nat.le_trans List.count_le_count_cons hinput
    obtain ⟨hnothing, hcode, hiff⟩ := ih hrest (w.outputError_afterReading operand ▸ houtput) rfl
    -- What is refused behind the first is refused from the start.
    have hrefuses : (∃ operand' ∈ rest, ¬(w.afterReading operand).Refuses operand') ↔
        ∃ operand' ∈ rest, ¬w.Refuses operand' :=
      exists_congr fun operand' => and_congr_right fun hmem =>
        not_congr (refuses_afterReading (not_both_input hinput operand' hmem) w)
    rw [run_checkTemplates_cons] at hr
    simp only [List.mem_cons, exists_eq_or_imp]
    rw [← hrefuses, ← hiff]
    -- A template that is refused has nothing for the output, and any other ends the check.
    rcases (reportsOn_templateReport (.ofVerbosity v) w operand).exitCode_eq with
      ⟨hrefused, hone, hempty⟩ | ⟨hrefused, hzero, hprints⟩
    · rw [w.printed_of_output_eq_empty hempty] at hr
      subst hr
      simp only [Report.output_append, Report.exitCode_append, hempty, hnothing, hone, hrefused,
        not_true_eq_false, false_or]
      unfold Report.abortCode at *
      refine ⟨rfl, by omega, by omega⟩
    · rw [World.printed, houtput] at hr
      dsimp only at hr
      rw [if_neg hprints] at hr
      subst hr
      exact ⟨rfl, Nat.le_refl _, iff_of_true rfl (.inl hrefused)⟩

/-- A check of several templates, of which at most one is the input, reports what the checks of
each of them report, one after another.  Its code is that of a failure if and only if it refuses one
of them, wherever that stands; the report on each is a line with its verdict and what is found,
behind the lines of the log about it.  Templates that pass a check together can be rendered, each
alone, and none of their blocks is left out. -/
theorem check_compositional {operands : List String} (hinput : operands.count "-" ≤ 1) (v : Nat)
    {w : World} (houtput : w.outputError = none) :
    (operands ≠ [] →
      Command.read? (List.replicate v "-v" ++ "check" :: "--" :: operands) =
        some ⟨v, .check operands⟩) ∧
    ((Command.mk v (.check operands)).report w).output =
      String.join (operands.map fun operand =>
        ((Command.mk v (.check [operand])).report w).output) ∧
    ((Command.mk v (.check operands)).report w).errors =
      String.join (operands.map fun operand =>
        ((Command.mk v (.check [operand])).report w).errors) ∧
    (((Command.mk v (.check operands)).report w).exitCode = 1 ↔
      ∃ operand ∈ operands, w.Refuses operand) ∧
    (((Command.mk v (.check operands)).report w).exitCode = 0 ↔
      ∀ operand ∈ operands, ¬w.Refuses operand) ∧
    (∀ operand, w.ReportsOn (.ofVerbosity v) operand
      ((Command.mk v (.check [operand])).report w)) ∧
    (((Command.mk v (.check operands)).report w).exitCode = 0 → ∀ operand ∈ operands,
      (∀ title year noScripts,
        ((Command.mk v (.render ⟨operand, none, none, none, title, year, noScripts⟩)).report
          w).exitCode = 0) ∧
      ∃ t, w.template operand = .ok t ∧
        ∀ theme ctx, ∀ html ∈ renderBlocks t.blocks theme ctx, html ≠ "") := by
  simp only [report_check_singleton _ v houtput, report_check hinput v houtput]
  obtain ⟨hbound, hrefused⟩ := exitCode_checks operands (.ofVerbosity v) w
  -- The code is zero or one, and one only if something is refused.
  have haccepted : (joined (operands.map (templateReport (.ofVerbosity v) w))).exitCode = 0 ↔
      ∀ operand ∈ operands, ¬w.Refuses operand := by
    have hcode : (joined (operands.map (templateReport (.ofVerbosity v) w))).exitCode = 0 ↔
        ¬(joined (operands.map (templateReport (.ofVerbosity v) w))).exitCode = 1 := by omega
    rw [hcode, hrefused]
    simp only [not_exists, not_and]
  refine ⟨fun h => read?_check h v, ?_, ?_, hrefused, haccepted, reportsOn_templateReport _ w, ?_⟩
  · rw [output_joined, List.map_map]
    rfl
  · rw [errors_joined, List.map_map]
    rfl
  · intro hcode operand hmem
    have hpasses := haccepted.1 hcode operand hmem
    rw [refuses_iff] at hpasses
    cases ht : w.template operand with
    | error f => exact absurd (.inl ⟨f, ht⟩) hpasses
    | ok t =>
      -- A template that is not refused is loaded and has no error.
      refine ⟨exitCode_render ht houtput v, t, rfl, ne_empty_of_lint ?_⟩
      intro d hd herror
      exact hpasses (.inr ⟨t, ht, d, hd, herror⟩)

/-- A divider in a file and a block without a type in the input: the file alone passes and can be
rendered, and together they do not pass. -/
theorem check_compositional_pair :
    let w : World :=
      { files := ⟨[(["d.json"], .text "[\x7b\"type\":\"divider\"\x7d]")]⟩
        input := .ok "[\x7b\x7d]", year := 2024
        log := ⟨none, "2024-05-01T12:00:00Z", LogEvent.compactLine⟩ }
    w.outputError = none ∧
    ((["d.json"].count "-" ≤ 1 ∧ ["d.json"] ≠ [] ∧
        ((Command.mk 1 (.check ["d.json"])).report w).exitCode = 0) ∧
      Command.read? ["-v", "check", "--", "d.json"] = some ⟨1, .check ["d.json"]⟩ ∧
      ((Command.mk 1 (.render ⟨"d.json", none, none, none, none, some 1999, false⟩)).report
        w).exitCode = 0) ∧
    (["-", "d.json"].count "-" ≤ 1 ∧
      ((Command.mk 0 (.check ["-", "d.json"])).report w).exitCode = 1) := by
  intro w
  have hdivider : Json.parse "[\x7b\"type\":\"divider\"\x7d]" =
      .ok (.array [.object [("type", .string "divider")]]) := by
    have hkey := @Json.leaves_readString_append "type".toList (by simp) ":\"divider\"\x7d]".toList
    have hvalue := @Json.leaves_readString_append "divider".toList (by simp) "\x7d]".toList
    have hobject : Json.Reads (Json.depthLimit - 1) "\x7b\"type\":\"divider\"\x7d]".toList
        (.value (.object [("type", .string "divider")])) [']'] :=
      .object (by decide) (by rfl) (by rfl)
        (.lastMember hkey (by rfl) (.string (by rfl) hvalue) (by rfl))
    exact Json.parse_eq_ok_iff.2
      ⟨[], .list (by decide) (by rfl) (.lastItem hobject (by rfl)), rfl⟩
  have hempty : Json.parse "[\x7b\x7d]" = .ok (.array [.object []]) := by
    refine Json.parse_eq_ok_iff.2 ⟨[], ?_, rfl⟩
    exact .list (by decide) rfl (.lastItem (.emptyObject (by decide) rfl rfl) rfl)
  have hloads : Template.read "[\x7b\"type\":\"divider\"\x7d]" =
      .ok ⟨.standard, [⟨"", .divider, none⟩]⟩ := by
    rw [Template.read, hdivider]
    rfl
  have hpasses : ¬w.Refuses "d.json" := by
    have htemplate : w.template "d.json" = .ok ⟨.standard, [⟨"", .divider, none⟩]⟩ :=
      congrArg (Except.mapError Failure.template) hloads
    rw [refuses_iff, htemplate]
    rintro (⟨f, hf⟩ | ⟨t, ht, herror⟩)
    · cases hf
    · cases ht
      exact absurd herror (by decide)
  have hrefused : w.Refuses "-" := by
    refine .faulty (t := ⟨.standard, [⟨"", .unknown "", none⟩]⟩) (d := ⟨0, "", .noType⟩)
      rfl ?_ ?_ ?_
    · rw [Template.read, hempty]
      rfl
    · decide
    · rfl
  obtain ⟨hread, -, -, -, hcode, -, hrender⟩ :=
    @check_compositional ["d.json"] (by decide) 1 w rfl
  obtain ⟨-, -, -, hcode', -⟩ := @check_compositional ["-", "d.json"] (by decide) 0 w rfl
  have hzero : ((Command.mk 1 (.check ["d.json"])).report w).exitCode = 0 :=
    hcode.2 (by simpa using hpasses)
  have hnonempty : ["d.json"] ≠ [] := by decide
  refine ⟨rfl, ⟨⟨by decide, hnonempty, hzero⟩, hread hnonempty, ?_⟩, by decide, ?_⟩
  · exact (hrender hzero "d.json" (by simp)).1 none (some 1999) false
  · exact hcode'.2 ⟨"-", by simp, hrefused⟩

end Bulletin
