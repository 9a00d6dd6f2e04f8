import LinePipe.Proofs.Buffer.Replacing
import LinePipe.Proofs.CommandLine.Precedence
import LinePipe.Proofs.Edit

/-!
# Checking a pipeline from the command line

One command checks a pipeline text and another applies it. They build their stages with different
orders and sinks, one of them after it has read settings; yet the first tells that a text is no
pipeline whenever the second refuses to apply it, with the same error.

## Main definitions

- `Invocation.AsksCheck`: the program is called to check a pipeline text
- `Invocation.Undisturbed`: nothing keeps a call from its command
- `Invocation.ReachesPipeline`: a call that is to apply a pipeline comes to its text
- `Invocation.RefusesPipeline`: such a call ends because of the text
- `ChecksAsItRuns`: what checks of a text and runs of it have in common

## Main statements

- `Invocation.ending_of_asksCheck`: how a call ends that is to check a text
- `Invocation.refusesPipeline_iff`: a call refuses the texts that are no pipelines
- `checksAsItRuns`: checking a text agrees with running it
-/

namespace LinePipe

namespace CommandLine

/-- Only what is told can end a call with the status of invalid pipelines and line ranges. -/
theorem Failure.of_ending_eq_usage {f : Failure}
    (h : f.ending = .exited ExitStatus.usage.number) :
    ∃ error, f = .told error ∧ error.status = .usage := by
  cases f with
  | usage error => exact absurd (Ending.exited.inj h) (by decide)
  | told error => exact ⟨error, rfl, ExitStatus.number_inj.mp (Ending.exited.inj h)⟩
  | broken breakdown => cases h

namespace Invocation

/-- The program is called to check a pipeline text: its options are read as these preferences, and
the rest as the text and the format of the report. -/
def AsksCheck (i : Invocation) (p : Preferences) (text : Text) (format : ReportFormat) : Prop :=
  ∃ word arguments,
    Preferences.read i.files i.arguments = .ok (.action (p, word :: arguments)) ∧
      CommandName.ofWord? word = some .check ∧
      Request.read i.files .check arguments = .ok (.action (.check text format))

/-- Pipelines are made of the built-in commands, the options do not ask for more and less output,
and the environment asks for no level of records. -/
structure Undisturbed (i : Invocation) (p : Preferences) : Prop where
  registry : i.registry = Registry.builtin
  verbosity : ¬ (0 < p.verbose ∧ 0 < p.quiet)
  level : i.environment.logLevel = none

/-- A call that is to apply a pipeline finds nothing wrong with the other options, loads its
settings and can choose the collation locale that they name. -/
structure ReachesPipeline (i : Invocation) (p : Preferences) (r : RunRequest) : Prop where
  asks : i.AsksRun p r
  target : ∃ target, r.target = .ok target
  region : ∃ region, r.region = .ok region
  settings : ∃ settings, (r.settings i p).result = .ok settings ∧ settings.LocaleAvailable

/-- A call that is to apply a pipeline ends because of the text of the pipeline. -/
def RefusesPipeline (i : Invocation) (p : Preferences) (r : RunRequest) : Prop :=
  i.run.ending = .exited ExitStatus.usage.number ∧
    ∃ error, (r.apply i p).result = .error (.told (.pipeline error))

variable {i : Invocation} {p : Preferences}

theorem Undisturbed.exists_display (h : i.Undisturbed p) : ∃ d, Display.prepare i p = .ok d := by
  cases hprepare : Display.prepare i p with
  | ok d => exact ⟨d, rfl⟩
  | error f =>
    obtain ⟨hverbose, hquiet, -⟩ | ⟨hlevel, -⟩ := of_prepare_eq_error hprepare
    · exact absurd ⟨hverbose, hquiet⟩ h.verbosity
    · exact absurd h.level hlevel

/-! ## Calls for any text -/

/-- Behind two hyphens any text is taken as the pipeline to be checked. -/
theorem asksCheck_behind_hyphens {text : Text}
    (h : i.arguments = ["check".toList, "--".toList, text]) :
    i.AsksCheck {} text .terminal := by
  refine ⟨"check".toList, ["--".toList, text], ?_, rfl, rfl⟩
  rw [h]
  rfl

/-- Behind two hyphens any text is taken as the pipeline to be applied. -/
theorem asksRun_behind_hyphens {text : Text}
    (h : i.arguments = ["run".toList, "--".toList, text]) :
    i.AsksRun {} { pipeline := text } := by
  refine ⟨"run".toList, ["--".toList, text], ?_, rfl, rfl⟩
  rw [h]
  rfl

/-! ## Calls that check -/

theorem status_ofValidity (console : Console) (verbosity : Int) (format : ReportFormat)
    (text : Text) (error : Option ParseError) :
    (Report.ofValidity console verbosity format text error).status =
      Report.validityStatus error := by
  unfold Report.ofValidity
  split
  · rfl
  · rfl
  · split <;> rfl

/-- A call that is to check a text ends with the status for what the check finds, whatever format
the report has and however much output is asked for. -/
theorem ending_of_asksCheck {text : Text} {format : ReportFormat} {error : Option ParseError}
    (h : i.AsksCheck p text format) (hplain : i.Undisturbed p)
    (hcheck : (Pipeline.check text).result = .ok error) :
    i.run.ending = .exited (Report.validityStatus error).number := by
  obtain ⟨word, arguments, hpreferences, hword, hrequest⟩ := h
  obtain ⟨d, hprepare⟩ := hplain.exists_display
  have hreport : (Report.check d.console i.registry d.verbosity format text).result =
      .ok (Report.ofValidity d.console d.verbosity format text error) := by
    rw [hplain.registry, Report.check,
      Outcome.result_bind_of_ok (Outcome.result_mapError_eq_ok_iff.mpr hcheck)]
    rfl
  simp only [run, hpreferences, hword, call, hprepare, hrequest, perform, finish, hreport,
    reported, status_ofValidity]

theorem status_eq_failure_iff {text : Text} {format : ReportFormat} (h : i.AsksCheck p text format)
    (hplain : i.Undisturbed p) :
    i.run.ending.status = ExitStatus.failure.number ↔ ∃ error, Pipeline.Wrong text error := by
  constructor
  · intro hstatus
    obtain ⟨forms, hforms⟩ | hwrong := Pipeline.written_or_wrong text
    · rw [ending_of_asksCheck h hplain (Pipeline.result_check_of_written hforms)] at hstatus
      cases hstatus
    · exact hwrong
  · rintro ⟨error, hwrong⟩
    rw [ending_of_asksCheck h hplain (Pipeline.result_check_of_wrong hwrong)]
    rfl

/-! ## Calls that apply -/

section Applying

variable {r : RunRequest} (h : i.ReachesPipeline p r) (hplain : i.Undisturbed p)
include h hplain

/-- A text that is no pipeline ends the call, with what is wrong with it. -/
theorem refusesPipeline_of_wrong {error : ParseError} (hwrong : Pipeline.Wrong r.pipeline error) :
    i.RefusesPipeline p r := by
  obtain ⟨target, htarget⟩ := h.target
  obtain ⟨region, hregion⟩ := h.region
  obtain ⟨settings, hsettings, havailable⟩ := h.settings
  obtain ⟨d, hprepare⟩ := hplain.exists_display
  have hgiven : ((settings.prepare .display).mapError Failure.ofLocale).result =
      .ok (settings.given .display) :=
    Outcome.result_mapError_eq_ok_iff.mpr (Settings.result_prepare_of_available havailable _)
  have hparse : ((Pipeline.parse r.pipeline false i.registry
      (some (settings.given .display))).mapError Failure.ofBuilding).result =
        .error (.told (.pipeline error)) := by
    rw [hplain.registry, Outcome.result_mapError, Pipeline.result_parse_of_wrong hwrong]
    rfl
  have hresult : (r.apply i p).result = .error (.told (.pipeline error)) := by
    rw [RunRequest.apply, htarget, Outcome.result_bind_of_ok rfl, hregion,
      Outcome.result_bind_of_ok rfl, Outcome.result_bind_of_ok hsettings,
      Outcome.result_bind_of_ok hgiven, Outcome.result_bind_of_error hparse]
  refine ⟨?_, error, hresult⟩
  rw [run_of_apply_eq_error h.asks hprepare hresult]
  rfl

/-- Once the text is a pipeline, only the place of the range can be told with the status of wrong
usage. -/
theorem of_usage_of_written {forms : List StageForm} {error : CommandError}
    (hwritten : Pipeline.Written r.pipeline forms)
    (hresult : (r.apply i p).result = .error (.told error)) (husage : error.status = .usage) :
    ∃ region text, r.region = .ok region ∧
      (RunRequest.placeWork region text).result = .error (.told error) := by
  obtain ⟨target, htarget⟩ := h.target
  obtain ⟨region, hregion⟩ := h.region
  obtain ⟨before, c, after, -, -, hfailed⟩ := exists_first_failed hresult
  have hstatus : error.status ∈ c.statuses := RunRequest.among_check hfailed
  rw [husage] at hstatus
  cases c with
  | target =>
    have hcheck := Outcome.result_asCheck_eq_error_iff.mp hfailed
    rw [Outcome.result_ofExcept, htarget] at hcheck
    cases hcheck
  | range =>
    have hcheck := Outcome.result_asCheck_eq_error_iff.mp hfailed
    rw [Outcome.result_ofExcept, hregion] at hcheck
    cases hcheck
  | pipeline =>
    obtain ⟨given, -, hcheck⟩ := Work.of_given_eq_error hfailed
    have hparse := Outcome.result_asCheck_eq_error_iff.mp hcheck
    rw [RunRequest.pipelineWork, hplain.registry, Outcome.result_mapError,
      Pipeline.result_parse_of_written hwritten] at hparse
    cases hparse
  | place =>
    obtain ⟨region', hregion', hcheck⟩ := Work.of_given_eq_error hfailed
    obtain ⟨text, -, hcheck⟩ := Work.of_given_eq_error hcheck
    exact ⟨region', text, except_toOption_eq_some_iff.mp hregion',
      Outcome.result_asCheck_eq_error_iff.mp hcheck⟩
  | settings | locale | input | stages | writing => simp [Check.statuses] at hstatus

/-- A call refuses exactly the texts that are no pipelines. -/
theorem refusesPipeline_iff :
    i.RefusesPipeline p r ↔ ∃ error, Pipeline.Wrong r.pipeline error := by
  constructor
  · rintro ⟨-, error, hresult⟩
    obtain ⟨forms, hforms⟩ | hwrong := Pipeline.written_or_wrong r.pipeline
    · obtain ⟨region, text, -, hplace⟩ := of_usage_of_written h hplain hforms hresult rfl
      obtain ⟨e, -, he⟩ := except_mapError_eq_error_iff.mp hplace
      cases he
    · exact hwrong
  · rintro ⟨error, hwrong⟩
    exact refusesPipeline_of_wrong h hplain hwrong

/-- A call for all lines ends with the status of wrong usage only because of the text. -/
theorem refusesPipeline_iff_usage (hlines : r.lines = none) :
    i.RefusesPipeline p r ↔ i.run.ending = .exited ExitStatus.usage.number := by
  constructor
  · exact And.left
  · intro hending
    rw [refusesPipeline_iff h hplain]
    obtain ⟨forms, hforms⟩ | hwrong := Pipeline.written_or_wrong r.pipeline
    · exfalso
      obtain ⟨d, hprepare⟩ := hplain.exists_display
      cases hresult : (r.apply i p).result with
      | ok delivery =>
        rw [run_of_apply_eq_ok h.asks hprepare hresult] at hending
        cases hending
      | error f =>
        rw [run_of_apply_eq_error h.asks hprepare hresult] at hending
        obtain ⟨error, rfl, husage⟩ := Failure.of_ending_eq_usage hending
        obtain ⟨region, text, hregion, hplace⟩ :=
          of_usage_of_written h hplain hforms hresult husage
        rw [RunRequest.region, hlines] at hregion
        cases hregion
        rw [RunRequest.placeWork, TextBuffer.linesIn, LineRegion.clamp_whole] at hplace
        cases hplace
    · exact hwrong

end Applying

end Invocation

/-! ## Checking and running -/

/-- What is common to checking a text and running it. For any registry and any settings the parser
ends alike, but what it gives for a check does nothing. With the built-in commands a check finds the
error with which a run over lines ends, and a call that checks the text fails just when a call that
applies it refuses it. -/
structure ChecksAsItRuns (text : Text) : Prop where
  accepts : ∀ registry settings p, (Pipeline.parse text true registry settings).result = .ok p ↔
    p = Pipeline.identity ∧ ∃ q, (Pipeline.parse text false registry settings).result = .ok q
  refuses : ∀ registry settings failure,
    (Pipeline.parse text true registry settings).result = .error failure ↔
      (Pipeline.parse text false registry settings).result = .error failure
  idle : ∀ registry settings lines, (Pipeline.parse text true registry settings).shown = [] ∧
    Pipeline.identity.stages = [] ∧ (Pipeline.identity.execute lines).result = .ok lines ∧
      (Pipeline.identity.execute lines).shown = []
  finds : ∀ lines settings sink, settings.LocaleAvailable →
    (Pipeline.check text).result =
      .ok (Edit.parseError? (Edit.runLines text lines settings sink).result)
  calls : ∀ i p format j q r, Invocation.AsksCheck i p text format → i.Undisturbed p →
    Invocation.ReachesPipeline j q r → j.Undisturbed q → r.pipeline = text →
      (i.run.ending.status = ExitStatus.failure.number ↔ j.RefusesPipeline q r)
  callsForAllLines : ∀ i p format j q r, Invocation.AsksCheck i p text format →
    i.Undisturbed p → Invocation.ReachesPipeline j q r → j.Undisturbed q → r.pipeline = text →
      r.lines = none → (i.run.ending.status = ExitStatus.failure.number ↔
        j.run.ending = .exited ExitStatus.usage.number)
  behindHyphens : ∀ (i j : Invocation) settings,
    i.arguments = ["check".toList, "--".toList, text] → i.Undisturbed {} →
      j.arguments = ["run".toList, "--".toList, text] → j.Undisturbed {} →
        (RunRequest.settings { pipeline := text } j {}).result = .ok settings →
          settings.LocaleAvailable → (i.run.ending.status = ExitStatus.failure.number ↔
            j.run.ending = .exited ExitStatus.usage.number)

/-- A call that checks a text fails if a call that applies it to all lines ends with the status of
wrong usage. -/
theorem Invocation.status_eq_failure_iff_usage {i j : Invocation} {p q : Preferences}
    {r : RunRequest} {format : ReportFormat} (hcheck : i.AsksCheck p r.pipeline format)
    (hplain : i.Undisturbed p) (hreaches : j.ReachesPipeline q r) (hplain' : j.Undisturbed q)
    (hlines : r.lines = none) :
    i.run.ending.status = ExitStatus.failure.number ↔
      j.run.ending = .exited ExitStatus.usage.number := by
  rw [status_eq_failure_iff hcheck hplain, ← refusesPipeline_iff_usage hreaches hplain' hlines,
    refusesPipeline_iff hreaches hplain']

theorem checksAsItRuns (text : Text) : ChecksAsItRuns text where
  accepts registry settings p := by
    rw [Pipeline.result_parse_checkOnly, except_map_eq_ok_iff]
    constructor
    · rintro ⟨q, hq, rfl⟩
      exact ⟨rfl, q, hq⟩
    · rintro ⟨rfl, q, hq⟩
      exact ⟨q, hq, rfl⟩
  refuses registry settings failure := by
    rw [Pipeline.result_parse_checkOnly]
    cases (Pipeline.parse text false registry settings).result with
    | ok q => simp only [Except.map, reduceCtorEq]
    | error failure' => simp only [Except.map, Except.error.injEq]
  idle registry settings _ := ⟨Pipeline.shown_parse registry settings text true, rfl, rfl, rfl⟩
  finds lines _ sink havailable := Edit.check_eq_parseError havailable lines sink
  calls i p format j q r hcheck hplain hreaches hplain' htext := by
    subst htext
    rw [Invocation.status_eq_failure_iff hcheck hplain,
      Invocation.refusesPipeline_iff hreaches hplain']
  callsForAllLines i p format j q r hcheck hplain hreaches hplain' htext hlines := by
    subst htext
    exact Invocation.status_eq_failure_iff_usage hcheck hplain hreaches hplain' hlines
  behindHyphens i j settings hi hplain hj hplain' hsettings havailable := by
    have hreaches : j.ReachesPipeline {} { pipeline := text } :=
      { asks := Invocation.asksRun_behind_hyphens hj
        target := ⟨none, rfl⟩
        region := ⟨LineRegion.whole, rfl⟩
        settings := ⟨settings, hsettings, havailable⟩ }
    have hcheck := Invocation.asksCheck_behind_hyphens hi
    exact Invocation.status_eq_failure_iff_usage hcheck hplain hreaches hplain' rfl

/-- A call that checks a text with an unknown command fails, as the call that applies it to the
standard input refuses it. -/
theorem checksAsItRuns_unknown_command :
    ∃ (i j : Invocation) (p q : Preferences) (r : RunRequest),
      i.AsksCheck p "sort | frob".toList .json ∧ i.Undisturbed p ∧ j.ReachesPipeline q r ∧
        j.Undisturbed q ∧ r.pipeline = "sort | frob".toList ∧ ChecksAsItRuns r.pipeline ∧
          j.run.ending = .exited 64 ∧ i.run.ending.status = 1 := by
  let i : Invocation :=
    { arguments := ["-q".toList, "check".toList, "sort | frob".toList, "--format=json".toList] }
  let j : Invocation := { arguments := ["run".toList, "sort | frob".toList] }
  let r : RunRequest := { pipeline := "sort | frob".toList }
  have hasks : i.AsksCheck { quiet := 1 } r.pipeline .json := ⟨_, _, rfl, rfl, rfl⟩
  have hreaches : j.ReachesPipeline {} r :=
    { asks := ⟨_, _, rfl, rfl, rfl⟩
      target := ⟨none, rfl⟩
      region := ⟨LineRegion.whole, rfl⟩
      settings := ⟨{}, by decide +kernel, "C".toList, rfl⟩ }
  have hplain : i.Undisturbed { quiet := 1 } := ⟨rfl, by decide, rfl⟩
  have hplain' : j.Undisturbed {} := ⟨rfl, by decide, rfl⟩
  have hagrees : ChecksAsItRuns r.pipeline := checksAsItRuns r.pipeline
  have hending : j.run.ending = .exited 64 := by decide +kernel
  have hstatus :=
    (hagrees.callsForAllLines i _ _ j _ r hasks hplain hreaches hplain' rfl rfl).mpr hending
  exact ⟨i, j, _, _, r, hasks, hplain, hreaches, hplain', rfl, hagrees, hending, hstatus⟩

end CommandLine

end LinePipe
