import LinePipe.Proofs.Buffer.Basic
import LinePipe.Proofs.CommandLine.Run

/-!
# The order of checks

Applying a pipeline is a row of checks, each of which has a failure of its own. Whatever combination
of them would fail, the first that does decides how the call ends, and those behind it are not made.

## Main definitions

- `Check`: what is checked
- `Check.order`: the order of the checks
- `RunRequest.check`: each check by itself

## Main statements

- `RunRequest.asCheck_apply`: applying a pipeline is making the checks in order
- `RunRequest.among_check`: the statuses that each check can give
-/

namespace LinePipe

namespace CommandLine

/-- What is checked when a pipeline is applied. -/
inductive Check where
  /-- There is a file for a result that is to be written back. -/
  | target
  /-- The line range is one. -/
  | range
  | settings
  /-- The collation locale can be chosen. -/
  | locale
  /-- The pipeline text is one. -/
  | pipeline
  /-- The input can be read. -/
  | input
  /-- The line range lies in the input. -/
  | place
  /-- The stages do not fail. -/
  | stages
  /-- The result can be delivered. -/
  | writing
  deriving Repr, DecidableEq

namespace Check

def order : List Check :=
  [target, range, settings, locale, pipeline, input, place, stages, writing]

/-- The statuses with which a call ends if the check fails. -/
def statuses : Check → List ExitStatus
  | target => [.usage]
  | range => [.usage]
  | settings => [.settings]
  | locale => [.settings]
  | pipeline => [.usage]
  | input => [.missingFile, .permission, .encoding, .access]
  | place => [.usage]
  | stages => [.pipeline]
  | writing => [.permission, .access]

end Check

/-- A failure is told with one of some statuses, unless the program breaks down. -/
def Failure.Among (statuses : List ExitStatus) : Failure → Prop
  | .usage _ => False
  | .told error => error.status ∈ statuses
  | .broken _ => True

@[simp] theorem Failure.among_told {statuses : List ExitStatus} {error : CommandError} :
    (Failure.told error).Among statuses ↔ error.status ∈ statuses :=
  Iff.rfl

/-- A check that needs something; if that is missing there is nothing to check. -/
def Work.given {α : Type} (needed : Option α) (check : α → Work Unit) : Work Unit :=
  match needed with
  | none => pure ()
  | some a => check a

theorem Work.of_given_eq_error {α : Type} {needed : Option α} {check : α → Work Unit} {f : Failure}
    (h : (Work.given needed check).result = .error f) :
    ∃ a, needed = some a ∧ (check a).result = .error f := by
  cases needed with
  | none => cases h
  | some a => exact ⟨a, rfl, h⟩

namespace RunRequest

/-! ## Each check by itself -/

variable (r : RunRequest) (i : Invocation) (p : Preferences)

def region? : Option LineRegion :=
  r.region.toOption

def settings? : Option Settings :=
  (r.settings i p).result.toOption

/-- What commands are given under settings. -/
def localeWork (settings : Settings) : Work StageSettings :=
  (settings.prepare .display).mapError Failure.ofLocale

def given? : Option StageSettings :=
  (r.settings? i p).bind fun settings => (localeWork settings).result.toOption

def pipelineWork (given : StageSettings) : Work Pipeline :=
  (Pipeline.parse r.pipeline false i.registry (some given)).mapError Failure.ofBuilding

def pipeline? : Option Pipeline :=
  (r.given? i p).bind fun given => (r.pipelineWork i given).result.toOption

def text? : Option Text :=
  (i.readText r.file).toOption

/-- The lines of a text in a region. -/
def placeWork (region : LineRegion) (text : Text) : Work (List Text) :=
  Outcome.ofExcept (((TextBuffer.ofText text).linesIn region).mapError fun e =>
    .told (.region e))

def lines? : Option (List Text) :=
  r.region?.bind fun region => (r.text? i).bind fun text =>
    (placeWork region text).result.toOption

def stagesWork (pipeline : Pipeline) (lines : List Text) : Work (List Text) :=
  (pipeline.execute lines).mapError Failure.ofPipeline

def out? : Option (List Text) :=
  (r.pipeline? i p).bind fun pipeline => (r.lines? i).bind fun lines =>
    (stagesWork pipeline lines).result.toOption

/-- Lines put into the place of a region, and the text delivered. -/
def writingWork (target : Option Text) (region : LineRegion) (mode : NewlineMode) (text : Text)
    (out : List Text) : Work Delivery := do
  let edited ← ((TextBuffer.ofText text mode).replace region out).mapError fun e =>
    .told (.region e)
  deliver i target text edited.toText

/-- One check by itself. It does not matter whether those before it fail, except where it is about
something that only they can give. -/
def check : Check → Work Unit
  | .target => (Outcome.ofExcept r.target).asCheck
  | .range => (Outcome.ofExcept r.region).asCheck
  | .settings => (r.settings i p).asCheck
  | .locale => Work.given (r.settings? i p) fun settings => (localeWork settings).asCheck
  | .pipeline => Work.given (r.given? i p) fun given => (r.pipelineWork i given).asCheck
  | .input => (Outcome.ofExcept (i.readText r.file)).asCheck
  | .place =>
    Work.given r.region? fun region => Work.given (r.text? i) fun text =>
      (placeWork region text).asCheck
  | .stages =>
    Work.given (r.pipeline? i p) fun pipeline => Work.given (r.lines? i) fun lines =>
      (stagesWork pipeline lines).asCheck
  | .writing =>
    Work.given r.target.toOption fun target => Work.given r.region? fun region =>
      Work.given (r.settings? i p) fun settings => Work.given (r.text? i) fun text =>
        Work.given (r.out? i p) fun out =>
          (writingWork i target region settings.newline text out).asCheck

/-- Applying a pipeline is making the checks in order. -/
theorem asCheck_apply : (r.apply i p).asCheck = Check.order.forM (r.check i p) := by
  have happly : (r.apply i p).asCheck =
      Outcome.ofExcept r.target >>= fun target =>
        Outcome.ofExcept r.region >>= fun region =>
          r.settings i p >>= fun settings =>
            localeWork settings >>= fun given =>
              r.pipelineWork i given >>= fun pipeline =>
                Outcome.ofExcept (i.readText r.file) >>= fun text =>
                  placeWork region text >>= fun lines =>
                    stagesWork pipeline lines >>= fun out =>
                      (writingWork i target region settings.newline text out).asCheck := by
    simp only [Outcome.asCheck, apply, transform, localeWork, pipelineWork, placeWork, stagesWork,
      writingWork, TextBuffer.linesIn_ofText, Outcome.bind_assoc, Outcome.value_bind]
  rw [happly]
  -- What a check needs is what those before it gave, so it is there whenever the check is made.
  simp only [Check.order, Outcome.forM_cons]
  refine Outcome.bind_eq_asCheck_bind fun target htarget => ?_
  refine Outcome.bind_eq_asCheck_bind fun region hregion => ?_
  refine Outcome.bind_eq_asCheck_bind fun settings hsettings => ?_
  rw [Outcome.result_ofExcept] at htarget hregion
  have hsettings? : r.settings? i p = some settings := by rw [settings?, hsettings]; rfl
  have hlocale : r.check i p .locale = (localeWork settings).asCheck := by
    rw [check, hsettings?]
    rfl
  rw [hlocale]
  refine Outcome.bind_eq_asCheck_bind fun given hgiven => ?_
  have hgiven? : r.given? i p = some given := by
    rw [given?, hsettings?, Option.bind_some, hgiven]
    rfl
  have hparse : r.check i p .pipeline = (r.pipelineWork i given).asCheck := by
    rw [check, hgiven?]
    rfl
  rw [hparse]
  refine Outcome.bind_eq_asCheck_bind fun pipeline hpipeline => ?_
  have hpipeline? : r.pipeline? i p = some pipeline := by
    rw [pipeline?, hgiven?, Option.bind_some, hpipeline]
    rfl
  refine Outcome.bind_eq_asCheck_bind fun text htext => ?_
  have hregion? : r.region? = some region := by rw [region?, hregion]; rfl
  have htext? : r.text? i = some text := by
    rw [Outcome.result_ofExcept] at htext
    rw [text?, htext]
    rfl
  have hplace : r.check i p .place = (placeWork region text).asCheck := by
    rw [check, hregion?, htext?]
    rfl
  rw [hplace]
  refine Outcome.bind_eq_asCheck_bind fun lines hlines => ?_
  have hlines? : r.lines? i = some lines := by
    rw [lines?, hregion?, htext?, Option.bind_some, Option.bind_some, hlines]
    rfl
  have hstages : r.check i p .stages = (stagesWork pipeline lines).asCheck := by
    rw [check, hpipeline?, hlines?]
    rfl
  rw [hstages]
  refine Outcome.bind_eq_asCheck_bind fun out hout => ?_
  have hout? : r.out? i p = some out := by
    rw [out?, hpipeline?, hlines?, Option.bind_some, Option.bind_some, hout]
    rfl
  have hwriting : r.check i p .writing =
      (writingWork i target region settings.newline text out).asCheck := by
    rw [check, htarget, hregion?, hsettings?, htext?, hout?]
    rfl
  rw [hwriting]
  exact Outcome.bind_eq_asCheck_bind fun _ _ => rfl

/-! ## What a failing check tells -/

variable {r i p} {f : Failure}

theorem of_lines?_eq_some {lines : List Text} (h : r.lines? i = some lines) :
    ∃ region text, r.region? = some region ∧ r.text? i = some text ∧
      (TextBuffer.ofText text).linesIn region = .ok lines := by
  obtain ⟨region, hregion, h⟩ := Option.bind_eq_some_iff.mp h
  obtain ⟨text, htext, h⟩ := Option.bind_eq_some_iff.mp h
  refine ⟨region, text, hregion, htext, ?_⟩
  cases hlines : (TextBuffer.ofText text).linesIn region with
  | error e => simp [placeWork, hlines, Except.toOption] at h
  | ok found =>
    simp only [placeWork, hlines, except_mapError_ok, Outcome.result_ofExcept, Except.toOption,
      Option.some.injEq] at h
    rw [h]

theorem among_target (h : r.target = .error f) : f.Among Check.target.statuses := by
  rw [target] at h
  split at h
  · cases h
  · split at h
    · cases h
      simp [Check.statuses, CommandError.status]
    · cases h

theorem among_range (h : r.region = .error f) : f.Among Check.range.statuses := by
  rw [region] at h
  split at h
  · cases h
  · obtain ⟨failure, -, rfl⟩ := except_mapError_eq_error_iff.mp h
    cases failure with
    | region error => exact List.mem_singleton.mpr rfl
    | numeral error => trivial

theorem among_settings (h : (r.settings i p).result = .error f) :
    f.Among Check.settings.statuses := by
  obtain h | ⟨layer, -, h⟩ := Outcome.result_bind_eq_error_iff.mp h
  · obtain ⟨failure, -, rfl⟩ := except_mapError_eq_error_iff.mp h
    cases failure with
    | settings error => exact List.mem_singleton.mpr rfl
    | encoding | clash | access => trivial
  · cases h

theorem among_locale {settings : Settings} (h : (localeWork settings).result = .error f) :
    f.Among Check.locale.statuses := by
  obtain ⟨failure, -, rfl⟩ := except_mapError_eq_error_iff.mp h
  cases failure with
  | unsupported name => exact List.mem_singleton.mpr rfl
  | nullInName => trivial

theorem among_pipeline {given : StageSettings}
    (h : (r.pipelineWork i given).result = .error f) : f.Among Check.pipeline.statuses := by
  obtain ⟨failure, -, rfl⟩ := except_mapError_eq_error_iff.mp h
  cases failure with
  | rejected error => exact List.mem_singleton.mpr rfl
  | broken reason => trivial

theorem among_input (h : i.readText r.file = .error f) : f.Among Check.input.statuses := by
  cases hfile : r.file with
  | none =>
    rw [hfile, Invocation.readText, Invocation.readInput] at h
    split at h
    · cases h
      simp [Check.statuses, CommandError.status]
    · cases h
  | some path =>
    rw [hfile, Invocation.readText, Invocation.readFile] at h
    split at h
    · cases h
      rename_i e _
      cases e with
      | nullInPath => trivial
      | refused cause q =>
        rw [Failure.ofReading]
        split
        · simp [Check.statuses, CommandError.status]
        · split <;> simp [Check.statuses, CommandError.status]
    · split at h
      · cases h
        simp [Check.statuses, CommandError.status]
      · cases h

theorem among_place {region : LineRegion} {text : Text}
    (h : (placeWork region text).result = .error f) : f.Among Check.place.statuses := by
  obtain ⟨error, -, rfl⟩ := except_mapError_eq_error_iff.mp h
  exact List.mem_singleton.mpr rfl

theorem among_stages {pipeline : Pipeline} {lines : List Text}
    (h : (stagesWork pipeline lines).result = .error f) : f.Among Check.stages.statuses := by
  obtain ⟨error, -, rfl⟩ := except_mapError_eq_error_iff.mp h
  cases error with
  | stageFailed stage index cause => exact List.mem_singleton.mpr rfl
  | plain | parse => trivial

theorem among_deliver {target : Option Text} {text result : Text}
    (h : (deliver i target text result).result = .error f) : f.Among Check.writing.statuses := by
  cases target with
  | none => cases h
  | some path =>
    rw [deliver] at h
    split at h
    · cases h
    · rw [Outcome.result_bind, Invocation.save] at h
      split at h
      · cases h
        rename_i e _
        cases e with
        | nullInPath => trivial
        | refused cause q =>
          rw [Failure.ofWriting]
          split <;> simp [Check.statuses, CommandError.status]
      · cases h

theorem among_writing {target : Option Text} {region : LineRegion} {mode : NewlineMode}
    {text : Text} {lines out : List Text}
    (hlines : (TextBuffer.ofText text).linesIn region = .ok lines)
    (h : (writingWork i target region mode text out).result = .error f) :
    f.Among Check.writing.statuses := by
  rw [← TextBuffer.linesIn_ofText text mode] at hlines
  obtain h | ⟨edited, -, h⟩ := Outcome.result_bind_eq_error_iff.mp h
  · obtain ⟨e, hreplace, -⟩ := except_mapError_eq_error_iff.mp h
    exact absurd hreplace (TextBuffer.result_replace_ne_error hlines out e)
  · exact among_deliver h

/-- A check that fails gives one of the statuses that belong to it. -/
theorem among_check {c : Check} (h : (r.check i p c).result = .error f) : f.Among c.statuses := by
  cases c with
  | target => exact among_target (Outcome.result_asCheck_eq_error_iff.mp h)
  | range => exact among_range (Outcome.result_asCheck_eq_error_iff.mp h)
  | settings => exact among_settings (Outcome.result_asCheck_eq_error_iff.mp h)
  | locale =>
    obtain ⟨settings, -, h⟩ := Work.of_given_eq_error h
    exact among_locale (Outcome.result_asCheck_eq_error_iff.mp h)
  | pipeline =>
    obtain ⟨given, -, h⟩ := Work.of_given_eq_error h
    exact among_pipeline (Outcome.result_asCheck_eq_error_iff.mp h)
  | input => exact among_input (Outcome.result_asCheck_eq_error_iff.mp h)
  | place =>
    obtain ⟨region, -, h⟩ := Work.of_given_eq_error h
    obtain ⟨text, -, h⟩ := Work.of_given_eq_error h
    exact among_place (Outcome.result_asCheck_eq_error_iff.mp h)
  | stages =>
    obtain ⟨pipeline, -, h⟩ := Work.of_given_eq_error h
    obtain ⟨lines, -, h⟩ := Work.of_given_eq_error h
    exact among_stages (Outcome.result_asCheck_eq_error_iff.mp h)
  | writing =>
    obtain ⟨target, -, h⟩ := Work.of_given_eq_error h
    obtain ⟨region, hregion, h⟩ := Work.of_given_eq_error h
    obtain ⟨settings, -, h⟩ := Work.of_given_eq_error h
    obtain ⟨text, htext, h⟩ := Work.of_given_eq_error h
    obtain ⟨out, hout, h⟩ := Work.of_given_eq_error h
    -- There is output of the stages only if the range lies in the input.
    obtain ⟨pipeline, -, hout⟩ := Option.bind_eq_some_iff.mp hout
    obtain ⟨lines, hlines, -⟩ := Option.bind_eq_some_iff.mp hout
    obtain ⟨region', text', hregion', htext', hlines⟩ := of_lines?_eq_some hlines
    rw [hregion, Option.some.injEq] at hregion'
    rw [htext, Option.some.injEq] at htext'
    subst hregion' htext'
    exact among_writing hlines (Outcome.result_asCheck_eq_error_iff.mp h)

end RunRequest

end CommandLine

end LinePipe
