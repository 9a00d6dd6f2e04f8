import LinePipe.Edit
import LinePipe.Proofs.Buffer.Basic
import LinePipe.Proofs.Pipeline.Checking
import LinePipe.Proofs.Pipeline.Sink

/-!
# Editing

What commands are given under settings is decided by the collation locale alone. An edit of a text
shows help documents where its sink sends them, but its result does not depend on the sink. With the
built-in commands it puts the normal form of the lines of a region in their place. Running a
pipeline text over lines fails with an error of the text only if checking the text finds it.

## Main definitions

- `Settings.LocaleAvailable`: the collation locale of settings can be chosen
- `Edit.parseError?`: the error of a text with which a run over lines ends

## Main statements

- `Settings.result_prepare`: what commands are given, if the collation locale can be chosen
- `Edit.result_applyTo_sink`: the result of an edit does not depend on the sink
- `Edit.result_applyTo`: what an edit by the built-in commands puts into a text
- `Edit.check_eq_parseError`: a check finds the error of a text with which a run ends
-/

namespace LinePipe

/-- A locale cannot be looked up if its name holds a null character, and only then. -/
theorem Locale.resolve_eq_null_iff {name : Text} :
    resolve name = .error .nullInName ↔ '\x00' ∈ name := by
  rw [resolve]
  by_cases hnull : '\x00' ∈ name
  · simp [hnull]
  · simp only [List.elem_eq_mem, hnull, decide_false, Bool.false_eq_true, if_false, iff_false]
    split <;> simp

namespace Settings

/-- What commands are given under the settings once the collation locale is chosen. -/
def given (s : Settings) (sink : Sink) : StageSettings where
  collator := ⟨s.numeric⟩
  sink := sink
  catalog := some Registry.builtin.catalog

/-- Only a collation locale that is named can be a reason against it. -/
theorem result_prepare (s : Settings) (sink : Sink) :
    (s.prepare sink).result =
      if s.locale = [] then .ok (s.given sink)
      else (Locale.resolve s.locale).map fun _ => s.given sink := by
  rw [prepare]
  by_cases hlocale : s.locale = []
  · simp only [hlocale, List.isEmpty_nil, if_true]
    rfl
  · have hisEmpty : s.locale.isEmpty = false := by simpa using hlocale
    simp only [hisEmpty, hlocale, Bool.false_eq_true, if_false]
    cases hresolve : Locale.resolve s.locale with
    | error failure => simp [Locale.activate, hresolve, Except.bind, Except.map]
    | ok locale => simp [Locale.activate, hresolve, Except.bind, Except.map, given]

/-- Nothing is wrong with the collation locale of settings but its name. -/
theorem prepare_eq_error_iff {s : Settings} {sink : Sink} {failure : Locale.Failure} :
    (s.prepare sink).result = .error failure ↔
      s.locale ≠ [] ∧ Locale.resolve s.locale = .error failure := by
  rw [result_prepare]
  by_cases hlocale : s.locale = []
  · simp [hlocale]
  · cases hresolve : Locale.resolve s.locale with
    | error failure' => simp [hlocale, Except.map]
    | ok locale => simp [hlocale, Except.map]

/-- The collation locale of settings can be chosen. That is so if they name none. -/
def LocaleAvailable (s : Settings) : Prop :=
  ∃ locale, Locale.resolve s.locale = .ok locale

theorem result_prepare_of_available {s : Settings} (h : s.LocaleAvailable) (sink : Sink) :
    (s.prepare sink).result = .ok (s.given sink) := by
  obtain ⟨locale, hlocale⟩ := h
  rw [result_prepare, hlocale]
  exact ite_self _

end Settings

namespace Edit

variable {registry : Registry}

/-- The sink of an edit decides nothing but where help documents go. -/
theorem result_applyTo_sink (h : registry.PassesSink) (text pipeline : Text)
    (region : LineRegion) (settings : Settings) (sink sink' : Sink) :
    (applyTo text pipeline region settings sink registry).result =
      (applyTo text pipeline region settings sink' registry).result := by
  have hprepare : (settings.prepare sink).result =
      (settings.prepare sink').result.map fun given => { given with sink } := by
    rw [Settings.result_prepare, Settings.result_prepare]
    split
    · rfl
    · cases Locale.resolve settings.locale <;> rfl
  rw [applyTo, applyTo, Outcome.result_bind, Outcome.result_bind, Outcome.result_mapError,
    Outcome.result_mapError, hprepare]
  cases (settings.prepare sink').result with
  | error failure => rfl
  | ok given =>
    have hparse := Pipeline.parse_withSink h given sink pipeline
    simp only [Except.map, except_mapError_ok, Except.bind, Outcome.result_bind,
      Outcome.result_mapError, hparse]
    cases (Pipeline.parse pipeline false registry (some given)).result with
    | error failure => rfl
    | ok p =>
      simp only [except_mapError_ok, Pipeline.result_execute_withSink]

/-- An edit by the built-in commands puts the normal form of the lines of the region in their place.
It does not fail if the region lies in the text. -/
theorem result_applyTo {text pipeline : Text} {region : LineRegion} {settings : Settings}
    {sink : Sink} {p : Pipeline} {lines : List Text} (h : settings.LocaleAvailable)
    (hparse : (Pipeline.parse pipeline false Registry.builtin
      (some (settings.given sink))).result = .ok p)
    (hlines : (TextBuffer.ofText text).linesIn region = .ok lines) :
    ∃ edited, ((TextBuffer.ofText text settings.newline).replace region
        (p.normalForm ⟨settings.numeric⟩ lines)).result = .ok edited ∧
      (applyTo text pipeline region settings sink).result = .ok edited.toText := by
  rw [← TextBuffer.linesIn_ofText text settings.newline] at hlines
  cases hreplace : ((TextBuffer.ofText text settings.newline).replace region
      (p.normalForm ⟨settings.numeric⟩ lines)).result with
  | error e => exact absurd hreplace (TextBuffer.result_replace_ne_error hlines _ e)
  | ok edited =>
    have hgiven := Settings.result_prepare_of_available h sink
    have hexecute : (p.execute lines).result = .ok (p.normalForm ⟨settings.numeric⟩ lines) :=
      Pipeline.execute_builtin (Pipeline.builtin_of_parse hparse) lines
    have hread : (Outcome.ofExcept (((TextBuffer.ofText text settings.newline).linesIn
        region).mapError Failure.region)).result = .ok lines := by
      rw [hlines]
      rfl
    refine ⟨edited, rfl, ?_⟩
    rw [applyTo, Outcome.result_bind_of_ok (Outcome.result_mapError_eq_ok_iff.mpr hgiven),
      Outcome.result_bind_of_ok (Outcome.result_mapError_eq_ok_iff.mpr hparse),
      Outcome.result_bind_of_ok hread,
      Outcome.result_bind_of_ok (Outcome.result_mapError_eq_ok_iff.mpr hexecute),
      Outcome.result_bind_of_ok (Outcome.result_mapError_eq_ok_iff.mpr hreplace)]
    rfl

/-! ## Errors of the text -/

/-- The error of a pipeline text that a failure tells, if it is about the text. -/
def Failure.parseError? : Failure → Option ParseError
  | .build (.rejected error) => some error
  | .pipeline (.parse error) => some error
  | _ => none

/-- The error of a pipeline text with which a run over lines ends, if there is one. -/
def parseError? : Except Failure (List Text) → Option ParseError
  | .ok _ => none
  | .error failure => failure.parseError?

section Lines

variable {pipeline : Text} {settings : Settings} (h : settings.LocaleAvailable) (lines : List Text)
  (sink : Sink)
include h

/-- With a locale that can be chosen only the parser and the stages can fail. -/
theorem result_runLines :
    (runLines pipeline lines settings sink).result =
      ((Pipeline.parse pipeline false Registry.builtin
          (some (settings.given sink))).mapError Failure.build >>= fun p =>
        (p.execute lines).mapError Failure.pipeline).result := by
  have hprepare : ((settings.prepare sink).mapError Failure.locale).result =
      .ok (settings.given sink) :=
    Outcome.result_mapError_eq_ok_iff.mpr (Settings.result_prepare_of_available h sink)
  rw [runLines, Outcome.result_bind_of_ok hprepare]

/-- Running a text that is a pipeline never fails. -/
theorem result_runLines_of_written {forms : List StageForm}
    (hwritten : Pipeline.Written pipeline forms) :
    ∃ out, (runLines pipeline lines settings sink).result = .ok out := by
  have hparse : (Pipeline.parse pipeline false Registry.builtin
      (some (settings.given sink))).result = _ := Pipeline.result_parse_of_written hwritten
  have hexecute := Pipeline.execute_builtin (Pipeline.builtin_of_parse hparse) lines
  rw [result_runLines h, Outcome.result_bind_of_ok (Outcome.result_mapError_eq_ok_iff.mpr hparse)]
  exact ⟨_, Outcome.result_mapError_eq_ok_iff.mpr hexecute⟩

/-- Running a text that is no pipeline fails with what is wrong with it. -/
theorem result_runLines_of_wrong {error : ParseError} (hwrong : Pipeline.Wrong pipeline error) :
    (runLines pipeline lines settings sink).result = .error (.build (.rejected error)) := by
  have hparse : ((Pipeline.parse pipeline false Registry.builtin
      (some (settings.given sink))).mapError Failure.build).result =
        .error (.build (.rejected error)) := by
    rw [Outcome.result_mapError, Pipeline.result_parse_of_wrong hwrong]
    rfl
  rw [result_runLines h, Outcome.result_bind_of_error hparse]

/-- A check of a pipeline text finds the error with which running it ends, whatever the lines are,
and nothing if running it ends otherwise. -/
theorem check_eq_parseError :
    (Pipeline.check pipeline).result =
      .ok (parseError? (runLines pipeline lines settings sink).result) := by
  obtain ⟨forms, hforms⟩ | ⟨error, herror⟩ := Pipeline.written_or_wrong pipeline
  · obtain ⟨out, hout⟩ := result_runLines_of_written h lines sink hforms
    rw [Pipeline.result_check_of_written hforms, hout]
    rfl
  · rw [Pipeline.result_check_of_wrong herror, result_runLines_of_wrong h lines sink herror]
    rfl

end Lines

end Edit

end LinePipe
