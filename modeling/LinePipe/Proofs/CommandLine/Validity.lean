import LinePipe.Proofs.CommandLine.Checking
import LinePipe.Proofs.CommandLine.Verbosity
import LinePipe.Proofs.Json

/-!
# Reports on the validity of a pipeline

A call that is to check a pipeline text and to report as JSON prints one document. It gives back the
text, whatever characters that has, and tells whether the text is a pipeline, as the status of the
call does, and otherwise what is wrong with it.

## Main definitions

- `Json.TellsValidity`, `Invocation.TellsValidity`: a document, or a call by printing one, tells
  whether a text is a pipeline
- `ReportsFaithfully`: what calls print that check a text

## Main statements

- `Report.tellsValidity_of_written`, `Report.tellsValidity_of_wrong`: the report on what a check
  finds
- `Invocation.out_of_asksCheck`: what a call prints that checks a text
- `reportsFaithfully`: calls that check a text report on it faithfully
-/

namespace LinePipe

/-- A document tells whether a text is a pipeline of the built-in commands, as the status does with
which a call ended, and if it is none then what is wrong with it. -/
structure Json.TellsValidity (document : Json) (text : Text) (status : Nat) : Prop where
  pipeline : document.field? "pipeline".toList = some (.text text)
  valid : ∃ valid : Bool, document.field? "valid".toList = some (.boolean valid) ∧
    (valid = true ↔ status = 0) ∧ (valid = true ↔ ∃ p, (Pipeline.parse text).result = .ok p)
  accepted : ∀ p, (Pipeline.parse text).result = .ok p →
    document.field? "error".toList = some .null ∧ document.field? "kind".toList = some .null
  refused : ∀ failure, (Pipeline.parse text).result = .error failure →
    ∃ error, failure = .rejected error ∧
      document.field? "error".toList = some (.text error.message) ∧
        document.field? "kind".toList = some (.text error.kind)

namespace CommandLine

/-! ## Reports -/

theorem Report.tellsValidity_of_written {text : Text} {forms : List StageForm}
    (h : Pipeline.Written text forms) :
    (Report.validity text none).TellsValidity text (Report.validityStatus none).number := by
  have hparse : (Pipeline.parse text).result = .ok ⟨forms.map (StageForm.stage {})⟩ :=
    Pipeline.result_parse_of_written h
  exact
    { pipeline := rfl
      valid := ⟨true, rfl, iff_of_true rfl rfl, iff_of_true rfl ⟨_, hparse⟩⟩
      accepted := fun _ _ => ⟨rfl, rfl⟩
      refused := fun failure hfailure => by
        rw [hparse] at hfailure
        cases hfailure }

theorem Report.tellsValidity_of_wrong {text : Text} {error : ParseError}
    (h : Pipeline.Wrong text error) :
    (Report.validity text (some error)).TellsValidity text
      (Report.validityStatus (some error)).number := by
  have hparse : (Pipeline.parse text).result = .error (.rejected error) :=
    Pipeline.result_parse_of_wrong h
  have hnot (p : Pipeline) : (Pipeline.parse text).result ≠ .ok p := by
    rw [hparse]
    exact nofun
  exact
    { pipeline := rfl
      valid := by
        refine ⟨false, rfl, iff_of_false Bool.false_ne_true ?_,
          iff_of_false Bool.false_ne_true fun ⟨p, hp⟩ => hnot p hp⟩
        exact (by decide : ExitStatus.failure.number ≠ 0)
      accepted := fun p hp => absurd hp (hnot p)
      refused := fun failure hfailure => by
        rw [hparse] at hfailure
        exact ⟨error, (Except.error.inj hfailure).symm, rfl, rfl⟩ }

namespace Invocation

/-- A call prints one document, which tells whether a text is a pipeline. -/
def TellsValidity (i : Invocation) (text : Text) : Prop :=
  ∃ document, Json.decode i.run.out = some document ∧
    document.TellsValidity text i.run.ending.status

variable {i : Invocation} {p : Preferences} {text : Text}

/-! ## Calls -/

/-- A text that is no option is taken as the pipeline to be checked. -/
theorem asksCheck_of_operand (htext : isOption text = false)
    (h : Preferences.read i.files i.arguments =
      .ok (.action (p, ["check".toList, text, "--format".toList, "json".toList]))) :
    i.AsksCheck p text .json := by
  refine ⟨_, _, h, rfl, ?_⟩
  have hmark : (text == operandMark) = false := by
    rw [beq_eq_false_iff_ne]
    rintro rfl
    cases htext
  have hrest : scanFrom CommandName.check.options true none ["--format".toList, "json".toList] =
      .ok { uses := [{ name := .format, value := "json".toList }] } := by decide
  rw [Request.read, scan, scanFrom, hmark, htext, hrest]
  rfl

/-- Behind two hyphens any text is. -/
theorem asksCheck_json_behind_hyphens
    (h : Preferences.read i.files i.arguments = .ok (.action
      (p, ["check".toList, "--format".toList, "json".toList, "--".toList, text]))) :
    i.AsksCheck p text .json :=
  ⟨_, _, h, rfl, rfl⟩

/-- A call that is to check a text prints the document for what the check finds, whatever the colour
and however much output is asked for. -/
theorem out_of_asksCheck {error : Option ParseError} (h : i.AsksCheck p text .json)
    (hplain : i.Undisturbed p) (hcheck : (Pipeline.check text).result = .ok error) :
    i.run.out = (Report.validity text error).compact ++ ['\n'] := by
  obtain ⟨d, hprepare⟩ := hplain.exists_display
  have hreport : (Report.check d.console i.registry d.verbosity .json text).result =
      .ok (Report.ofValidity d.console d.verbosity .json text error) := by
    rw [hplain.registry, Report.check,
      Outcome.result_bind_of_ok (Outcome.result_mapError_eq_ok_iff.mpr hcheck)]
    rfl
  rw [run_of_asks h hprepare]
  simp only [perform, finish, hreport, reported, Report.ofValidity]
  exact Json.written_compact d.console _

theorem tellsValidity_of_asksCheck (h : i.AsksCheck p text .json) (hplain : i.Undisturbed p) :
    i.TellsValidity text := by
  obtain ⟨forms, hforms⟩ | ⟨error, herror⟩ := Pipeline.written_or_wrong text
  · have hcheck := Pipeline.result_check_of_written hforms
    rw [TellsValidity, out_of_asksCheck h hplain hcheck, ending_of_asksCheck h hplain hcheck]
    exact ⟨_, Json.decode_compact _, Report.tellsValidity_of_written hforms⟩
  · have hcheck := Pipeline.result_check_of_wrong herror
    rw [TellsValidity, out_of_asksCheck h hplain hcheck, ending_of_asksCheck h hplain hcheck]
    exact ⟨_, Json.decode_compact _, Report.tellsValidity_of_wrong herror⟩

end Invocation

/-- Calls that check a text and are to report as JSON print one document, which tells about the
text. This goes for all calls that take the text as the pipeline, and there are such calls whatever
options of the program come first: with the text before the format if it is no option, and with any
text behind two hyphens. -/
structure ReportsFaithfully (text : Text) : Prop where
  calls : ∀ i p, Invocation.AsksCheck i p text .json → i.Undisturbed p → i.TellsValidity text
  operand : ∀ (i : Invocation) p, isOption text = false → i.Undisturbed p →
    Preferences.read i.files i.arguments =
      .ok (.action (p, ["check".toList, text, "--format".toList, "json".toList])) →
        i.TellsValidity text
  behindHyphens : ∀ (i : Invocation) p, i.Undisturbed p →
    Preferences.read i.files i.arguments = .ok (.action
      (p, ["check".toList, "--format".toList, "json".toList, "--".toList, text])) →
        i.TellsValidity text

/-- Calls that check a text report on it faithfully. -/
theorem reportsFaithfully (text : Text) : ReportsFaithfully text where
  calls _ _ h hplain := Invocation.tellsValidity_of_asksCheck h hplain
  operand _ _ htext hplain h :=
    Invocation.tellsValidity_of_asksCheck (Invocation.asksCheck_of_operand htext h) hplain
  behindHyphens _ _ hplain h :=
    Invocation.tellsValidity_of_asksCheck (Invocation.asksCheck_json_behind_hyphens h) hplain

/-- Colour and less output can be asked for in front of the command. -/
example (text : Text) :
    let i : Invocation :=
      { arguments := ["-q".toList, "--color".toList, "always".toList, "check".toList, text,
          "--format".toList, "json".toList] }
    let p : Preferences := { quiet := 1, colour := .always }
    Preferences.read i.files i.arguments =
      .ok (.action (p, ["check".toList, text, "--format".toList, "json".toList])) ∧
    i.Undisturbed p :=
  ⟨rfl, rfl, by decide, rfl⟩

end CommandLine

end LinePipe
