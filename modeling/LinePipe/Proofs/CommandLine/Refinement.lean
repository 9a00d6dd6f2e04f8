import LinePipe.Proofs.CommandLine.Keeping
import LinePipe.Proofs.CommandLine.Breakdowns
import LinePipe.Proofs.Edit

/-!
# A call and an edit

A call that writes a result back does to the text of its file what an edit with the same pipeline
text, line range and settings does to that text. It succeeds when the edit does, and each failure of
the edit has a status of the call.

## Main definitions

- `Failure.ofEdit`: what a call tells for a failure of an edit
- `Edit.Failure.status?`: the status for it, unless the program breaks down
- `Invocation.EditsFile`: a call that is to edit a file that can be read and written
- `Invocation.EndsAsEdit`: a call ends as an edit does

## Main statements

- `RunRequest.result_apply`: a call is an edit with the result delivered
- `Invocation.refinesEdit`: a call ends as the edit does
-/

namespace LinePipe

/-- The status of a call for a failure of an edit, unless the program breaks down. -/
def Edit.Failure.status? : Edit.Failure → Option CommandLine.ExitStatus
  | .locale (.unsupported _) => some .settings
  | .build (.rejected _) => some .usage
  | .region _ => some .usage
  | .pipeline (.stageFailed _ _ _) => some .pipeline
  | _ => none

namespace CommandLine

/-- What a call tells for a failure of an edit. -/
def Failure.ofEdit : Edit.Failure → Failure
  | .locale failure => ofLocale failure
  | .build failure => ofBuilding failure
  | .region error => told (.region error)
  | .pipeline error => ofPipeline error

theorem Failure.ending_ofEdit {failure : Edit.Failure} {status : ExitStatus}
    (h : failure.status? = some status) :
    (ofEdit failure).ending = .exited status.number := by
  cases failure with
  | locale failure =>
    cases failure with
    | unsupported name =>
      cases h
      rfl
    | nullInName => cases h
  | build failure =>
    cases failure with
    | rejected error =>
      cases h
      rfl
    | broken reason => cases h
  | region error =>
    cases h
    rfl
  | pipeline error =>
    cases error with
    | stageFailed stage index cause =>
      cases h
      rfl
    | plain message => cases h
    | parse error => cases h

namespace RunRequest

variable {r : RunRequest} {i : Invocation} {p : Preferences}

/-- The part of a call between the settings and the delivery, with the text known before, is an
edit. -/
theorem mapError_applyTo (pipeline : Text) (region : LineRegion) (settings : Settings)
    (registry : Registry) (text : Text) :
    (Edit.applyTo text pipeline region settings .display registry).mapError Failure.ofEdit =
      (settings.prepare .display).mapError Failure.ofLocale >>= fun given =>
        (Pipeline.parse pipeline false registry (some given)).mapError Failure.ofBuilding >>=
          fun parsed => transform parsed region settings.newline text := by
  simp only [Edit.applyTo, transform, Outcome.mapError_bind, Outcome.mapError_mapError,
    Outcome.mapError_ofExcept, except_mapError_mapError]
  rfl

/-- A call whose range, settings and text are known is an edit of the text with the result
delivered. -/
theorem result_apply {target : Option Text} {region : LineRegion} {settings : Settings}
    {text : Text} (htarget : r.target = .ok target) (hregion : r.region = .ok region)
    (hsettings : (r.settings i p).result = .ok settings) (htext : i.readText r.file = .ok text) :
    (r.apply i p).result =
      ((Edit.applyTo text r.pipeline region settings .display i.registry).mapError
        Failure.ofEdit >>= fun result => deliver i target text result).result := by
  have hread : (Outcome.ofExcept (i.readText r.file) : Work Text) = pure text := by
    rw [htext]
    rfl
  have htarget' : (Outcome.ofExcept r.target : Work (Option Text)).result = .ok target := htarget
  have hregion' : (Outcome.ofExcept r.region : Work LineRegion).result = .ok region := hregion
  rw [apply, Outcome.result_bind_of_ok htarget', Outcome.result_bind_of_ok hregion',
    Outcome.result_bind_of_ok hsettings, mapError_applyTo]
  simp only [hread, Outcome.value_bind, Outcome.bind_assoc]

end RunRequest

namespace Invocation

variable {i : Invocation} {p : Preferences} {r : RunRequest} {path content : Text}
  {region : LineRegion} {settings : Settings}

/-- A call that is to edit a file, which can be read and written and is UTF-8. -/
structure EditsFile (i : Invocation) (p : Preferences) (r : RunRequest)
    (path content : Text) : Prop where
  asks : i.AsksRun p r
  target : r.target = .ok (some path)
  display : ∃ d, Display.prepare i p = .ok d
  read : i.files.read (Path.ofText path) = .ok (Utf8.encode content)
  writable : ∃ place, i.files.opened (Path.ofText path) .writing = .ok place

/-- A call ends as an edit does. It succeeds if the edit does, with the edited text in the file, and
where there is a status for a failure of the edit, the call ends with it and leaves all files. -/
structure EndsAsEdit (i : Invocation) (path : Text) (edited : Except Edit.Failure Text) :
    Prop where
  succeeds : i.run.ending = .exited ExitStatus.success.number ↔ ∃ t, edited = .ok t
  holds : ∀ t, edited = .ok t → i.run.files.read (Path.ofText path) = .ok (Utf8.encode t)
  fails : ∀ failure status, edited = .error failure → failure.status? = some status →
    i.run.ending = .exited status.number ∧ i.run.files = i.files

/-- A call ends as the edit with its line range and its settings does, whatever the sink of the edit
is. A text that is no line range is an error of usage. -/
structure RefinesEdit (i : Invocation) (p : Preferences) (r : RunRequest)
    (path content : Text) : Prop where
  accepted : ∀ region settings sink, r.region = .ok region →
    (r.settings i p).result = .ok settings →
      i.EndsAsEdit path (Edit.applyTo content r.pipeline region settings sink i.registry).result
  refused : ∀ text error, r.lines = some text → LineRegion.parse text = .error (.region error) →
    i.run.ending = .exited ExitStatus.usage.number ∧ i.run.files = i.files

/-- A file that can be opened is delivered to. -/
theorem deliver_of_opened
    (hread : i.files.read (Path.ofText path) = .ok (Utf8.encode content))
    (hwritable : ∃ place, i.files.opened (Path.ofText path) .writing = .ok place) (t : Text) :
    ∃ delivery, (RunRequest.deliver i (some path) content t).result = .ok delivery := by
  rw [RunRequest.deliver]
  split
  · exact ⟨_, rfl⟩
  · obtain ⟨files, hwrite⟩ := Files.exists_write hread hwritable (Utf8.encode t)
    have hsave := result_save_eq_ok_iff.mpr hwrite
    exact ⟨.saved files, Outcome.result_bind_of_ok hsave _⟩

theorem files_of_failure {failure : Failure} (hending : i.run.ending = failure.ending) :
    i.run.files = i.files := by
  refine files_of_failing fun hstatus => ?_
  have hsuccess := ending_of_status hstatus
  rw [hending] at hsuccess
  exact failure.ending_ne_success hsuccess

section

variable (h : i.EditsFile p r path content) (hregion : r.region = .ok region)
  (hsettings : (r.settings i p).result = .ok settings)
include h hregion hsettings

theorem result_apply_of_editsFile :
    (r.apply i p).result =
      ((Edit.applyTo content r.pipeline region settings .display i.registry).mapError
        Failure.ofEdit >>= fun t => RunRequest.deliver i (some path) content t).result := by
  obtain ⟨-, hfile⟩ := RunRequest.of_target_eq_some h.target
  have htext : i.readText r.file = .ok content := by
    rw [hfile]
    exact readFile_eq_ok_iff.mpr ⟨_, h.read, Utf8.decode_encode content⟩
  exact RunRequest.result_apply h.target hregion hsettings htext

/-- An edit that succeeds leaves its result in the file. -/
theorem ending_of_edit_eq_ok {t : Text}
    (hedit : (Edit.applyTo content r.pipeline region settings .display i.registry).result = .ok t) :
    i.run.ending = .exited ExitStatus.success.number ∧
      i.run.files.read (Path.ofText path) = .ok (Utf8.encode t) := by
  obtain ⟨d, hprepare⟩ := h.display
  obtain ⟨delivery, hdeliver⟩ := deliver_of_opened h.read h.writable t
  have hmapped := Outcome.result_mapError_eq_ok_iff (f := Failure.ofEdit).mpr hedit
  have hresult : (r.apply i p).result = .ok delivery := by
    rw [result_apply_of_editsFile h hregion hsettings, Outcome.result_bind_of_ok hmapped]
    exact hdeliver
  rw [run_of_apply_eq_ok h.asks hprepare hresult]
  refine ⟨rfl, ?_⟩
  -- A file that is not written holds the result already.
  obtain ⟨hsame, rfl⟩ | ⟨-, files, hwrite, rfl⟩ := RunRequest.of_deliver_eq_ok hdeliver
  · rw [hsame]
    exact h.read
  · exact Files.read_write h.read hwrite

/-- A call does not hide the failure of the edit. -/
theorem ending_of_edit_eq_error {failure : Edit.Failure}
    (hedit : (Edit.applyTo content r.pipeline region settings .display i.registry).result =
      .error failure) : i.run.ending = (Failure.ofEdit failure).ending := by
  obtain ⟨d, hprepare⟩ := h.display
  have hresult : (r.apply i p).result = .error (Failure.ofEdit failure) := by
    rw [result_apply_of_editsFile h hregion hsettings]
    refine Outcome.result_bind_of_error ?_ _
    rw [Outcome.result_mapError, hedit]
    rfl
  rw [run_of_apply_eq_error h.asks hprepare hresult]
  rfl

theorem endsAsEdit :
    i.EndsAsEdit path
      (Edit.applyTo content r.pipeline region settings .display i.registry).result where
  succeeds := by
    constructor
    · intro hsuccess
      cases hedit :
          (Edit.applyTo content r.pipeline region settings .display i.registry).result with
      | ok t => exact ⟨t, rfl⟩
      | error failure =>
        rw [ending_of_edit_eq_error h hregion hsettings hedit] at hsuccess
        exact absurd hsuccess (Failure.ending_ne_success _)
    · rintro ⟨t, hedit⟩
      exact (ending_of_edit_eq_ok h hregion hsettings hedit).1
  holds t hedit := (ending_of_edit_eq_ok h hregion hsettings hedit).2
  fails failure status hedit hstatus := by
    have hending := ending_of_edit_eq_error h hregion hsettings hedit
    have hfiles := files_of_failure hending
    rw [Failure.ending_ofEdit hstatus] at hending
    exact ⟨hending, hfiles⟩

end

theorem refinesEdit (h : i.EditsFile p r path content) (hsink : i.registry.PassesSink) :
    i.RefinesEdit p r path content where
  accepted region settings sink hregion hsettings := by
    -- A call displays help documents, and the edit may send them anywhere.
    rw [Edit.result_applyTo_sink hsink content r.pipeline region settings sink .display]
    exact endsAsEdit h hregion hsettings
  refused text error hlines hparse := by
    obtain ⟨d, hprepare⟩ := h.display
    have hending := ending_of_malformed_range h.asks hprepare h.target hlines hparse
    refine ⟨hending, files_of_failing ?_⟩
    rw [hending]
    decide

/-- Repeated lines among the second to the fourth line of a file are dropped, and the first line is
left. -/
theorem refinesEdit_uniq :
    ∃ (i : Invocation) (p : Preferences) (r : RunRequest) (path content : Text),
      i.EditsFile p r path content ∧ i.registry.PassesSink ∧ i.RefinesEdit p r path content ∧
        i.run.ending = .exited 0 ∧
          i.run.files.read (Path.ofText path) = .ok (Utf8.encode "a\r\na\r\nb\r\n".toList) := by
  let path := "f.txt".toList
  let content := "a\r\na\r\na\r\nb\r\n".toList
  let i : Invocation :=
    { arguments := ["run".toList, "uniq".toList, path, "--lines=2:4".toList, "--in-place".toList]
      files := Files.withFile path content }
  let r : RunRequest :=
    { pipeline := "uniq".toList, file := some path, lines := some "2:4".toList, inPlace := true }
  have hedits : i.EditsFile {} r path content :=
    { asks := ⟨_, _, rfl, rfl, rfl⟩
      target := rfl
      display := ⟨_, rfl⟩
      read := by decide +kernel
      writable := ⟨[path], by decide +kernel⟩ }
  have hrefines : i.RefinesEdit {} r path content :=
    refinesEdit hedits Registry.passesSink_builtin
  let region : LineRegion := { first := 1, last := some 3 }
  have hregion : r.region = .ok region := by decide +kernel
  have hsettings : (r.settings i {}).result = .ok {} := by decide +kernel
  have hends := hrefines.accepted _ _ .absent hregion hsettings
  have hedit : (Edit.applyTo content r.pipeline region {} .absent i.registry).result =
      .ok "a\r\na\r\nb\r\n".toList := by
    decide +kernel
  exact ⟨i, {}, r, path, content, hedits, Registry.passesSink_builtin, hrefines,
    hends.succeeds.mpr ⟨_, hedit⟩, hends.holds _ hedit⟩

end Invocation

end CommandLine

end LinePipe
