import LinePipe.CommandLine.Program
import LinePipe.Proofs.Outcome

/-!
# Applying a pipeline from the command line

A call of the program that asks for a pipeline to be applied goes through four parts: it finds out
what is to be done, reads a text, computes the result for it, and delivers the result. Only the
second part looks at the input, and only the last at where the result goes.

## Main definitions

- `Invocation.AsksRun`: the program is called to apply a pipeline
- `RunRequest.plan`: what is to be done

## Main statements

- `Invocation.run_of_asksRun`: what such a call does
- `RunRequest.apply_eq`: the four parts
- `Invocation.of_run_success`: what is known when such a call succeeds
-/

namespace LinePipe.CommandLine

/-- Different statuses have different numbers. -/
theorem ExitStatus.number_inj {s s' : ExitStatus} : s.number = s'.number ↔ s = s' := by
  cases s <;> cases s' <;> decide

/-- A failure never ends the program with the status of success. -/
theorem Failure.ending_ne_success (f : Failure) :
    f.ending ≠ .exited ExitStatus.success.number := by
  cases f with
  | usage error =>
    intro h
    exact absurd (Ending.exited.inj h) (by decide)
  | told error =>
    intro h
    have hstatus := ExitStatus.number_inj.mp (Ending.exited.inj h)
    cases error <;> cases hstatus
  | broken breakdown => exact Ending.noConfusion

namespace RunRequest

/-- The result goes to no other file than the one that is named, and only if that is asked for. -/
theorem of_target_eq_some {r : RunRequest} {path : Text} (h : r.target = .ok (some path)) :
    r.inPlace = true ∧ r.file = some path := by
  rw [target] at h
  split at h
  · cases h
  · rename_i hinPlace
    split at h
    · cases h
    · rename_i file hfile
      cases h
      exact ⟨by simpa using hinPlace, hfile⟩

/-- What is to be done to a text. -/
structure Plan where
  pipeline : Pipeline
  region : LineRegion
  mode : NewlineMode

/-- What a request asks to be done, whatever the text is. -/
def plan (r : RunRequest) (i : Invocation) (p : Preferences) : Work Plan := do
  let region ← Outcome.ofExcept r.region
  let settings ← r.settings i p
  let given ← (settings.prepare .display).mapError Failure.ofLocale
  let pipeline ← (Pipeline.parse r.pipeline false i.registry (some given)).mapError
    Failure.ofBuilding
  return ⟨pipeline, region, settings.newline⟩

def Plan.transform (plan : Plan) (text : Text) : Work Text :=
  RunRequest.transform plan.pipeline plan.region plan.mode text

/-- Applying a pipeline is making a plan, reading a text, computing the result and delivering it. -/
theorem apply_eq (r : RunRequest) (i : Invocation) (p : Preferences) :
    r.apply i p =
      Outcome.ofExcept r.target >>= fun target =>
        r.plan i p >>= fun plan =>
          Outcome.ofExcept (i.readText r.file) >>= fun text =>
            plan.transform text >>= fun result => deliver i target text result := by
  simp only [apply, plan, Plan.transform, Outcome.bind_assoc, Outcome.value_bind]

/-- The plan depends neither on the input nor on where the result goes. -/
theorem plan_congr {r r' : RunRequest} {i j : Invocation} {p p' : Preferences}
    (hpipeline : r'.pipeline = r.pipeline) (hlines : r'.lines = r.lines)
    (hoverrides : r'.overrides = r.overrides) (hfiles : j.files = i.files)
    (hregistry : j.registry = i.registry) (hsource : source p' = source p) :
    r'.plan j p' = r.plan i p := by
  have hregion : r'.region = r.region := by rw [region, region, hlines]
  have hsettings : r'.settings j p' = r.settings i p := by
    rw [settings, settings, hoverrides, hfiles, hsource]
  rw [plan, plan, hregion, hsettings, hpipeline, hregistry]

/-- Applying a pipeline succeeds if all four parts do. -/
theorem of_apply_eq_ok {r : RunRequest} {i : Invocation} {p : Preferences} {delivery : Delivery}
    (h : (r.apply i p).result = .ok delivery) :
    ∃ target plan text result, r.target = .ok target ∧ (r.plan i p).result = .ok plan ∧
      i.readText r.file = .ok text ∧ (plan.transform text).result = .ok result ∧
      (deliver i target text result).result = .ok delivery := by
  rw [apply_eq] at h
  obtain ⟨target, htarget, h⟩ := Outcome.result_bind_eq_ok_iff.mp h
  obtain ⟨plan, hplan, h⟩ := Outcome.result_bind_eq_ok_iff.mp h
  obtain ⟨text, htext, h⟩ := Outcome.result_bind_eq_ok_iff.mp h
  obtain ⟨result, hresult, hdeliver⟩ := Outcome.result_bind_eq_ok_iff.mp h
  exact ⟨target, plan, text, result, htarget, hplan, htext, hresult, hdeliver⟩

end RunRequest

namespace Invocation

/-- The program is called to apply a pipeline: its options are read as these preferences, and the
rest as this request. -/
def AsksRun (i : Invocation) (p : Preferences) (r : RunRequest) : Prop :=
  ∃ word arguments,
    Preferences.read i.files i.arguments = .ok (.action (p, word :: arguments)) ∧
      CommandName.ofWord? word = some .run ∧
      Request.read i.files .run arguments = .ok (.action (.run r))

theorem readFile_eq_ok_iff {i : Invocation} {path t : Text} :
    i.readFile path = .ok t ↔
      ∃ octets, i.files.read (Path.ofText path) = .ok octets ∧ Utf8.decode octets = .ok t := by
  rw [readFile]
  cases i.files.read (Path.ofText path) with
  | error e => simp only [reduceCtorEq, false_and, exists_false]
  | ok octets =>
    simp only [Except.ok.injEq, exists_eq_left']
    cases Utf8.decode octets with
    | error fault => simp only [reduceCtorEq]
    | ok decoded => simp only [Except.ok.injEq]

theorem result_save_eq_ok_iff {i : Invocation} {path t : Text} {files : Files} :
    (i.save path t).result = .ok files ↔
      i.files.write (Path.ofText path) (Utf8.encode t) = .ok files := by
  rw [save]
  cases i.files.write (Path.ofText path) (Utf8.encode t) with
  | error e => simp only [Outcome.result_fail, reduceCtorEq]
  | ok written =>
    simp only [Outcome.result_bind, Outcome.result_log, Outcome.result_pure, Except.bind,
      Except.ok.injEq]

/-- The console on which results are printed. -/
def console (i : Invocation) (p : Preferences) : Console :=
  ⟨p.colour.isOn none i.environment i.terminal⟩

/-- Messages are shown on the console for results, and as much as the options ask for. -/
theorem of_prepare_eq_ok {i : Invocation} {p : Preferences} {d : Display}
    (h : Display.prepare i p = .ok d) :
    d.console = i.console p ∧ Verbosity.ofCounts p.verbose p.quiet = .ok d.verbosity := by
  obtain ⟨verbosity, hverbosity, h⟩ := except_bind_eq_ok_iff.mp h
  have hverbosity := except_mapError_eq_ok_iff.mp hverbosity
  dsimp only at h
  split at h
  · cases h
    exact ⟨rfl, hverbosity⟩
  · obtain ⟨level, -, h⟩ := except_bind_eq_ok_iff.mp h
    cases h
    exact ⟨rfl, hverbosity⟩

theorem console_of_prepare {i : Invocation} {p : Preferences} {d : Display}
    (h : Display.prepare i p = .ok d) : d.console = i.console p :=
  (of_prepare_eq_ok h).1

/-- Messages cannot be shown if the options ask for more and less of them, or if the environment
asks for records of a level that is none. -/
theorem of_prepare_eq_error {i : Invocation} {p : Preferences} {f : Failure}
    (h : Display.prepare i p = .error f) :
    0 < p.verbose ∧ 0 < p.quiet ∧ f = .told (.verbosity .moreAndLess) ∨
      i.environment.logLevel ≠ none ∧ ∃ b, f = .broken b := by
  rw [Display.prepare, Verbosity.ofCounts] at h
  split at h
  · left
    rename_i hconflict
    cases h
    simpa using hconflict
  · right
    simp only [except_mapError_ok, bind, Except.bind] at h
    cases hlevel : i.environment.logLevel with
    | none =>
      rw [hlevel] at h
      cases h
    | some text =>
      rw [hlevel] at h
      cases hparse : Log.Level.parse text with
      | ok level =>
        simp only [hparse, except_mapError_ok] at h
        cases h
      | error error =>
        simp only [hparse, except_mapError_error, Except.error.injEq] at h
        subst h
        exact ⟨Option.some_ne_none text, _, rfl⟩

theorem not_conflict_of_prepare {i : Invocation} {p : Preferences} {d : Display}
    (h : Display.prepare i p = .ok d) : ¬ (0 < p.verbose ∧ 0 < p.quiet) := by
  rintro ⟨hverbose, hquiet⟩
  obtain ⟨-, hverbosity⟩ := of_prepare_eq_ok h
  simp [Verbosity.ofCounts, hverbose, hquiet] at hverbosity

variable {i : Invocation} {p : Preferences} {r : RunRequest}

/-- What a call does that asks for a pipeline to be applied. -/
theorem run_of_asksRun (h : i.AsksRun p r) :
    i.run =
      match Display.prepare i p with
      | .error f => i.failed Display.plain CommandName.run.spec f
      | .ok d => i.finish d CommandName.run.spec (i.delivered d) (r.apply i p) := by
  obtain ⟨word, arguments, hpreferences, hword, hrequest⟩ := h
  simp only [run, hpreferences, hword, call, hrequest]
  cases Display.prepare i p <;> rfl

theorem run_of_apply_eq_ok {d : Display} {delivery : Delivery} (h : i.AsksRun p r)
    (hprepare : Display.prepare i p = .ok d) (hresult : (r.apply i p).result = .ok delivery) :
    i.run = i.delivered d (r.apply i p).events delivery := by
  rw [run_of_asksRun h, hprepare]
  simp only [finish, hresult]

theorem run_of_apply_eq_error {d : Display} {f : Failure} (h : i.AsksRun p r)
    (hprepare : Display.prepare i p = .ok d) (hresult : (r.apply i p).result = .error f) :
    i.run = i.failed d CommandName.run.spec f (r.apply i p).events := by
  rw [run_of_asksRun h, hprepare]
  simp only [finish, hresult]

/-- A call that succeeds has gone through all four parts. -/
theorem of_run_success (h : i.AsksRun p r)
    (hrun : i.run.ending = .exited ExitStatus.success.number) :
    ∃ d target plan text result delivery, Display.prepare i p = .ok d ∧ r.target = .ok target ∧
      (r.plan i p).result = .ok plan ∧ i.readText r.file = .ok text ∧
      (plan.transform text).result = .ok result ∧
      (RunRequest.deliver i target text result).result = .ok delivery ∧
      i.run = i.delivered d (r.apply i p).events delivery := by
  rw [run_of_asksRun h] at hrun ⊢
  cases hprepare : Display.prepare i p with
  | error f =>
    rw [hprepare] at hrun
    exact absurd hrun f.ending_ne_success
  | ok d =>
    simp only [hprepare, finish] at hrun ⊢
    cases happly : (r.apply i p).result with
    | error f =>
      rw [happly] at hrun
      exact absurd hrun f.ending_ne_success
    | ok delivery =>
      obtain ⟨target, plan, text, result, htarget, hplan, htext, hresult, hdeliver⟩ :=
        RunRequest.of_apply_eq_ok happly
      exact ⟨d, target, plan, text, result, delivery, rfl, htarget, hplan, htext, hresult,
        hdeliver, rfl⟩

end Invocation

end LinePipe.CommandLine
