import LinePipe.Proofs.CommandLine.Arguments
import LinePipe.Proofs.CommandLine.Checks
import LinePipe.Proofs.CommandLine.Delivery
import LinePipe.Proofs.Pipeline.Building
import LinePipe.Proofs.Settings.Loading

/-!
# Which error is told

A call that fails tells the failure of the first check that fails, and what is shown before that
comes from the checks up to it. So a pipeline text that is none is refused in the same way whatever
the input holds, and whether there is any.

## Main definitions

- `Invocation.withSurroundings`: the same invocation with other files and another input
- `Invocation.NoSettingsAt`: a place that has nothing to do with settings
- `Invocation.Unparsed`: the text is no pipeline
- `Invocation.EndsByChecks`: how a call ends, by the checks

## Main statements

- `Invocation.endsByChecks`: the checks decide in order how a call ends
- `Invocation.run_of_unparsed`: the input does not matter for a text that is no pipeline
-/

namespace LinePipe

/-- An empty directory and one with a file in it. -/
theorem Files.differOnlyAt_withFile (name content : Text) :
    ({} : Files).DifferOnlyAt (Files.withFile name content) [name] where
  top_eq := rfl
  current_eq := rfl
  fault_eq := rfl
  elsewhere q hq := by
    have hne : (q == [name]) = false := beq_eq_false_iff_ne.mpr hq
    cases q with
    | nil => rfl
    | cons first rest =>
      have hprefix : (first :: rest).isPrefixOf [name] = false := by
        rw [Bool.eq_false_iff]
        intro hprefix
        obtain ⟨tail, htail⟩ := List.isPrefixOf_iff_prefix.mp hprefix
        simp only [List.cons_append, List.cons.injEq, List.append_eq_nil_iff] at htail
        exact hq (by rw [htail.1, htail.2.1])
      simp [withFile, FileTree.node?, List.lookup_cons, hne, hprefix]
  not_directory := by simp [FileTree.node?]
  not_directory' := by simp [withFile, FileTree.node?]

namespace CommandLine.Invocation

variable {i : Invocation} {p : Preferences} {r : RunRequest}

/-! ## The first check that fails -/

/-- What was logged by some checks. -/
def loggedBy (i : Invocation) (p : Preferences) (r : RunRequest) (checks : List Check) :
    List Event :=
  checks.flatMap fun c => (r.check i p c).events

/-- A call with a failure that is told. -/
def refused (i : Invocation) (d : Display) (es : List Event) (error : CommandError) :
    Completion where
  ending := .exited error.status.number
  err := d.events es ++ d.console.closing error.message
  files := i.files

theorem run_of_passed {d : Display} (h : i.AsksRun p r) (hprepare : Display.prepare i p = .ok d)
    (hpassed : ∀ c, (r.check i p c).result = .ok ()) :
    i.run.ending = .exited ExitStatus.success.number := by
  have hchecks := RunRequest.asCheck_apply r i p
  rw [Outcome.forM_of_passed fun c _ => hpassed c] at hchecks
  cases hresult : (r.apply i p).result with
  | ok delivery =>
    rw [run_of_apply_eq_ok h hprepare hresult]
    rfl
  | error f =>
    have herror := Outcome.result_asCheck_eq_error_iff.mpr hresult
    rw [hchecks] at herror
    cases herror

theorem run_of_failed {d : Display} {before after : List Check} {c : Check} {f : Failure}
    (h : i.AsksRun p r) (hprepare : Display.prepare i p = .ok d)
    (horder : Check.order = before ++ c :: after)
    (hpassed : ∀ b ∈ before, (r.check i p b).result = .ok ())
    (hfailed : (r.check i p c).result = .error f) :
    i.run = i.failed d CommandName.run.spec f (i.loggedBy p r (before ++ [c])) := by
  have hchecks := RunRequest.asCheck_apply r i p
  rw [horder, Outcome.forM_of_failed hpassed hfailed] at hchecks
  have hresult : (r.apply i p).result = .error f := by
    rw [← Outcome.result_asCheck_eq_error_iff, hchecks]
  have hevents : (r.apply i p).events = i.loggedBy p r (before ++ [c]) := by
    rw [← Outcome.events_asCheck, hchecks]
    rfl
  rw [run_of_apply_eq_error h hprepare hresult, hevents]

/-- A call that does not succeed has a first check that fails. -/
theorem exists_first_failed {f : Failure} (h : (r.apply i p).result = .error f) :
    ∃ before c after, Check.order = before ++ c :: after ∧
      (∀ b ∈ before, (r.check i p b).result = .ok ()) ∧ (r.check i p c).result = .error f := by
  have herror := Outcome.result_asCheck_eq_error_iff.mpr h
  rw [RunRequest.asCheck_apply] at herror
  exact Outcome.of_forM_eq_error herror

theorem run_of_first_failed {d : Display} {before after : List Check} {c : Check} {f : Failure}
    (h : i.AsksRun p r) (hprepare : Display.prepare i p = .ok d)
    (hbroken : ∀ b, i.run.ending ≠ .brokeDown b)
    (horder : Check.order = before ++ c :: after)
    (hpassed : ∀ b ∈ before, (r.check i p b).result = .ok ())
    (hfailed : (r.check i p c).result = .error f) :
    ∃ error, f = .told error ∧ error.status ∈ c.statuses ∧
      i.run = i.refused d (i.loggedBy p r (before ++ [c])) error := by
  have hrun := run_of_failed h hprepare horder hpassed hfailed
  have hamong := RunRequest.among_check hfailed
  cases f with
  | usage error => exact absurd hamong not_false
  | broken breakdown =>
    rw [hrun] at hbroken
    exact absurd rfl (hbroken breakdown)
  | told error => exact ⟨error, rfl, hamong, hrun⟩

/-! ## Texts that are no pipelines -/

/-- The same invocation with other files and another input. -/
def withSurroundings (i : Invocation) (files : Files) (input : Octets) : Invocation :=
  { i with files, input }

/-- A place that has nothing to do with settings: a file there would not have the name of a file of
settings, the settings file that is named is elsewhere, and so is the current directory. -/
structure NoSettingsAt (i : Invocation) (p : Preferences) (place : List Text) : Prop where
  not_own : place.getLast? ≠ some Settings.ownFileName
  not_shared : place.getLast? ≠ some Settings.sharedFileName
  not_named : ∀ path, p.settingsFile = some path → i.files.locate (Path.ofText path) ≠ .ok place
  not_current : i.files.locate (i.files.resolve (i.files.absolute i.files.current)) ≠ .ok place

variable {files : Files} {place : List Text}

theorem asksRun_withSurroundings (h : i.AsksRun p r) (hfiles : i.files.DifferOnlyAt files place)
    (input : Octets) : (i.withSurroundings files input).AsksRun p r := by
  obtain ⟨word, arguments, hpreferences, hword, hrequest⟩ := h
  refine ⟨word, arguments, ?_, hword, ?_⟩
  · rw [← hpreferences]
    exact Preferences.read_congr hfiles.isDirectory_eq i.arguments
  · rw [← hrequest]
    exact Request.read_congr hfiles.isDirectory_eq .run arguments

/-- Loading takes no notice of a file that is none of settings. -/
theorem load_withSurroundings (hfiles : i.files.DifferOnlyAt files place)
    (hplace : i.NoSettingsAt p place) :
    Settings.load files (RunRequest.source p) =
      Settings.load i.files (RunRequest.source p) := by
  refine Settings.load_congr (fun path hpath => hfiles.sameFileAt ?_) hfiles.top_eq
    hfiles.current_eq (hfiles.sameFileAt hplace.not_current).isFile_eq
  intro hlocate
  cases hpath with
  | shared directory => exact hplace.not_shared (Files.getLast?_of_locate (by decide) hlocate)
  | own directory => exact hplace.not_own (Files.getLast?_of_locate (by decide) hlocate)
  | extra path hextra =>
    obtain ⟨config, hconfig, rfl⟩ := Option.map_eq_some_iff.mp hextra
    exact hplace.not_named config hconfig hlocate

theorem plan_withSurroundings (hfiles : i.files.DifferOnlyAt files place)
    (hplace : i.NoSettingsAt p place) (input : Octets) :
    r.plan (i.withSurroundings files input) p = r.plan i p := by
  have hsettings : r.settings (i.withSurroundings files input) p = r.settings i p := by
    rw [RunRequest.settings, RunRequest.settings]
    exact congrArg (fun loaded => loaded.mapError Failure.ofLoading >>= _)
      (load_withSurroundings hfiles hplace)
  rw [RunRequest.plan, RunRequest.plan, hsettings]
  rfl

/-- The text is no pipeline under the settings in force, if these are right. -/
def Unparsed (i : Invocation) (p : Preferences) (r : RunRequest) : Prop :=
  ∀ given, r.given? i p = some given →
    ∀ pipeline, (Pipeline.parse r.pipeline false i.registry (some given)).result ≠ .ok pipeline

theorem plan_ne_ok (h : i.Unparsed p r) (plan : RunRequest.Plan) :
    (r.plan i p).result ≠ .ok plan := by
  intro hplan
  obtain ⟨region, -, hplan⟩ := Outcome.result_bind_eq_ok_iff.mp hplan
  obtain ⟨settings, hsettings, hplan⟩ := Outcome.result_bind_eq_ok_iff.mp hplan
  obtain ⟨given, hgiven, hplan⟩ := Outcome.result_bind_eq_ok_iff.mp hplan
  obtain ⟨pipeline, hparse, -⟩ := Outcome.result_bind_eq_ok_iff.mp hplan
  refine h given ?_ pipeline (Outcome.result_mapError_eq_ok_iff.mp hparse)
  rw [RunRequest.given?, RunRequest.settings?, hsettings]
  change (RunRequest.localeWork settings).result.toOption = some given
  rw [RunRequest.localeWork, hgiven]
  rfl

/-- A text that is no pipeline is refused without a look at the input, be it in a file or not. -/
theorem run_of_unparsed (h : i.AsksRun p r) (hparse : i.Unparsed p r)
    (hfiles : i.files.DifferOnlyAt files place) (hplace : i.NoSettingsAt p place)
    (input : Octets) :
    (i.withSurroundings files input).run = { i.run with files } := by
  have hplan := plan_withSurroundings (r := r) hfiles hplace input
  have hnone := plan_ne_ok hparse
  have happly : r.apply (i.withSurroundings files input) p = r.apply i p := by
    -- The input is read only once there is a plan.
    rw [RunRequest.apply_eq, RunRequest.apply_eq, hplan]
    refine Outcome.bind_congr fun target _ => Outcome.bind_congr fun plan hok => ?_
    exact absurd hok (hnone plan)
  have hprepare : Display.prepare (i.withSurroundings files input) p = Display.prepare i p := rfl
  rw [run_of_asksRun h, run_of_asksRun (asksRun_withSurroundings h hfiles input), hprepare]
  cases Display.prepare i p with
  | error f => rfl
  | ok d =>
    dsimp only [finish]
    rw [happly]
    cases hresult : (r.apply i p).result with
    | error f => rfl
    | ok delivery =>
      obtain ⟨_, plan, _, _, -, hok, -⟩ := RunRequest.of_apply_eq_ok hresult
      exact absurd hok (hnone plan)

/-! ## How a call ends -/

/-- The checks decide in order how a call ends: with success if all pass, and else with the failure
of the first that fails. Its status is one of those of that check, and nothing comes from the checks
behind it. -/
structure DecidedInOrder (i : Invocation) (p : Preferences) (r : RunRequest) : Prop where
  passed : (∀ c, (r.check i p c).result = .ok ()) →
    i.run.ending = .exited ExitStatus.success.number
  failed : ∀ before c after f, Check.order = before ++ c :: after →
    (∀ b ∈ before, (r.check i p b).result = .ok ()) → (r.check i p c).result = .error f →
      ∃ d error, Display.prepare i p = .ok d ∧ f = .told error ∧ error.status ∈ c.statuses ∧
        i.run = i.refused d (i.loggedBy p r (before ++ [c])) error

/-- How a call ends that is to apply a pipeline. For a text that is no pipeline this depends neither
on the input nor on any file that has nothing to do with settings, so not on the file that the call
names, nor on whether there is one. -/
structure EndsByChecks (i : Invocation) (p : Preferences) (r : RunRequest) : Prop where
  decided : ¬ (0 < p.verbose ∧ 0 < p.quiet) → (∀ b, i.run.ending ≠ .brokeDown b) →
    i.DecidedInOrder p r
  unparsed : i.Unparsed p r → ∀ files place input, i.files.DifferOnlyAt files place →
    i.NoSettingsAt p place → (i.withSurroundings files input).run = { i.run with files }

/-- Messages can be shown unless the options contradict each other or the program breaks down. -/
theorem exists_display (h : i.AsksRun p r) (hverbosity : ¬ (0 < p.verbose ∧ 0 < p.quiet))
    (hbroken : ∀ b, i.run.ending ≠ .brokeDown b) : ∃ d, Display.prepare i p = .ok d := by
  cases hprepare : Display.prepare i p with
  | ok d => exact ⟨d, rfl⟩
  | error f =>
    obtain ⟨hverbose, hquiet, -⟩ | ⟨-, b, rfl⟩ := of_prepare_eq_error hprepare
    · exact absurd ⟨hverbose, hquiet⟩ hverbosity
    · have hrun := run_of_asksRun h
      rw [hprepare] at hrun
      rw [hrun] at hbroken
      exact absurd rfl (hbroken b)

theorem endsByChecks (h : i.AsksRun p r) : i.EndsByChecks p r where
  decided := by
    intro hverbosity hbroken
    obtain ⟨d, hprepare⟩ := exists_display h hverbosity hbroken
    constructor
    · exact run_of_passed h hprepare
    · intro before c after f horder hpassed hfailed
      obtain ⟨error, hf, hstatus, hrun⟩ :=
        run_of_first_failed h hprepare hbroken horder hpassed hfailed
      exact ⟨d, error, hprepare, hf, hstatus, hrun⟩
  unparsed hparse _ _ input hfiles hplace := run_of_unparsed h hparse hfiles hplace input

/-- An unknown command is told, and neither that the range is behind the text nor that there is no
file, whatever the file holds and whatever the input is. -/
theorem endsByChecks_unknown_command :
    ∃ (i : Invocation) (p : Preferences) (r : RunRequest), i.AsksRun p r ∧ i.EndsByChecks p r ∧
      i.run.ending = .exited 64 ∧ i.run.err = "Error: Unknown command: 'nope'\n".toList ∧
      ∀ content input,
        (i.withSurroundings (Files.withFile "f.txt".toList content) input).run =
          { i.run with files := Files.withFile "f.txt".toList content } := by
  let i : Invocation :=
    { arguments := ["run".toList, "nope".toList, "f.txt".toList, "--lines=9".toList,
        "--in-place".toList] }
  let r : RunRequest :=
    { pipeline := "nope".toList, file := some "f.txt".toList, lines := some "9".toList,
      inPlace := true }
  have hasks : i.AsksRun {} r := ⟨_, _, rfl, rfl, rfl⟩
  have hends : i.EndsByChecks {} r := endsByChecks hasks
  refine ⟨i, {}, r, hasks, hends, by decide +kernel, by decide +kernel, ?_⟩
  intro content input
  refine hends.unparsed ?_ _ ["f.txt".toList] input ?_ ?_
  · intro given _ pipeline hparse
    have hattempt := Pipeline.result_parse_eq_ok_iff.mp hparse
    cases hattempt
  · exact Files.differOnlyAt_withFile _ content
  · constructor
    · decide
    · decide
    · intro path hpath
      cases hpath
    · decide +kernel

end CommandLine.Invocation

end LinePipe
