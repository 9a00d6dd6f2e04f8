import LinePipe.Proofs.Buffer.Region
import LinePipe.Proofs.CommandLine.Precedence
import LinePipe.Proofs.Edit
import LinePipe.Proofs.Pipeline.NormalForm

/-!
# When the program breaks down

With the built-in commands, arguments without null characters and files of settings that are UTF-8,
a call that is to apply a pipeline breaks down for three reasons only: a numeral of the line range
is too long, the settings cannot be loaded for a reason other than that they are wrong, or the name
of the collation locale holds a null character. In all other cases it ends with a status.

## Main definitions

- `Invocation.Trap`: the reasons
- `Invocation.Ordinary`: the invocations for which these are the only ones
- `Invocation.EndsUnlessTrapped`: how they end

## Main statements

- `Invocation.trap_of_broken`: a check that breaks down is about one of the reasons
- `Invocation.endsUnlessTrapped`: ordinary invocations end unless there is one of them
-/

namespace LinePipe

theorem Files.of_read_withFile {name content : Text} {p : Path} {octets : Octets}
    (h : (withFile name content).read p = .ok octets) : octets = Utf8.encode content := by
  obtain ⟨place, -, hnode⟩ := of_read_eq_ok h
  by_cases hplace : place = [name]
  · subst hplace
    simpa [withFile, FileTree.node?, eq_comm] using hnode
  · have hne : (place == [name]) = false := beq_eq_false_iff_ne.mpr hplace
    simp [withFile, FileTree.node?, List.lookup_cons, hne] at hnode

namespace CommandLine

/-- The statuses that are described to users, with that of wrong arguments. -/
def documentedStatuses : List Nat := [0, usageErrorStatus, 64, 65, 66, 70, 74, 77, 78]

theorem Check.number_of_status (c : Check) :
    ∀ s ∈ c.statuses, s.number ∈ documentedStatuses := by
  cases c <;> decide

theorem Check.target_mem_before {before after : List Check} {c : Check}
    (h : order = before ++ c :: after) (htarget : c ≠ .target) : .target ∈ before := by
  cases before with
  | nil =>
    cases h
    exact absurd rfl htarget
  | cons first before =>
    simp only [order, List.cons_append, List.cons.injEq] at h
    rw [← h.1]
    exact List.mem_cons_self

theorem Check.range_mem_before {before after : List Check} {c : Check}
    (h : order = before ++ c :: after) (htarget : c ≠ .target) (hrange : c ≠ .range) :
    .range ∈ before := by
  cases before with
  | nil =>
    cases h
    exact absurd rfl htarget
  | cons first before =>
    cases before with
    | nil =>
      cases h
      exact absurd rfl hrange
    | cons second before =>
      simp only [order, List.cons_append, List.cons.injEq] at h
      rw [← h.2.1]
      exact List.mem_cons_of_mem _ List.mem_cons_self

namespace Invocation

variable {i : Invocation} {p : Preferences} {r : RunRequest}

/-- What a call breaks down for that is to apply a pipeline. -/
inductive Trap (i : Invocation) (p : Preferences) (r : RunRequest) : Prop
  /-- A numeral of the line range is too long. -/
  | numeral {text : Text} (hlines : r.lines = some text)
    (hlong : LineRegion.HasLongNumeral text)
  /-- A key occurs twice in a file of settings, or it cannot be told what is at a path. -/
  | loading {region : LineRegion} {failure : LoadFailure} (hregion : r.region = .ok region)
    (hload : (Settings.load i.files (RunRequest.source p)).result = .error failure)
    (hfailure : (∃ clash, failure = .clash clash) ∨ ∃ error, failure = .access error)
  /-- The name of the collation locale holds a null character. -/
  | locale {region : LineRegion} {settings : Settings} (hregion : r.region = .ok region)
    (hsettings : (r.settings i p).result = .ok settings) (hnull : '\x00' ∈ settings.locale)

/-- An invocation of no other command than the one that applies pipelines. Nothing that it is given
is unusual, but files of settings may hold any UTF-8, and the input and the other files anything. -/
structure Ordinary (i : Invocation) : Prop where
  command : ∀ p word arguments name,
    Preferences.read i.files i.arguments = .ok (.action (p, word :: arguments)) →
      CommandName.ofWord? word = some name → name = .run
  level : i.environment.logLevel = none
  registry : i.registry = Registry.builtin
  arguments : ∀ argument ∈ i.arguments, '\x00' ∉ argument
  settings : ∀ p arguments, Preferences.read i.files i.arguments = .ok (.action (p, arguments)) →
    ∀ path octets, (RunRequest.source p).MayCount path → i.files.read path = .ok octets →
      ∃ text, Utf8.decode octets = .ok text

/-! ## Checks that break down -/

theorem readText_ne_broken {b : Breakdown} (hfile : ∀ path, r.file = some path → '\x00' ∉ path) :
    i.readText r.file ≠ .error (.broken b) := by
  intro h
  cases hpath : r.file with
  | none =>
    rw [hpath, readText, readInput] at h
    split at h <;> cases h
  | some path =>
    rw [hpath, readText, readFile] at h
    split at h
    · rename_i e hread
      cases e with
      | nullInPath =>
        have hnull := Files.holdsNull_of_read hread
        rw [holdsNull_ofText (hfile path hpath)] at hnull
        cases hnull
      | refused cause q =>
        rw [Failure.ofReading] at h
        split at h
        · cases h
        · split at h <;> cases h
    · split at h <;> cases h

theorem deliver_ne_broken {path text result : Text} {b : Breakdown} (hpath : '\x00' ∉ path) :
    (RunRequest.deliver i (some path) text result).result ≠ .error (.broken b) := by
  intro h
  rw [RunRequest.deliver] at h
  split at h
  · cases h
  · obtain h | ⟨files, -, h⟩ := Outcome.result_bind_eq_error_iff.mp h
    · rw [save] at h
      split at h
      · rename_i e hwrite
        cases e with
        | nullInPath =>
          have hnull := Files.holdsNull_of_write hwrite
          rw [holdsNull_ofText hpath] at hnull
          cases hnull
        | refused cause q =>
          rw [Outcome.result_fail, Except.error.injEq, Failure.ofWriting] at h
          split at h <;> cases h
      · cases h
    · cases h

theorem target_ne_broken {b : Breakdown} : r.target ≠ .error (.broken b) := by
  intro h
  rw [RunRequest.target] at h
  split at h
  · cases h
  · split at h <;> cases h

theorem of_region_broken {b : Breakdown} (h : r.region = .error (.broken b)) :
    ∃ text, r.lines = some text ∧ LineRegion.HasLongNumeral text := by
  rw [RunRequest.region] at h
  split at h
  · cases h
  · rename_i text hlines
    obtain ⟨failure, hparse, hfailure⟩ := except_mapError_eq_error_iff.mp h
    cases failure with
    | region error => cases hfailure
    | numeral e => exact ⟨text, hlines, LineRegion.parse_eq_numeral_iff.mp ⟨e, hparse⟩⟩

theorem of_settings_broken {b : Breakdown} (h : (r.settings i p).result = .error (.broken b)) :
    ∃ failure, (Settings.load i.files (RunRequest.source p)).result = .error failure ∧
      ∀ error, failure ≠ .settings error := by
  obtain h | ⟨layer, -, h⟩ := Outcome.result_bind_eq_error_iff.mp h
  · obtain ⟨failure, hload, hfailure⟩ := except_mapError_eq_error_iff.mp h
    refine ⟨failure, hload, ?_⟩
    rintro error rfl
    cases hfailure
  · cases h

theorem of_locale_broken {settings : Settings} {b : Breakdown}
    (h : (RunRequest.localeWork settings).result = .error (.broken b)) :
    '\x00' ∈ settings.locale := by
  obtain ⟨failure, hprepare, hfailure⟩ := except_mapError_eq_error_iff.mp h
  cases failure with
  | unsupported name => cases hfailure
  | nullInName =>
    exact Locale.resolve_eq_null_iff.mp (Settings.prepare_eq_error_iff.mp hprepare).2

variable (hordinary : i.Ordinary) (h : i.AsksRun p r)
include hordinary h

theorem not_mem_of_file {path : Text} (hpath : r.file = some path) : '\x00' ∉ path := by
  obtain ⟨word, arguments, hpreferences, -, hrequest⟩ := h
  have hrest := Preferences.not_mem_of_read hordinary.arguments hpreferences
  exact Request.not_mem_of_read (fun a ha => hrest a (List.mem_cons_of_mem word ha)) hrequest path
    hpath

/-- Files of settings that are UTF-8 make loading break down in two ways only. -/
theorem clash_or_access {failure : LoadFailure}
    (hload : (Settings.load i.files (RunRequest.source p)).result = .error failure)
    (hfailure : ∀ error, failure ≠ .settings error) :
    (∃ clash, failure = .clash clash) ∨ ∃ error, failure = .access error := by
  obtain ⟨word, arguments, hpreferences, -, -⟩ := h
  obtain ⟨error, rfl⟩ | haccess | ⟨path, hpath, hread⟩ := Settings.of_load_eq_error hload
  · exact absurd rfl (hfailure error)
  · exact .inr haccess
  · cases failure with
    | settings error => exact absurd rfl (hfailure error)
    | clash clash => exact .inl ⟨clash, rfl⟩
    | access error => exact .inr ⟨error, rfl⟩
    | encoding fault =>
      obtain ⟨octets, hoctets, hfault⟩ := Settings.of_readTable_eq_encoding hread
      obtain ⟨text, htext⟩ := hordinary.settings p _ hpreferences path octets hpath hoctets
      rw [htext] at hfault
      cases hfault

/-- A check that breaks down is about one of the reasons. -/
theorem trap_of_broken {before after : List Check} {c : Check} {b : Breakdown}
    (horder : Check.order = before ++ c :: after)
    (hpassed : ∀ b ∈ before, (r.check i p b).result = .ok ())
    (hfailed : (r.check i p c).result = .error (.broken b)) : i.Trap p r := by
  have hregion (htarget : c ≠ .target) (hrange : c ≠ .range) :
      ∃ region, r.region = .ok region := by
    have hbefore := hpassed .range (Check.range_mem_before horder htarget hrange)
    cases hregion : r.region with
    | ok region => exact ⟨region, rfl⟩
    | error f =>
      have herror : (r.check i p .range).result = .error f :=
        Outcome.result_asCheck_eq_error_iff.mpr hregion
      rw [hbefore] at herror
      cases herror
  cases c with
  | target =>
    exact absurd (Outcome.result_asCheck_eq_error_iff.mp hfailed) target_ne_broken
  | range =>
    obtain ⟨text, hlines, hlong⟩ :=
      of_region_broken (Outcome.result_asCheck_eq_error_iff.mp hfailed)
    exact .numeral hlines hlong
  | settings =>
    obtain ⟨region, hregion⟩ := hregion (by decide) (by decide)
    obtain ⟨failure, hload, hfailure⟩ :=
      of_settings_broken (Outcome.result_asCheck_eq_error_iff.mp hfailed)
    exact .loading hregion hload (clash_or_access hordinary h hload hfailure)
  | locale =>
    obtain ⟨region, hregion⟩ := hregion (by decide) (by decide)
    obtain ⟨settings, hsettings, hbroken⟩ := Work.of_given_eq_error hfailed
    exact .locale hregion (except_toOption_eq_some_iff.mp hsettings)
      (of_locale_broken (Outcome.result_asCheck_eq_error_iff.mp hbroken))
  -- The built-in commands do not break down, and the file can be named to the operating system.
  | pipeline =>
    exfalso
    obtain ⟨given, -, hbroken⟩ := Work.of_given_eq_error hfailed
    have hparse := Outcome.result_asCheck_eq_error_iff.mp hbroken
    rw [RunRequest.pipelineWork, hordinary.registry] at hparse
    obtain ⟨failure, hparse, hfailure⟩ := except_mapError_eq_error_iff.mp hparse
    obtain ⟨error, rfl⟩ := Pipeline.rejected_of_parse hparse
    cases hfailure
  | input =>
    exact absurd (Outcome.result_asCheck_eq_error_iff.mp hfailed)
      (readText_ne_broken fun path => not_mem_of_file hordinary h)
  | place =>
    exfalso
    obtain ⟨region, -, hbroken⟩ := Work.of_given_eq_error hfailed
    obtain ⟨text, -, hbroken⟩ := Work.of_given_eq_error hbroken
    obtain ⟨error, -, hfailure⟩ :=
      except_mapError_eq_error_iff.mp (Outcome.result_asCheck_eq_error_iff.mp hbroken)
    cases hfailure
  | stages =>
    exfalso
    obtain ⟨pipeline, hpipeline, hbroken⟩ := Work.of_given_eq_error hfailed
    obtain ⟨lines, -, hbroken⟩ := Work.of_given_eq_error hbroken
    obtain ⟨given, -, hparse⟩ := Option.bind_eq_some_iff.mp hpipeline
    have hparse := except_toOption_eq_some_iff.mp hparse
    rw [RunRequest.pipelineWork, hordinary.registry] at hparse
    have hbuiltin := Pipeline.builtin_of_parse (Outcome.result_mapError_eq_ok_iff.mp hparse)
    have hfails := Outcome.result_asCheck_eq_error_iff.mp hbroken
    rw [RunRequest.stagesWork, Outcome.result_mapError,
      Pipeline.execute_builtin hbuiltin] at hfails
    cases hfails
  | writing =>
    exfalso
    obtain ⟨target, htarget, hbroken⟩ := Work.of_given_eq_error hfailed
    obtain ⟨region, -, hbroken⟩ := Work.of_given_eq_error hbroken
    obtain ⟨settings, -, hbroken⟩ := Work.of_given_eq_error hbroken
    obtain ⟨text, -, hbroken⟩ := Work.of_given_eq_error hbroken
    obtain ⟨out, -, hbroken⟩ := Work.of_given_eq_error hbroken
    have hwriting := Outcome.result_asCheck_eq_error_iff.mp hbroken
    obtain hreplace | ⟨edited, -, hdeliver⟩ := Outcome.result_bind_eq_error_iff.mp hwriting
    · obtain ⟨error, -, hfailure⟩ := except_mapError_eq_error_iff.mp hreplace
      cases hfailure
    · cases target with
      | none => cases hdeliver
      | some path =>
        obtain ⟨-, hfile⟩ := RunRequest.of_target_eq_some (except_toOption_eq_some_iff.mp htarget)
        exact deliver_ne_broken (not_mem_of_file hordinary h hfile) hdeliver

/-! ## How ordinary invocations end -/

omit hordinary h in
/-- A request that can be read asks for a pipeline to be applied. -/
theorem exists_run_of_read {arguments : List Text} {request : Request}
    (hrequest : Request.read i.files .run arguments = .ok (.action request)) :
    ∃ r, request = .run r := by
  rw [Request.read] at hrequest
  split at hrequest
  · cases hrequest
  · split at hrequest
    · cases hrequest
    · obtain ⟨_, -, hrequest⟩ := except_bind_eq_ok_iff.mp hrequest
      obtain ⟨_, -, hrequest⟩ := except_bind_eq_ok_iff.mp hrequest
      cases hrequest
      exact ⟨_, rfl⟩

omit h in
theorem ending_of_prepare {f : Failure} (hprepare : Display.prepare i p = .error f) :
    f.ending = .exited ExitStatus.usage.number ∧ 0 < p.verbose ∧ 0 < p.quiet := by
  obtain ⟨hverbose, hquiet, rfl⟩ | ⟨hlevel, -⟩ := of_prepare_eq_error hprepare
  · exact ⟨rfl, hverbose, hquiet⟩
  · exact absurd hordinary.level hlevel

omit h in
/-- A call that does not come to applying a pipeline ends with a status. -/
theorem exited_of_not_asksRun (hasks : ∀ p r, ¬ i.AsksRun p r) :
    ∃ n ∈ documentedStatuses, i.run.ending = .exited n := by
  have husage {arguments : List Text} {f : Failure} (harguments : ∀ a ∈ arguments, '\x00' ∉ a)
      (hread : Preferences.read i.files arguments = .error f) :
      f.ending = .exited usageErrorStatus := by
    obtain ⟨error, rfl⟩ := Preferences.usage_of_read harguments hread
    rfl
  rw [run]
  split
  · rename_i f hread
    exact ⟨_, by decide, husage hordinary.arguments hread⟩
  · exact ⟨_, by decide, rfl⟩
  · rename_i p hread
    rw [greet]
    split
    · rename_i f hprepare
      exact ⟨_, by decide, (ending_of_prepare hordinary hprepare).1⟩
    · exact ⟨_, by decide, rfl⟩
  · rename_i p word arguments hread
    have hrest := Preferences.not_mem_of_read hordinary.arguments hread
    split
    · rw [refuse]
      split
      · rename_i f hagain
        exact ⟨_, by decide, husage hrest hagain⟩
      · exact ⟨_, by decide, rfl⟩
      · exact ⟨_, by decide, rfl⟩
    · rename_i name hname
      have hrun := hordinary.command p word arguments name hread hname
      subst hrun
      rw [call]
      split
      · rename_i f hprepare
        exact ⟨_, by decide, (ending_of_prepare hordinary hprepare).1⟩
      · split
        · rename_i f hrequest
          obtain ⟨error, rfl⟩ := Request.usage_of_read
            (fun a ha => hrest a (List.mem_cons_of_mem word ha)) hrequest
          exact ⟨_, by decide, rfl⟩
        · exact ⟨_, by decide, rfl⟩
        · rename_i request hrequest
          obtain ⟨r, rfl⟩ := exists_run_of_read hrequest
          exact absurd ⟨word, arguments, hread, hname, hrequest⟩ (hasks p r)

/-- A call that comes to applying a pipeline ends with a status unless there is one of the
reasons. -/
theorem ending_of_asksRun :
    (∃ n ∈ documentedStatuses, i.run.ending = .exited n) ∨
      (∃ b, i.run.ending = .brokeDown b) ∧ ¬ (0 < p.verbose ∧ 0 < p.quiet) ∧
        (∃ target, r.target = .ok target) ∧ i.Trap p r := by
  cases hprepare : Display.prepare i p with
  | error f =>
    left
    rw [run_of_asksRun h, hprepare]
    exact ⟨_, by decide, (ending_of_prepare hordinary hprepare).1⟩
  | ok d =>
    cases hresult : (r.apply i p).result with
    | ok delivery =>
      left
      refine ⟨ExitStatus.success.number, by decide, ?_⟩
      rw [run_of_apply_eq_ok h hprepare hresult]
      rfl
    | error f =>
      obtain ⟨before, c, after, horder, hpassed, hfailed⟩ := exists_first_failed hresult
      have hrun := run_of_failed h hprepare horder hpassed hfailed
      have hamong := RunRequest.among_check hfailed
      cases f with
      | usage error => exact absurd hamong not_false
      | told error =>
        left
        rw [hrun]
        exact ⟨error.status.number, c.number_of_status error.status hamong, rfl⟩
      | broken b =>
        right
        refine ⟨⟨b, by rw [hrun]; rfl⟩, not_conflict_of_prepare hprepare, ?_,
          trap_of_broken hordinary h horder hpassed hfailed⟩
        cases htarget : r.target with
        | ok target => exact ⟨target, rfl⟩
        | error f =>
          have herror : (r.check i p .target).result = .error f :=
            Outcome.result_asCheck_eq_error_iff.mpr htarget
          by_cases hc : c = .target
          · subst hc
            rw [herror, Except.error.injEq] at hfailed
            subst hfailed
            exact absurd htarget target_ne_broken
          · rw [hpassed .target (Check.target_mem_before horder hc)] at herror
            cases herror

omit hordinary in
/-- Each of the reasons makes a call break down. -/
theorem brokeDown_of_trap {d : Display} {target : Option Text}
    (hprepare : Display.prepare i p = .ok d) (htarget : r.target = .ok target)
    (htrap : i.Trap p r) : ∃ b, i.run.ending = .brokeDown b := by
  have hpassed : (r.check i p .target).result = .ok () := Outcome.result_asCheck_of_ok htarget
  cases htrap with
  | numeral hlines hlong =>
    obtain ⟨e, hparse⟩ := LineRegion.parse_eq_numeral_iff.mpr hlong
    have hregion : r.region = .error (.broken (.numeral e)) := by
      simp only [RunRequest.region, hlines, hparse]
      rfl
    have hfailed : (r.check i p .range).result = .error (.broken (.numeral e)) :=
      Outcome.result_asCheck_eq_error_iff.mpr hregion
    have horder : Check.order = [.target] ++ .range :: Check.order.drop 2 := rfl
    rw [run_of_failed h hprepare horder (by simpa using hpassed) hfailed]
    exact ⟨_, rfl⟩
  | loading hregion hload hfailure =>
    have hbroken : ∃ b, (r.settings i p).result = .error (.broken b) := by
      rw [RunRequest.settings, Outcome.result_bind, Outcome.result_mapError, hload]
      obtain ⟨clash, rfl⟩ | ⟨error, rfl⟩ := hfailure <;> exact ⟨_, rfl⟩
    obtain ⟨b, hbroken⟩ := hbroken
    have hrange : (r.check i p .range).result = .ok () := Outcome.result_asCheck_of_ok hregion
    have hfailed : (r.check i p .settings).result = .error (.broken b) :=
      Outcome.result_asCheck_eq_error_iff.mpr hbroken
    have horder : Check.order = [.target, .range] ++ .settings :: Check.order.drop 3 := rfl
    rw [run_of_failed h hprepare horder (by simp [hpassed, hrange]) hfailed]
    exact ⟨_, rfl⟩
  | @locale region settings hregion hsettings hnull =>
    have hne : settings.locale ≠ [] := List.ne_nil_of_mem hnull
    have hbroken : (RunRequest.localeWork settings).result =
        .error (.broken (.locale .nullInName)) := by
      have hresult : (settings.prepare .display).result = .error .nullInName :=
        Settings.prepare_eq_error_iff.mpr ⟨hne, Locale.resolve_eq_null_iff.mpr hnull⟩
      rw [RunRequest.localeWork, Outcome.result_mapError, hresult]
      rfl
    have hrange : (r.check i p .range).result = .ok () := Outcome.result_asCheck_of_ok hregion
    have hloaded : (r.check i p .settings).result = .ok () :=
      Outcome.result_asCheck_of_ok hsettings
    have hfailed : (r.check i p .locale).result = .error (.broken (.locale .nullInName)) := by
      rw [RunRequest.check, RunRequest.settings?, hsettings]
      exact Outcome.result_asCheck_eq_error_iff.mpr hbroken
    have horder :
        Check.order = [.target, .range, .settings] ++ .locale :: Check.order.drop 4 := rfl
    rw [run_of_failed h hprepare horder (by simp [hpassed, hrange, hloaded]) hfailed]
    exact ⟨_, rfl⟩

/-! ## Ranges and locales -/

omit hordinary in
theorem ending_of_failed {d : Display} {before after : List Check} {c : Check}
    {error : CommandError} (hprepare : Display.prepare i p = .ok d)
    (horder : Check.order = before ++ c :: after)
    (hpassed : ∀ b ∈ before, (r.check i p b).result = .ok ())
    (hfailed : (r.check i p c).result = .error (.told error)) :
    i.run.ending = .exited error.status.number := by
  rw [run_of_failed h hprepare horder hpassed hfailed]
  rfl

omit hordinary in
theorem ending_of_malformed_range {d : Display} {target : Option Text} {text : Text}
    {error : RegionError} (hprepare : Display.prepare i p = .ok d)
    (htarget : r.target = .ok target) (hlines : r.lines = some text)
    (hparse : LineRegion.parse text = .error (.region error)) :
    i.run.ending = .exited ExitStatus.usage.number := by
  have hregion : r.region = .error (.told (.region error)) := by
    simp only [RunRequest.region, hlines, hparse]
    rfl
  have hpassed : (r.check i p .target).result = .ok () := Outcome.result_asCheck_of_ok htarget
  have horder : Check.order = [.target] ++ .range :: Check.order.drop 2 := rfl
  exact ending_of_failed h hprepare horder (by simpa using hpassed)
    (Outcome.result_asCheck_eq_error_iff.mpr hregion)

omit hordinary in
theorem ending_of_range_outside {d : Display} {target : Option Text} {plan : RunRequest.Plan}
    {text : Text} {error : RegionError} (hprepare : Display.prepare i p = .ok d)
    (htarget : r.target = .ok target) (hplan : (r.plan i p).result = .ok plan)
    (htext : i.readText r.file = .ok text)
    (houtside : (TextBuffer.ofText text).linesIn plan.region = .error error) :
    i.run.ending = .exited ExitStatus.usage.number := by
  have htransform : (plan.transform text).result = .error (.told (.region error)) := by
    rw [RunRequest.Plan.transform, RunRequest.transform]
    simp only [TextBuffer.linesIn_ofText, houtside, except_mapError_error]
    rfl
  have hresult : (r.apply i p).result = .error (.told (.region error)) := by
    simp only [RunRequest.apply_eq, Outcome.result_bind, Outcome.result_ofExcept, htarget, hplan,
      htext, htransform, Except.bind]
  rw [run_of_apply_eq_error h hprepare hresult]
  rfl

omit hordinary in
theorem ending_of_unusable_locale {d : Display} {target : Option Text} {region : LineRegion}
    {settings : Settings} {name : Text} (hprepare : Display.prepare i p = .ok d)
    (htarget : r.target = .ok target) (hregion : r.region = .ok region)
    (hsettings : (r.settings i p).result = .ok settings) (hne : settings.locale ≠ [])
    (hunusable : Locale.resolve settings.locale = .error (.unsupported name)) :
    i.run.ending = .exited ExitStatus.settings.number := by
  have hfails : (RunRequest.localeWork settings).result = .error (.told (.locale name)) := by
    have hresult : (settings.prepare .display).result = .error (.unsupported name) :=
      Settings.prepare_eq_error_iff.mpr ⟨hne, hunusable⟩
    rw [RunRequest.localeWork, Outcome.result_mapError, hresult]
    rfl
  have hpassed : ∀ c ∈ [Check.target, .range, .settings], (r.check i p c).result = .ok () := by
    simp only [List.mem_cons, List.not_mem_nil, or_false]
    rintro c (rfl | rfl | rfl)
    · exact Outcome.result_asCheck_of_ok htarget
    · exact Outcome.result_asCheck_of_ok hregion
    · exact Outcome.result_asCheck_of_ok hsettings
  have hfailed : (r.check i p .locale).result = .error (.told (.locale name)) := by
    rw [RunRequest.check, RunRequest.settings?, hsettings]
    exact Outcome.result_asCheck_eq_error_iff.mpr hfails
  have horder :
      Check.order = [.target, .range, .settings] ++ .locale :: Check.order.drop 4 := rfl
  exact ending_of_failed h hprepare horder hpassed hfailed

omit hordinary h

/-- How an ordinary invocation ends. Where it does not break down its status is a documented one: a
malformed or unusable line range is an error of usage, and an unusable collation locale one of the
settings, wherever it was set. -/
structure EndsUnlessTrapped (i : Invocation) : Prop where
  exited : ∀ n, i.run.ending = .exited n → n ∈ documentedStatuses
  brokeDown_iff : (∃ b, i.run.ending = .brokeDown b) ↔
    ∃ p r, i.AsksRun p r ∧ ¬ (0 < p.verbose ∧ 0 < p.quiet) ∧
      (∃ target, r.target = .ok target) ∧ i.Trap p r
  malformed : ∀ p r d target text error, i.AsksRun p r → Display.prepare i p = .ok d →
    r.target = .ok target → r.lines = some text → LineRegion.parse text = .error (.region error) →
      i.run.ending = .exited ExitStatus.usage.number
  outside : ∀ p r d target plan text error, i.AsksRun p r → Display.prepare i p = .ok d →
    r.target = .ok target → (r.plan i p).result = .ok plan → i.readText r.file = .ok text →
      (TextBuffer.ofText text).linesIn plan.region = .error error →
        i.run.ending = .exited ExitStatus.usage.number
  unusable : ∀ p r d target region settings name, i.AsksRun p r → Display.prepare i p = .ok d →
    r.target = .ok target → r.region = .ok region → (r.settings i p).result = .ok settings →
      settings.locale ≠ [] → Locale.resolve settings.locale = .error (.unsupported name) →
        i.run.ending = .exited ExitStatus.settings.number

/-- An ordinary invocation ends with a documented status unless there is one of the reasons. -/
theorem ending_or_trap (hordinary : i.Ordinary) :
    (∃ n ∈ documentedStatuses, i.run.ending = .exited n) ∨
      (∃ b, i.run.ending = .brokeDown b) ∧
        ∃ p r, i.AsksRun p r ∧ ¬ (0 < p.verbose ∧ 0 < p.quiet) ∧
          (∃ target, r.target = .ok target) ∧ i.Trap p r := by
  by_cases hasks : ∃ p r, i.AsksRun p r
  · obtain ⟨p, r, hasks⟩ := hasks
    obtain hexited | ⟨hbroken, htrap⟩ := ending_of_asksRun hordinary hasks
    · exact .inl hexited
    · exact .inr ⟨hbroken, p, r, hasks, htrap⟩
  · exact .inl (exited_of_not_asksRun hordinary fun p r h => hasks ⟨p, r, h⟩)

theorem endsUnlessTrapped (hordinary : i.Ordinary) : i.EndsUnlessTrapped where
  exited := by
    intro n hn
    obtain ⟨m, hm, hending⟩ | ⟨⟨b, hbroken⟩, -⟩ := ending_or_trap hordinary
    · rw [hn, Ending.exited.injEq] at hending
      rwa [hending]
    · rw [hn] at hbroken
      cases hbroken
  brokeDown_iff := by
    constructor
    · rintro ⟨b, hb⟩
      obtain ⟨m, -, hending⟩ | ⟨-, htrap⟩ := ending_or_trap hordinary
      · rw [hb] at hending
        cases hending
      · exact htrap
    · rintro ⟨p, r, hasks, hconflict, ⟨target, htarget⟩, htrap⟩
      cases hprepare : Display.prepare i p with
      | ok d => exact brokeDown_of_trap hasks hprepare htarget htrap
      | error f =>
        obtain ⟨-, hverbose, hquiet⟩ := ending_of_prepare hordinary hprepare
        exact absurd ⟨hverbose, hquiet⟩ hconflict
  malformed _ _ _ _ _ _ h := ending_of_malformed_range h
  outside _ _ _ _ _ _ _ h := ending_of_range_outside h
  unusable _ _ _ _ _ _ _ h := ending_of_unusable_locale h

/-- A call to drop repeated lines of the input, with one file in the current directory. -/
def dropping (options : List Text) (name content : Text) : Invocation where
  arguments := ["run".toList, "uniq".toList] ++ options
  files := Files.withFile name content
  input := Utf8.encode "a\na\n".toList

theorem ordinary_dropping {options : List Text} {name content : Text} {p : Preferences}
    {arguments : List Text}
    (hread : Preferences.read (Files.withFile name content) ("run".toList :: "uniq".toList ::
      options) = .ok (.action (p, "run".toList :: arguments)))
    (hoptions : ∀ option ∈ options, '\x00' ∉ option) :
    (dropping options name content).Ordinary where
  command := by
    intro p' word arguments' name' h hname
    have hsame := hread.symm.trans h
    simp only [Except.ok.injEq, Asked.action.injEq, Prod.mk.injEq, List.cons.injEq] at hsame
    obtain ⟨-, rfl, -⟩ := hsame
    exact (Option.some.inj hname).symm
  level := rfl
  registry := rfl
  arguments := by
    intro argument hargument
    simp only [dropping, List.cons_append, List.nil_append, List.mem_cons] at hargument
    obtain rfl | rfl | hargument := hargument
    · decide
    · decide
    · exact hoptions argument hargument
  settings := by
    intro _ _ _ path octets _ hoctets
    rw [Files.of_read_withFile hoctets]
    exact ⟨content, Utf8.decode_encode content⟩

theorem ordinary_dropping_lines {range name content : Text} (h : '\x00' ∉ range) :
    (dropping ["--lines".toList, range] name content).Ordinary := by
  refine ordinary_dropping rfl ?_
  simp only [List.mem_cons, List.not_mem_nil, or_false]
  rintro option (rfl | rfl)
  · decide
  · exact h

/-- With a collation locale that can be chosen the call succeeds, and none of the reasons is
there. -/
theorem endsUnlessTrapped_dropping :
    ∃ i : Invocation, i.Ordinary ∧ i.EndsUnlessTrapped ∧ i.run.out = "a\n".toList ∧
      ¬ ∃ p r, i.AsksRun p r ∧ ¬ (0 < p.verbose ∧ 0 < p.quiet) ∧
        (∃ target, r.target = .ok target) ∧ i.Trap p r := by
  let i := dropping [] Settings.ownFileName "locale = \"C\"\n".toList
  have hordinary : i.Ordinary := ordinary_dropping rfl (by simp)
  have hends := endsUnlessTrapped hordinary
  have hsuccess : i.run.ending = .exited ExitStatus.success.number := by decide +kernel
  refine ⟨i, hordinary, hends, by decide +kernel, ?_⟩
  rw [← hends.brokeDown_iff, hsuccess]
  rintro ⟨b, hb⟩
  cases hb

/-- A line range that is one numeral with too many digits. -/
theorem brokeDown_of_long_range {digits name content : Text}
    (hdigits : ∀ c ∈ digits, Text.isDecimal c) (hlong : Text.digitLimit < digits.length) :
    ∃ b, (dropping ["--lines".toList, digits] name content).run.ending = .brokeDown b := by
  cases digits with
  | nil => exact absurd hlong (Nat.not_lt_zero _)
  | cons first rest =>
    let r : RunRequest := { pipeline := "uniq".toList, lines := some (first :: rest) }
    have hasks : (dropping ["--lines".toList, first :: rest] name content).AsksRun {} r :=
      ⟨_, _, rfl, rfl, rfl⟩
    have hnumeral : LineRegion.HasLongNumeral (first :: rest) :=
      ⟨_, _, LineRegion.scan_of_isDecimal hdigits, .inl hlong⟩
    exact brokeDown_of_trap hasks rfl rfl (.numeral rfl hnumeral)

/-- A null character in the name of the collation locale, a key that occurs twice in a file of
settings, and a numeral that is too long make ordinary invocations break down, though each of them
is an error of the settings or of usage. -/
theorem brokeDown_of_each_trap :
    (∃ i : Invocation, i.Ordinary ∧ i.run.ending = .brokeDown (.locale .nullInName)) ∧
      (∃ i : Invocation, i.Ordinary ∧
        i.run.ending = .brokeDown (.loading (.clash (.duplicate "x".toList)))) ∧
      ∃ i : Invocation, i.Ordinary ∧ ∃ b, i.run.ending = .brokeDown b := by
  have hdigits : ∀ c ∈ List.replicate (Text.digitLimit + 1) '1', Text.isDecimal c := by
    intro c hc
    rw [List.eq_of_mem_replicate hc]
    decide
  refine ⟨⟨dropping [] Settings.ownFileName "locale = \"C\\u0000\"\n".toList, ?_, ?_⟩,
    ⟨dropping [] Settings.ownFileName "[a]\nx = 1\nx = 2\n".toList, ?_, ?_⟩,
    ⟨dropping ["--lines".toList, List.replicate (Text.digitLimit + 1) '1'] "f.txt".toList [],
      ?_, ?_⟩⟩
  · exact ordinary_dropping rfl (List.forall_mem_nil _)
  · decide +kernel
  · exact ordinary_dropping rfl (List.forall_mem_nil _)
  · decide +kernel
  · refine ordinary_dropping_lines fun hnull => ?_
    have hone := List.eq_of_mem_replicate hnull
    cases hone
  · exact brokeDown_of_long_range hdigits (by rw [List.length_replicate]; exact Nat.lt_succ_self _)

end Invocation

end CommandLine

end LinePipe
