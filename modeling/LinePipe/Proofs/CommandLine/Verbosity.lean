import LinePipe.Proofs.CommandLine.Run
import LinePipe.Proofs.Settings.Search

/-!
# Whether the settings decide how much is printed

How much the reports tell should be decided by the settings, and by the options of the program only
where the settings leave it open. But no command that makes a report loads the settings, so the
options alone decide. This shows unless the report comes out alike both ways.

## Main definitions

- `Invocation.Asks`: what the program is called to do
- `Invocation.Alike`: a request that ends alike for two verbosities
- `Invocation.Unswayed`: a request that ends as the settings want it, whatever the options say

## Main statements

- `Report.ofValidity_eq_iff`, `Report.catalogList_eq_iff`, `Report.version_eq_iff`: when the reports
  come out alike
- `Invocation.perform_eq_iff`: how much the verbosity decides
- `Invocation.run_of_asks`: what a call does
- `Invocation.run_eq_effective_iff`: when a call prints as much as the settings want
-/

namespace LinePipe

theorem Console.written_ne_nil (c : Console) (t : Text) : c.written t ≠ [] := by
  rw [written]
  exact List.append_ne_nil_of_right_ne_nil _ (List.cons_ne_nil _ _)

/-- A choice between different things comes out alike if it is made alike. -/
theorem ite_eq_ite_iff_of_ne {α : Type} {p q : Prop} [Decidable p] [Decidable q] {a b : α}
    (h : a ≠ b) : (if p then a else b) = (if q then a else b) ↔ (p ↔ q) := by
  by_cases hp : p
  · by_cases hq : q
    · simp [hp, hq]
    · simp [hp, hq, h]
  · by_cases hq : q
    · simp [hp, hq, h.symm]
    · simp [hp, hq]

theorem length_flatMap_append {α β : Type} (f g : α → List β) (l : List α) :
    (l.flatMap fun a => f a ++ g a).length = (l.flatMap f).length + (l.flatMap g).length := by
  induction l with
  | nil => rfl
  | cons a l ih =>
    simp only [List.flatMap_cons, List.length_append, ih]
    omega

/-- What is added to the parts of a list is seen unless it is nothing. -/
theorem flatMap_append_eq_iff {α β : Type} {f g : α → List β} {l : List α} :
    (l.flatMap fun a => f a ++ g a) = l.flatMap f ↔ ∀ a ∈ l, g a = [] := by
  constructor
  · intro h
    have hlength := length_flatMap_append f g l
    rw [h, Nat.left_eq_add, List.length_eq_zero_iff] at hlength
    exact List.flatMap_eq_nil_iff.mp hlength
  · intro h
    rw [List.flatMap_def, List.flatMap_def]
    refine congrArg List.flatten (List.map_congr_left fun a ha => ?_)
    rw [h a ha, List.append_nil]

namespace CommandLine

/-! ## Reports -/

namespace Report

variable {console : Console} {v w : Int} {catalog : List CommandInfo}

/-- A valid pipeline is mentioned unless less output is asked for. -/
theorem ofValidity_eq_iff {format : ReportFormat} {text : Text} {error : Option ParseError} :
    ofValidity console v format text error = ofValidity console w format text error ↔
      format = .json ∨ error ≠ none ∨ (0 ≤ v ↔ 0 ≤ w) := by
  cases error with
  -- What is wrong with a pipeline is always told.
  | some e => cases format <;> simp [ofValidity]
  | none =>
    have hne : ({ out := console.written (console.styled { colour := some .green } "OK".toList) } :
        Report) ≠ {} := fun h => console.written_ne_nil _ (Report.mk.inj h).2.1
    cases format with
    | json => simp [ofValidity]
    | terminal | markdown =>
      simp only [reduceCtorEq, ne_eq, not_true_eq_false, false_or]
      exact ite_eq_ite_iff_of_ne hne

theorem catalogEntry_of_pos (hv : 0 < v) (width : Nat) :
    catalogEntry console v width = fun info => catalogEntry console 0 width info ++
      info.usage.flatMap fun form => console.written (List.replicate (width + 4) ' ' ++ form) := by
  funext info
  simp [catalogEntry, hv]

theorem catalogEntry_of_not_pos (hv : ¬ 0 < v) (width : Nat) :
    catalogEntry console v width = catalogEntry console 0 width := by
  funext info
  simp [catalogEntry, hv]

theorem catalogList_eq_ite :
    catalogList console v catalog =
      if 0 < v then catalogList console 1 catalog else catalogList console 0 catalog := by
  by_cases hv : 0 < v
  · rw [if_pos hv, catalogList, catalogList, catalogEntry_of_pos hv,
      catalogEntry_of_pos Int.zero_lt_one]
  · rw [if_neg hv, catalogList, catalogList, catalogEntry_of_not_pos hv]

/-- A list with the forms of the commands is longer, if there are any. -/
theorem catalogList_one_eq_zero_iff (console : Console) :
    catalogList console 1 catalog = catalogList console 0 catalog ↔
      ∀ info ∈ catalog, info.usage = [] := by
  rw [catalogList, catalogList, catalogEntry_of_pos Int.zero_lt_one, flatMap_append_eq_iff]
  refine forall₂_congr fun info _ => ?_
  rw [List.flatMap_eq_nil_iff, List.eq_nil_iff_forall_not_mem]
  refine forall_congr' fun form => ?_
  exact imp_congr_right fun _ => iff_false_intro (console.written_ne_nil _)

/-- The forms of commands are listed if more output is asked for. -/
theorem catalogList_eq_iff (console : Console) :
    catalogList console v catalog = catalogList console w catalog ↔
      (∀ info ∈ catalog, info.usage = []) ∨ (0 < v ↔ 0 < w) := by
  rw [← catalogList_one_eq_zero_iff console, catalogList_eq_ite (v := v),
    catalogList_eq_ite (v := w)]
  by_cases hsame : catalogList console 1 catalog = catalogList console 0 catalog
  · simp only [hsame, ite_self, true_or]
  · rw [ite_eq_ite_iff_of_ne hsame]
    simp only [hsame, false_or]

theorem commands_eq_iff {format : ReportFormat} :
    commands console v format catalog = commands console w format catalog ↔
      format ≠ .terminal ∨ (∀ info ∈ catalog, info.usage = []) ∨ (0 < v ↔ 0 < w) := by
  cases format with
  | json => simp [commands]
  | markdown => simp [commands]
  | terminal =>
    rw [← catalogList_eq_iff console]
    simp [commands]

/-- The version has a heading if more output is asked for. -/
theorem version_eq_iff {format : ReportFormat} :
    version console v format = version console w format ↔
      format ≠ .terminal ∨ (0 < v ↔ 0 < w) := by
  have hne : version console 1 .terminal ≠ version console 0 .terminal := by
    obtain ⟨colour⟩ := console
    revert colour
    decide +kernel
  have hversion (v : Int) : version console v .terminal =
      if 0 < v then version console 1 .terminal else version console 0 .terminal := by
    by_cases hv : 0 < v <;> simp [version, hv]
  cases format with
  | json => simp [version]
  | markdown => simp [version]
  | terminal =>
    rw [hversion v, hversion w, ite_eq_ite_iff_of_ne hne]
    simp only [ne_eq, not_true_eq_false, false_or]

end Report

/-! ## Requests -/

namespace Invocation

/-- The program is called to do something: its options are read as these preferences, and the rest
as this request to a command. -/
def Asks (i : Invocation) (p : Preferences) (name : CommandName) (request : Request) : Prop :=
  ∃ word arguments,
    Preferences.read i.files i.arguments = .ok (.action (p, word :: arguments)) ∧
      CommandName.ofWord? word = some name ∧
      Request.read i.files name arguments = .ok (.action request)

/-- A request ends alike for two verbosities. -/
def Alike (i : Invocation) (v w : Int) : Request → Prop
  | .check text format =>
    format = .json ∨ (Pipeline.check text i.registry).result ≠ .ok none ∨ (0 ≤ v ↔ 0 ≤ w)
  | .commands format =>
    format ≠ .terminal ∨ (∀ info ∈ i.registry.catalog, info.usage = []) ∨ (0 < v ↔ 0 < w)
  | .version format => format ≠ .terminal ∨ (0 < v ↔ 0 < w)
  | _ => True

/-- A request ends as the settings want it that ask for this verbosity, whatever the options
say. -/
def Unswayed (i : Invocation) (p : Preferences) (n : Int) : Request → Prop
  | .check text format =>
    format = .json ∨ (Pipeline.check text i.registry).result ≠ .ok none ∨ (p.quiet = 0 ↔ 0 ≤ n)
  | .commands format =>
    format ≠ .terminal ∨ (∀ info ∈ i.registry.catalog, info.usage = []) ∨
      (0 < p.verbose ↔ 0 < n)
  | .version format => format ≠ .terminal ∨ (0 < p.verbose ↔ 0 < n)
  | _ => True

variable {i : Invocation} {p : Preferences} {d : Display} {name : CommandName} {request : Request}

theorem run_of_asks (h : i.Asks p name request) (hprepare : Display.prepare i p = .ok d) :
    i.run = i.perform p d name request := by
  obtain ⟨word, arguments, hpreferences, hword, hrequest⟩ := h
  simp only [run, hpreferences, hword, call, hprepare, hrequest]

theorem reported_inj {es : List Event} {r r' : Report} :
    i.reported d es r = i.reported d es r' ↔ r = r' := by
  constructor
  · intro h
    obtain ⟨hending, hout, herr, -⟩ := Completion.mk.inj h
    cases r
    cases r'
    rw [Report.mk.injEq]
    exact ⟨ExitStatus.number_inj.mp (Ending.exited.inj hending), hout,
      List.append_cancel_left herr⟩
  · rintro rfl
    rfl

/-- The verbosity decides how much a report tells, and nothing else. -/
theorem perform_eq_iff {v w : Int} :
    i.perform p { d with verbosity := v } name request =
      i.perform p { d with verbosity := w } name request ↔ i.Alike v w request := by
  cases request with
  -- Neither of these two looks at the verbosity.
  | run r => exact iff_of_true rfl trivial
  | help => exact iff_of_true rfl trivial
  | commands format => exact reported_inj.trans Report.commands_eq_iff
  | version format => exact reported_inj.trans Report.version_eq_iff
  | check text format =>
    simp only [Alike, perform, Report.check]
    cases hcheck : (Pipeline.check text i.registry).result with
    | error failure =>
      have hfailed : ((Pipeline.check text i.registry).mapError Failure.ofBuilding).result =
          .error (.ofBuilding failure) := by rw [Outcome.result_mapError, hcheck]; rfl
      rw [Outcome.bind_of_error hfailed, Outcome.bind_of_error hfailed]
      exact iff_of_true rfl (.inr (.inl nofun))
    | ok error =>
      have hfound := Outcome.result_mapError_eq_ok_iff (f := Failure.ofBuilding).mpr hcheck
      rw [Outcome.bind_of_ok hfound, Outcome.bind_of_ok hfound, ne_eq, Except.ok.injEq]
      exact reported_inj.trans Report.ofValidity_eq_iff

/-- What the options ask for is less than nothing if they ask for less, and more if they ask for
more. -/
theorem verbosity_of_prepare (h : Display.prepare i p = .ok d) :
    (0 ≤ d.verbosity ↔ p.quiet = 0) ∧ (0 < d.verbosity ↔ 0 < p.verbose) := by
  have hconflict := not_conflict_of_prepare h
  obtain ⟨-, hverbosity⟩ := of_prepare_eq_ok h
  rw [Verbosity.ofCounts] at hverbosity
  split at hverbosity
  · cases hverbosity
  · rw [← Except.ok.inj hverbosity]
    split <;> omega

/-- A call that asks for something heeds the settings: if they can be loaded and set the verbosity,
it ends as with the verbosity that counts. -/
def HeedsSettings (i : Invocation) (p : Preferences) (d : Display) (name : CommandName)
    (request : Request) : Prop :=
  ∀ layer n, (Settings.load i.files (RunRequest.source p)).result = .ok layer →
    layer.freeze.verbosity = some n →
      i.run = i.perform p
        { d with verbosity := Verbosity.effective (some layer.freeze) d.verbosity } name request

/-- A call heeds the settings exactly if what it prints comes out as they want it, whatever the
options say. -/
theorem heedsSettings_iff (hasks : i.Asks p name request)
    (hprepare : Display.prepare i p = .ok d) :
    i.HeedsSettings p d name request ↔
      ∀ layer n, (Settings.load i.files (RunRequest.source p)).result = .ok layer →
        layer.freeze.verbosity = some n → i.Unswayed p n request := by
  obtain ⟨hquiet, hverbose⟩ := verbosity_of_prepare hprepare
  have hunswayed (n : Int) : i.Alike d.verbosity n request ↔ i.Unswayed p n request := by
    cases request <;> simp only [Alike, Unswayed, hquiet, hverbose]
  rw [HeedsSettings, run_of_asks hasks hprepare]
  refine forall₂_congr fun layer n => forall₂_congr fun _ hset => ?_
  have heffective : Verbosity.effective (some layer.freeze) d.verbosity = n := by
    rw [Verbosity.effective, Option.bind_some, hset, Option.getD_some]
  rw [heffective, ← hunswayed]
  exact perform_eq_iff

/-- The program called in a directory with a file of settings. -/
def besideSettings (settings : Text) (arguments : List Text) : Invocation where
  arguments
  files := Files.holding [([Settings.ownFileName], settings)]

/-- What the version looks like with a heading. -/
def versionWithHeading : Text := "TextShell version:\n\n    0.1.0\n".toList

/-- The options and the settings both ask for more output. -/
theorem heedsSettings_of_more :
    ∃ i p d, i = besideSettings "verbosity_level = 2\n".toList ["-v".toList, "version".toList] ∧
      i.Asks p .version (.version .terminal) ∧ Display.prepare i p = .ok d ∧
        i.run.out = versionWithHeading ∧ i.HeedsSettings p d .version (.version .terminal) := by
  let i := besideSettings "verbosity_level = 2\n".toList ["-v".toList, "version".toList]
  let p : Preferences := { verbose := 1 }
  have hasks : i.Asks p .version (.version .terminal) := ⟨_, _, rfl, rfl, rfl⟩
  have hload : (Settings.load i.files (RunRequest.source p)).result.map
      (fun layer => layer.freeze.verbosity) = .ok (some 2) := by decide +kernel
  refine ⟨i, p, ⟨⟨false⟩, Log.Filter.setUp none none, 1⟩, rfl, hasks, rfl, by decide +kernel, ?_⟩
  refine (heedsSettings_iff hasks rfl).mpr fun layer n hlayer hset => ?_
  rw [hlayer, Except.map, hset, Except.ok.injEq, Option.some.injEq] at hload
  subst hload
  exact .inr (by decide)

/-- The settings ask for more output, and no notice is taken of them. -/
theorem run_ignores_settings :
    ∃ i d layer, i = besideSettings "verbosity_level = 1\n".toList ["version".toList] ∧
      i.Asks {} .version (.version .terminal) ∧ Display.prepare i {} = .ok d ∧
        (Settings.load i.files (RunRequest.source {})).result = .ok layer ∧
        layer.freeze.verbosity = some 1 ∧ i.run.out = "0.1.0\n".toList ∧
        (i.perform {} { d with verbosity := Verbosity.effective (some layer.freeze) d.verbosity }
          .version (.version .terminal)).out = versionWithHeading ∧
        ¬ i.HeedsSettings {} d .version (.version .terminal) := by
  let i := besideSettings "verbosity_level = 1\n".toList ["version".toList]
  let layer : Layer :=
    { Layer.defaults with
      verbosity := some 1
      files := [i.files.absolute [Settings.ownFileName]] }
  have hload : (Settings.load i.files (RunRequest.source {})).result = .ok layer := by
    decide +kernel
  have hshort : i.run.out = "0.1.0\n".toList := by decide +kernel
  have hlong : (i.perform {} ⟨⟨false⟩, Log.Filter.setUp none none, 1⟩ .version
      (.version .terminal)).out = versionWithHeading := by decide +kernel
  refine ⟨i, ⟨⟨false⟩, Log.Filter.setUp none none, 0⟩, layer, rfl, ⟨_, _, rfl, rfl, rfl⟩, rfl,
    hload, rfl, hshort, hlong, fun h => ?_⟩
  have hout := congrArg Completion.out (h layer 1 hload rfl)
  have hsame : "0.1.0\n".toList = versionWithHeading := hshort.symm.trans (hout.trans hlong)
  revert hsame
  decide

end Invocation

end CommandLine

end LinePipe
