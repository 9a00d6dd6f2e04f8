import LinePipe.Proofs.Settings.Discovery
import LinePipe.Proofs.Settings.Failing

/-!
# What files say about the root

A file may say by a truth value that the search for files ends with its directory. A search should
be stopped by nothing else, and a file that says something else should be refused, as one is whose
other settings are of another kind than wanted. But a search is stopped by every value that counts
as true, and when settings are read no notice is taken of what is said about the root.

## Main definitions

- `Settings.StoppedAt`: the directory with which a search ends before it is at the top
- `Settings.EndsAtRoot`: a search that ends with a root or gets to the top
- `Settings.SaysOtherwise`: a file that says something about the root that is no truth value
- `Settings.RootIsTruthValue`: how the root should be treated
- `Settings.Misled`: a search that is stopped though there is no root
- `Settings.RefusedApart`: files that are refused for something else

## Main statements

- `Settings.stoppedAt_iff`: what stops a search
- `Settings.StoppedAt.discover_eq`: a search that is stopped does not look any farther
- `Settings.exists_stoppedAt_or_atTop`: a search is stopped or goes on to the top
- `Settings.endsAtRoot_of_discover`: a search that only roots stop ends with one or gets to the top
- `Settings.not_about_root_of_ofFile`: no file is refused for what it says about the root
- `Settings.rootIsTruthValue_iff`: when the root is treated as it should be
-/

namespace LinePipe

/-- What is wrong is the kind of the value of a key. -/
def SettingsError.About (error : SettingsError) (key : Text) : Prop :=
  ∃ wanted found, error = .wrongKind key wanted found

namespace Settings

/-- A search from a start ends with a directory: it gets past those before and finds that it ends
here. -/
structure StoppedAt (fs : Files) (start directory : Path) : Prop where
  starts : Files.holdsNull start = false
  stops : ∃ before after, (startDirectory fs start).ancestors = before ++ directory :: after ∧
    (∀ d ∈ before, ∃ files, (examineDirectory fs d).result = .ok (files, false)) ∧
      ∃ files, (examineDirectory fs directory).result = .ok (files, true)

/-- A search passes directories that do not end it and looks at nothing above the next one, which is
a root; or there is none that ends it up to the top. -/
def EndsAtRoot (fs : Files) (start : Path) : Prop :=
  (∃ before root after, (startDirectory fs start).ancestors = before ++ root :: after ∧
    (∀ d ∈ before, ∃ files, (examineDirectory fs d).result = .ok (files, false)) ∧
      HoldsRoot fs root ∧ discover fs start = search fs (before ++ [root])) ∨
    ∀ d ∈ (startDirectory fs start).ancestors,
      ∃ files, (examineDirectory fs d).result = .ok (files, false)

/-- A file has settings that say something about the root that is no truth value. -/
def SaysOtherwise (fs : Files) (path : Path) : Prop :=
  ∃ settings value, HasSettings fs path settings ∧
    Table.value? settings SettingKey.root = some value ∧ ∀ b, value ≠ .boolean b

/-- Whether the search ends is said by a truth value: only one that is true stops the search, which
gets to the top without one, and a file that says something else is refused. -/
structure RootIsTruthValue (fs : Files) (source : Source) : Prop where
  stopped : source.isolated = false → ∀ directory,
    StoppedAt fs (source.startPath fs) directory → HoldsRoot fs directory
  searched : source.isolated = false → ∀ files,
    (discover fs (source.startPath fs)).result = .ok files → EndsAtRoot fs (source.startPath fs)
  refused : ∀ files path, (sourceFiles fs source).result = .ok files → path ∈ files →
    SaysOtherwise fs path → ∃ error, (load fs source).result = .error (.settings error)

/-- The nearest directory with which a search ends is no root. -/
def Misled (fs : Files) (start : Path) : Prop :=
  Files.holdsNull start = false ∧ ∃ before directory after,
    (startDirectory fs start).ancestors = before ++ directory :: after ∧
      (∀ path ∈ (before ++ [directory]).flatMap filesOf, ∀ failure, ¬ Obstacle fs path failure) ∧
        (∀ d ∈ before, ¬ EndsSearch fs d) ∧ EndsSearch fs directory ∧ ¬ HoldsRoot fs directory

/-- The first of some files from which settings cannot be loaded is refused for something else than
what it says about the root. -/
def RefusedApart (fs : Files) (files : List Path) : Prop :=
  ∃ before path after error, files = before ++ path :: after ∧ (∀ p ∈ before, Loads fs p) ∧
    (Layer.ofFile fs path).result = .error (.settings error) ∧ ¬ error.About SettingKey.root

variable {fs : Files} {source : Source} {start directory path : Path}

/-! ## What stops a search -/

theorem result_examineDirectory_eq_ok_iff {files : List Path} {isRoot : Bool} :
    (examineDirectory fs directory).result = .ok (files, isRoot) ↔
      (∀ path ∈ filesOf directory, ∀ failure, ¬ Obstacle fs path failure) ∧
        (filesOf directory).filter (counts fs) = files ∧ stopsAt fs directory = isRoot := by
  simp only [← obstacle?_eq_none_iff]
  constructor
  · intro h
    cases hfirst : (filesOf directory).findSome? (obstacle? fs) with
    | some failure =>
      rw [result_examineDirectory_of_obstacle hfirst] at h
      cases h
    | none =>
      have hclear := List.findSome?_eq_none_iff.mp hfirst
      rw [result_examineDirectory_of_clear hclear, Except.ok.injEq, Prod.mk.injEq] at h
      exact ⟨hclear, h⟩
  · rintro ⟨hclear, rfl, rfl⟩
    exact result_examineDirectory_of_clear hclear

/-- A search is stopped at the nearest directory with something that counts as true about the root,
if there is no obstacle by the way. -/
theorem stoppedAt_iff :
    StoppedAt fs start directory ↔ Files.holdsNull start = false ∧ ∃ before after,
      (startDirectory fs start).ancestors = before ++ directory :: after ∧
        (∀ path ∈ (before ++ [directory]).flatMap filesOf, ∀ failure, ¬ Obstacle fs path failure) ∧
          (∀ d ∈ before, ¬ EndsSearch fs d) ∧ EndsSearch fs directory := by
  have hgoesOn (d : Path) : stopsAt fs d = false ↔ ¬ EndsSearch fs d := by
    rw [← stopsAt_iff, Bool.not_eq_true]
  constructor
  · rintro ⟨hstart, before, after, hancestors, hbefore, files, hdirectory⟩
    obtain ⟨hclear, -, hends⟩ := result_examineDirectory_eq_ok_iff.mp hdirectory
    refine ⟨hstart, before, after, hancestors, ?_, ?_, stopsAt_iff.mp hends⟩
    · intro path hpath
      obtain ⟨d, hd, hpath⟩ := List.mem_flatMap.mp hpath
      obtain hd | hd := List.mem_append.mp hd
      · obtain ⟨files', hd⟩ := hbefore d hd
        exact (result_examineDirectory_eq_ok_iff.mp hd).1 path hpath
      · rw [List.mem_singleton.mp hd] at hpath
        exact hclear path hpath
    · intro d hd
      obtain ⟨files', hd⟩ := hbefore d hd
      exact (hgoesOn d).mp (result_examineDirectory_eq_ok_iff.mp hd).2.2
  · rintro ⟨hstart, before, after, hancestors, hclear, hbefore, hends⟩
    have hclearAt (d : Path) (hd : d ∈ before ++ [directory]) :
        ∀ path ∈ filesOf d, ∀ failure, ¬ Obstacle fs path failure :=
      fun path hpath => hclear path (List.mem_flatMap.mpr ⟨d, hd, hpath⟩)
    refine ⟨hstart, before, after, hancestors, fun d hd => ?_, ?_⟩
    · exact ⟨_, result_examineDirectory_eq_ok_iff.mpr
        ⟨hclearAt d (List.mem_append_left [directory] hd), rfl, (hgoesOn d).mpr (hbefore d hd)⟩⟩
    · have hmem := List.mem_append_right before (List.mem_singleton_self directory)
      exact ⟨_, result_examineDirectory_eq_ok_iff.mpr
        ⟨hclearAt directory hmem, rfl, stopsAt_iff.mpr hends⟩⟩

theorem search_of_stopped {before after : List Path}
    (hbefore : ∀ d ∈ before, ∃ files, (examineDirectory fs d).result = .ok (files, false))
    (hdirectory : ∃ files, (examineDirectory fs directory).result = .ok (files, true)) :
    search fs (before ++ directory :: after) = search fs (before ++ [directory]) := by
  induction before with
  | nil =>
    obtain ⟨files, hfiles⟩ := hdirectory
    rw [List.nil_append, List.nil_append, search, search]
    refine Outcome.bind_congr fun found hfound => ?_
    rw [hfiles, Except.ok.injEq] at hfound
    subst hfound
    rfl
  | cons d before ih =>
    rw [List.cons_append, List.cons_append, search, search,
      ih fun d' hd' => hbefore d' (List.mem_cons_of_mem d hd')]

/-- Nothing above the directory at which a search is stopped is looked at. -/
theorem StoppedAt.discover_eq (h : StoppedAt fs start directory) :
    ∃ before after, (startDirectory fs start).ancestors = before ++ directory :: after ∧
      (∀ d ∈ before, ∃ files, (examineDirectory fs d).result = .ok (files, false)) ∧
        discover fs start = search fs (before ++ [directory]) := by
  obtain ⟨hnull, before, after, hancestors, hbefore, hdirectory⟩ := h
  -- The nearest directory can be looked at, so the search can start.
  obtain ⟨outer, houter⟩ := Path.exists_ancestors_eq_cons (startDirectory fs start)
  have hnearest : ∃ found, (examineDirectory fs (startDirectory fs start)).result = .ok found := by
    cases before with
    | nil =>
      rw [houter, List.nil_append, List.cons.injEq] at hancestors
      obtain ⟨files, hfiles⟩ := hdirectory
      exact ⟨_, hancestors.1 ▸ hfiles⟩
    | cons d before =>
      rw [houter, List.cons_append, List.cons.injEq] at hancestors
      obtain ⟨files, hfiles⟩ := hbefore d List.mem_cons_self
      exact ⟨_, hancestors.1 ▸ hfiles⟩
  obtain ⟨⟨files, isRoot⟩, hfound⟩ := hnearest
  have hclear := (result_examineDirectory_eq_ok_iff.mp hfound).1 _ List.mem_cons_self
  obtain ⟨isFile, hfile⟩ := exists_isFile_of_clear (obstacle?_eq_none_iff.mpr hclear)
  obtain ⟨isFile', hstart⟩ := exists_isFile_start hfile
  refine ⟨before, after, hancestors, hbefore, ?_⟩
  rw [discover_eq_search hnull hstart, hancestors]
  exact search_of_stopped hbefore hdirectory

theorem exists_stopped_of_search {directories files : List Path}
    (h : (search fs directories).result = .ok files) :
    (∃ before directory after, directories = before ++ directory :: after ∧
      (∀ d ∈ before, ∃ found, (examineDirectory fs d).result = .ok (found, false)) ∧
        ∃ found, (examineDirectory fs directory).result = .ok (found, true)) ∨
      ∀ d ∈ directories, ∃ found, (examineDirectory fs d).result = .ok (found, false) := by
  induction directories generalizing files with
  | nil => exact .inr (List.forall_mem_nil _)
  | cons d outer ih =>
    obtain ⟨⟨found, isRoot⟩, hfound, h⟩ := Outcome.result_bind_eq_ok_iff.mp h
    cases isRoot with
    | true => exact .inl ⟨[], d, outer, rfl, List.forall_mem_nil _, found, hfound⟩
    | false =>
      obtain ⟨farther, hfarther, -⟩ := Outcome.result_bind_eq_ok_iff.mp h
      obtain ⟨before, directory, after, rfl, hbefore, hdirectory⟩ | hall := ih hfarther
      · exact .inl ⟨d :: before, directory, after, rfl,
          List.forall_mem_cons.mpr ⟨⟨found, hfound⟩, hbefore⟩, hdirectory⟩
      · exact .inr (List.forall_mem_cons.mpr ⟨⟨found, hfound⟩, hall⟩)

/-- A search that finds files is stopped, or it gets past all directories up to the top. -/
theorem exists_stoppedAt_or_atTop {files : List Path}
    (h : (discover fs start).result = .ok files) :
    (∃ directory, StoppedAt fs start directory) ∨
      ∀ d ∈ (startDirectory fs start).ancestors,
        ∃ found, (examineDirectory fs d).result = .ok (found, false) := by
  cases hnull : Files.holdsNull start with
  | true =>
    rw [discover, if_pos hnull] at h
    cases h
  | false =>
    cases hstart : fs.isFile (fs.resolve start) with
    | error error =>
      simp only [discover, hnull, hstart] at h
      cases h
    | ok isFile =>
      rw [discover_eq_search hnull hstart] at h
      refine (exists_stopped_of_search h).imp_left ?_
      rintro ⟨before, directory, after, hancestors, hbefore, hdirectory⟩
      exact ⟨directory, hnull, before, after, hancestors, hbefore, hdirectory⟩

/-- A search that nothing but roots can stop ends with one, or it gets to the top. -/
theorem endsAtRoot_of_discover {files : List Path}
    (hfiles : (discover fs start).result = .ok files)
    (hstopped : ∀ directory, StoppedAt fs start directory → HoldsRoot fs directory) :
    EndsAtRoot fs start := by
  obtain ⟨root, hroot⟩ | htop := exists_stoppedAt_or_atTop hfiles
  · obtain ⟨before, after, hancestors, hbefore, hdiscover⟩ := hroot.discover_eq
    exact .inl ⟨before, root, after, hancestors, hbefore, hstopped root hroot, hdiscover⟩
  · exact .inr htop

theorem misled_iff :
    Misled fs start ↔ ∃ directory, StoppedAt fs start directory ∧ ¬ HoldsRoot fs directory := by
  constructor
  · rintro ⟨hnull, before, directory, after, hancestors, hclear, hbefore, hends, hroot⟩
    exact ⟨directory,
      stoppedAt_iff.mpr ⟨hnull, before, after, hancestors, hclear, hbefore, hends⟩, hroot⟩
  · rintro ⟨directory, hstopped, hroot⟩
    obtain ⟨hnull, before, after, hancestors, hclear, hbefore, hends⟩ := stoppedAt_iff.mp hstopped
    exact ⟨hnull, before, directory, after, hancestors, hclear, hbefore, hends, hroot⟩

end Settings

/-! ## Reading settings -/

/-- Settings are not refused for what is said about the root. -/
theorem Layer.not_about_root_of_read {table : Table} {source : Option Path} {error : SettingsError}
    (h : Layer.read table source = .error error) : ¬ error.About SettingKey.root := by
  rintro ⟨wanted, found, rfl⟩
  obtain ⟨flaw, hflaw, hshown⟩ := (Layer.read_eq_error_iff.mp h).exists_mem
  cases hshown with
  | kind => exact (Flaw.isSetting_of_mem_order hflaw).2 rfl

namespace Settings

variable {fs : Files} {source : Source} {path : Path}

/-- No file is refused for what it says about the root. -/
theorem not_about_root_of_ofFile {error : SettingsError}
    (h : (Layer.ofFile fs path).result = .error (.settings error)) :
    ¬ error.About SettingKey.root := by
  obtain h | ⟨table, -, h⟩ := Outcome.result_bind_eq_error_iff.mp h
  · -- A file that cannot be read as a table is refused before its settings are known.
    rintro ⟨wanted, found, rfl⟩
    rw [readTable] at h
    split at h
    · cases h
    · cases h
    · split at h
      · cases h
      · split at h <;> cases h
  · split at h
    · cases h
    · obtain h | ⟨layer, -, h⟩ := Outcome.result_bind_eq_error_iff.mp h
      · obtain ⟨error', hread, herror⟩ := except_mapError_eq_error_iff.mp h
        cases herror
        exact Layer.not_about_root_of_read hread
      · cases h

/-- Loading fails with an error of settings if the first file from which settings cannot be loaded
is refused. -/
theorem exists_load_eq_settings_iff {files : List Path}
    (hfiles : (sourceFiles fs source).result = .ok files) :
    (∃ error, (load fs source).result = .error (.settings error)) ↔ RefusedApart fs files := by
  rw [load, Outcome.result_bind_of_ok hfiles]
  constructor
  · rintro ⟨error, herror⟩
    obtain ⟨before, path, after, rfl, hbefore, hpath⟩ := result_mergeFiles_eq_error_iff.mp herror
    refine ⟨before, path, after, error, rfl, fun p hp => ⟨?_, hbefore p hp⟩, hpath,
      not_about_root_of_ofFile hpath⟩
    exact (of_mem_sourceFiles hfiles (List.mem_append_left _ hp)).1
  · rintro ⟨before, path, after, error, rfl, hbefore, hpath, -⟩
    exact ⟨error, result_mergeFiles_eq_error_iff.mpr
      ⟨before, path, after, rfl, fun p hp => (hbefore p hp).2, hpath⟩⟩

/-- Whether the search ends is said by a truth value exactly if no search is stopped by something
else that counts as true, and no file that says something else is loaded with others that are not
refused for another reason. -/
theorem rootIsTruthValue_iff (fs : Files) (source : Source) :
    RootIsTruthValue fs source ↔
      (source.isolated = false → ¬ Misled fs (source.startPath fs)) ∧
        ∀ files, (sourceFiles fs source).result = .ok files →
          (∃ path ∈ files, SaysOtherwise fs path) → RefusedApart fs files := by
  simp only [misled_iff, not_exists, not_and, not_not]
  constructor
  · rintro ⟨hstopped, -, hrefused⟩
    refine ⟨hstopped, ?_⟩
    rintro files hfiles ⟨path, hpath, hsays⟩
    exact (exists_load_eq_settings_iff hfiles).mp (hrefused files path hfiles hpath hsays)
  · rintro ⟨hstopped, hrefused⟩
    refine ⟨hstopped, fun hsearches files hfiles => ?_, fun files path hfiles hpath hsays => ?_⟩
    · exact endsAtRoot_of_discover hfiles (hstopped hsearches)
    · exact (exists_load_eq_settings_iff hfiles).mpr (hrefused files hfiles ⟨path, hpath, hsays⟩)

theorem holdsRoot_iff {directory : Path} :
    HoldsRoot fs directory ↔
      ∃ path ∈ filesOf directory, saysRoot fs path = true ∧ saysPlainly fs path = true := by
  constructor
  · rintro ⟨path, hpath, settings, hsettings, hvalue⟩
    refine ⟨path, hpath, ?_⟩
    simp [saysRoot, saysPlainly, settingsAt?_eq_some_iff.mpr hsettings, hvalue, Value.isTruthy]
  · rintro ⟨path, hpath, hroot, hplain⟩
    obtain ⟨settings, hsettings, hroot⟩ := (Option.any_eq_true ..).mp hroot
    obtain ⟨value, hvalue, htruthy⟩ := (Option.any_eq_true ..).mp hroot
    rw [saysPlainly, hsettings, Option.bind_some, hvalue, Option.all_some] at hplain
    cases value with
    | boolean b =>
      obtain rfl : b = true := htruthy
      exact ⟨path, hpath, settings, settingsAt?_eq_some_iff.mp hsettings, hvalue⟩
    | _ => cases hplain

/-- What counts as true but is no truth value is something else. -/
theorem saysOtherwise_of_saysRoot (hroot : saysRoot fs path = true)
    (hplain : saysPlainly fs path = false) : SaysOtherwise fs path := by
  obtain ⟨settings, hsettings, hroot⟩ := (Option.any_eq_true ..).mp hroot
  obtain ⟨value, hvalue, htruthy⟩ := (Option.any_eq_true ..).mp hroot
  rw [saysPlainly, hsettings, Option.bind_some, hvalue, Option.all_some] at hplain
  refine ⟨settings, value, settingsAt?_eq_some_iff.mp hsettings, ?_, ?_⟩
  · rw [Table.value?, hvalue]
    cases value <;> first | rfl | cases htruthy
  · rintro b rfl
    cases hplain

/-- A file that says of the root that it is the number one, and a file above its directory. -/
def numberedRoot : Files := Files.holding
  [([ownFileName], "locale = \"C\"\n".toList),
    (["work".toList, ownFileName], "root = 1\n".toList)]

/-- A search is stopped by a number, and settings are loaded from the file that holds it. -/
theorem stopped_by_number :
    StoppedAt numberedRoot (Path.ofText "work".toList) (numberedRoot.absolute ["work".toList]) ∧
      ¬ HoldsRoot numberedRoot (numberedRoot.absolute ["work".toList]) ∧
      (sourceFiles numberedRoot { start := some (Path.ofText "work".toList) }).result =
        .ok [numberedRoot.absolute ["work".toList, ownFileName]] ∧
      SaysOtherwise numberedRoot (numberedRoot.absolute ["work".toList, ownFileName]) ∧
      (load numberedRoot { start := some (Path.ofText "work".toList) }).result.isOk = true ∧
      ¬ RootIsTruthValue numberedRoot { start := some (Path.ofText "work".toList) } := by
  let directory := numberedRoot.absolute ["work".toList]
  have hstopped : StoppedAt numberedRoot (Path.ofText "work".toList) directory :=
    ⟨by decide +kernel, [], _, rfl, List.forall_mem_nil _,
      [directory.child ownFileName], by decide +kernel⟩
  have hroot : ¬ HoldsRoot numberedRoot directory := by
    rw [holdsRoot_iff]
    decide +kernel
  have hsays : SaysOtherwise numberedRoot (directory.child ownFileName) :=
    saysOtherwise_of_saysRoot (by decide +kernel) (by decide +kernel)
  exact ⟨hstopped, hroot, by decide +kernel, hsays, by decide +kernel,
    fun h => hroot (h.stopped rfl _ hstopped)⟩

end Settings

end LinePipe
