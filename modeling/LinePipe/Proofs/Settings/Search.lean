import LinePipe.Proofs.Settings.Loading
import LinePipe.Proofs.Text.Rebreak

/-!
# What a search for settings finds

A search goes outwards from a directory, up to the first one where it ends, and looks at the places
of two files in each. If it can be told of all these places whether a file there counts, those that
count are found, the farthest first.

## Main definitions

- `Settings.filesOf`: the places of the files of a directory
- `Settings.HasSettings`, `Settings.settingsAt?`: the settings at a place
- `Settings.counts`, `Settings.obstacle?`: whether a file counts, and why this cannot be told
- `Settings.GoesThrough`: the directories of a search
- `Settings.startDirectory`: where a search starts

## Main statements

- `Settings.result_search_of_clear`: what is found
- `Settings.result_search_of_obstacle`: the first place that cannot be looked at ends the search
- `Settings.goesThrough_walked`, `Settings.GoesThrough.unique`: there is one way to search
- `Settings.result_discover_of_clear`, `Settings.exists_result_discover_eq_error`: the same for a
  search from a start
-/

namespace LinePipe

namespace Path

/-- The top has nothing above it. -/
theorem ancestors_of_nil {p : Path} (h : p.parts = []) : p.ancestors = [p] := by
  rw [ancestors, h]
  exact congrArg (fun parts => [{ p with parts }]) h.symm

/-- Above a path is its parent, and what is above that. -/
theorem ancestors_of_ne_nil {p : Path} (h : p.parts ≠ []) :
    p.ancestors = p :: p.parent.ancestors := by
  have hlength : p.parent.parts.length + 1 = p.parts.length := by
    rw [parent, List.length_dropLast, Nat.sub_add_cancel (List.length_pos_iff.mpr h)]
  rw [ancestors, List.range_succ, List.reverse_concat, List.map_cons, List.take_length, ancestors,
    hlength]
  refine congrArg (p :: ·) (List.map_congr_left fun n hn => ?_)
  have hn : n ≤ p.parts.length - 1 :=
    Nat.le_sub_one_of_lt (List.mem_range.mp (List.mem_reverse.mp hn))
  rw [parent, List.dropLast_eq_take, List.take_take, Nat.min_eq_left hn]

theorem exists_ancestors_eq_cons (p : Path) : ∃ outer, p.ancestors = p :: outer := by
  obtain h | h := eq_or_ne p.parts []
  · exact ⟨[], ancestors_of_nil h⟩
  · exact ⟨_, ancestors_of_ne_nil h⟩

end Path

/-! ## Paths that are too long -/

/-- A way stays refused as too long when it goes on. -/
theorem FileTree.walk_append_of_tooLong {tree : FileTree} {start names : List Text}
    (h : tree.walk start names = .error .nameTooLong) (more : List Text) :
    tree.walk start (names ++ more) = .error .nameTooLong := by
  induction names generalizing start with
  | nil => cases h
  | cons name rest ih =>
    rw [List.cons_append]
    rw [walk] at h ⊢
    split at h
    · cases h
    · cases h
    · split at h
      · rename_i hup
        rw [if_pos hup]
        exact ih h
      · rename_i hup
        rw [if_neg hup]
        split at h
        · rename_i hlong
          rw [if_pos hlong]
        · rename_i hlong
          rw [if_neg hlong]
          exact ih h

namespace Files

/-- Files with these texts at these places. -/
def holding (texts : List (List Text × Text)) : Files where
  tree := texts.map fun (place, text) => (place, .file (Utf8.encode text))

variable {fs : Files} {p : Path} {name : Text}

/-- A path that starts at a place of its own goes on with a name. -/
theorem exists_toText_child {anchor : Text} (hanchor : p.anchor = some anchor) (name : Text) :
    ∃ more, (p.child name).toText = p.toText ++ more := by
  have hparts : (p.child name).parts = p.parts ++ [name] := rfl
  have hchild :
      (p.child name).toText = anchor ++ ['/'] ++ Text.joinWith ['/'] (p.parts ++ [name]) := by
    simp [Path.toText, hparts, show (p.child name).anchor = some anchor from hanchor]
  rw [hchild, Path.toText, hanchor]
  by_cases hempty : p.parts = []
  · cases anchor with
    | nil => exact ⟨name, by simp [hempty, Text.joinWith]⟩
    | cons c rest => exact ⟨['/'] ++ name, by simp [hempty, Text.joinWith]⟩
  · refine ⟨['/'] ++ name, ?_⟩
    simp [hempty, Text.joinWith_concat ['/'] name hempty]

theorem holdsNull_of_isFile (h : fs.isFile p = .ok true) : holdsNull p = false := by
  rw [isFile] at h
  split at h
  · cases h
  · rename_i hnull
    exact Bool.eq_false_iff.mpr hnull

/-- It can be told what is at a path unless it is too long. -/
theorem isFile_eq_error_iff {error : AccessError} :
    fs.isFile p = .error error ↔ holdsNull p = false ∧ fs.locate p = .error .nameTooLong ∧
      error = .refused .nameTooLong p := by
  rw [isFile]
  cases holdsNull p with
  | true => simp
  | false =>
    simp only [Bool.false_eq_true, if_false, true_and]
    cases hlocate : fs.locate p with
    | ok place =>
      dsimp only
      split <;> simp
    | error cause =>
      by_cases hcause : cause = .nameTooLong
      · simp [hcause, eq_comm]
      · simp [hcause]

/-- If it can be told what is at the place of a file, so it can of its directory. -/
theorem exists_isFile_of_child {isFile : Bool} (hanchor : p.anchor ≠ none)
    (hname : '\x00' ∉ name) (h : fs.isFile (p.child name) = .ok isFile) :
    ∃ isFile', fs.isFile p = .ok isFile' := by
  cases hfile : fs.isFile p with
  | ok isFile' => exact ⟨isFile', rfl⟩
  | error error =>
    exfalso
    obtain ⟨hnull, hlong, -⟩ := isFile_eq_error_iff.mp hfile
    have hchildNull : holdsNull (p.child name) = false := by
      simp only [holdsNull, Path.child, List.any_append, Bool.or_eq_false_iff] at hnull ⊢
      exact ⟨hnull, by simpa using hname⟩
    have hchildLong : fs.locate (p.child name) = .error .nameTooLong := by
      obtain ⟨anchor, hanchor⟩ := Option.ne_none_iff_exists'.mp hanchor
      obtain ⟨more, hmore⟩ := exists_toText_child hanchor name
      -- The path of the file is the longer one, and its way goes through the directory.
      have hlength :
          (Utf8.encode p.toText).length ≤ (Utf8.encode (p.child name).toText).length := by
        rw [hmore, Utf8.encode, Utf8.encode, List.flatMap_append, List.length_append]
        exact Nat.le_add_right _ _
      rw [locate] at hlong ⊢
      split at hlong
      · rename_i hlimit
        rw [if_pos (Nat.lt_of_lt_of_le hlimit hlength)]
      · split at hlong
        · cases hlong
        · rename_i hinside
          split
          · rfl
          · have hchildInside : ¬ fs.isOutside (p.child name) := hinside
            rw [if_neg hchildInside]
            exact FileTree.walk_append_of_tooLong hlong [name]
    rw [isFile_eq_error_iff.mpr ⟨hchildNull, hchildLong, rfl⟩] at h
    cases h

end Files

namespace Settings

/-- The places of the two files of a directory, that of the shared one first. -/
def filesOf (directory : Path) : List Path :=
  [directory.child sharedFileName, directory.child ownFileName]

/-- A file has these settings: it is in the right form and holds nothing else or, under the shared
name, holds them in the section. -/
inductive HasSettings (fs : Files) (path : Path) : Table → Prop
  | own {table : Table} (hfile : fs.isFile path = .ok true) (hname : path.name ≠ sharedFileName)
      (htable : (readTable fs path).result = .ok table) : HasSettings fs path table
  | shared {table outer settings : Table} (hfile : fs.isFile path = .ok true)
      (hname : path.name = sharedFileName) (htable : (readTable fs path).result = .ok table)
      (houter : table.lookup sectionNames.1 = some (.table outer))
      (hsettings : outer.lookup sectionNames.2 = some (.table settings)) :
      HasSettings fs path settings

/-- The settings in the file at a path, if there is such a file and it has some. -/
def settingsAt? (fs : Files) (path : Path) : Option Table :=
  match fs.isFile path, (readTable fs path).result with
  | .ok true, .ok table => section? path table
  | _, _ => none

/-- Whether a file counts. All do that are no good, and the others if they have settings. -/
def counts (fs : Files) (path : Path) : Bool :=
  match fs.isFile path, (readTable fs path).result with
  | .ok true, .ok table => (section? path table).isSome
  | .ok true, .error _ => true
  | _, _ => false

/-- Why it cannot be told whether a file counts. -/
def obstacle? (fs : Files) (path : Path) : Option LoadFailure :=
  match fs.isFile path, (readTable fs path).result with
  | .error error, _ => some (.access error)
  | .ok false, _ => none
  | .ok true, .error (.settings _) => none
  | .ok true, .error failure => some failure
  | .ok true, .ok _ => none

/-- Whether a file says that the search ends with its directory. -/
def saysRoot (fs : Files) (path : Path) : Bool :=
  (settingsAt? fs path).any fun settings =>
    (settings.lookup SettingKey.root).any Value.isTruthy

/-- A directory has a file whose settings say that the search ends with it, by a value that counts
as true. -/
def EndsSearch (fs : Files) (directory : Path) : Prop :=
  ∃ path ∈ filesOf directory, ∃ settings, HasSettings fs path settings ∧
    ∃ value, settings.lookup SettingKey.root = some value ∧ value.isTruthy = true

/-- Whether the search ends with a directory. -/
def stopsAt (fs : Files) (directory : Path) : Bool :=
  (filesOf directory).any (saysRoot fs)

/-- The directories of a search, out of those from the nearest outwards. -/
def walked (fs : Files) : List Path → List Path
  | [] => []
  | directory :: outer =>
    if stopsAt fs directory then [directory] else directory :: walked fs outer

/-- A search goes through the first of some directories, up to one where it ends or to the last. -/
structure GoesThrough (ends : Path → Prop) (directories through : List Path) : Prop where
  front : through <+: directories
  goesOn : ∀ directory ∈ through.dropLast, ¬ ends directory
  stops : through = directories ∨
    ∃ directory, through.getLast? = some directory ∧ ends directory

/-- The directory where a search starts: the start, or the directory of the file there. -/
def startDirectory (fs : Files) (start : Path) : Path :=
  match fs.isFile (fs.resolve start) with
  | .ok true => (fs.resolve start).parent
  | _ => fs.resolve start

/-- The directories that a search from a start goes through. -/
def searchedFrom (fs : Files) (start : Path) : List Path :=
  walked fs (startDirectory fs start).ancestors

section Files

variable {fs : Files} {path directory : Path}

theorem section?_of_own {table : Table}
    (hname : path.name ≠ sharedFileName) : section? path table = some table := by
  rw [section?, if_pos (bne_iff_ne.mpr hname)]

theorem section?_of_shared {table settings : Table}
    (hname : path.name = sharedFileName) : section? path table = some settings ↔
      ∃ outer, table.lookup sectionNames.1 = some (.table outer) ∧
        outer.lookup sectionNames.2 = some (.table settings) := by
  rw [section?, if_neg (by simp [hname])]
  constructor
  · intro h
    split at h
    · rename_i outer houter
      split at h
      · rename_i hsettings
        cases h
        exact ⟨outer, houter, hsettings⟩
      · cases h
    · cases h
  · rintro ⟨outer, houter, hsettings⟩
    simp only [houter, hsettings]

theorem settingsAt?_eq_some_iff {settings : Table} :
    settingsAt? fs path = some settings ↔ HasSettings fs path settings := by
  constructor
  · intro h
    rw [settingsAt?] at h
    split at h
    · rename_i table hfile htable
      by_cases hname : path.name = sharedFileName
      · obtain ⟨outer, houter, hsettings⟩ := (section?_of_shared hname).mp h
        exact .shared hfile hname htable houter hsettings
      · rw [section?_of_own hname, Option.some.injEq] at h
        exact .own hfile hname (h ▸ htable)
    · cases h
  · rintro (⟨hfile, hname, htable⟩ | ⟨hfile, hname, htable, houter, hsettings⟩)
    · simp only [settingsAt?, hfile, htable, section?_of_own hname]
    · simp only [settingsAt?, hfile, htable]
      exact (section?_of_shared hname).mpr ⟨_, houter, hsettings⟩

/-- A file counts unless it is in the right form and has no settings. -/
theorem counts_iff :
    counts fs path = true ↔ fs.isFile path = .ok true ∧
      ((∃ failure, (readTable fs path).result = .error failure) ∨
        ∃ settings, HasSettings fs path settings) := by
  simp only [← settingsAt?_eq_some_iff, counts, settingsAt?]
  cases fs.isFile path with
  | error error => simp
  | ok isFile =>
    cases isFile with
    | false => simp
    | true =>
      cases (readTable fs path).result with
      | error failure => simp
      | ok table => simp [Option.isSome_iff_exists]

theorem counts_of_settingsAt? {settings : Table} (h : settingsAt? fs path = some settings) :
    counts fs path = true := by
  have hhas := settingsAt?_eq_some_iff.mp h
  refine counts_iff.mpr ⟨?_, .inr ⟨settings, hhas⟩⟩
  cases hhas <;> assumption

theorem counts_of_saysRoot (h : saysRoot fs path = true) : counts fs path = true := by
  obtain ⟨settings, hsettings, -⟩ := (Option.any_eq_true ..).mp h
  exact counts_of_settingsAt? hsettings

theorem stopsAt_iff : stopsAt fs directory = true ↔ EndsSearch fs directory := by
  simp only [stopsAt, List.any_eq_true, saysRoot, Option.any_eq_true, settingsAt?_eq_some_iff,
    EndsSearch]

theorem exists_isFile_of_clear (h : obstacle? fs path = none) :
    ∃ isFile, fs.isFile path = .ok isFile := by
  cases hfile : fs.isFile path with
  | ok isFile => exact ⟨isFile, rfl⟩
  | error error =>
    rw [obstacle?, hfile] at h
    cases h

theorem result_examine_of_obstacle {failure : LoadFailure}
    (h : obstacle? fs path = some failure) : (examine fs path).result = .error failure := by
  rw [obstacle?] at h
  rw [examine]
  cases hfile : fs.isFile path with
  | error error =>
    rw [hfile] at h
    cases h
    rfl
  | ok isFile =>
    cases isFile with
    | false =>
      rw [hfile] at h
      cases h
    | true =>
      rw [hfile] at h
      cases htable : (readTable fs path).result with
      | ok table =>
        rw [htable] at h
        cases h
      | error fault =>
        rw [htable] at h
        cases fault <;> cases h <;> simp only [htable]

/-- Of a place that can be looked at it is told whether a file there counts, and whether it ends the
search. -/
theorem result_examine_of_clear (h : obstacle? fs path = none) :
    (examine fs path).result =
      .ok (if counts fs path then some (saysRoot fs path) else none) := by
  rw [obstacle?] at h
  rw [examine, counts, saysRoot, settingsAt?]
  cases hfile : fs.isFile path with
  | error error =>
    rw [hfile] at h
    cases h
  | ok isFile =>
    cases isFile with
    | false => rfl
    | true =>
      rw [hfile] at h
      cases htable : (readTable fs path).result with
      | error fault =>
        rw [htable] at h
        cases fault <;> cases h
        simp only [htable, Option.any_none, if_true]
      | ok table =>
        simp only [htable]
        cases section? path table with
        | none => rfl
        | some settings =>
          cases hroot : settings.lookup SettingKey.root <;> simp [hroot]

/-- If both places of a directory can be looked at, its files that count are told, and whether one
of them ends the search. -/
theorem result_examineDirectory_of_clear
    (h : ∀ path ∈ filesOf directory, obstacle? fs path = none) :
    (examineDirectory fs directory).result =
      .ok ((filesOf directory).filter (counts fs), stopsAt fs directory) := by
  have hshared := result_examine_of_clear (h _ List.mem_cons_self)
  have hown := result_examine_of_clear (h _ (List.mem_cons_of_mem _ List.mem_cons_self))
  have hgetD (path : Path) :
      ((if counts fs path then some (saysRoot fs path) else none).getD false) =
        saysRoot fs path := by
    cases hcounts : counts fs path with
    | true => rfl
    | false =>
      cases hroot : saysRoot fs path with
      | false => rfl
      | true =>
        rw [counts_of_saysRoot hroot] at hcounts
        cases hcounts
  have hlist (path : Path) :
      ((if counts fs path then some (saysRoot fs path) else none).toList.map fun _ => path) =
        [path].filter (counts fs) := by
    cases hcounts : counts fs path <;> simp [hcounts]
  rw [examineDirectory, Outcome.result_bind_of_ok hshared, Outcome.result_bind_of_ok hown]
  simp only [hgetD, hlist, Outcome.result_pure, ← List.filter_append]
  simp only [filesOf, stopsAt, List.any_cons, List.any_nil, Bool.or_false,
    List.singleton_append]

/-- The first place of a directory that cannot be looked at is reported. -/
theorem result_examineDirectory_of_obstacle {failure : LoadFailure}
    (h : (filesOf directory).findSome? (obstacle? fs) = some failure) :
    (examineDirectory fs directory).result = .error failure := by
  rw [examineDirectory]
  cases hshared : obstacle? fs (directory.child sharedFileName) with
  | some fault =>
    simp only [filesOf, List.findSome?_cons, hshared, Option.some.injEq] at h
    rw [Outcome.result_bind_of_error (result_examine_of_obstacle hshared), h]
  | none =>
    simp only [filesOf, List.findSome?_cons, List.findSome?_nil, hshared] at h
    rw [Outcome.result_bind_of_ok (result_examine_of_clear hshared)]
    split at h
    · rename_i hown
      cases h
      rw [Outcome.result_bind_of_error (result_examine_of_obstacle hown)]
    · cases h

end Files

/-! ## The whole search -/

section Search

variable {fs : Files} {directories : List Path}

/-- The files that count in the directories of a search are found, the farthest first. -/
theorem result_search_of_clear
    (h : ∀ path ∈ (walked fs directories).flatMap filesOf, obstacle? fs path = none) :
    (search fs directories).result =
      .ok (((walked fs directories).reverse.flatMap filesOf).filter (counts fs)) := by
  induction directories with
  | nil => rfl
  | cons directory outer ih =>
    rw [walked] at h ⊢
    rw [search]
    cases hends : stopsAt fs directory with
    | true =>
      simp only [hends, if_true, List.flatMap_singleton] at h
      rw [Outcome.result_bind_of_ok (result_examineDirectory_of_clear h)]
      simp only [hends, if_true, Outcome.result_pure, List.reverse_singleton,
        List.flatMap_singleton]
    | false =>
      simp only [hends, Bool.false_eq_true, if_false, List.flatMap_cons, List.mem_append] at h
      have hhere := result_examineDirectory_of_clear fun path hpath => h path (.inl hpath)
      have hfarther := ih fun path hpath => h path (.inr hpath)
      rw [Outcome.result_bind_of_ok hhere]
      simp only [hends, Bool.false_eq_true, if_false]
      rw [Outcome.result_bind_of_ok hfarther]
      simp only [Outcome.result_pure, List.reverse_cons, List.flatMap_append,
        List.flatMap_singleton, List.filter_append]

/-- The first place of a search that cannot be looked at ends it. -/
theorem result_search_of_obstacle {failure : LoadFailure}
    (h : ((walked fs directories).flatMap filesOf).findSome? (obstacle? fs) = some failure) :
    (search fs directories).result = .error failure := by
  induction directories with
  | nil => cases h
  | cons directory outer ih =>
    rw [walked] at h
    rw [search]
    cases hhere : (filesOf directory).findSome? (obstacle? fs) with
    | some fault =>
      have hfault : fault = failure := by
        cases hends : stopsAt fs directory <;>
          simpa [hends, List.findSome?_append, hhere] using h
      rw [Outcome.result_bind_of_error (result_examineDirectory_of_obstacle hhere), hfault]
    | none =>
      rw [Outcome.result_bind_of_ok
        (result_examineDirectory_of_clear (List.findSome?_eq_none_iff.mp hhere))]
      cases hends : stopsAt fs directory with
      | true => simp [hends, hhere] at h
      | false =>
        simp only [hends, Bool.false_eq_true, if_false, List.flatMap_cons, List.findSome?_append,
          hhere, Option.none_or] at h ⊢
        rw [Outcome.result_bind_of_error (ih h)]

/-- A search goes through the directories up to the first that ends it. -/
theorem goesThrough_walked (fs : Files) (directories : List Path) :
    GoesThrough (EndsSearch fs) directories (walked fs directories) := by
  induction directories with
  | nil => exact ⟨List.prefix_refl _, List.forall_mem_nil _, .inl rfl⟩
  | cons directory outer ih =>
    rw [walked]
    cases hends : stopsAt fs directory with
    | true =>
      have hends := stopsAt_iff.mp hends
      exact ⟨⟨outer, rfl⟩, List.forall_mem_nil _, .inr ⟨directory, rfl, hends⟩⟩
    | false =>
      simp only [Bool.false_eq_true, if_false]
      refine ⟨List.cons_prefix_cons.mpr ⟨rfl, ih.front⟩, ?_, ?_⟩
      · intro d hd
        obtain hnil | hne := eq_or_ne (walked fs outer) []
        · rw [hnil] at hd
          cases hd
        · rw [List.dropLast_cons_of_ne_nil hne] at hd
          obtain rfl | hd := List.mem_cons.mp hd
          · rw [← stopsAt_iff]
            exact Bool.eq_false_iff.mp hends
          · exact ih.goesOn d hd
      · obtain hall | ⟨last, hlast, hlastEnds⟩ := ih.stops
        · exact .inl (congrArg (directory :: ·) hall)
        · exact .inr ⟨last, by rw [List.getLast?_cons, hlast, Option.getD_some], hlastEnds⟩

theorem GoesThrough.eq_of_prefix {ends : Path → Prop} {a b : List Path}
    (ha : GoesThrough ends directories a) (hb : GoesThrough ends directories b) (h : a <+: b) :
    a = b := by
  obtain ⟨more, rfl⟩ := h
  obtain rfl | hmore := eq_or_ne more []
  · exact (List.append_nil a).symm
  obtain rfl | ⟨last, hlast, hends⟩ := ha.stops
  · exact (List.prefix_append _ more).eq_of_length_le hb.front.length_le
  · -- The last directory of the shorter search would not end the longer one.
    refine absurd hends (hb.goesOn last ?_)
    rw [List.dropLast_append_of_ne_nil hmore]
    exact List.mem_append_left _ (List.mem_of_getLast? hlast)

/-- There is one way to go through directories. -/
theorem GoesThrough.unique {ends : Path → Prop} {a b : List Path}
    (ha : GoesThrough ends directories a) (hb : GoesThrough ends directories b) : a = b := by
  obtain h | h := List.prefix_or_prefix_of_prefix ha.front hb.front
  · exact ha.eq_of_prefix hb h
  · exact (hb.eq_of_prefix ha h).symm

end Search

/-! ## Where a search starts -/

section Start

variable {fs : Files} {start : Path}

theorem anchor_startDirectory : (startDirectory fs start).anchor ≠ none := by
  rw [startDirectory]
  split <;> simp [Path.parent, Files.resolve, Files.absolute]

theorem discover_eq_search {isFile : Bool} (hnull : Files.holdsNull start = false)
    (hstart : fs.isFile (fs.resolve start) = .ok isFile) :
    discover fs start = search fs (startDirectory fs start).ancestors := by
  simp only [discover, startDirectory, hnull, hstart]
  cases isFile <;> rfl

theorem startDirectory_mem_searchedFrom : startDirectory fs start ∈ searchedFrom fs start := by
  obtain ⟨outer, houter⟩ := Path.exists_ancestors_eq_cons (startDirectory fs start)
  rw [searchedFrom, houter, walked]
  split
  · exact List.mem_singleton_self _
  · exact List.mem_cons_self

/-- It can be told what is at the start if it can be of the files in the directory there. -/
theorem exists_isFile_start {isFile : Bool}
    (h : fs.isFile ((startDirectory fs start).child sharedFileName) = .ok isFile) :
    ∃ isFile', fs.isFile (fs.resolve start) = .ok isFile' := by
  cases hstart : fs.isFile (fs.resolve start) with
  | ok isFile' => exact ⟨isFile', rfl⟩
  | error error =>
    have hdirectory : startDirectory fs start = fs.resolve start := by rw [startDirectory, hstart]
    rw [hdirectory] at h
    obtain ⟨isFile', hfile⟩ :=
      Files.exists_isFile_of_child (hdirectory ▸ anchor_startDirectory) (by decide) h
    rw [hfile] at hstart
    cases hstart

/-- If all places can be looked at, the files that count are found. -/
theorem result_discover_of_clear (hnull : Files.holdsNull start = false)
    (hclear : ∀ path ∈ (searchedFrom fs start).flatMap filesOf, obstacle? fs path = none) :
    (discover fs start).result =
      .ok (((searchedFrom fs start).reverse.flatMap filesOf).filter (counts fs)) := by
  have hnearest : (startDirectory fs start).child sharedFileName ∈
      (searchedFrom fs start).flatMap filesOf :=
    List.mem_flatMap.mpr ⟨_, startDirectory_mem_searchedFrom, List.mem_cons_self⟩
  obtain ⟨isFile, hfile⟩ := exists_isFile_of_clear (hclear _ hnearest)
  obtain ⟨isFile, hstart⟩ := exists_isFile_start hfile
  rw [discover_eq_search hnull hstart]
  exact result_search_of_clear hclear

/-- If a place cannot be looked at, the search fails. -/
theorem exists_result_discover_eq_error (hnull : Files.holdsNull start = false)
    (hobstacle : ∃ path ∈ (searchedFrom fs start).flatMap filesOf, obstacle? fs path ≠ none) :
    ∃ failure, (discover fs start).result = .error failure := by
  cases hstart : fs.isFile (fs.resolve start) with
  | error error =>
    refine ⟨.access error, ?_⟩
    simp [discover, hnull, hstart]
  | ok isFile =>
    rw [discover_eq_search hnull hstart]
    cases hfirst : ((searchedFrom fs start).flatMap filesOf).findSome? (obstacle? fs) with
    | some failure => exact ⟨failure, result_search_of_obstacle hfirst⟩
    | none =>
      obtain ⟨path, hpath, hne⟩ := hobstacle
      exact absurd (List.findSome?_eq_none_iff.mp hfirst path hpath) hne

end Start

end Settings

end LinePipe
