import LinePipe.Proofs.Settings.Search
import LinePipe.Proofs.Text.Utf8
import Mathlib.Data.List.Nodup

/-!
# Which files a search finds

A search for files of settings finds those that count in its directories, which go up to the nearest
one with a file whose settings say that it is the root. It fails if the place of a file is too long
to be looked at, and if a key occurs twice in a file, though such a file is no better than others
that are not in the right form.

## Main definitions

- `Settings.HoldsRoot`: a directory with which a search ends
- `Settings.FindsFiles`: the files that a search should find
- `Settings.WellKept`: the files of settings are texts, and say by a truth value where the root is
- `Settings.Trapped`: what makes a search fail

## Main statements

- `Settings.discovers_unless_trapped`: a search finds what it should, unless it fails
-/

namespace LinePipe.Settings

/-- A directory has a file whose settings say that it is the root. -/
def HoldsRoot (fs : Files) (directory : Path) : Prop :=
  ∃ path ∈ filesOf directory, ∃ settings, HasSettings fs path settings ∧
    settings.lookup SettingKey.root = some (.boolean true)

/-- The files that a search finds in the directories that it goes through. -/
structure FindsFiles (fs : Files) (start : Path) (through files : List Path) : Prop where
  walk : GoesThrough (HoldsRoot fs) (startDirectory fs start).ancestors through
  mem_iff : ∀ path, path ∈ files ↔ (∃ directory ∈ through, path ∈ filesOf directory) ∧
    fs.isFile path = .ok true ∧ ((∃ failure, (readTable fs path).result = .error failure) ∨
      ∃ settings, HasSettings fs path settings)
  /-- The farthest directory comes first, and in each the shared file. -/
  ordered : files.Sublist (through.reverse.flatMap filesOf)
  nodup : files.Nodup
  inside : ∀ path ∈ files, path.parent ∈ (startDirectory fs start).ancestors

/-- The files of settings above a start are texts, and where their settings say whether the search
ends, they say so by a truth value. -/
structure WellKept (fs : Files) (start : Path) : Prop where
  texts : ∀ directory ∈ (startDirectory fs start).ancestors, ∀ path ∈ filesOf directory,
    ∀ octets, fs.read path = .ok octets → ∃ text, Utf8.decode octets = .ok text
  roots : ∀ directory ∈ (startDirectory fs start).ancestors, ∀ path ∈ filesOf directory,
    ∀ settings value, HasSettings fs path settings →
      settings.lookup SettingKey.root = some value → ∃ b, value = .boolean b

/-- A search looks at a path, in a directory that it goes through. -/
def LooksAt (fs : Files) (start path : Path) : Prop :=
  ∃ through directory, GoesThrough (HoldsRoot fs) (startDirectory fs start).ancestors through ∧
    directory ∈ through ∧ path ∈ filesOf directory

/-- What makes a search fail: the place of a file cannot be looked at, or a key occurs twice in a
file. -/
inductive Trapped (fs : Files) (start : Path) : Prop
  | place {path : Path} {error : AccessError} (hpath : LooksAt fs start path)
      (herror : fs.isFile path = .error error)
  | clash {path : Path} {clash : Toml.Clash} (hpath : LooksAt fs start path)
      (hfile : fs.isFile path = .ok true)
      (hclash : (readTable fs path).result = .error (.clash clash))

/-! ## Places are looked at once -/

theorem parent_of_mem_filesOf {path directory : Path} (h : path ∈ filesOf directory) :
    path.parent = directory := by
  simp only [filesOf, List.mem_cons, List.not_mem_nil, or_false] at h
  obtain rfl | rfl := h <;> simp [Path.parent, Path.child]

theorem nodup_filesOf (directory : Path) : (filesOf directory).Nodup := by
  have hne : directory.child sharedFileName ≠ directory.child ownFileName := by
    intro h
    have hparts := List.append_cancel_left (Path.mk.inj h).2
    exact absurd hparts (by decide)
  simpa [filesOf] using hne

theorem nodup_flatMap_filesOf {directories : List Path} (h : directories.Nodup) :
    (directories.flatMap filesOf).Nodup := by
  rw [List.nodup_flatMap]
  refine ⟨fun directory _ => nodup_filesOf directory, h.imp fun hne => ?_⟩
  refine List.disjoint_left.mpr fun path ha hb => hne ?_
  exact (parent_of_mem_filesOf ha).symm.trans (parent_of_mem_filesOf hb)

/-- No path is above itself. -/
theorem nodup_ancestors (p : Path) : p.ancestors.Nodup := by
  refine List.Nodup.map_on (fun m hm n hn h => ?_) (List.nodup_reverse.mpr List.nodup_range)
  have hlength := congrArg List.length (Path.mk.inj h).2
  simp only [List.mem_reverse, List.mem_range] at hm hn
  rwa [List.length_take, List.length_take, Nat.min_eq_left (Nat.le_of_lt_succ hm),
    Nat.min_eq_left (Nat.le_of_lt_succ hn)] at hlength

/-! ## What a search should find -/

section

variable {fs : Files} {start : Path}

theorem GoesThrough.congr {ends ends' : Path → Prop} {directories through : List Path}
    (h : GoesThrough ends directories through)
    (hends : ∀ directory ∈ directories, ends directory ↔ ends' directory) :
    GoesThrough ends' directories through where
  front := h.front
  goesOn directory hdirectory hends' := by
    have hmem := h.front.subset (List.dropLast_subset _ hdirectory)
    exact h.goesOn directory hdirectory ((hends directory hmem).mpr hends')
  stops := h.stops.imp_right fun ⟨last, hlast, hlastEnds⟩ =>
    ⟨last, hlast, (hends last (h.front.subset (List.mem_of_getLast? hlast))).mp hlastEnds⟩

/-- Among truth values only one counts as true. -/
theorem endsSearch_iff_holdsRoot {directory : Path}
    (hroots : ∀ path ∈ filesOf directory, ∀ settings value, HasSettings fs path settings →
      settings.lookup SettingKey.root = some value → ∃ b, value = .boolean b) :
    EndsSearch fs directory ↔ HoldsRoot fs directory := by
  constructor
  · rintro ⟨path, hpath, settings, hsettings, value, hvalue, htruthy⟩
    obtain ⟨b, rfl⟩ := hroots path hpath settings value hsettings hvalue
    obtain rfl : b = true := htruthy
    exact ⟨path, hpath, settings, hsettings, hvalue⟩
  · rintro ⟨path, hpath, settings, hsettings, hvalue⟩
    exact ⟨path, hpath, settings, hsettings, _, hvalue, rfl⟩

theorem WellKept.goesThrough_searchedFrom (h : WellKept fs start) :
    GoesThrough (HoldsRoot fs) (startDirectory fs start).ancestors
      (searchedFrom fs start) :=
  (goesThrough_walked fs _).congr fun directory hdirectory =>
    endsSearch_iff_holdsRoot (h.roots directory hdirectory)

theorem WellKept.findsFiles (h : WellKept fs start) :
    FindsFiles fs start (searchedFrom fs start)
      (((searchedFrom fs start).reverse.flatMap filesOf).filter
        (counts fs)) where
  walk := h.goesThrough_searchedFrom
  mem_iff path := by
    simp only [List.mem_filter, List.mem_flatMap, List.mem_reverse, counts_iff]
  ordered := List.filter_sublist
  nodup := by
    have hwalked := (nodup_ancestors _).sublist h.goesThrough_searchedFrom.front.sublist
    exact (nodup_flatMap_filesOf (List.nodup_reverse.mpr hwalked)).filter _
  inside path hpath := by
    simp only [List.mem_filter, List.mem_flatMap, List.mem_reverse] at hpath
    obtain ⟨⟨directory, hdirectory, hfile⟩, -⟩ := hpath
    rw [parent_of_mem_filesOf hfile]
    exact h.goesThrough_searchedFrom.front.subset hdirectory

theorem WellKept.looksAt_iff (h : WellKept fs start) {path : Path} :
    LooksAt fs start path ↔
      path ∈ (searchedFrom fs start).flatMap filesOf := by
  rw [List.mem_flatMap]
  constructor
  · rintro ⟨through, directory, hthrough, hdirectory, hpath⟩
    rw [hthrough.unique h.goesThrough_searchedFrom] at hdirectory
    exact ⟨directory, hdirectory, hpath⟩
  · rintro ⟨directory, hdirectory, hpath⟩
    exact ⟨_, directory, h.goesThrough_searchedFrom, hdirectory, hpath⟩

/-! ## What makes a search fail -/

theorem read_of_readTable_eq_access {path : Path} {error : AccessError}
    (h : (readTable fs path).result = .error (.access error)) :
    fs.read path = .error .nullInPath := by
  rw [readTable] at h
  split at h
  · assumption
  · cases h
  · split at h
    · cases h
    · split at h <;> cases h

/-- Of texts there are two reasons why it cannot be told whether they count. -/
theorem obstacle?_ne_none_iff {path : Path}
    (htext : ∀ octets, fs.read path = .ok octets → ∃ text, Utf8.decode octets = .ok text) :
    obstacle? fs path ≠ none ↔ (∃ error, fs.isFile path = .error error) ∨
      fs.isFile path = .ok true ∧ ∃ clash, (readTable fs path).result = .error (.clash clash) := by
  rw [obstacle?]
  cases hfile : fs.isFile path with
  | error error => simp
  | ok isFile =>
    cases isFile with
    | false => simp
    | true =>
      cases htable : (readTable fs path).result with
      | ok table => simp
      | error failure =>
        cases failure with
        | settings error => simp
        | clash clash => simp
        | encoding fault =>
          obtain ⟨octets, hoctets, hfault⟩ := of_readTable_eq_encoding htable
          obtain ⟨text, htext⟩ := htext octets hoctets
          rw [htext] at hfault
          cases hfault
        | access error =>
          have hnull := Files.holdsNull_of_read (read_of_readTable_eq_access htable)
          rw [Files.holdsNull_of_isFile hfile] at hnull
          cases hnull

theorem WellKept.trapped_iff (h : WellKept fs start) :
    Trapped fs start ↔
      ∃ path ∈ (searchedFrom fs start).flatMap filesOf,
        obstacle? fs path ≠ none := by
  have htexts : ∀ path, path ∈ (searchedFrom fs start).flatMap filesOf →
      ∀ octets, fs.read path = .ok octets → ∃ text, Utf8.decode octets = .ok text := by
    intro path hpath
    obtain ⟨directory, hdirectory, hpath⟩ := List.mem_flatMap.mp hpath
    exact h.texts directory (h.goesThrough_searchedFrom.front.subset hdirectory) path hpath
  constructor
  · rintro (⟨hlooks, herror⟩ | ⟨hlooks, hfile, hclash⟩)
    · have hpath := h.looksAt_iff.mp hlooks
      exact ⟨_, hpath, (obstacle?_ne_none_iff (htexts _ hpath)).mpr (.inl ⟨_, herror⟩)⟩
    · have hpath := h.looksAt_iff.mp hlooks
      exact ⟨_, hpath, (obstacle?_ne_none_iff (htexts _ hpath)).mpr (.inr ⟨hfile, _, hclash⟩)⟩
  · rintro ⟨path, hpath, hobstacle⟩
    have hlooks := h.looksAt_iff.mpr hpath
    obtain ⟨error, herror⟩ | ⟨hfile, clash, hclash⟩ :=
      (obstacle?_ne_none_iff (htexts path hpath)).mp hobstacle
    · exact .place hlooks herror
    · exact .clash hlooks hfile hclash

/-! ## Files with given texts -/

theorem exists_decode_of_read_holding {texts : List (List Text × Text)} {path : Path}
    {octets : Octets} (h : (Files.holding texts).read path = .ok octets) :
    ∃ text, Utf8.decode octets = .ok text := by
  obtain ⟨place, -, hnode⟩ := Files.of_read_eq_ok h
  obtain ⟨before, after, htree, -⟩ :=
    List.lookup_eq_some_iff.mp (FileTree.lookup_of_node?_file hnode)
  have hmem : (place, FileNode.file octets) ∈ (Files.holding texts).tree := by
    rw [htree]
    exact List.mem_append_right before List.mem_cons_self
  obtain ⟨⟨_, text⟩, -, hentry⟩ := List.mem_map.mp hmem
  cases hentry
  exact ⟨text, Utf8.decode_encode text⟩

/-- Whether what a file says about the root is a truth value. -/
def saysPlainly (fs : Files) (path : Path) : Bool :=
  ((settingsAt? fs path).bind fun settings => settings.lookup SettingKey.root).all fun
    | .boolean _ => true
    | _ => false

theorem wellKept_holding {texts : List (List Text × Text)}
    (h : ∀ path ∈ (startDirectory (Files.holding texts) start).ancestors.flatMap filesOf,
      saysPlainly (Files.holding texts) path = true) :
    WellKept (Files.holding texts) start where
  texts _ _ _ _ _ hread := exists_decode_of_read_holding hread
  roots directory hdirectory path hpath settings value hsettings hvalue := by
    have hplain := h path (List.mem_flatMap.mpr ⟨directory, hdirectory, hpath⟩)
    rw [saysPlainly, settingsAt?_eq_some_iff.mpr hsettings, Option.bind_some, hvalue] at hplain
    cases value <;> first | exact ⟨_, rfl⟩ | cases hplain

/-! ## The search -/

/-- A path that leads somewhere can be given to the operating system. -/
theorem holdsNull_of_exists (h : fs.isDirectory start = true ∨ fs.isFile start = .ok true) :
    Files.holdsNull start = false := by
  obtain hdirectory | hfile := h
  · rw [Files.isDirectory, Bool.and_eq_true, Bool.not_eq_true'] at hdirectory
    exact hdirectory.1
  · exact Files.holdsNull_of_isFile hfile

/-- A search from a directory, or from the directory of a file, finds exactly the files that it
should, unless it fails. It fails exactly if a place that it looks at is too long, or if a key
occurs twice in a file. -/
theorem discovers_unless_trapped
    (hstart : fs.isDirectory start = true ∨ fs.isFile start = .ok true)
    (hkept : WellKept fs start) :
    (¬ Trapped fs start → ∃ through files,
      (discover fs start).result = .ok files ∧ FindsFiles fs start through files) ∧
    (Trapped fs start → ∃ failure, (discover fs start).result = .error failure) := by
  have hnull := holdsNull_of_exists hstart
  rw [hkept.trapped_iff]
  constructor
  · intro hclear
    refine ⟨_, _, result_discover_of_clear hnull fun path hpath => ?_, hkept.findsFiles⟩
    by_contra hobstacle
    exact hclear ⟨path, hpath, hobstacle⟩
  · exact exists_result_discover_eq_error hnull

end

/-- A file below a directory with a root. The other file of that directory is no good, one file is
above it, and a shared file below it has no section. -/
def belowRoot : Files := Files.holding
  [([ownFileName], "locale = \"C\"\n".toList),
    (["work".toList, sharedFileName], "[tool.textshell]\nroot = true\n".toList),
    (["work".toList, ownFileName], "locale =\n".toList),
    (["work".toList, "sub".toList, sharedFileName], "[tool.other]\nx = 1\n".toList),
    (["work".toList, "sub".toList, ownFileName], "root = false\n".toList),
    (["work".toList, "sub".toList, "data.txt".toList], "b\na\n".toList)]

/-- What is above the root is not found, and neither is the shared file without the section. -/
theorem discovers_unless_trapped_below_root :
    ∃ start through, belowRoot.isFile start = .ok true ∧ WellKept belowRoot start ∧
      ∃ files, (discover belowRoot start).result = .ok files ∧
        FindsFiles belowRoot start through files ∧
        files =
          [belowRoot.absolute ["work".toList, sharedFileName],
            belowRoot.absolute ["work".toList, ownFileName],
            belowRoot.absolute ["work".toList, "sub".toList, ownFileName]] := by
  let start := Path.ofText "work/sub/data.txt".toList
  have hfile : belowRoot.isFile start = .ok true := by decide +kernel
  have hkept : WellKept belowRoot start := wellKept_holding (by decide +kernel)
  have hresult : (discover belowRoot start).result = .ok
      [belowRoot.absolute ["work".toList, sharedFileName],
        belowRoot.absolute ["work".toList, ownFileName],
        belowRoot.absolute ["work".toList, "sub".toList, ownFileName]] := by decide +kernel
  obtain ⟨hfinds, hfails⟩ := discovers_unless_trapped (.inr hfile) hkept
  have hfree : ¬ Trapped belowRoot start := by
    intro htrapped
    obtain ⟨failure, hfailure⟩ := hfails htrapped
    rw [hresult] at hfailure
    cases hfailure
  obtain ⟨through, files, hfound, hfinds⟩ := hfinds hfree
  rw [hresult, Except.ok.injEq] at hfound
  exact ⟨start, through, hfile, hkept, files, hfound ▸ hresult, hfinds, hfound.symm⟩

/-- A directory with a file in which a key occurs twice. -/
def repeatedKey : Files :=
  Files.holding [([ownFileName], "[a]\nx = 1\nx = 2\n".toList)]

/-- A search that fails because a key occurs twice in a file, though the file should be found. -/
theorem discover_fails_at_clash :
    repeatedKey.isDirectory (Path.ofText ['.']) = true ∧
      WellKept repeatedKey (Path.ofText ['.']) ∧
      FindsFiles repeatedKey (Path.ofText ['.']) [repeatedKey.absolute []]
        [repeatedKey.absolute [ownFileName]] ∧
      (discover repeatedKey (Path.ofText ['.'])).result =
        .error (.clash (.duplicate ['x'])) := by
  have hkept : WellKept repeatedKey (Path.ofText ['.']) := wellKept_holding (by decide +kernel)
  have hthrough : searchedFrom repeatedKey (Path.ofText ['.']) = [repeatedKey.absolute []] := by
    decide +kernel
  have hfiles : ([repeatedKey.absolute []].reverse.flatMap filesOf).filter (counts repeatedKey) =
      [repeatedKey.absolute [ownFileName]] := by decide +kernel
  have hfinds := hkept.findsFiles
  rw [hthrough, hfiles] at hfinds
  exact ⟨by decide +kernel, hkept, hfinds, by decide +kernel⟩

end LinePipe.Settings
