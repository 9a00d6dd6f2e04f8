import LinePipe.Proofs.Files.Alike
import LinePipe.Proofs.Outcome
import LinePipe.Settings.Load

/-!
# Loading settings

Which files settings come from is found out by their names and by what the options name, and only
the files found are read. So loading takes no notice of any other file.

## Main definitions

- `Settings.Source.MayCount`: the paths of files that may count

## Main statements

- `Settings.load_congr`: loading notices files that may count only
- `Settings.of_mem_sourceFiles`: the files that count are files, and may count
- `Settings.of_load_eq_error`: why settings cannot be loaded
-/

namespace LinePipe.Settings

/-- A path at which there may be a file of settings: one of the right name in any directory, or the
one that is named. -/
inductive Source.MayCount (source : Source) : Path → Prop
  | shared (directory : Path) : MayCount source (directory.child sharedFileName)
  | own (directory : Path) : MayCount source (directory.child ownFileName)
  | extra (path : Path) (h : source.extra = some path) : MayCount source path

/-- Where the search for files starts. -/
def Source.startPath (source : Source) (fs : Files) : Path :=
  source.start.getD (fs.absolute fs.current)

/-- The files that are found by their names. -/
def searched (fs : Files) (source : Source) : Outcome LoadFailure (List Path) :=
  if source.isolated then pure [] else discover fs (source.startPath fs)

/-- The file that is named. -/
def named (fs : Files) (source : Source) : Outcome LoadFailure (List Path) :=
  match source.extra with
  | none => return []
  | some path =>
    match fs.isFile path with
    | .error error => Outcome.fail (.access error)
    | .ok true => return [path]
    | .ok false => Outcome.fail (.settings (.missingFile path))

theorem sourceFiles_eq (fs : Files) (source : Source) :
    sourceFiles fs source =
      searched fs source >>= fun found => named fs source >>= fun extra =>
        pure (found ++ extra) := by
  have hnamed (found : List Path) :
      (named fs source >>= fun extra => pure (found ++ extra)) =
        match source.extra with
        | none => return found
        | some path =>
          match fs.isFile path with
          | .error error => Outcome.fail (.access error)
          | .ok true => return found ++ [path]
          | .ok false => Outcome.fail (.settings (.missingFile path)) := by
    rw [named]
    cases source.extra with
    | none => simp only [Outcome.value_bind, List.append_nil]
    | some path =>
      dsimp only
      cases fs.isFile path with
      | error error => rfl
      | ok isFile => cases isFile <;> rfl
  simp only [hnamed, sourceFiles, searched, Source.startPath]
  split <;> rfl

section Congruence

variable {fs fs' : Files} {source : Source}

theorem readTable_congr {path : Path} (h : fs'.read path = fs.read path) :
    readTable fs' path = readTable fs path := by
  rw [readTable, readTable, h]

theorem ofFile_congr {path : Path} (h : fs'.read path = fs.read path) :
    Layer.ofFile fs' path = Layer.ofFile fs path := by
  rw [Layer.ofFile, Layer.ofFile, readTable_congr h]

theorem examine_congr {path : Path} (h : fs.SameFileAt fs' path) :
    examine fs' path = examine fs path := by
  rw [examine, examine, h.isFile_eq]
  cases hfile : fs.isFile path with
  | error error => rfl
  | ok isFile =>
    cases isFile with
    | false => rfl
    | true => rw [readTable_congr (h.read_eq hfile)]

variable (hfiles : ∀ path, source.MayCount path → fs.SameFileAt fs' path)
include hfiles

theorem examineDirectory_congr (directory : Path) :
    examineDirectory fs' directory = examineDirectory fs directory := by
  have hshared := examine_congr (hfiles _ (.shared directory))
  have hown := examine_congr (hfiles _ (.own directory))
  simp only [examineDirectory, hshared, hown]

theorem search_congr (directories : List Path) :
    search fs' directories = search fs directories := by
  induction directories with
  | nil => rfl
  | cons directory outer ih => rw [search, search, examineDirectory_congr hfiles directory, ih]

theorem sourceFiles_congr (htop : fs'.top = fs.top) (hcurrent : fs'.current = fs.current)
    (hstart : fs'.isFile (fs.resolve (source.startPath fs)) =
      fs.isFile (fs.resolve (source.startPath fs))) :
    sourceFiles fs' source = sourceFiles fs source := by
  have hplace : source.startPath fs' = source.startPath fs := by
    simp only [Source.startPath, Files.absolute, htop, hcurrent]
  have hresolve (p : Path) : fs'.resolve p = fs.resolve p := by
    simp only [Files.resolve, Files.absolute, Files.start, htop, hcurrent]
  have hsearched : searched fs' source = searched fs source := by
    simp only [searched, discover, hplace, hresolve, hstart, search_congr hfiles]
  have hnamed : named fs' source = named fs source := by
    rw [named, named]
    cases hextra : source.extra with
    | none => rfl
    | some path =>
      dsimp only
      rw [(hfiles path (.extra path hextra)).isFile_eq]
  rw [sourceFiles_eq, sourceFiles_eq, hsearched, hnamed]

end Congruence

theorem mergeFiles_congr {fs fs' : Files} {files : List Path}
    (h : ∀ path ∈ files, fs'.read path = fs.read path) (layer : Layer) :
    mergeFiles fs' layer files = mergeFiles fs layer files := by
  induction files generalizing layer with
  | nil => rfl
  | cons path rest ih =>
    rw [mergeFiles, mergeFiles, ofFile_congr (h path List.mem_cons_self)]
    refine Outcome.bind_congr fun upper _ => ?_
    exact ih (fun p hp => h p (List.mem_cons_of_mem path hp)) _

/-! ## The files that count -/

section Found

variable {fs : Files} {source : Source}

theorem isFile_of_examine {path : Path} {isRoot : Bool}
    (h : (examine fs path).result = .ok (some isRoot)) : fs.isFile path = .ok true := by
  rw [examine] at h
  split at h
  · cases h
  · cases h
  · assumption

theorem of_mem_examineDirectory {directory path : Path} {found : List Path × Bool}
    (h : (examineDirectory fs directory).result = .ok found) (hpath : path ∈ found.1) :
    fs.isFile path = .ok true ∧ source.MayCount path := by
  obtain ⟨first, hfirst, h⟩ := Outcome.result_bind_eq_ok_iff.mp h
  obtain ⟨second, hsecond, h⟩ := Outcome.result_bind_eq_ok_iff.mp h
  cases h
  obtain hpath | hpath := List.mem_append.mp hpath
  · cases first with
    | none => cases hpath
    | some isRoot =>
      rw [List.mem_singleton.mp hpath]
      exact ⟨isFile_of_examine hfirst, .shared directory⟩
  · cases second with
    | none => cases hpath
    | some isRoot =>
      rw [List.mem_singleton.mp hpath]
      exact ⟨isFile_of_examine hsecond, .own directory⟩

theorem of_mem_search {directories files : List Path} {path : Path}
    (h : (search fs directories).result = .ok files) (hpath : path ∈ files) :
    fs.isFile path = .ok true ∧ source.MayCount path := by
  induction directories generalizing files with
  | nil =>
    cases h
    cases hpath
  | cons directory outer ih =>
    obtain ⟨⟨found, isRoot⟩, hfound, h⟩ := Outcome.result_bind_eq_ok_iff.mp h
    dsimp only at h
    split at h
    · cases h
      exact of_mem_examineDirectory hfound hpath
    · obtain ⟨farther, hfarther, h⟩ := Outcome.result_bind_eq_ok_iff.mp h
      cases h
      obtain hpath | hpath := List.mem_append.mp hpath
      · exact ih hfarther hpath
      · exact of_mem_examineDirectory hfound hpath

theorem of_mem_searched {files : List Path} {path : Path}
    (h : (searched fs source).result = .ok files) (hpath : path ∈ files) :
    fs.isFile path = .ok true ∧ source.MayCount path := by
  rw [searched] at h
  split at h
  · cases h
    cases hpath
  · rw [discover] at h
    split at h
    · cases h
    · dsimp only at h
      split at h
      · cases h
      · exact of_mem_search h hpath

theorem of_mem_named {files : List Path} {path : Path}
    (h : (named fs source).result = .ok files) (hpath : path ∈ files) :
    fs.isFile path = .ok true ∧ source.MayCount path := by
  rw [named] at h
  split at h
  · cases h
    cases hpath
  · rename_i extra hextra
    split at h
    · cases h
    · rename_i hfile
      cases h
      rw [List.mem_singleton.mp hpath]
      exact ⟨hfile, .extra extra hextra⟩
    · cases h

/-- The files that count are files, and they may count by their names. -/
theorem of_mem_sourceFiles {files : List Path} {path : Path}
    (h : (sourceFiles fs source).result = .ok files) (hpath : path ∈ files) :
    fs.isFile path = .ok true ∧ source.MayCount path := by
  rw [sourceFiles_eq] at h
  obtain ⟨found, hfound, h⟩ := Outcome.result_bind_eq_ok_iff.mp h
  obtain ⟨extra, hextra, h⟩ := Outcome.result_bind_eq_ok_iff.mp h
  cases h
  obtain hpath | hpath := List.mem_append.mp hpath
  · exact of_mem_searched hfound hpath
  · exact of_mem_named hextra hpath

end Found

/-! ## Why settings cannot be loaded -/

section Failing

variable {fs : Files} {source : Source} {failure : LoadFailure}

/-- What settings that cannot be loaded are blamed on: they are wrong, or it cannot be told what is
at a path, or it is a file that may count. -/
def Blamed (fs : Files) (source : Source) (failure : LoadFailure) : Prop :=
  (∃ error, failure = .settings error) ∨ (∃ error, failure = .access error) ∨
    ∃ path, source.MayCount path ∧ (readTable fs path).result = .error failure

theorem blamed_of_examine {path : Path} (hpath : source.MayCount path)
    (h : (examine fs path).result = .error failure) : Blamed fs source failure := by
  rw [examine] at h
  split at h
  · rename_i error _
    cases h
    exact .inr (.inl ⟨error, rfl⟩)
  · cases h
  · dsimp only at h
    split at h
    · cases h
    · rename_i found hfound
      cases h
      exact .inr (.inr ⟨path, hpath, hfound⟩)
    · split at h <;> cases h

theorem blamed_of_examineDirectory {directory : Path}
    (h : (examineDirectory fs directory).result = .error failure) :
    Blamed fs source failure := by
  obtain h | ⟨first, -, h⟩ := Outcome.result_bind_eq_error_iff.mp h
  · exact blamed_of_examine (.shared directory) h
  · obtain h | ⟨second, -, h⟩ := Outcome.result_bind_eq_error_iff.mp h
    · exact blamed_of_examine (.own directory) h
    · cases h

theorem blamed_of_search {directories : List Path}
    (h : (search fs directories).result = .error failure) : Blamed fs source failure := by
  induction directories with
  | nil => cases h
  | cons directory outer ih =>
    obtain h | ⟨⟨found, isRoot⟩, -, h⟩ := Outcome.result_bind_eq_error_iff.mp h
    · exact blamed_of_examineDirectory h
    · dsimp only at h
      -- A root ends the search.
      split at h
      · cases h
      · obtain h | ⟨farther, -, h⟩ := Outcome.result_bind_eq_error_iff.mp h
        · exact ih h
        · cases h

theorem blamed_of_searched (h : (searched fs source).result = .error failure) :
    Blamed fs source failure := by
  rw [searched] at h
  split at h
  · cases h
  · rw [discover] at h
    split at h
    · cases h
      exact .inr (.inl ⟨_, rfl⟩)
    · dsimp only at h
      split at h
      · cases h
        exact .inr (.inl ⟨_, rfl⟩)
      · exact blamed_of_search h

theorem blamed_of_named (h : (named fs source).result = .error failure) :
    Blamed fs source failure := by
  rw [named] at h
  split at h
  · cases h
  · split at h
    · cases h
      exact .inr (.inl ⟨_, rfl⟩)
    · cases h
    · cases h
      exact .inl ⟨_, rfl⟩

theorem blamed_of_ofFile {path : Path} (hpath : source.MayCount path)
    (h : (Layer.ofFile fs path).result = .error failure) : Blamed fs source failure := by
  obtain h | ⟨table, -, h⟩ := Outcome.result_bind_eq_error_iff.mp h
  · exact .inr (.inr ⟨path, hpath, h⟩)
  · split at h
    · cases h
    · obtain h | ⟨layer, -, h⟩ := Outcome.result_bind_eq_error_iff.mp h
      · obtain ⟨error, -, rfl⟩ := except_mapError_eq_error_iff.mp h
        exact .inl ⟨error, rfl⟩
      · cases h

theorem blamed_of_mergeFiles {layer : Layer} {files : List Path}
    (hfiles : ∀ path ∈ files, source.MayCount path)
    (h : (mergeFiles fs layer files).result = .error failure) : Blamed fs source failure := by
  induction files generalizing layer with
  | nil => cases h
  | cons path rest ih =>
    obtain h | ⟨upper, -, h⟩ := Outcome.result_bind_eq_error_iff.mp h
    · exact blamed_of_ofFile (hfiles path List.mem_cons_self) h
    · exact ih (fun p hp => hfiles p (List.mem_cons_of_mem path hp)) h

/-- Settings that cannot be loaded are wrong, or there is something wrong with a file. -/
theorem of_load_eq_error (h : (load fs source).result = .error failure) :
    Blamed fs source failure := by
  obtain h | ⟨files, hfiles, h⟩ := Outcome.result_bind_eq_error_iff.mp h
  · rw [sourceFiles_eq] at h
    obtain h | ⟨found, -, h⟩ := Outcome.result_bind_eq_error_iff.mp h
    · exact blamed_of_searched h
    · obtain h | ⟨extra, -, h⟩ := Outcome.result_bind_eq_error_iff.mp h
      · exact blamed_of_named h
      · cases h
  · exact blamed_of_mergeFiles (fun path hpath => (of_mem_sourceFiles hfiles hpath).2) h

theorem of_readTable_eq_encoding {path : Path} {fault : Utf8.Fault}
    (h : (readTable fs path).result = .error (.encoding fault)) :
    ∃ octets, fs.read path = .ok octets ∧ Utf8.decode octets = .error fault := by
  rw [readTable] at h
  split at h
  · cases h
  · cases h
  · rename_i octets hread
    refine ⟨octets, hread, ?_⟩
    split at h
    · rename_i fault' hdecode
      cases h
      exact hdecode
    · split at h <;> cases h

end Failing

/-- Loading notices files that may count only. -/
theorem load_congr {fs fs' : Files} {source : Source}
    (hfiles : ∀ path, source.MayCount path → fs.SameFileAt fs' path)
    (htop : fs'.top = fs.top) (hcurrent : fs'.current = fs.current)
    (hstart : fs'.isFile (fs.resolve (source.startPath fs)) =
      fs.isFile (fs.resolve (source.startPath fs))) :
    load fs' source = load fs source := by
  rw [load, load, sourceFiles_congr hfiles htop hcurrent hstart]
  -- Only what was found to be a file is read.
  refine Outcome.bind_congr fun files hfound => mergeFiles_congr (fun path hpath => ?_) _
  obtain ⟨hfile, hcount⟩ := of_mem_sourceFiles hfound hpath
  exact (hfiles path hcount).read_eq hfile

end LinePipe.Settings
