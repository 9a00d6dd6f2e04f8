import LinePipe.Proofs.Settings.Layering

/-!
# What loading settings fails with

Whatever files hold, loading settings should give settings or an error of settings, which can be
told. It does unless the search for files comes to one that is spoilt, its octets being no text or a
key standing in it twice, or to a place that is too long to be looked at; or unless this is so of
the file that is named.

## Main definitions

- `Settings.SpoiltBy`: what is wrong with the content of a file that is no error of settings
- `Settings.Meets`, `Settings.ComesTo`: the paths of a search, and how far it comes
- `Settings.Tells`: a result that is a value or an error of settings
- `Settings.Source.Trapped`: why settings cannot be loaded though that is no error of settings

## Main statements

- `Settings.result_discover_eq_error_iff`: what a search fails with
- `Settings.result_mergeFiles_eq_error_iff`: the first file from which settings cannot be loaded
- `Settings.tells_iff_not_trapped`: loading tells what is wrong unless it is trapped
-/

namespace LinePipe.Settings

/-- What is wrong with the content of a file that is no error of settings: the octets are no text,
or a key stands twice in the text. -/
inductive SpoiltBy (fs : Files) (path : Path) : LoadFailure → Prop
  | encoding {octets : Octets} {fault : Utf8.Fault} (hfile : fs.isFile path = .ok true)
      (hread : fs.read path = .ok octets) (hfault : Utf8.decode octets = .error fault) :
      SpoiltBy fs path (.encoding fault)
  | clash {octets : Octets} {text : Text} {clash : Toml.Clash} (hfile : fs.isFile path = .ok true)
      (hread : fs.read path = .ok octets) (htext : Utf8.decode octets = .ok text)
      (hclash : Toml.read (Text.normalizeBreaks text) = .error (.clash clash)) :
      SpoiltBy fs path (.clash clash)

/-- Why a search does not get past a path: the path is too long to be looked at, or the file there
is spoilt. -/
inductive Obstacle (fs : Files) (path : Path) : LoadFailure → Prop
  | place {error : AccessError} (herror : fs.isFile path = .error error) :
      Obstacle fs path (.access error)
  | content {failure : LoadFailure} (hspoilt : SpoiltBy fs path failure) :
      Obstacle fs path failure

/-- A search from a start looks at a path, which is that of a file of settings in a directory that
it goes through. -/
def Meets (fs : Files) (start path : Path) : Prop :=
  ∃ through directory, GoesThrough (EndsSearch fs) (startDirectory fs start).ancestors through ∧
    directory ∈ through ∧ path ∈ filesOf directory

/-- A search from a start comes as far as a path: there is no obstacle at those before it. -/
def ComesTo (fs : Files) (start path : Path) : Prop :=
  ∃ through before after,
    GoesThrough (EndsSearch fs) (startDirectory fs start).ancestors through ∧
      through.flatMap filesOf = before ++ path :: after ∧
        ∀ p ∈ before, ∀ failure, ¬ Obstacle fs p failure

/-- A result that is a value, or an error of settings. -/
def Tells {α : Type} (result : Except LoadFailure α) : Prop :=
  (∃ a, result = .ok a) ∨ ∃ error, result = .error (.settings error)

/-- A search from a start fails because of the content of a file. -/
def FailsByContent (fs : Files) (start : Path) : Prop :=
  ∃ failure, (discover fs start).result = .error failure ∧
    ((∃ fault, failure = .encoding fault) ∨ ∃ clash, failure = .clash clash)

/-- What makes loading fail without an error of settings. The file that is named is only read if
settings can be loaded from all files that are found. -/
inductive Source.Trapped (fs : Files) (source : Source) : Prop
  | start (hsearch : source.isolated = false)
      (hnull : Files.holdsNull (source.startPath fs) = true)
  | found {path : Path} {failure : LoadFailure} (hsearch : source.isolated = false)
      (hpath : Meets fs (source.startPath fs) path) (hobstacle : Obstacle fs path failure)
  | named {path : Path} {error : AccessError} (hextra : source.extra = some path)
      (herror : fs.isFile path = .error error)
  | content {path : Path} {failure : LoadFailure} (hextra : source.extra = some path)
      (hspoilt : SpoiltBy fs path failure)
      (hfound : source.isolated = false → ∀ p, Meets fs (source.startPath fs) p →
        fs.isFile p = .ok false ∨ Loads fs p)

variable {fs : Files} {source : Source} {start path : Path} {failure : LoadFailure}

/-! ## One file -/

theorem SpoiltBy.isFile_eq (h : SpoiltBy fs path failure) : fs.isFile path = .ok true := by
  cases h <;> assumption

theorem SpoiltBy.result_readTable (h : SpoiltBy fs path failure) :
    (readTable fs path).result = .error failure := by
  cases h with
  | encoding hfile hread hfault => simp only [readTable, hread, hfault, Outcome.result_fail]
  | clash hfile hread htext hclash =>
    simp only [readTable, hread, htext, hclash, Outcome.result_fail]

theorem SpoiltBy.ne_settings (h : SpoiltBy fs path failure) (error : SettingsError) :
    failure ≠ .settings error := by
  cases h <;> exact LoadFailure.noConfusion

theorem Obstacle.ne_settings (h : Obstacle fs path failure) (error : SettingsError) :
    failure ≠ .settings error := by
  cases h with
  | place herror => exact LoadFailure.noConfusion
  | content hspoilt => exact hspoilt.ne_settings error

/-- A file that cannot be read as a table is at fault by an error of settings, or it is spoilt. -/
theorem settings_or_spoilt_of_readTable (hfile : fs.isFile path = .ok true)
    (h : (readTable fs path).result = .error failure) :
    (∃ error, failure = .settings error) ∨ SpoiltBy fs path failure := by
  rw [readTable] at h
  split at h
  · rename_i hread
    -- What is known to be a file can be given to the operating system.
    have hnull := Files.holdsNull_of_read hread
    rw [Files.holdsNull_of_isFile hfile] at hnull
    cases hnull
  · cases h
    exact .inl ⟨_, rfl⟩
  · rename_i octets hread
    split at h
    · rename_i fault hfault
      cases h
      exact .inr (.encoding hfile hread hfault)
    · rename_i text htext
      split at h
      · cases h
      · rename_i clash hclash
        cases h
        exact .inr (.clash hfile hread htext hclash)
      · cases h
        exact .inl ⟨_, rfl⟩

theorem obstacle?_eq_some_iff : obstacle? fs path = some failure ↔ Obstacle fs path failure := by
  constructor
  · intro h
    rw [obstacle?] at h
    split at h
    · rename_i error herror
      cases h
      exact .place herror
    · cases h
    · cases h
    · rename_i fault hother hfile htable
      cases h
      obtain ⟨error, rfl⟩ | hspoilt := settings_or_spoilt_of_readTable hfile htable
      · exact absurd rfl (hother error)
      · exact .content hspoilt
    · cases h
  · rintro (herror | hspoilt)
    · simp only [obstacle?, herror]
    · have htable := hspoilt.result_readTable
      have hne := hspoilt.ne_settings
      rw [obstacle?, hspoilt.isFile_eq, htable]
      cases failure with
      | settings error => exact absurd rfl (hne error)
      | encoding fault => rfl
      | clash clash => rfl
      | access error => rfl

theorem obstacle?_eq_none_iff :
    obstacle? fs path = none ↔ ∀ failure, ¬ Obstacle fs path failure := by
  simp only [← obstacle?_eq_some_iff, Option.eq_none_iff_forall_ne_some, ne_eq]

/-- From a file that is not spoilt settings can be loaded, or there is an error of settings. -/
theorem settings_or_spoilt_of_ofFile (hfile : fs.isFile path = .ok true)
    (h : (Layer.ofFile fs path).result = .error failure) :
    (∃ error, failure = .settings error) ∨ SpoiltBy fs path failure := by
  obtain h | ⟨table, -, h⟩ := Outcome.result_bind_eq_error_iff.mp h
  · exact settings_or_spoilt_of_readTable hfile h
  · left
    split at h
    · cases h
    · obtain h | ⟨layer, -, h⟩ := Outcome.result_bind_eq_error_iff.mp h
      · obtain ⟨error, -, rfl⟩ := except_mapError_eq_error_iff.mp h
        exact ⟨error, rfl⟩
      · cases h

theorem SpoiltBy.result_ofFile (h : SpoiltBy fs path failure) :
    (Layer.ofFile fs path).result = .error failure := by
  rw [Layer.ofFile, Outcome.result_bind_of_error h.result_readTable]

/-- A file that does not count gives no layer. -/
theorem loads_of_not_counts (hfile : fs.isFile path = .ok true) (h : counts fs path = false) :
    Loads fs path := by
  refine ⟨hfile, ?_⟩
  cases htable : (readTable fs path).result with
  | error failure =>
    simp only [counts, hfile, htable] at h
    cases h
  | ok table =>
    simp only [counts, hfile, htable, Option.isSome_eq_false_iff, Option.isNone_iff_eq_none] at h
    rw [Layer.ofFile, Outcome.result_bind_of_ok htable]
    simp only [h]
    rfl

/-! ## The search -/

theorem meets_iff : Meets fs start path ↔ path ∈ (searchedFrom fs start).flatMap filesOf := by
  rw [List.mem_flatMap]
  constructor
  · rintro ⟨through, directory, hthrough, hdirectory, hpath⟩
    rw [hthrough.unique (goesThrough_walked fs _)] at hdirectory
    exact ⟨directory, hdirectory, hpath⟩
  · rintro ⟨directory, hdirectory, hpath⟩
    exact ⟨_, directory, goesThrough_walked fs _, hdirectory, hpath⟩

/-- The first obstacle is at a path that the search comes to. -/
theorem findSome?_obstacle?_eq_some_iff :
    ((searchedFrom fs start).flatMap filesOf).findSome? (obstacle? fs) = some failure ↔
      ∃ path, ComesTo fs start path ∧ Obstacle fs path failure := by
  simp only [List.findSome?_eq_some_iff, obstacle?_eq_some_iff, obstacle?_eq_none_iff]
  constructor
  · rintro ⟨before, path, after, hpaths, hobstacle, hclear⟩
    exact ⟨path, ⟨_, before, after, goesThrough_walked fs _, hpaths, hclear⟩, hobstacle⟩
  · rintro ⟨path, ⟨through, before, after, hthrough, hpaths, hclear⟩, hobstacle⟩
    rw [hthrough.unique (goesThrough_walked fs _)] at hpaths
    exact ⟨before, path, after, hpaths, hobstacle, hclear⟩

/-- What a search fails with: it cannot start, or there is an obstacle at a path that it comes
to. -/
theorem result_discover_eq_error_iff :
    (discover fs start).result = .error failure ↔
      (Files.holdsNull start = true ∧ failure = .access .nullInPath) ∨
      Files.holdsNull start = false ∧
        ((∃ error, fs.isFile (fs.resolve start) = .error error ∧ failure = .access error) ∨
          (∃ isFile, fs.isFile (fs.resolve start) = .ok isFile) ∧
            ∃ path, ComesTo fs start path ∧ Obstacle fs path failure) := by
  cases hnull : Files.holdsNull start with
  | true => simp [discover, hnull, eq_comm]
  | false =>
    cases hstart : fs.isFile (fs.resolve start) with
    | error error => simp [discover, hnull, hstart, eq_comm]
    | ok isFile =>
      rw [discover_eq_search hnull hstart, ← findSome?_obstacle?_eq_some_iff, searchedFrom]
      cases hfirst : ((walked fs (startDirectory fs start).ancestors).flatMap filesOf).findSome?
          (obstacle? fs) with
      | none =>
        rw [result_search_of_clear (List.findSome?_eq_none_iff.mp hfirst)]
        simp
      | some first =>
        rw [result_search_of_obstacle hfirst]
        simp

/-- A search that starts where nothing can be told of the start meets an obstacle at once. -/
theorem exists_obstacle_of_start {error : AccessError}
    (hstart : fs.isFile (fs.resolve start) = .error error) :
    ∃ error', fs.isFile ((startDirectory fs start).child sharedFileName) = .error error' := by
  cases hfile : fs.isFile ((startDirectory fs start).child sharedFileName) with
  | error error' => exact ⟨error', rfl⟩
  | ok isFile =>
    obtain ⟨isFile', hstart'⟩ := exists_isFile_start hfile
    rw [hstart'] at hstart
    cases hstart

/-- Nothing that a search comes to by the way keeps it from starting. -/
theorem exists_isFile_of_comesTo (hcomes : ComesTo fs start path)
    (hfile : fs.isFile path = .ok true) :
    ∃ isFile, fs.isFile (fs.resolve start) = .ok isFile := by
  cases hstart : fs.isFile (fs.resolve start) with
  | ok isFile => exact ⟨isFile, rfl⟩
  | error error =>
    exfalso
    obtain ⟨error', herror'⟩ := exists_obstacle_of_start hstart
    obtain ⟨through, before, after, hthrough, hpaths, hclear⟩ := hcomes
    -- The first path is that of the shared file in the directory of the start.
    obtain ⟨outer, houter⟩ := Path.exists_ancestors_eq_cons (startDirectory fs start)
    have hfirst : ∃ rest, through.flatMap filesOf =
        (startDirectory fs start).child sharedFileName :: rest := by
      rw [hthrough.unique (goesThrough_walked fs _), houter, walked]
      split
      · exact ⟨_, rfl⟩
      · exact ⟨_, rfl⟩
    obtain ⟨rest, hrest⟩ := hfirst
    rw [hrest] at hpaths
    cases before with
    | nil =>
      rw [List.nil_append, List.cons.injEq] at hpaths
      rw [hpaths.1, hfile] at herror'
      cases herror'
    | cons first before =>
      rw [List.cons_append, List.cons.injEq] at hpaths
      rw [hpaths.1] at herror'
      exact hclear first List.mem_cons_self _ (.place herror')

/-- The content of a file makes a search fail exactly if the search comes to a file that is
spoilt. -/
theorem failsByContent_iff :
    FailsByContent fs start ↔ Files.holdsNull start = false ∧
      ∃ path failure, ComesTo fs start path ∧ SpoiltBy fs path failure := by
  constructor
  · rintro ⟨failure, hresult, hcontent⟩
    have hne : ∀ error, failure ≠ .access error := by
      rintro error rfl
      obtain ⟨fault, hfault⟩ | ⟨clash, hclash⟩ := hcontent
      · cases hfault
      · cases hclash
    obtain ⟨-, hfailure⟩ | ⟨hnull, ⟨error, -, hfailure⟩ | ⟨-, path, hcomes, hobstacle⟩⟩ :=
      result_discover_eq_error_iff.mp hresult
    · exact absurd hfailure (hne _)
    · exact absurd hfailure (hne error)
    · cases hobstacle with
      | place herror => exact absurd rfl (hne _)
      | content hspoilt => exact ⟨hnull, path, failure, hcomes, hspoilt⟩
  · rintro ⟨hnull, path, failure, hcomes, hspoilt⟩
    have hstart := exists_isFile_of_comesTo hcomes hspoilt.isFile_eq
    refine ⟨failure, result_discover_eq_error_iff.mpr (.inr ⟨hnull, .inr ⟨hstart, path, hcomes,
      .content hspoilt⟩⟩), ?_⟩
    cases hspoilt with
    | encoding => exact .inl ⟨_, rfl⟩
    | clash => exact .inr ⟨_, rfl⟩

/-- A search fails with no error of settings. -/
theorem result_discover_ne_settings (error : SettingsError) :
    (discover fs start).result ≠ .error (.settings error) := by
  intro h
  obtain ⟨-, hfailure⟩ | ⟨-, ⟨error', -, hfailure⟩ | ⟨-, path, -, hobstacle⟩⟩ :=
    result_discover_eq_error_iff.mp h
  · cases hfailure
  · cases hfailure
  · exact hobstacle.ne_settings error rfl

/-! ## Loading -/

/-- The first of some files from which settings cannot be loaded decides what merging them fails
with. -/
theorem result_mergeFiles_eq_error_iff {layer : Layer} {files : List Path} :
    (mergeFiles fs layer files).result = .error failure ↔
      ∃ before path after, files = before ++ path :: after ∧
        (∀ p ∈ before, (Layer.ofFile fs p).result.isOk = true) ∧
          (Layer.ofFile fs path).result = .error failure := by
  induction files generalizing layer with
  | nil => simp [mergeFiles]
  | cons first rest ih =>
    rw [mergeFiles]
    cases hfirst : (Layer.ofFile fs first).result with
    | error fault =>
      rw [Outcome.result_bind_of_error hfirst]
      constructor
      · intro h
        cases h
        exact ⟨[], first, rest, rfl, List.forall_mem_nil _, hfirst⟩
      · rintro ⟨before, path, after, hfiles, hbefore, hpath⟩
        cases before with
        | nil =>
          cases hfiles
          rw [hfirst, Except.error.injEq] at hpath
          rw [hpath]
        | cons p before =>
          cases hfiles
          have hp := hbefore first List.mem_cons_self
          rw [hfirst] at hp
          cases hp
    | ok upper =>
      rw [Outcome.result_bind_of_ok hfirst, ih]
      constructor
      · rintro ⟨before, path, after, rfl, hbefore, hpath⟩
        refine ⟨first :: before, path, after, rfl, ?_, hpath⟩
        exact List.forall_mem_cons.mpr ⟨by rw [hfirst]; rfl, hbefore⟩
      · rintro ⟨before, path, after, hfiles, hbefore, hpath⟩
        cases before with
        | nil =>
          cases hfiles
          rw [hfirst] at hpath
          cases hpath
        | cons p before =>
          cases hfiles
          exact ⟨before, path, after, rfl, (List.forall_mem_cons.mp hbefore).2, hpath⟩

/-- Two computations in a row tell what is wrong if both do, the second one only after a value. -/
theorem tells_bind_iff {α β : Type} {x : Outcome LoadFailure α} {f : α → Outcome LoadFailure β} :
    Tells (x >>= f).result ↔ Tells x.result ∧ ∀ a, x.result = .ok a → Tells (f a).result := by
  cases hx : x.result with
  | error failure =>
    rw [Outcome.result_bind_of_error hx]
    simp [Tells]
  | ok a =>
    rw [Outcome.result_bind_of_ok hx]
    simp [Tells]

/-- A search for files tells what is wrong, that is nothing, if it can start and meets no
obstacle. -/
theorem tells_searched_iff :
    Tells (searched fs source).result ↔ (source.isolated = false →
      Files.holdsNull (source.startPath fs) = false ∧
        ∀ p, Meets fs (source.startPath fs) p → ∀ failure, ¬ Obstacle fs p failure) := by
  rw [searched]
  cases source.isolated with
  | true => simp [Tells]
  | false =>
    simp only [Bool.false_eq_true, if_false, forall_const]
    constructor
    · intro htells
      cases hnull : Files.holdsNull (source.startPath fs) with
      | true =>
        rw [result_discover_eq_error_iff.mpr (.inl ⟨hnull, rfl⟩)] at htells
        simp [Tells] at htells
      | false =>
        refine ⟨rfl, fun p hp fault hobstacle => ?_⟩
        have hne : obstacle? fs p ≠ none := by
          rw [obstacle?_eq_some_iff.mpr hobstacle]
          exact Option.some_ne_none fault
        obtain ⟨failure, hfailure⟩ :=
          exists_result_discover_eq_error hnull ⟨p, meets_iff.mp hp, hne⟩
        obtain ⟨files, hfiles⟩ | ⟨error, herror⟩ := htells
        · rw [hfailure] at hfiles
          cases hfiles
        · exact result_discover_ne_settings error herror
    · rintro ⟨hnull, hclear⟩
      refine .inl ⟨_, result_discover_of_clear hnull fun p hp => ?_⟩
      exact obstacle?_eq_none_iff.mpr (hclear p (meets_iff.mpr hp))

theorem tells_named_iff :
    Tells (named fs source).result ↔
      ∀ path error, source.extra = some path → fs.isFile path ≠ .error error := by
  rw [named]
  cases source.extra with
  | none => simp [Tells]
  | some path =>
    constructor
    · intro htells path' error hpath herror
      cases hpath
      simp [herror, Tells] at htells
    · intro hfile
      cases hresult : fs.isFile path with
      | error error => exact absurd hresult (hfile path error rfl)
      | ok isFile => cases isFile <;> simp [hresult, Tells]

theorem result_named_of_file (hextra : source.extra = some path)
    (hfile : fs.isFile path = .ok true) : (named fs source).result = .ok [path] := by
  rw [named, hextra]
  simp only [hfile, Outcome.result_pure]

theorem extra_of_mem_named {extra : List Path} (h : (named fs source).result = .ok extra)
    (hpath : path ∈ extra) : source.extra = some path := by
  rw [named] at h
  split at h
  · cases h
    cases hpath
  · rename_i path' hpath'
    split at h
    · cases h
    · cases h
      rwa [List.mem_singleton.mp hpath]
    · cases h

theorem result_sourceFiles_eq_ok_iff {files : List Path} :
    (sourceFiles fs source).result = .ok files ↔
      ∃ found extra, (searched fs source).result = .ok found ∧
        (named fs source).result = .ok extra ∧ found ++ extra = files := by
  rw [sourceFiles_eq, Outcome.result_bind_eq_ok_iff]
  refine exists_congr fun found => ?_
  rw [Outcome.result_bind_eq_ok_iff, exists_and_left]
  refine and_congr_right fun _ => exists_congr fun extra => and_congr_right fun _ => ?_
  rw [Outcome.result_pure, Except.ok.injEq]

theorem tells_sourceFiles_iff :
    Tells (sourceFiles fs source).result ↔ Tells (searched fs source).result ∧
      ∀ found, (searched fs source).result = .ok found → Tells (named fs source).result := by
  rw [sourceFiles_eq, tells_bind_iff]
  refine and_congr_right fun _ => forall₂_congr fun found _ => ?_
  rw [tells_bind_iff]
  exact and_iff_left fun extra _ => .inl ⟨_, rfl⟩

/-- Merging files tells what is wrong unless one is spoilt and settings can be loaded from those
before it. -/
theorem tells_mergeFiles_iff {layer : Layer} {files : List Path}
    (hfiles : ∀ p ∈ files, fs.isFile p = .ok true) :
    Tells (mergeFiles fs layer files).result ↔
      ∀ before path after failure, files = before ++ path :: after → SpoiltBy fs path failure →
        ∃ p ∈ before, ¬ Loads fs p := by
  constructor
  · intro htells before path after failure hsplit hspoilt
    by_contra hloads
    simp only [not_exists, not_and, not_not] at hloads
    have hfails : (mergeFiles fs layer files).result = .error failure :=
      result_mergeFiles_eq_error_iff.mpr ⟨before, path, after, hsplit,
        fun p hp => (hloads p hp).2, hspoilt.result_ofFile⟩
    obtain ⟨merged, hmerged⟩ | ⟨error, herror⟩ := htells
    · rw [hfails] at hmerged
      cases hmerged
    · rw [hfails, Except.error.injEq] at herror
      exact hspoilt.ne_settings error herror
  · intro hspoilt
    cases hresult : (mergeFiles fs layer files).result with
    | ok merged => exact .inl ⟨merged, rfl⟩
    | error failure =>
      obtain ⟨before, path, after, hsplit, hbefore, hpath⟩ :=
        result_mergeFiles_eq_error_iff.mp hresult
      have hmem : ∀ p ∈ before ++ [path], fs.isFile p = .ok true := by
        intro p hp
        refine hfiles p ?_
        rw [hsplit]
        simp only [List.mem_append, List.mem_cons, List.not_mem_nil, or_false] at hp ⊢
        exact hp.imp_right .inl
      have hfile := hmem path (List.mem_append_right before (List.mem_singleton_self path))
      obtain ⟨error, rfl⟩ | hspoiltBy := settings_or_spoilt_of_ofFile hfile hpath
      · exact .inr ⟨error, rfl⟩
      · obtain ⟨p, hp, hnot⟩ := hspoilt before path after failure hsplit hspoiltBy
        exact absurd ⟨hmem p (List.mem_append_left [path] hp), hbefore p hp⟩ hnot

section Searched

variable {files : List Path} (h : (searched fs source).result = .ok files)
include h

/-- A search that finds files meets no obstacle. -/
theorem clear_of_searched (hsearch : source.isolated = false)
    (hmeets : Meets fs (source.startPath fs) path) (failure : LoadFailure) :
    ¬ Obstacle fs path failure :=
  (tells_searched_iff.mp (.inl ⟨files, h⟩) hsearch).2 path hmeets failure

/-- The files found are those that count among all that the search meets. -/
theorem mem_searched_iff : path ∈ files ↔
    source.isolated = false ∧ Meets fs (source.startPath fs) path ∧ counts fs path = true := by
  have htells := tells_searched_iff.mp (.inl ⟨files, h⟩)
  rw [searched] at h
  cases hisolated : source.isolated with
  | true =>
    rw [hisolated] at h
    cases h
    simp
  | false =>
    obtain ⟨hnull, hclear⟩ := htells hisolated
    have hfound := result_discover_of_clear hnull fun p hp =>
      obstacle?_eq_none_iff.mpr (hclear p (meets_iff.mpr hp))
    simp only [hisolated, Bool.false_eq_true, if_false, hfound, Except.ok.injEq] at h
    rw [← h, meets_iff]
    simp only [List.mem_filter, List.mem_flatMap, List.mem_reverse, true_and]

theorem not_spoiltBy_of_mem_searched (hpath : path ∈ files) (failure : LoadFailure) :
    ¬ SpoiltBy fs path failure := by
  intro hspoilt
  obtain ⟨hsearch, hmeets, -⟩ := (mem_searched_iff h).mp hpath
  exact clear_of_searched h hsearch hmeets failure (.content hspoilt)

/-- Settings can be loaded from the files found if they can be from all that the search meets. -/
theorem forall_loads_searched_iff :
    (∀ p ∈ files, Loads fs p) ↔ (source.isolated = false →
      ∀ p, Meets fs (source.startPath fs) p → fs.isFile p = .ok false ∨ Loads fs p) := by
  constructor
  · intro hloads hsearch p hmeets
    cases hfile : fs.isFile p with
    | error error => exact absurd (.place hfile) (clear_of_searched h hsearch hmeets _)
    | ok isFile =>
      cases isFile with
      | false => exact .inl rfl
      | true =>
        cases hcounts : counts fs p with
        | true => exact .inr (hloads p ((mem_searched_iff h).mpr ⟨hsearch, hmeets, hcounts⟩))
        | false => exact .inr (loads_of_not_counts hfile hcounts)
  · intro hloads p hp
    obtain ⟨hsearch, hmeets, hcounts⟩ := (mem_searched_iff h).mp hp
    obtain hno | hloads := hloads hsearch p hmeets
    · rw [(counts_iff.mp hcounts).1] at hno
      cases hno
    · exact hloads

end Searched

/-- A search for files that tells what is wrong finds some. -/
theorem exists_result_searched (h : Tells (searched fs source).result) :
    ∃ files, (searched fs source).result = .ok files := by
  obtain hfiles | ⟨error, herror⟩ := h
  · exact hfiles
  · exfalso
    rw [searched] at herror
    split at herror
    · cases herror
    · exact result_discover_ne_settings error herror

theorem not_trapped_of_tells (h : Tells (load fs source).result) : ¬ source.Trapped fs := by
  rw [load, tells_bind_iff, tells_sourceFiles_iff] at h
  obtain ⟨⟨hsearched, hnamed⟩, hmerged⟩ := h
  obtain ⟨found, hfound⟩ := exists_result_searched hsearched
  rintro (⟨hsearch, hnull⟩ | ⟨hsearch, hmeets, hobstacle⟩ | ⟨hextra, herror⟩ |
    ⟨hextra, hspoilt, hloads⟩)
  · have hstart := (tells_searched_iff.mp hsearched hsearch).1
    rw [hnull] at hstart
    cases hstart
  · exact (tells_searched_iff.mp hsearched hsearch).2 _ hmeets _ hobstacle
  · exact tells_named_iff.mp (hnamed found hfound) _ _ hextra herror
  · rename_i path failure
    have hsources : (sourceFiles fs source).result = .ok (found ++ [path]) :=
      result_sourceFiles_eq_ok_iff.mpr
        ⟨found, [path], hfound, result_named_of_file hextra hspoilt.isFile_eq, rfl⟩
    -- Nothing keeps the merging from coming to the file that is named.
    obtain ⟨p, hp, hnot⟩ := (tells_mergeFiles_iff fun p hp =>
      (of_mem_sourceFiles hsources hp).1).mp (hmerged _ hsources) found path [] failure rfl hspoilt
    exact hnot ((forall_loads_searched_iff hfound).mpr hloads p hp)

/-- What comes before something that is only in the second of two lists is all of the first. -/
theorem subset_of_append_eq {α : Type} {l l' before after : List α} {a : α}
    (h : l ++ l' = before ++ a :: after) (ha : a ∉ l) : l ⊆ before := by
  obtain ⟨more, rfl, -⟩ | ⟨more, rfl, hmore⟩ := List.append_eq_append_iff.mp h
  · exact List.subset_append_left l more
  · cases more with
    | nil => simp
    | cons b more =>
      rw [List.cons_append, List.cons.injEq] at hmore
      rw [hmore.1] at ha
      exact absurd (List.mem_append_right before List.mem_cons_self) ha

theorem tells_of_not_trapped (h : ¬ source.Trapped fs) : Tells (load fs source).result := by
  have hsearched : Tells (searched fs source).result := by
    refine tells_searched_iff.mpr fun hsearch => ⟨?_, fun p hmeets failure hobstacle => ?_⟩
    · by_contra hnull
      exact h (.start hsearch (Bool.of_not_eq_false hnull))
    · exact h (.found hsearch hmeets hobstacle)
  have hnamed : Tells (named fs source).result :=
    tells_named_iff.mpr fun path error hextra herror => h (.named hextra herror)
  rw [load, tells_bind_iff, tells_sourceFiles_iff]
  refine ⟨⟨hsearched, fun _ _ => hnamed⟩, fun files hsources => ?_⟩
  refine (tells_mergeFiles_iff fun p hp => (of_mem_sourceFiles hsources hp).1).mpr ?_
  intro before path after failure hsplit hspoilt
  obtain ⟨found, extra, hfound, hextra, rfl⟩ := result_sourceFiles_eq_ok_iff.mp hsources
  -- What is spoilt is the file that is named, and it comes after all that are found.
  have hnotFound : path ∉ found :=
    fun hpath => not_spoiltBy_of_mem_searched hfound hpath failure hspoilt
  have hpath : path ∈ found ++ extra := by
    rw [hsplit]
    exact List.mem_append_right before List.mem_cons_self
  have hpath := (List.mem_append.mp hpath).resolve_left hnotFound
  by_contra hloads
  simp only [not_exists, not_and, not_not] at hloads
  exact h (.content (extra_of_mem_named hextra hpath) hspoilt
    ((forall_loads_searched_iff hfound).mp fun p hp =>
      hloads p (subset_of_append_eq hsplit hnotFound hp)))

/-- Whatever files there are and whatever they hold, loading settings gives settings or an error of
settings unless it is trapped, and the content of a file makes a search fail exactly if the search
comes to a file that is spoilt. -/
theorem tells_iff_not_trapped (fs : Files) :
    (∀ source, Tells (load fs source).result ↔ ¬ source.Trapped fs) ∧
      ∀ start, FailsByContent fs start ↔ Files.holdsNull start = false ∧
        ∃ path failure, ComesTo fs start path ∧ SpoiltBy fs path failure :=
  ⟨fun _ => ⟨not_trapped_of_tells, tells_of_not_trapped⟩, fun _ => failsByContent_iff⟩

/-- A directory with a file of settings that is no text. -/
def withoutText : Files where
  tree := [([ownFileName], .file [0xFF])]

/-- Octets that are no text make loading and searching fail, and no error of settings tells it. -/
theorem untold_without_text :
    ¬ Tells (load withoutText {}).result ∧ FailsByContent withoutText (Path.ofText ['.']) := by
  have hload : (load withoutText {}).result = .error (.encoding ⟨.invalidStart, 0xFF, 0, 1⟩) := by
    decide +kernel
  have hdiscover : (discover withoutText (Path.ofText ['.'])).result =
      .error (.encoding ⟨.invalidStart, 0xFF, 0, 1⟩) := by decide +kernel
  refine ⟨?_, _, hdiscover, .inl ⟨_, rfl⟩⟩
  rw [hload]
  rintro (⟨layer, hlayer⟩ | ⟨error, herror⟩)
  · cases hlayer
  · cases herror

end LinePipe.Settings
