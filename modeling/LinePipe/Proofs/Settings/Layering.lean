import LinePipe.Proofs.Settings.Overriding
import LinePipe.Proofs.Settings.Search

/-!
# Which source decides a setting

Settings come from the defaults, from files and from the caller. Each source lies over those before
it, and what it sets hides what they set, also where it sets something empty, false or zero. So a
setting has the value of the highest source that sets it.

## Main definitions

- `Origin`: a source of settings, with what it sets
- `Origin.highest`: what the highest source sets that sets anything
- `Settings.AreOrigins`: the sources, from the lowest to the highest
- `Settings.ByPrecedence`: each setting comes from the highest source that sets it

## Main statements

- `Layer.Shows.merge`, `Layer.Shows.override`: one source more
- `Settings.shows_mergeFiles`: the files on top of the defaults
- `Settings.load_byPrecedence`: loading, then what the caller gives
-/

namespace LinePipe

/-! ## Sources -/

/-- Where settings come from. -/
inductive Origin where
  | defaults
  | file (path : Path) (settings : Table)
  | caller (given : Layer.Overrides)

namespace Origin

/-- The verbosity that a source sets. The defaults leave it open. -/
def verbosity? : Origin → Option Int
  | defaults => none
  | file _ settings => (settings.lookup SettingKey.verbosity).bind Value.integer?
  | caller given => given.verbosity.bind fun v => v.toInteger.toOption

def locale? : Origin → Option Text
  | defaults => some []
  | file _ settings => (settings.lookup SettingKey.locale).bind Value.text?
  | caller given => given.locale.map Value.toText

def numeric? : Origin → Option Bool
  | defaults => some true
  | file _ settings => (settings.lookup SettingKey.numeric).bind Value.boolean?
  | caller given => given.numeric.map Value.isTruthy

def newline? : Origin → Option NewlineMode
  | defaults => some .auto
  | file _ settings =>
    ((settings.lookup SettingKey.newline).bind Value.text?).bind NewlineMode.ofName?
  | caller given => given.newline.bind fun choice => choice.resolve.toOption

def path? : Origin → Option Path
  | file path _ => some path
  | _ => none

/-- What the highest of some sources sets that sets anything, the highest coming last. -/
def highest {α : Type} (sets : Origin → Option α) (origins : List Origin) : Option α :=
  origins.reverse.findSome? sets

section

variable {α : Type} {sets : Origin → Option α}

@[simp] theorem highest_singleton (origin : Origin) : highest sets [origin] = sets origin := by
  rw [highest, List.reverse_singleton, List.findSome?_singleton]

/-- What higher sources set hides what lower ones set. -/
@[simp] theorem highest_append (lower higher : List Origin) :
    highest sets (lower ++ higher) = (highest sets higher).or (highest sets lower) := by
  rw [highest, List.reverse_append, List.findSome?_append, highest, highest]

/-- What the lowest source sets is set. -/
theorem exists_highest_cons (sets : Origin → Option α) (origin : Origin) {a : α}
    (h : sets origin = some a) (higher : List Origin) :
    ∃ b, highest sets (origin :: higher) = some b := by
  rw [← List.singleton_append, highest_append, highest_singleton, h]
  exact ⟨_, Option.or_some ..⟩

end

end Origin

/-! ## Layers -/

namespace Table

variable {table : Table} {key : Text}

theorem value?_bind {α : Type} {f : Value → Option α} (habsent : f .absent = none) :
    (table.value? key).bind f = (table.lookup key).bind f := by
  rw [value?]
  cases table.lookup key with
  | none => rfl
  | some v => cases v <;> simp [habsent]

/-- What a table sets is found under the key. -/
theorem lookup_bind_of_value?_eq {α : Type} {kind : SettingKind} {make : α → Value}
    {holds : Value → Option α} (hreads : Value.ReadsKind kind make holds)
    (habsent : holds .absent = none) {o : Option α} (h : table.value? key = o.map make) :
    (table.lookup key).bind holds = o := by
  rw [← value?_bind habsent, h]
  cases o with
  | none => rfl
  | some a => exact (hreads.holds_iff _ a).mpr rfl

end Table

namespace Layer

/-- A layer shows of each setting what the highest of some sources sets. -/
structure Shows (l : Layer) (origins : List Origin) : Prop where
  verbosity : l.verbosity = Origin.highest Origin.verbosity? origins
  locale : l.locale = Origin.highest Origin.locale? origins
  numeric : l.numeric = Origin.highest Origin.numeric? origins
  newline : l.newline = Origin.highest Origin.newline? origins
  files : l.files = origins.filterMap Origin.path?

theorem shows_defaults : Layer.defaults.Shows [.defaults] :=
  ⟨rfl, rfl, rfl, rfl, rfl⟩

/-- What one layer shows over another is what the sources of both show together. -/
theorem Shows.merge {lower upper : Layer} {lowers uppers : List Origin}
    (hlower : lower.Shows lowers) (hupper : upper.Shows uppers) :
    (lower.merge upper).Shows (lowers ++ uppers) where
  verbosity := by rw [Origin.highest_append, ← hlower.verbosity, ← hupper.verbosity, Layer.merge]
  locale := by rw [Origin.highest_append, ← hlower.locale, ← hupper.locale, Layer.merge]
  numeric := by rw [Origin.highest_append, ← hlower.numeric, ← hupper.numeric, Layer.merge]
  newline := by rw [Origin.highest_append, ← hlower.newline, ← hupper.newline, Layer.merge]
  files := by rw [List.filterMap_append, ← hlower.files, ← hupper.files, Layer.merge]

/-- A table that can be read gives a layer with what it sets. -/
theorem shows_of_read {settings : Table} {path : Path} {l : Layer}
    (h : Layer.read settings (some path) = .ok l) : l.Shows [.file path settings] := by
  obtain ⟨hverbosity, hlocale, hnumeric, ⟨policy, hpolicy, hnewline⟩, hfiles⟩ :=
    read_eq_ok_iff.mp h
  constructor
  · rw [Origin.highest_singleton]
    exact (Table.lookup_bind_of_value?_eq Value.readsKind_integer rfl hverbosity).symm
  · rw [Origin.highest_singleton]
    exact (Table.lookup_bind_of_value?_eq Value.readsKind_text rfl hlocale).symm
  · rw [Origin.highest_singleton]
    exact (Table.lookup_bind_of_value?_eq Value.readsKind_boolean rfl hnumeric).symm
  · rw [Origin.highest_singleton, Origin.newline?,
      Table.lookup_bind_of_value?_eq Value.readsKind_text rfl hpolicy]
    exact (NewlineMode.bind_ofName?_of_rel hnewline).symm
  · exact hfiles

/-- The layer of a caller shows what the caller gives, so far as it can be used. -/
theorem shows_layer (given : Overrides) : given.layer.Shows [.caller given] where
  verbosity := by rw [Origin.highest_singleton]; rfl
  locale := by rw [Origin.highest_singleton]; rfl
  numeric := by rw [Origin.highest_singleton]; rfl
  newline := by rw [Origin.highest_singleton]; rfl
  files := rfl

/-- What a caller gives lies over everything else. -/
theorem Shows.override {l : Layer} {origins : List Origin} {given : Overrides}
    (h : l.Shows origins) (hgiven : given.WellFormed) :
    ∃ overridden, l.override given = (overridden, none) ∧
      overridden.Shows (origins ++ [.caller given]) :=
  ⟨l.merge given.layer, override_of_wellFormed l hgiven, h.merge (shows_layer given)⟩

end Layer

namespace Settings

/-! ## Files -/

/-- There is a file, and settings can be loaded from it. -/
def Loads (fs : Files) (path : Path) : Prop :=
  fs.isFile path = .ok true ∧ (Layer.ofFile fs path).result.isOk = true

instance (fs : Files) (path : Path) : Decidable (Loads fs path) :=
  inferInstanceAs (Decidable (_ ∧ _))

/-- Settings can be loaded from all files of a source: at each place where there may be one, there
is none or one that loads, and the file that is named is there. -/
structure Source.AllLoad (fs : Files) (source : Source) : Prop where
  found : source.isolated = false →
    ∀ directory ∈ (startDirectory fs (source.startPath fs)).ancestors,
      ∀ path ∈ filesOf directory, fs.isFile path = .ok false ∨ Loads fs path
  named : ∀ path, source.extra = some path → Loads fs path

/-- The places of the files of a source, from the lowest to the highest: in the directories that a
search goes through those of the farthest first, and then the one that is named. -/
def Source.places (source : Source) (through : List Path) : List Path :=
  (if source.isolated then [] else through.reverse.flatMap filesOf) ++ source.extra.toList

/-- The files with settings among some places, with their settings and in the same order. -/
inductive Contribute (fs : Files) : List Path → List Origin → Prop
  | nil : Contribute fs [] []
  | source {path : Path} {settings : Table} {rest : List Path} {origins : List Origin}
      (hsettings : HasSettings fs path settings) (hrest : Contribute fs rest origins) :
      Contribute fs (path :: rest) (.file path settings :: origins)
  | other {path : Path} {rest : List Path} {origins : List Origin}
      (hnone : ∀ settings, ¬ HasSettings fs path settings) (hrest : Contribute fs rest origins) :
      Contribute fs (path :: rest) origins

/-- The sources of settings, from the lowest to the highest. -/
def AreOrigins (fs : Files) (source : Source) (given : Layer.Overrides) (origins : List Origin) :
    Prop :=
  ∃ through files,
    GoesThrough (EndsSearch fs) (startDirectory fs (source.startPath fs)).ancestors through ∧
      Contribute fs (source.places through) files ∧
        origins = .defaults :: files ++ [.caller given]

/-- Each setting has the value of the highest source that sets it, and the files are those that are
sources. -/
structure ByPrecedence (settings : Settings) (origins : List Origin) : Prop where
  verbosity : settings.verbosity = Origin.highest Origin.verbosity? origins
  locale : some settings.locale = Origin.highest Origin.locale? origins
  numeric : some settings.numeric = Origin.highest Origin.numeric? origins
  newline : some settings.newline = Origin.highest Origin.newline? origins
  files : settings.files = origins.filterMap Origin.path?

variable {fs : Files} {source : Source} {given : Layer.Overrides} {path : Path}

/-- The source that a file is, if it has settings. -/
def origin? (fs : Files) (path : Path) : Option Origin :=
  (settingsAt? fs path).map (.file path)

theorem contribute_filterMap (fs : Files) (places : List Path) :
    Contribute fs places (places.filterMap (origin? fs)) := by
  induction places with
  | nil => exact .nil
  | cons path rest ih =>
    rw [List.filterMap_cons, origin?]
    cases hsettings : settingsAt? fs path with
    | some settings => exact .source (settingsAt?_eq_some_iff.mp hsettings) ih
    | none =>
      refine .other (fun settings hhas => ?_) ih
      rw [settingsAt?_eq_some_iff.mpr hhas] at hsettings
      cases hsettings

theorem result_readTable_of_loads (h : Loads fs path) :
    ∃ table, (readTable fs path).result = .ok table := by
  obtain ⟨-, hok⟩ := h
  cases hlayer : (Layer.ofFile fs path).result with
  | error failure =>
    rw [hlayer] at hok
    cases hok
  | ok upper =>
    obtain ⟨table, htable, -⟩ := Outcome.result_bind_eq_ok_iff.mp hlayer
    exact ⟨table, htable⟩

/-- A file from which settings can be loaded gives a layer if it is a source, and else none. -/
theorem ofFile_of_loads (h : Loads fs path) :
    (origin? fs path = none ∧ (Layer.ofFile fs path).result = .ok none) ∨
      ∃ origin layer, origin? fs path = some origin ∧
        (Layer.ofFile fs path).result = .ok (some layer) ∧ layer.Shows [origin] := by
  obtain ⟨table, htable⟩ := result_readTable_of_loads h
  obtain ⟨hfile, hok⟩ := h
  have hsettings : settingsAt? fs path = section? path table := by
    simp only [settingsAt?, hfile, htable]
  rw [Layer.ofFile, Outcome.result_bind_of_ok htable] at hok ⊢
  rw [origin?, hsettings]
  cases hsection : section? path table with
  | none => exact .inl ⟨rfl, rfl⟩
  | some settings =>
    simp only [hsection] at hok
    have hresult : ((Layer.ofTable settings (some path)).mapError LoadFailure.settings).result =
        (Layer.read settings (some path)).mapError LoadFailure.settings := rfl
    cases hread : Layer.read settings (some path) with
    | error error =>
      rw [hread] at hresult
      rw [Outcome.result_bind_of_error hresult] at hok
      cases hok
    | ok layer =>
      rw [hread] at hresult
      refine .inr ⟨.file path settings, layer, rfl, ?_, Layer.shows_of_read hread⟩
      rw [Outcome.result_bind_of_ok hresult, Outcome.result_pure]

/-- Files that all load come on top of what there is, one by one. -/
theorem shows_mergeFiles {files : List Path} {layer : Layer} {lower : List Origin}
    (hfiles : ∀ path ∈ files, Loads fs path) (hlayer : layer.Shows lower) :
    ∃ merged, (mergeFiles fs layer files).result = .ok merged ∧
      merged.Shows (lower ++ files.filterMap (origin? fs)) := by
  induction files generalizing layer lower with
  | nil => exact ⟨layer, rfl, by rwa [List.filterMap_nil, List.append_nil]⟩
  | cons path rest ih =>
    have hrest : ∀ p ∈ rest, Loads fs p := fun p hp => hfiles p (List.mem_cons_of_mem path hp)
    rw [mergeFiles, List.filterMap_cons]
    obtain ⟨hnone, hfile⟩ | ⟨origin, upper, horigin, hfile, hupper⟩ :=
      ofFile_of_loads (hfiles path List.mem_cons_self)
    · rw [Outcome.result_bind_of_ok hfile, hnone]
      exact ih hrest hlayer
    · rw [Outcome.result_bind_of_ok hfile, horigin]
      -- The file lies over what was there, and the rest over both.
      obtain ⟨merged, hmerged, hshows⟩ := ih hrest (hlayer.merge hupper)
      refine ⟨merged, hmerged, ?_⟩
      rwa [List.append_assoc, List.singleton_append] at hshows

/-- If settings can be loaded from all files, all places can be looked at. -/
theorem obstacle?_of_loads (h : fs.isFile path = .ok false ∨ Loads fs path) :
    obstacle? fs path = none := by
  obtain hno | hloads := h
  · rw [obstacle?, hno]
  · obtain ⟨table, htable⟩ := result_readTable_of_loads hloads
    rw [obstacle?, hloads.1, htable]

theorem counts_of_origin? {origin : Origin} (h : origin? fs path = some origin) :
    counts fs path = true := by
  obtain ⟨settings, hsettings, -⟩ := Option.map_eq_some_iff.mp h
  exact counts_of_settingsAt? hsettings

/-- Files that do not count are no sources. -/
theorem filterMap_origin?_filter (files : List Path) :
    (files.filter (counts fs)).filterMap (origin? fs) = files.filterMap (origin? fs) := by
  rw [List.filterMap_filter]
  refine List.filterMap_congr fun path _ => ?_
  split
  · rfl
  · rename_i hcounts
    cases horigin : origin? fs path with
    | none => rfl
    | some origin => exact absurd (counts_of_origin? horigin) hcounts

theorem result_searched (hstart : fs.isDirectory (source.startPath fs) = true)
    (hload : source.AllLoad fs) :
    ∃ files, (searched fs source).result = .ok files ∧ (∀ path ∈ files, Loads fs path) ∧
      (files ++ source.extra.toList).filterMap (origin? fs) =
        (source.places (searchedFrom fs (source.startPath fs))).filterMap (origin? fs) := by
  rw [searched, Source.places]
  cases hisolated : source.isolated with
  | true => exact ⟨[], rfl, List.forall_mem_nil _, rfl⟩
  | false =>
    have hnull : Files.holdsNull (source.startPath fs) = false := by
      rw [Files.isDirectory, Bool.and_eq_true, Bool.not_eq_true'] at hstart
      exact hstart.1
    have hplace : ∀ path ∈ (searchedFrom fs (source.startPath fs)).flatMap filesOf,
        fs.isFile path = .ok false ∨ Loads fs path := by
      intro path hpath
      obtain ⟨directory, hdirectory, hpath⟩ := List.mem_flatMap.mp hpath
      have hancestor := (goesThrough_walked fs _).front.subset hdirectory
      exact hload.found hisolated directory hancestor path hpath
    have hfound := result_discover_of_clear hnull fun path hpath =>
      obstacle?_of_loads (hplace path hpath)
    refine ⟨_, hfound, ?_, ?_⟩
    · intro path hpath
      obtain ⟨hpath, hcounts⟩ := List.mem_filter.mp hpath
      have hpath : path ∈ (searchedFrom fs (source.startPath fs)).flatMap filesOf := by
        simpa only [List.mem_flatMap, List.mem_reverse] using hpath
      -- What counts is a file, so it is one that loads.
      obtain hno | hloads := hplace path hpath
      · rw [(counts_iff.mp hcounts).1] at hno
        cases hno
      · exact hloads
    · rw [List.filterMap_append, filterMap_origin?_filter, ← List.filterMap_append]
      rfl

theorem result_named (hload : source.AllLoad fs) :
    (named fs source).result = .ok source.extra.toList := by
  rw [named]
  cases hextra : source.extra with
  | none => rfl
  | some path =>
    dsimp only
    rw [(hload.named path hextra).1]
    rfl

theorem shows_load (hstart : fs.isDirectory (source.startPath fs) = true)
    (hload : source.AllLoad fs) :
    ∃ layer, (load fs source).result = .ok layer ∧
      layer.Shows (.defaults ::
        (source.places (searchedFrom fs (source.startPath fs))).filterMap (origin? fs)) := by
  obtain ⟨files, hfiles, hloads, horigins⟩ := result_searched hstart hload
  have hsource : (sourceFiles fs source).result = .ok (files ++ source.extra.toList) := by
    rw [sourceFiles_eq, Outcome.result_bind_of_ok hfiles,
      Outcome.result_bind_of_ok (result_named hload), Outcome.result_pure]
  have hall : ∀ path ∈ files ++ source.extra.toList, Loads fs path := by
    intro path hpath
    obtain hpath | hpath := List.mem_append.mp hpath
    · exact hloads path hpath
    · exact hload.named path (Option.mem_toList.mp hpath)
  obtain ⟨layer, hlayer, hshows⟩ := shows_mergeFiles hall Layer.shows_defaults
  refine ⟨layer, ?_, horigins ▸ hshows⟩
  rw [load, Outcome.result_bind_of_ok hsource, hlayer]

/-- With the defaults among the sources every setting but the verbosity is set. -/
theorem byPrecedence_freeze {l : Layer} {rest : List Origin} (h : l.Shows (.defaults :: rest)) :
    l.freeze.ByPrecedence (.defaults :: rest) where
  verbosity := h.verbosity
  locale := by
    obtain ⟨t, ht⟩ := Origin.exists_highest_cons Origin.locale? .defaults rfl rest
    rw [Layer.freeze, h.locale, ht, Option.getD_some]
  numeric := by
    obtain ⟨b, hb⟩ := Origin.exists_highest_cons Origin.numeric? .defaults rfl rest
    rw [Layer.freeze, h.numeric, hb, Option.getD_some]
  newline := by
    obtain ⟨mode, hmode⟩ := Origin.exists_highest_cons Origin.newline? .defaults rfl rest
    rw [Layer.freeze, h.newline, hmode, Option.getD_some]
  files := h.files

/-- If settings can be loaded from all files, and what the caller gives can be used, then each
setting has the value of the highest source that sets it. -/
theorem load_byPrecedence (hstart : fs.isDirectory (source.startPath fs) = true)
    (hload : source.AllLoad fs) (hgiven : given.WellFormed) :
    ∃ layer overridden origins, (load fs source).result = .ok layer ∧
      layer.override given = (overridden, none) ∧ AreOrigins fs source given origins ∧
        overridden.freeze.ByPrecedence origins := by
  obtain ⟨layer, hlayer, hshows⟩ := shows_load hstart hload
  obtain ⟨overridden, hoverride, hshows⟩ := hshows.override hgiven
  have horigins : AreOrigins fs source given
      (.defaults :: (source.places (searchedFrom fs (source.startPath fs))).filterMap
        (origin? fs) ++ [.caller given]) :=
    ⟨_, _, goesThrough_walked fs _, contribute_filterMap fs _, rfl⟩
  exact ⟨layer, overridden, _, hlayer, hoverride, horigins, byPrecedence_freeze hshows⟩

/-- A file in each of the four places, over one another. -/
def layered : Files := Files.holding
  [([ownFileName], "locale = \"C\"\nnumeric = true\nverbosity_level = 2\n".toList),
    (["work".toList, sharedFileName],
      "[tool.textshell]\nlocale = \"POSIX\"\nverbosity_level = 0\n".toList),
    (["work".toList, ownFileName], "locale = \"\"\nnewline = \"crlf\"\n".toList),
    (["more.toml".toList], "numeric = false\n".toList)]

/-- What these files give together with a line break policy from the caller. -/
def layeredSettings : Settings where
  verbosity := some 0
  locale := []
  numeric := false
  newline := .lf
  files :=
    [layered.absolute [ownFileName], layered.absolute ["work".toList, sharedFileName],
      layered.absolute ["work".toList, ownFileName], Path.ofText "more.toml".toList]

/-- Zero, false and the empty name are set where they are, each by another source over one that sets
something else. -/
theorem load_byPrecedence_of_falsy :
    ∃ (source : Source) (given : Layer.Overrides) (origins : List Origin),
      layered.isDirectory (source.startPath layered) = true ∧ source.AllLoad layered ∧
        given.WellFormed ∧ AreOrigins layered source given origins ∧
        layeredSettings.ByPrecedence origins := by
  let source : Source :=
    { start := some (Path.ofText "work".toList), extra := some (Path.ofText "more.toml".toList) }
  let given : Layer.Overrides := { newline := some (.named (.text "LF".toList)) }
  have hstart : layered.isDirectory (source.startPath layered) = true := by decide +kernel
  have hload : source.AllLoad layered := by
    refine ⟨fun _ => by decide +kernel, fun path hpath => ?_⟩
    obtain rfl := Option.some.inj hpath
    decide +kernel
  have hgiven : given.WellFormed := by
    constructor
    · intro value hvalue
      cases hvalue
    · intro choice hchoice
      obtain rfl := Option.some.inj hchoice
      exact ⟨.lf, by decide +kernel⟩
  obtain ⟨layer, overridden, origins, hlayer, hoverride, horigins, hsettings⟩ :=
    load_byPrecedence hstart hload hgiven
  have hfrozen : (load layered source).result.map (fun layer => (layer.override given).1.freeze) =
      .ok layeredSettings := by decide +kernel
  rw [hlayer, Except.map, hoverride, Except.ok.injEq] at hfrozen
  exact ⟨source, given, origins, hstart, hload, hgiven, horigins, hfrozen ▸ hsettings⟩

end Settings

end LinePipe
