import LinePipe.Files.Tree
import LinePipe.Settings.Layer
import LinePipe.Text.LineBreak
import LinePipe.Toml.Document

/-!
# Settings from files

Settings are read from files of two names: one holds nothing but settings, the other holds them in a
section of its own. The files of a directory and of all directories above it count, the nearest the
most, unless one of them says that the search ends with it. One more file can be named.

## Main definitions

- `Settings.readTable`: the table in a file
- `Settings.section?`: the settings in such a table
- `Layer.ofFile`: the layer that a file gives
- `Settings.discover`: the files that count for a directory
- `Settings.load`: the layers of all files over the defaults
-/

namespace LinePipe

inductive LoadFailure where
  | settings (error : SettingsError)
  | encoding (fault : Utf8.Fault)
  /-- A key occurs twice in a file. -/
  | clash (clash : Toml.Clash)
  /-- It cannot be told what is at a path. -/
  | access (error : AccessError)
  deriving Repr, DecidableEq

def LoadFailure.message : LoadFailure → Text
  | .settings error => error.message
  | .encoding fault => fault.message
  | .clash c => c.message
  | .access error => error.message

namespace Settings

/-- The name of a file that holds settings only. -/
def ownFileName : Text := "textshell.toml".toList

/-- The name of a file that holds settings in a section. -/
def sharedFileName : Text := "pyproject.toml".toList

/-- The names of the section, from the outside. -/
def sectionNames : Text × Text := ("tool".toList, "textshell".toList)

/-- What is told about a file that is not in the right form. -/
def malformedReason : Text := "not a TOML document".toList

def readTable (fs : Files) (path : Path) : Outcome LoadFailure Table :=
  match fs.read path with
  | .error .nullInPath => Outcome.fail (.access .nullInPath)
  | .error (.refused cause p) => do
    let reason := cause.describe p
    Outcome.log Log.Level.error <|
      "Error loading TOML from ".toList ++ path.toText ++ [':', ' '] ++ reason
    Outcome.fail (.settings (.unreadable path reason))
  | .ok content =>
    match Utf8.decode content with
    | .error fault => Outcome.fail (.encoding fault)
    | .ok text =>
      match Toml.read (Text.normalizeBreaks text) with
      | .ok table => return table
      | .error (.clash clash) => Outcome.fail (.clash clash)
      | .error .malformed => do
        Outcome.log Log.Level.error <|
          "Error decoding TOML from ".toList ++ path.toText ++ [':', ' '] ++ malformedReason
        Outcome.fail (.settings (.malformed path malformedReason))

/-- The settings in the table of a file. A file of the shared name has them in a section, which may
be missing. -/
def section? (path : Path) (table : Table) : Option Table :=
  if path.name != sharedFileName then some table
  else
    match table.lookup sectionNames.1 with
    | some (.table outer) =>
      match outer.lookup sectionNames.2 with
      | some (.table settings) => some settings
      | _ => none
    | _ => none

end Settings

/-- The layer that a file gives; none if the file has no settings. -/
def Layer.ofFile (fs : Files) (path : Path) : Outcome LoadFailure (Option Layer) := do
  let table ← Settings.readTable fs path
  match Settings.section? path table with
  | none =>
    Outcome.log Log.Level.debug ("No TextShell settings in ".toList ++ path.toText)
    return none
  | some settings =>
    let layer ← (Layer.ofTable settings (some path)).mapError .settings
    return some layer

namespace Settings

/-- Whether a file counts and, if it does, whether the search ends with its directory. A file that
cannot be read or is not in the right form counts, so that loading it will tell what is wrong. -/
def examine (fs : Files) (path : Path) : Outcome LoadFailure (Option Bool) :=
  match fs.isFile path with
  | .error error => Outcome.fail (.access error)
  | .ok false => return none
  | .ok true =>
    let found := readTable fs path
    match found.result with
    | .error (.settings error) =>
      ⟨found.events ++ [.logged ⟨Log.Level.debug, "Ignoring unreadable config ".toList ++
        path.toText ++ " during discovery: ".toList ++ error.message⟩], .ok (some false)⟩
    | .error failure => ⟨found.events, .error failure⟩
    | .ok table =>
      match section? path table with
      | none => ⟨found.events, .ok none⟩
      | some settings =>
        ⟨found.events ++ [.logged ⟨Log.Level.debug,
          "Discovered config file: ".toList ++ path.toText⟩],
          .ok (some (((settings.lookup SettingKey.root).map Value.isTruthy).getD false))⟩

/-- The files of a directory that count, and whether the search ends here. -/
def examineDirectory (fs : Files) (directory : Path) :
    Outcome LoadFailure (List Path × Bool) := do
  let shared := directory.child sharedFileName
  let own := directory.child ownFileName
  let first ← examine fs shared
  let second ← examine fs own
  return (first.toList.map (fun _ => shared) ++ second.toList.map (fun _ => own),
    first.getD false || second.getD false)

/-- The files of directories that count, the directories being given from the nearest outwards and
the files from the farthest inwards. -/
def search (fs : Files) : List Path → Outcome LoadFailure (List Path)
  | [] => return []
  | directory :: outer => do
    let (files, isRoot) ← examineDirectory fs directory
    if isRoot then return files
    else
      let farther ← search fs outer
      return farther ++ files

/-- The files that count for a directory, or for the directory of a file. The nearest come last. -/
def discover (fs : Files) (start : Path) : Outcome LoadFailure (List Path) :=
  if Files.holdsNull start then Outcome.fail (.access .nullInPath)
  else
    let resolved := fs.resolve start
    match fs.isFile resolved with
    | .error error => Outcome.fail (.access error)
    | .ok isFile => search fs (if isFile then resolved.parent else resolved).ancestors

/-- The layers of files over a layer, the last on top. -/
def mergeFiles (fs : Files) (layer : Layer) : List Path → Outcome LoadFailure Layer
  | [] => return layer
  | path :: rest => do
    let upper ← Layer.ofFile fs path
    mergeFiles fs ((upper.map layer.merge).getD layer) rest

structure Source where
  /-- Where the search for files starts; `none` for the current directory. -/
  start : Option Path := none
  extra : Option Path := none
  /-- Whether there is no search. -/
  isolated : Bool := false
  deriving Repr, DecidableEq

/-- The files that settings are loaded from, in order. -/
def sourceFiles (fs : Files) (source : Source) : Outcome LoadFailure (List Path) := do
  let found ←
    if source.isolated then pure []
    else discover fs (source.start.getD (fs.absolute fs.current))
  match source.extra with
  | none => return found
  | some path =>
    match fs.isFile path with
    | .error error => Outcome.fail (.access error)
    | .ok true => return found ++ [path]
    | .ok false => Outcome.fail (.settings (.missingFile path))

/-- The layers of all files over the defaults. -/
def load (fs : Files) (source : Source) : Outcome LoadFailure Layer := do
  let files ← sourceFiles fs source
  mergeFiles fs Layer.defaults files

end Settings

end LinePipe
