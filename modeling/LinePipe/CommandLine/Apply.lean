import LinePipe.CommandLine.Request
import LinePipe.Edit

/-!
# Applying a pipeline to a file

The command that applies a pipeline to the lines of a file or of the standard input. What can be
wrong is looked for in a fixed order, and nothing is written before all of it is found to be right:
a file for the result, the line range, the settings, the collation locale, the pipeline, the input,
the place of the range in it, the stages, and last the writing of the result.

## Main definitions

- `Invocation`: what the program is started with
- `Delivery`: what becomes of the result
- `RunRequest.apply`: the command
-/

namespace LinePipe.CommandLine

/-- What the program is started with. -/
structure Invocation where
  arguments : List Text
  files : Files := {}
  input : Octets := []
  environment : Environment := {}
  /-- Whether results go to a terminal, where that can be told. -/
  terminal : Option Bool := some false
  /-- The commands that pipelines are made of. -/
  registry : Registry := Registry.builtin

inductive Delivery where
  /-- It is printed. -/
  | printed (result : Text)
  /-- It is written back, which leaves these files. -/
  | saved (files : Files)
  /-- It is what the file holds already. -/
  | unchanged
  deriving Repr, DecidableEq

/-- A computation of a command: it can fail, and it logs and shows on the way. -/
abbrev Work := Outcome Failure

/-- Text from the standard input. It is read as in a locale of the C family, where every kind of
line break becomes a line feed. -/
def Invocation.readInput (i : Invocation) : Except Failure Text :=
  match Utf8.decode i.input with
  | .error fault => .error (.told (.encoding none fault))
  | .ok text => .ok (Text.normalizeBreaks text)

def Invocation.readFile (i : Invocation) (path : Text) : Except Failure Text :=
  match i.files.read (Path.ofText path) with
  | .error e => .error (Failure.ofReading path e)
  | .ok octets =>
    match Utf8.decode octets with
    | .error fault => .error (.told (.encoding (some path) fault))
    | .ok text => .ok text

/-- The text of a file, or of the standard input if no file is named. -/
def Invocation.readText (i : Invocation) : Option Text → Except Failure Text
  | none => i.readInput
  | some path => i.readFile path

def Invocation.save (i : Invocation) (path text : Text) : Work Files :=
  match i.files.write (Path.ofText path) (Utf8.encode text) with
  | .error e => Outcome.fail (Failure.ofWriting path e)
  | .ok files => do
    Outcome.log Log.Level.info <|
      "Wrote ".toList ++ Text.ofNat text.length ++ " character(s) to ".toList ++ path
    return files

namespace RunRequest

/-- The file that the result is written back to; `none` if the result is printed. -/
def target (r : RunRequest) : Except Failure (Option Text) :=
  if !r.inPlace then .ok none
  else
    match r.file with
    | none => .error (.told .inPlaceWithoutFile)
    | some path => .ok (some path)

/-- The lines to which the pipeline is applied. -/
def region (r : RunRequest) : Except Failure LineRegion :=
  match r.lines with
  | none => .ok LineRegion.whole
  | some text => (LineRegion.parse text).mapError Failure.ofRange

/-- The settings that the options of the command give. -/
def overrides (r : RunRequest) : Layer.Overrides where
  locale := r.locale.map .text
  numeric := r.numeric.map .boolean
  newline := r.newline.map .policy

def source (p : Preferences) : Settings.Source where
  extra := p.settingsFile.map Path.ofText
  isolated := p.isolated

/-- The settings from files, with those of the options over them. Options are of the right kinds, so
nothing can be wrong with them. -/
def settings (r : RunRequest) (i : Invocation) (p : Preferences) : Work Settings := do
  let layer ← (Settings.load i.files (source p)).mapError Failure.ofLoading
  return (layer.override r.overrides).1.freeze

/-- The result for a text, once pipeline, region and settings are known. -/
def transform (pipeline : Pipeline) (region : LineRegion) (mode : NewlineMode) (text : Text) :
    Work Text := do
  let buffer := TextBuffer.ofText text mode
  let outside (e : RegionError) : Failure := .told (.region e)
  let lines ← Outcome.ofExcept ((buffer.linesIn region).mapError outside)
  let out ← (pipeline.execute lines).mapError Failure.ofPipeline
  let edited ← (buffer.replace region out).mapError outside
  return edited.toText

/-- The result printed, or written back to a file if it is not what the file holds already. -/
def deliver (i : Invocation) (target : Option Text) (text result : Text) : Work Delivery :=
  match target with
  | none => return .printed result
  | some path =>
    if result == text then do
      Outcome.log Log.Level.info (path ++ " unchanged".toList)
      return .unchanged
    else do
      let files ← i.save path result
      return .saved files

/-- Applies a pipeline to the lines of a file or of the standard input. -/
def apply (r : RunRequest) (i : Invocation) (p : Preferences) : Work Delivery := do
  let target ← Outcome.ofExcept r.target
  let region ← Outcome.ofExcept r.region
  let settings ← r.settings i p
  let given ← (settings.prepare .display).mapError Failure.ofLocale
  let pipeline ← (Pipeline.parse r.pipeline false i.registry (some given)).mapError
    Failure.ofBuilding
  let text ← Outcome.ofExcept (i.readText r.file)
  let result ← transform pipeline region settings.newline text
  deliver i target text result

end RunRequest

end LinePipe.CommandLine
