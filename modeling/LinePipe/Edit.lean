import LinePipe.Buffer.Basic
import LinePipe.Collation.Locale
import LinePipe.Pipeline.Parse
import LinePipe.Settings.Layer

/-!
# Editing

A pipeline text applied to lines, or to a region of a text, under given settings.

## Main definitions

- `Settings.prepare`: what commands are given under the settings
- `Edit.runLines`: a pipeline text applied to lines
- `Edit.applyTo`: a pipeline text applied to a region of a text
-/

namespace LinePipe

/-- Chooses the collation locale of the settings, if they name one, and gives what commands need
besides their arguments. The built-in commands are in force. -/
def Settings.prepare (s : Settings) (sink : Sink := .absent) :
    Outcome Locale.Failure StageSettings := do
  unless s.locale.isEmpty do
    let _ ← Locale.activate s.locale
  return { collator := ⟨s.numeric⟩, sink, catalog := some Registry.builtin.catalog }

namespace Edit

inductive Failure where
  | locale (failure : Locale.Failure)
  | build (failure : BuildFailure)
  | region (error : RegionError)
  | pipeline (error : PipelineError)
  deriving Repr, DecidableEq

def runLines (pipeline : Text) (lines : List Text) (settings : Settings := {})
    (sink : Sink := .absent) (registry : Registry := Registry.builtin) :
    Outcome Failure (List Text) := do
  let given ← (settings.prepare sink).mapError .locale
  let p ← (Pipeline.parse pipeline false registry (some given)).mapError .build
  (p.execute lines).mapError .pipeline

/-- A pipeline text applied to a region of a text. -/
def applyTo (text pipeline : Text) (region : LineRegion := .whole) (settings : Settings := {})
    (sink : Sink := .absent) (registry : Registry := Registry.builtin) :
    Outcome Failure Text := do
  let given ← (settings.prepare sink).mapError .locale
  let p ← (Pipeline.parse pipeline false registry (some given)).mapError .build
  let buffer := TextBuffer.ofText text settings.newline
  let lines ← Outcome.ofExcept ((buffer.linesIn region).mapError .region)
  let out ← (p.execute lines).mapError .pipeline
  let edited ← (buffer.replace region out).mapError .region
  return edited.toText

end Edit

end LinePipe
