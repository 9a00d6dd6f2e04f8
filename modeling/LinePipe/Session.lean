import LinePipe.Buffer.Basic
import LinePipe.Pipeline.Parse

/-!
# Editing sessions

A buffer is edited step by step. Each step names a region and a pipeline, and replaces the lines of
the region by what the pipeline makes of them. A step that fails changes nothing.

## Main definitions

- `Session.Target`: a region as a step names it
- `Session.Step`: one step
- `Session.Step.perform`: the buffer after a step, or why the step fails
- `Session.run`: the buffer after a list of steps
-/

namespace LinePipe.Session

/-- A region as a step names it. -/
inductive Target where
  /-- By a text, in which lines are counted from 1. -/
  | written (text : Text)
  /-- By its first and last line, counted from 0; without a last line it reaches to the end. -/
  | bounds (first : Int) (last : Option Int)
  deriving Repr, DecidableEq

def Target.resolve : Target → Except RangeFailure LineRegion
  | .written text => LineRegion.parse text
  | .bounds first last => (LineRegion.ofBounds first last).mapError .region

inductive Failure where
  | range (failure : RangeFailure)
  | build (failure : BuildFailure)
  | region (error : RegionError)
  | pipeline (error : PipelineError)
  deriving Repr, DecidableEq

/-- One step: a pipeline and the region that it is for. Without a target it is the whole buffer. -/
structure Step where
  target : Target := .bounds 0 none
  pipeline : Text
  /-- What commands are given besides their arguments; `none` for the plain settings. -/
  settings : Option StageSettings := none

/-- The buffer after a step. The region and the pipeline are looked at before the lines are. -/
def Step.perform (s : Step) (b : TextBuffer) : Outcome Failure TextBuffer := do
  let region ← Outcome.ofExcept (s.target.resolve.mapError .range)
  let p ← (Pipeline.parse s.pipeline false Registry.builtin s.settings).mapError .build
  let lines ← Outcome.ofExcept ((b.linesIn region).mapError .region)
  let out ← (p.execute lines).mapError .pipeline
  (b.replace region out).mapError .region

/-- The buffer with which a session goes on after a step. -/
def next (b : TextBuffer) (s : Step) : TextBuffer :=
  match (s.perform b).result with
  | .ok edited => edited
  | .error _ => b

/-- The buffer after steps in a row. -/
def run (b : TextBuffer) (steps : List Step) : TextBuffer :=
  steps.foldl next b

end LinePipe.Session
