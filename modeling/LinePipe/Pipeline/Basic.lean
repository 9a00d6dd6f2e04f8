import LinePipe.Pipeline.Stage
import LinePipe.Pipeline.Token

/-!
# Pipelines

A pipeline is a list of stages, run from left to right. Without stages it is the identity.

## Main definitions

- `Pipeline`: the stages
- `Pipeline.describe`: the canonical text
- `Pipeline.execute`: the stages applied to lines in turn
-/

namespace LinePipe

/-- Stages that run from left to right. -/
structure Pipeline where
  stages : List Stage := []

namespace Pipeline

def identity : Pipeline := {}

def isIdentity (p : Pipeline) : Bool :=
  p.stages.isEmpty

def names (p : Pipeline) : List Text :=
  p.stages.map Stage.name

def separator : Text := [' ', pipeChar, ' ']

/-- The canonical text of a pipeline; the identity has a text that is no pipeline. -/
def describe (p : Pipeline) : Text :=
  if p.isIdentity then "<identity>".toList
  else Text.joinWith separator (p.stages.map Stage.describe)

def stageLabel (stage : Stage) (index : Nat) : Text :=
  "stage ".toList ++ Text.ofNat (index + 1) ++ [' ', '('] ++ stage.name ++ [')']

def lineCount (lines : List Text) : Text :=
  Text.ofNat lines.length ++ " line(s)".toList

/-- One stage at its index applied to lines. -/
def step (index : Nat) (stage : Stage) (lines : List Text) : Outcome PipelineError (List Text) :=
  let done := stage.run lines
  match done.result with
  | .ok out =>
    ⟨done.events ++ [.logged ⟨Log.Level.trace,
      "after ".toList ++ stageLabel stage index ++ [':', ' '] ++ lineCount out⟩], .ok out⟩
  | .error (.pipeline error) => ⟨done.events, .error error⟩
  | .error (.unexpected reason) =>
    ⟨done.events ++ [.logged ⟨Log.Level.error, stageLabel stage index ++ " failed".toList⟩],
      .error (.stageFailed stage.name index reason)⟩

/-- Stages applied to lines in turn, the first of them having the given index. The first failure
ends the run. -/
def runStages (index : Nat) : List Stage → List Text → Outcome PipelineError (List Text)
  | [], lines => return lines
  | stage :: rest, lines => do
    let out ← step index stage lines
    runStages (index + 1) rest out

def execute (p : Pipeline) (lines : List Text) : Outcome PipelineError (List Text) := do
  Outcome.log Log.Level.info <|
    "running ".toList ++ p.describe ++ " on ".toList ++ lineCount lines
  runStages 0 p.stages lines

end Pipeline

end LinePipe
