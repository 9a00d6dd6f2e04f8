import LinePipe.Collation.Key
import LinePipe.Outcome
import LinePipe.Pipeline.Error

/-!
# Stages

A stage transforms a list of lines. Sorting and dropping repeated lines cannot fail; the help stage
leaves the lines alone and shows a document on the side; other stages are given by a function.

## Main definitions

- `Sink`: where shown documents go
- `Stage`: a stage ready to run
- `Stage.run`: the stage applied to lines
-/

namespace LinePipe

inductive Sink where
  /-- Nowhere: documents are dropped. -/
  | absent
  | display
  /-- To a display that fails with this reason. -/
  | broken (reason : Text)
  deriving Repr, DecidableEq

inductive StageFailure where
  /-- With an error of the pipeline, which is reported as it is. -/
  | pipeline (error : PipelineError)
  /-- With anything else, for this reason. -/
  | unexpected (reason : Text)
  deriving Repr, DecidableEq

/-- A stage ready to run. -/
inductive Stage where
  /-- Sort the lines. -/
  | sort (descending : Bool) (collator : Collator)
  /-- Drop repeated lines, keeping the first occurrence of each. -/
  | uniq
  /-- Show a document and pass the lines through. -/
  | help (document : Text) (sink : Sink)
  /-- A stage of another kind, shown with this name and these arguments. -/
  | custom (name : Text) (arguments : List Text)
      (transform : List Text → Except StageFailure (List Text))

namespace Stage

def name : Stage → Text
  | sort _ _ => "sort".toList
  | uniq => "uniq".toList
  | help _ _ => "help".toList
  | custom name _ _ => name

def arguments : Stage → List Text
  | sort true _ => ["desc".toList]
  | sort false _ => []
  | uniq => []
  | help _ _ => []
  | custom _ arguments _ => arguments

def describe (s : Stage) : Text :=
  Text.unwords (s.name :: s.arguments)

/-- Sends a document to a sink. A failing display is noted and otherwise ignored. -/
def emit (document : Text) : Sink → Outcome StageFailure Unit
  | .absent => Outcome.log Log.Level.debug "help: no sink configured, document dropped".toList
  | .display => Outcome.display document
  | .broken reason =>
    Outcome.log Log.Level.warning ("help: failed to display help document: ".toList ++ reason)

def run : Stage → List Text → Outcome StageFailure (List Text)
  | sort descending collator, lines => return collator.sort descending lines
  | uniq, lines => return lines.eraseDups
  | help document sink, lines => do
    emit document sink
    return lines
  | custom _ _ transform, lines => Outcome.ofExcept (transform lines)

end Stage

end LinePipe
