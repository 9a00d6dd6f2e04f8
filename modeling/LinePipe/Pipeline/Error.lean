import LinePipe.Text.Quoted

/-!
# Pipeline errors

What can be wrong with a pipeline text, and what can go wrong when a pipeline runs.

## Main definitions

- `ParseError`: why a text is no pipeline
- `PipelineError`: any error of a pipeline
- `ParseError.message`, `PipelineError.message`: the wording
-/

namespace LinePipe

inductive ParseError where
  /-- A stage names a command that is not registered. The position counts stages from 1. -/
  | unknownCommand (name : Text) (position : Option Int)
  /-- A stage has no words. -/
  | emptyCommand (position : Int)
  /-- A command does not take these arguments; `allowed` lists the forms it takes. -/
  | invalidArguments (command : Text) (arguments allowed : List Text)
  /-- Some other reason, in words. -/
  | other (message : Text)
  deriving Repr, DecidableEq

def ParseError.message : ParseError → Text
  | .unknownCommand name _ => "Unknown command: ".toList ++ Text.quoted name
  | .emptyCommand position =>
    "Empty command at stage ".toList ++ Text.ofInt position ++ " (stray '|'?)".toList
  | .invalidArguments command arguments allowed =>
    let given := Text.unwords arguments
    "Invalid arguments for ".toList ++ Text.quoted command ++ [':', ' '] ++
      (if given.isEmpty then "<none>".toList else given) ++
      (if allowed.isEmpty then []
       else " (expected one of: ".toList ++ Text.joinWith [',', ' '] allowed ++ [')'])
  | .other message => message

/-- The name of the kind of an error, for reports that other programs read. -/
def ParseError.kind : ParseError → Text
  | .unknownCommand _ _ => "UnknownCommandError".toList
  | .emptyCommand _ => "EmptyCommandError".toList
  | .invalidArguments _ _ _ => "InvalidArgumentsError".toList
  | .other _ => "ParseError".toList

inductive PipelineError where
  | plain (message : Text)
  | parse (error : ParseError)
  /-- The stage at `index`, counted from 0, failed unexpectedly. -/
  | stageFailed (stage : Text) (index : Int) (cause : Text)
  deriving Repr, DecidableEq

def PipelineError.message : PipelineError → Text
  | .plain message => message
  | .parse error => error.message
  | .stageFailed stage index cause =>
    "Stage ".toList ++ Text.ofInt (index + 1) ++ [' ', '('] ++ Text.quoted stage ++
      ") failed: ".toList ++ cause

end LinePipe
