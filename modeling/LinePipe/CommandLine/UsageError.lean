import LinePipe.CommandLine.HelpPage

/-!
# Usage errors

What can be wrong with the arguments, whatever the command would do.

## Main definitions

- `UsageError`: the errors
- `UsageError.report`: what is shown for one
-/

namespace LinePipe.CommandLine

inductive UsageError where
  /-- An option is wrong. -/
  | option (error : ScanError)
  | badChoice (option value : Text) (choices : List Text)
  /-- The value of an option should be a file, but it is a directory. -/
  | directory (option value : Text)
  /-- An operand is missing. -/
  | missingOperand (name : Text)
  | extraOperands (extra : List Text)
  | unknownCommand (word : Text)
  deriving Repr, DecidableEq

/-- The status with which the program ends when its arguments are wrong. -/
def usageErrorStatus : Nat := 2

namespace UsageError

/-- What to tell about a value that an option cannot have. -/
def invalidValue (option reason : Text) : Text :=
  "Invalid value for ".toList ++ Text.quoted option ++ [':', ' '] ++ reason

def message : UsageError → Text
  | option error => error.message
  | badChoice name value choices =>
    invalidValue name <|
      Text.quoted value ++ " is not one of ".toList ++
        Text.joinWith [',', ' '] (choices.map Text.quoted) ++ ['.']
  | directory name value =>
    invalidValue name ("File ".toList ++ Text.quoted value ++ " is a directory.".toList)
  | missingOperand name => "Missing argument ".toList ++ Text.quoted name ++ ['.']
  | extraOperands extra =>
    "Got unexpected extra argument".toList ++ (if extra.length == 1 then [] else ['s']) ++
      [' ', '('] ++ Text.unwords extra ++ [')']
  | unknownCommand word => "No such command ".toList ++ Text.quoted word ++ ['.']

/-- Whether it is shown how the command is called. That is not done where only the value of an
option is missing or in the way. -/
def showsUsage : UsageError → Bool
  | option (.missingValue _) => false
  | option (.unwantedValue _) => false
  | _ => true

/-- How to call a command, and where to read more. -/
def usageHint (spec : CommandSpec) : Text :=
  usageLine spec ++ ['\n'] ++ "Try '".toList ++ spec.path ++ " --help' for help.\n\n".toList

/-- What is shown when the arguments of a command are wrong. -/
def report (spec : CommandSpec) (e : UsageError) : Text :=
  (if e.showsUsage then usageHint spec else []) ++ "Error: ".toList ++ e.message

end UsageError

end LinePipe.CommandLine
