import LinePipe.CommandLine.Failure
import LinePipe.Log.Line

/-!
# Requests

What the arguments ask for, once they are found to be right. Values of options are looked at in the
order in which the options were first used; of an option that is used several times the last value
counts.

## Main definitions

- `Preferences`: what the options of the program itself ask for
- `Request`: a command with what it was given
- `Preferences.read`, `Request.read`: reading them from arguments
-/

namespace LinePipe.CommandLine

inductive Asked (α : Type) where
  /-- To be told how the command is used. -/
  | help
  | action (a : α)
  deriving Repr, DecidableEq

/-! ## Options of the program -/

/-- What the options of the program itself ask for. -/
structure Preferences where
  /-- How often more output was asked for. -/
  verbose : Nat := 0
  /-- How often less output was asked for. -/
  quiet : Nat := 0
  colour : ColourMode := .auto
  /-- One more file of settings. -/
  settingsFile : Option Text := none
  /-- Whether files of settings are not searched for. -/
  isolated : Bool := false
  deriving Repr, DecidableEq

/-- A value that must be one of some choices. -/
def checkChoice (option : Text) (choices : List Text) (value : Text) : Except Failure Unit :=
  if choices.elem value then .ok () else .error (.usage (.badChoice option value choices))

/-- A value that must not be a directory. The empty text names nothing. -/
def checkFile (files : Files) (option value : Text) : Except Failure Unit :=
  let path := Path.ofText value
  if Files.holdsNull path then .error (.broken .nullInPath)
  else if !value.isEmpty && files.isDirectory path then .error (.usage (.directory option value))
  else .ok ()

/-- Whether an option has a value that it takes. -/
def checkUse (files : Files) (use : OptionUse) : Except Failure Unit :=
  match use.name with
  | .colour => checkChoice "--color".toList (ColourMode.all.map ColourMode.name) use.value
  | .newline => checkChoice "--newline".toList (NewlineMode.all.map NewlineMode.name) use.value
  | .format => checkChoice "--format".toList (ReportFormat.all.map ReportFormat.name) use.value
  | .config => checkFile files "--config".toList use.value
  | _ => .ok ()

def unlessEmpty (t : Text) : Option Text :=
  if t.isEmpty then none else some t

def Preferences.ofScan (s : Scan) : Preferences where
  verbose := s.count .verbose
  quiet := s.count .quiet
  colour :=
    if s.has .noColour then .never
    else ((s.value? .colour).bind ColourMode.ofName?).getD .auto
  settingsFile := (s.value? .config).bind unlessEmpty
  isolated := s.has .noConfig

/-- The options of the program among arguments, and the arguments from the command on. -/
def Preferences.read (files : Files) (arguments : List Text) :
    Except Failure (Asked (Preferences × List Text)) :=
  match scan programOptions false arguments with
  | .error e => .error (.usage (.option e))
  | .ok s =>
    if s.has .help then .ok .help
    else (s.decisive.forM (checkUse files)).map fun _ =>
      .action (Preferences.ofScan s, s.operands)

/-! ## Commands -/

/-- What a pipeline is to be applied to, and how. -/
structure RunRequest where
  pipeline : Text
  /-- The file as it was named; `none` for the standard input. -/
  file : Option Text := none
  /-- The line range; `none` for all lines. -/
  lines : Option Text := none
  /-- Whether the result is written back. -/
  inPlace : Bool := false
  locale : Option Text := none
  numeric : Option Bool := none
  newline : Option NewlineMode := none
  deriving Repr, DecidableEq

inductive Request where
  | run (request : RunRequest)
  | check (pipeline : Text) (format : ReportFormat)
  | commands (format : ReportFormat)
  | help
  | version (format : ReportFormat)
  deriving Repr, DecidableEq

/-- What stands for the standard input where a file can be named. -/
def standardInput : Text := ['-']

/-- What a command is asked for by the options and operands found. -/
def Request.ofScan (name : CommandName) (s : Scan) : Request :=
  let format := ((s.value? .format).bind ReportFormat.ofName?).getD .terminal
  match name with
  | .check => check (s.operands.headD []) format
  | .commands => commands format
  | .help => help
  | .version => version format
  | .run =>
    run
      { pipeline := s.operands.headD []
        file := (s.operands[1]?).filter (· != standardInput)
        lines := (s.value? .lines).bind unlessEmpty
        inPlace := s.has .inPlace
        locale := s.value? .locale
        numeric := (s.last? .numeric).map OptionUse.affirmed
        newline := (s.value? .newline).bind NewlineMode.ofName? }

/-- Whether operands are as many as a command takes: all that are not in brackets, and not more than
there are. -/
def checkOperands (names operands : List Text) : Except Failure Unit :=
  match names, operands with
  | [], [] => .ok ()
  | [], extra => .error (.usage (.extraOperands extra))
  | name :: _, [] =>
    if name.head? == some '[' then .ok () else .error (.usage (.missingOperand name))
  | _ :: names, _ :: operands => checkOperands names operands

/-- What a command is asked for by its arguments. -/
def Request.read (files : Files) (name : CommandName) (arguments : List Text) :
    Except Failure (Asked Request) :=
  match scan name.options true arguments with
  | .error e => .error (.usage (.option e))
  | .ok s =>
    if s.has .help then .ok .help
    else do
      s.decisive.forM (checkUse files)
      checkOperands name.operands s.operands
      return .action (Request.ofScan name s)

end LinePipe.CommandLine
