import LinePipe.Buffer.Basic
import LinePipe.CommandLine.Commands
import LinePipe.CommandLine.UsageError
import LinePipe.Command.Registry
import LinePipe.Collation.Locale
import LinePipe.Console.Verbosity
import LinePipe.Settings.Load

/-!
# Failures of commands

A command can fail because its arguments are wrong, because of an error that it tells the user
together with a status of its own, or because of something that nothing provides for; in that last
case the program breaks down without telling anything.

## Main definitions

- `ExitStatus`: the statuses with which the program ends
- `CommandError`: the errors that a command tells
- `Breakdown`: what nothing provides for
- `Failure`: any of these
-/

namespace LinePipe.CommandLine

/-- How the program ends, as its caller sees it. -/
inductive ExitStatus where
  | success
  /-- Anything else; also an invalid pipeline that was only to be checked. -/
  | failure
  /-- The options do not go together, or the pipeline or line range is invalid. -/
  | usage
  /-- The input is not UTF-8. -/
  | encoding
  /-- There is no such file. -/
  | missingFile
  | pipeline
  /-- A file cannot be read or written. -/
  | access
  /-- The rights for a file do not suffice. -/
  | permission
  | settings
  deriving Repr, DecidableEq

namespace ExitStatus

def all : List ExitStatus :=
  [success, failure, usage, encoding, missingFile, pipeline, access, permission, settings]

def number : ExitStatus → Nat
  | success => 0
  | failure => 1
  | usage => 64
  | encoding => 65
  | missingFile => 66
  | pipeline => 70
  | access => 74
  | permission => 77
  | settings => 78

def name : ExitStatus → Text
  | success => "SUCCESS".toList
  | failure => "FAILURE".toList
  | usage => "USAGE_ERROR".toList
  | encoding => "ENCODING_ERROR".toList
  | missingFile => "FILE_NOT_FOUND".toList
  | pipeline => "PIPELINE_ERROR".toList
  | access => "IO_ERROR".toList
  | permission => "PERMISSION_DENIED".toList
  | settings => "CONFIG_ERROR".toList

end ExitStatus

inductive CommandError where
  /-- The options ask for more and for less output. -/
  | verbosity (conflict : Verbosity.Conflict)
  /-- The result is to be written back, but no file is given. -/
  | inPlaceWithoutFile
  | region (error : RegionError)
  | settings (error : SettingsError)
  | locale (name : Text)
  | pipeline (error : ParseError)
  | missingFile (path : Text)
  | permission (path : Text)
  /-- The input is not UTF-8; `none` stands for the standard input. -/
  | encoding (path : Option Text) (fault : Utf8.Fault)
  | unreadable (path reason : Text)
  | unwritable (path reason : Text)
  | stage (error : PipelineError)
  deriving Repr, DecidableEq

namespace CommandError

def message : CommandError → Text
  | verbosity conflict => conflict.message
  | inPlaceWithoutFile => "--in-place requires a FILE argument.".toList
  | region error => error.message
  | settings error => error.message
  | locale name => (Locale.Failure.unsupported name).message
  | pipeline error => error.message
  | missingFile path => "No such file: ".toList ++ path
  | permission path => "Permission denied: ".toList ++ path
  | encoding path fault =>
    path.getD "STDIN".toList ++ " is not valid UTF-8: ".toList ++ fault.message
  | unreadable path reason => "Cannot read ".toList ++ path ++ [':', ' '] ++ reason
  | unwritable path reason => "Cannot write ".toList ++ path ++ [':', ' '] ++ reason
  | stage error => error.message

def status : CommandError → ExitStatus
  | verbosity _ => .usage
  | inPlaceWithoutFile => .usage
  | region _ => .usage
  | settings _ => .settings
  | locale _ => .settings
  | pipeline _ => .usage
  | missingFile _ => .missingFile
  | permission _ => .permission
  | encoding _ _ => .encoding
  | unreadable _ _ => .access
  | unwritable _ _ => .access
  | stage _ => .pipeline

end CommandError

inductive Breakdown where
  | numeral (error : Text.IntegerError)
  | nullInPath
  /-- Settings cannot be loaded, for a reason other than wrong settings. -/
  | loading (failure : LoadFailure)
  | locale (failure : Locale.Failure)
  /-- A command of the pipeline failed to build its stage, for this reason. -/
  | building (reason : Text)
  | stage (error : PipelineError)
  deriving Repr, DecidableEq

/-- Why a command does not do what it was called for. -/
inductive Failure where
  | usage (error : UsageError)
  | told (error : CommandError)
  | broken (breakdown : Breakdown)
  deriving Repr, DecidableEq

namespace Failure

def ofRange : RangeFailure → Failure
  | .region error => told (.region error)
  | .numeral error => broken (.numeral error)

def ofLoading : LoadFailure → Failure
  | .settings error => told (.settings error)
  | failure => broken (.loading failure)

def ofLocale : Locale.Failure → Failure
  | .unsupported name => told (.locale name)
  | failure => broken (.locale failure)

def ofBuilding : BuildFailure → Failure
  | .rejected error => told (.pipeline error)
  | .broken reason => broken (.building reason)

def ofPipeline : PipelineError → Failure
  | .stageFailed stage index cause => told (.stage (.stageFailed stage index cause))
  | error => broken (.stage error)

def ofReading (path : Text) : AccessError → Failure
  | .nullInPath => broken .nullInPath
  | .refused cause p =>
    if cause.isAbsence then told (.missingFile path)
    else if cause.isPermission then told (.permission path)
    else told (.unreadable path (cause.describe p))

def ofWriting (path : Text) : AccessError → Failure
  | .nullInPath => broken .nullInPath
  | .refused cause p =>
    if cause.isPermission then told (.permission path)
    else told (.unwritable path (cause.describe p))

end Failure

end LinePipe.CommandLine
