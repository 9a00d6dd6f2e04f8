import LinePipe.CommandLine.Apply

/-!
# What a run looks at

The parts of its surroundings that a run of the program may depend on, so that only these have to be
gathered before it starts.

## Main definitions

- `Invocation.runRequest?`: the application of a pipeline that is asked for
- `Invocation.footprint`: the paths that may be looked at
- `Invocation.wantsInput`: whether the standard input may be read
-/

namespace LinePipe.CommandLine.Invocation

/-- The preferences, if the options of the program are right, and the arguments from the command
on. -/
def preferences? (i : Invocation) : Option (Preferences × List Text) :=
  match Preferences.read i.files i.arguments with
  | .ok (.action found) => some found
  | _ => none

/-- The application of a pipeline that is asked for, if that is what is asked for. -/
def runRequest? (i : Invocation) : Option RunRequest :=
  match i.preferences? with
  | some (_, word :: arguments) =>
    if CommandName.ofWord? word == some .run then
      match Request.read i.files .run arguments with
      | .ok (.action (.run r)) => some r
      | _ => none
    else none
  | _ => none

/-- The files of settings that there may be in a directory and above it. -/
def settingsPaths (directory : Path) : List Path :=
  directory.ancestors.flatMap fun d =>
    [d.child Settings.sharedFileName, d.child Settings.ownFileName]

/-- The paths that may be looked at: files of settings from the current directory upwards, the one
that the options name, and the file to which a pipeline is applied. -/
def footprint (i : Invocation) : List Path :=
  settingsPaths (i.files.absolute i.files.current) ++
    ((i.preferences?.bind fun found => found.1.settingsFile).map Path.ofText).toList ++
    ((i.runRequest?.bind RunRequest.file).map Path.ofText).toList

def wantsInput (i : Invocation) : Bool :=
  i.runRequest?.any fun r => r.file.isNone

end LinePipe.CommandLine.Invocation
