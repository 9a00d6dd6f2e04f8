import LinePipe.Command.HelpDocument

/-!
# The built-in commands

Three commands: sorting, dropping repeated lines, and help.

## Main definitions

- `Builtin.sort`, `Builtin.uniq`, `Builtin.help`: how each builds its stage
- `Builtin.commands`: the commands
- `Registry.builtin`: their registry
-/

namespace LinePipe

namespace Builtin

/-- The argument lists that the sort command takes, each with whether it means descending order. -/
def sortForms : List (List Text × Bool) :=
  [([], false), (["asc".toList], false), (["-d".toList], true), (["desc".toList], true)]

/-- An argument list as it is shown among the allowed ones. -/
def showForm (form : List Text) : Text :=
  if form.isEmpty then "(none)".toList else Text.unwords form

/-- The sort command takes exactly the argument lists of `sortForms`. -/
def sort (arguments : List Text) (settings : StageSettings) : Except BuildFailure Stage :=
  match sortForms.lookup arguments with
  | some descending => .ok (.sort descending settings.collator)
  | none =>
    .error (.rejected (.invalidArguments "sort".toList arguments
      (sortForms.map fun form => showForm form.1)))

def uniq (arguments : List Text) (_ : StageSettings) : Except BuildFailure Stage :=
  if arguments.isEmpty then .ok .uniq
  else .error (.rejected (.invalidArguments "uniq".toList arguments [showForm []]))

def sortInfo : CommandInfo where
  name := "sort".toList
  summary := "Sort the lines (numbers inside lines compare by value).".toList
  usage := ["sort".toList, "sort asc".toList, "sort -d".toList, "sort desc".toList]

def uniqInfo : CommandInfo where
  name := "uniq".toList
  summary := "Drop repeated lines, keeping the first occurrence.".toList
  usage := ["uniq".toList]

def helpInfo : CommandInfo where
  name := "help".toList
  summary := "Show this help; the lines pass through unchanged.".toList
  usage := ["help".toList]

/-- The help command ignores its arguments. It lists the commands of the settings. -/
def help (_ : List Text) (settings : StageSettings) : Except BuildFailure Stage :=
  let listed := settings.catalog.getD [sortInfo, uniqInfo, helpInfo]
  .ok (.help (HelpDocument.render listed) settings.sink)

def commands : List Command :=
  [⟨sortInfo, sort⟩, ⟨uniqInfo, uniq⟩, ⟨helpInfo, help⟩]

end Builtin

def Registry.builtin : Registry where
  commands := Builtin.commands
  distinct := by decide

end LinePipe
