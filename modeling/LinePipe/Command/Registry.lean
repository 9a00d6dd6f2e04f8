import LinePipe.Pipeline.Stage

/-!
# Commands and registries

A command has a name, a description and a way to build a stage from arguments. A registry is a list
of commands with different names.

## Main definitions

- `CommandInfo`: what there is to tell about a command
- `StageSettings`: what commands are given besides their arguments
- `Command`: a command
- `Registry`: commands with different names; `Registry.ofCommands` makes one
- `Registry.build`: a stage for a command name and arguments
-/

namespace LinePipe

/-- What there is to tell about a command. -/
structure CommandInfo where
  name : Text
  /-- What the command does, in one line. -/
  summary : Text
  /-- The forms in which the command may be written. -/
  usage : List Text := []
  deriving Repr, DecidableEq

structure StageSettings where
  /-- The order used for sorting. -/
  collator : Collator := {}
  sink : Sink := .absent
  /-- The commands that a help document lists; `none` where the registry in use decides. -/
  catalog : Option (List CommandInfo) := none
  deriving Repr, DecidableEq

inductive BuildFailure where
  | rejected (error : ParseError)
  /-- The command itself failed, for this reason. -/
  | broken (reason : Text)
  deriving Repr, DecidableEq

structure Command where
  info : CommandInfo
  build : List Text → StageSettings → Except BuildFailure Stage

/-- The first text of a list that occurs before in it or in `seen`. -/
def firstRepeat? (seen : List Text) : List Text → Option Text
  | [] => none
  | t :: rest => if seen.elem t then some t else firstRepeat? (t :: seen) rest

/-- Commands with different names. -/
structure Registry where
  commands : List Command
  distinct : firstRepeat? [] (commands.map fun c => c.info.name) = none

namespace Registry

/-- The registry of the given commands, or the first name that occurs again. -/
def ofCommands (commands : List Command) : Except Text Registry :=
  match h : firstRepeat? [] (commands.map fun c => c.info.name) with
  | none => .ok ⟨commands, h⟩
  | some name => .error name

/-- What to tell about a name that occurs twice. -/
def duplicateMessage (name : Text) : Text :=
  "Duplicate command name: ".toList ++ Text.quoted name

def catalog (r : Registry) : List CommandInfo :=
  r.commands.map Command.info

def names (r : Registry) : List Text :=
  r.catalog.map CommandInfo.name

def size (r : Registry) : Nat :=
  r.commands.length

def get? (r : Registry) (name : Text) : Option Command :=
  r.commands.find? fun c => c.info.name == name

def contains (r : Registry) (name : Text) : Bool :=
  (r.get? name).isSome

/-- The commands, each under its name. -/
def toList (r : Registry) : List (Text × Command) :=
  r.commands.map fun command => (command.info.name, command)

/-- The settings with this registry's commands to be listed, unless others already are. -/
def fillSettings (r : Registry) (settings : Option StageSettings) : StageSettings :=
  let given := settings.getD {}
  { given with catalog := some (given.catalog.getD r.catalog) }

/-- A stage for a command name and arguments. The position is the place of the stage in a pipeline
text, if it comes from one. -/
def build (r : Registry) (name : Text) (arguments : List Text)
    (settings : Option StageSettings := none) (position : Option Int := none) :
    Outcome BuildFailure Stage := do
  let some command := r.get? name
    | Outcome.fail (.rejected (.unknownCommand name position))
  let stage ← Outcome.ofExcept (command.build arguments (r.fillSettings settings))
  Outcome.log Log.Level.trace <|
    "built stage ".toList ++ name ++ Text.quotedList arguments
  return stage

end Registry

end LinePipe
