import LinePipe.Text.Case
import LinePipe.Text.Quoted

/-!
# When output is coloured

Whether messages get colour depends on what the user asks for, on the environment and on whether
the output goes to a terminal, in this order.

## Main definitions

- `ColourMode`: what the user asks for
- `Environment`: the variables that a run looks at
- `ColourMode.isOn`: the decision
-/

namespace LinePipe

inductive ColourMode where
  /-- The environment decides. -/
  | auto
  | always
  | never
  deriving Repr, DecidableEq

/-- The environment variables that a run looks at; `none` for one that is not set. -/
structure Environment where
  /-- Any value but `0` asks for colour. -/
  forceColour : Option Text := none
  /-- Any value asks for no colour. -/
  noColour : Option Text := none
  /-- The severity from which log records are shown. -/
  logLevel : Option Text := none
  deriving Repr, DecidableEq

def Environment.logLevelName : Text := "TEXTSHELL_LOG_LEVEL".toList

namespace ColourMode

def all : List ColourMode := [auto, always, never]

def name : ColourMode → Text
  | auto => "auto".toList
  | always => "always".toList
  | never => "never".toList

def ofName? (t : Text) : Option ColourMode :=
  all.find? fun mode => mode.name == t

def invalidMessage (t : Text) : Text :=
  Text.quoted t ++ " is not a valid ColorMode".toList

/-- The name of the output format that never has colour. -/
def plainFormat : Text := "json".toList

/-- Whether output is coloured. A format without colour comes first, then what the user asks for,
then the environment; otherwise the output has colour if it goes to a terminal. `terminal` is `none`
where that cannot be told, which counts as no. -/
def isOn (mode : ColourMode) (format : Option Text) (environment : Environment)
    (terminal : Option Bool) : Bool :=
  if format.any fun f => Text.lower f == plainFormat then false
  else
    match mode with
    | always => true
    | never => false
    | auto =>
      if environment.forceColour.getD ['0'] != ['0'] then true
      else if environment.noColour.isSome then false
      else terminal.getD false

end ColourMode

end LinePipe
