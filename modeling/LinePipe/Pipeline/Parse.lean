import LinePipe.Command.Builtin
import LinePipe.Pipeline.Basic

/-!
# Parsing pipelines

A pipeline text is resolved stage by stage against a registry. The first stage that cannot be built
ends the work; nothing is built from the stages after it.

## Main definitions

- `Pipeline.build`: the stages for tokens
- `Pipeline.parse`: the pipeline that a text stands for
- `Pipeline.check`: the parse error of a text, if it has one
-/

namespace LinePipe.Pipeline

/-- The stages for tokens, in order, up to the first that cannot be built. -/
def build (registry : Registry) (settings : StageSettings) :
    List StageToken → Outcome BuildFailure (List Stage)
  | [] => return []
  | token :: rest => do
    if token.name.isEmpty then Outcome.fail (.rejected (.emptyCommand token.position))
    else
      let stage ← registry.build token.name token.arguments (some settings) (some token.position)
      let stages ← build registry settings rest
      return stage :: stages

/-- The log message for a text that is no pipeline. -/
def rejectedRecord (text : Text) (error : ParseError) : Record :=
  ⟨Log.Level.debug,
    "parse failed for ".toList ++ Text.quoted text ++ [':', ' '] ++ error.message⟩

/-- The log message for a text that was parsed. -/
def parsedRecord (text : Text) (checkOnly : Bool) (stages : List Stage) : Record :=
  if checkOnly || stages.isEmpty then
    ⟨Log.Level.trace, "parse(".toList ++ Text.quoted text ++ ", check=".toList ++
      (if checkOnly then "True".toList else "False".toList) ++ ") -> identity".toList⟩
  else
    ⟨Log.Level.debug, "parsed ".toList ++ Text.quoted text ++ " -> ".toList ++
      (Pipeline.mk stages).describe⟩

/-- The pipeline that a text stands for. Where only the validity of the text is wanted the pipeline
is the identity. Without settings the plain ones are used, with the registry's own commands listed
by help. -/
def parse (text : Text) (checkOnly : Bool := false) (registry : Registry := Registry.builtin)
    (settings : Option StageSettings := none) : Outcome BuildFailure Pipeline :=
  let built := build registry (registry.fillSettings settings) (StageToken.scan text)
  match built.result with
  | .ok stages =>
    ⟨built.events ++ [.logged (parsedRecord text checkOnly stages)],
      .ok (if checkOnly then identity else ⟨stages⟩)⟩
  | .error (.rejected error) =>
    ⟨built.events ++ [.logged (rejectedRecord text error)], .error (.rejected error)⟩
  | .error (.broken reason) => ⟨built.events, .error (.broken reason)⟩

def check (text : Text) (registry : Registry := Registry.builtin) :
    Outcome BuildFailure (Option ParseError) :=
  let parsed := parse text true registry
  ⟨parsed.events,
    match parsed.result with
    | .ok _ => .ok none
    | .error (.rejected error) => .ok (some error)
    | .error (.broken reason) => .error (.broken reason)⟩

end LinePipe.Pipeline
