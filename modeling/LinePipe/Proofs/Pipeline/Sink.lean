import LinePipe.Proofs.Pipeline.Building
import LinePipe.Proofs.Pipeline.Execution

/-!
# Where help documents go

Help leaves the lines alone, so where its documents go decides what a run shows and logs, but not
how it ends. That holds for all registries whose commands do no more with the sink than to hand it
on to the help stages that they build.

## Main definitions

- `Stage.withSink`, `Pipeline.withSink`: the same stages with another sink
- `Registry.PassesSink`: commands hand the sink on

## Main statements

- `Registry.passesSink_builtin`: the built-in commands do
- `Pipeline.parse_withSink`: a text stands for the same pipeline, but for the sink
- `Pipeline.result_execute_withSink`: the sink does not decide how a run ends
-/

namespace LinePipe

namespace Stage

/-- The same stage with another sink, if it is a help stage. -/
def withSink (sink : Sink) : Stage → Stage
  | help document _ => help document sink
  | stage => stage

theorem name_withSink (sink : Sink) (stage : Stage) : (stage.withSink sink).name = stage.name := by
  cases stage <;> rfl

theorem result_emit (document : Text) (sink : Sink) : (emit document sink).result = .ok () := by
  cases sink <;> rfl

theorem result_run_withSink (sink : Sink) (stage : Stage) (lines : List Text) :
    ((stage.withSink sink).run lines).result = (stage.run lines).result := by
  cases stage with
  | sort descending collator => rfl
  | uniq => rfl
  | custom name arguments transform => rfl
  | help document sink' =>
    simp only [withSink, run, Outcome.result_bind, result_emit, Outcome.result_pure]

end Stage

namespace Pipeline

def withSink (sink : Sink) (p : Pipeline) : Pipeline where
  stages := p.stages.map (Stage.withSink sink)

theorem trialFrom_withSink (sink : Sink) (stages : List Stage) (index : Nat)
    (lines : List Text) :
    trialFrom index (stages.map (Stage.withSink sink)) lines = trialFrom index stages lines := by
  induction stages generalizing index lines with
  | nil => rfl
  | cons stage rest ih =>
    rw [List.map_cons, trialFrom, trialFrom, Stage.result_run_withSink, Stage.name_withSink]
    cases (stage.run lines).result with
    | error failure => rfl
    | ok out => exact ih (index + 1) out

/-- The sink does not decide how a run ends. -/
theorem result_execute_withSink (sink : Sink) (p : Pipeline) (lines : List Text) :
    ((p.withSink sink).execute lines).result = (p.execute lines).result := by
  rw [result_execute, result_execute, trial, trial, withSink, trialFrom_withSink]

end Pipeline

/-- The commands do no more with the sink than to hand it on to the help stages that they build. -/
def Registry.PassesSink (registry : Registry) : Prop :=
  ∀ command ∈ registry.commands, ∀ arguments settings sink,
    command.build arguments { settings with sink } =
      (command.build arguments settings).map (Stage.withSink sink)

theorem Registry.passesSink_builtin : Registry.builtin.PassesSink := by
  intro command hcommand arguments settings sink
  simp only [builtin, Builtin.commands, List.mem_cons, List.not_mem_nil, or_false] at hcommand
  obtain rfl | rfl | rfl := hcommand
  · dsimp only [Builtin.sort]
    split <;> rfl
  · dsimp only [Builtin.uniq]
    split <;> rfl
  · rfl

namespace Pipeline

variable {registry : Registry} (h : registry.PassesSink)
include h

theorem resolve_withSink (settings : StageSettings) (sink : Sink) (token : StageToken) :
    resolve registry { settings with sink } token =
      (resolve registry settings token).map (Stage.withSink sink) := by
  rw [resolve, resolve]
  split
  · rfl
  · cases hget : registry.get? token.name with
    | none => rfl
    | some command =>
      dsimp only
      rw [h command (List.mem_of_find?_eq_some hget)]
      cases command.build token.arguments settings <;> rfl

theorem mapM_resolve_withSink (settings : StageSettings) (sink : Sink)
    (tokens : List StageToken) :
    tokens.mapM (resolve registry { settings with sink }) =
      (tokens.mapM (resolve registry settings)).map (List.map (Stage.withSink sink)) := by
  induction tokens with
  | nil => rfl
  | cons token rest ih =>
    rw [List.mapM_cons, List.mapM_cons, resolve_withSink h, ih]
    cases resolve registry settings token with
    | error refusal => rfl
    | ok stage => cases rest.mapM (resolve registry settings) <;> rfl

/-- A text stands for the same pipeline, but for the sink, or is refused in the same way. -/
theorem parse_withSink (settings : StageSettings) (sink : Sink) (text : Text) :
    (parse text false registry (some { settings with sink })).result =
      (parse text false registry (some settings)).result.map (withSink sink) := by
  have hattempt : attempt registry (some { settings with sink }) text =
      (attempt registry (some settings) text).map (List.map (Stage.withSink sink)) :=
    mapM_resolve_withSink h (registry.fillSettings (some settings)) sink _
  rw [result_parse, result_parse, hattempt]
  cases attempt registry (some settings) text <;> rfl

end Pipeline

end LinePipe
