import LinePipe.Proofs.Pipeline.Execution
import LinePipe.Proofs.Pipeline.Language

/-!
# Checking a pipeline text

Parsing a text only to see whether it is a pipeline goes through the same stages as parsing it to
run it, so both fail alike; but what comes out is the pipeline that does nothing.

## Main statements

- `Pipeline.result_parse_checkOnly`: checking ends as parsing does, with the identity for pipelines
- `Pipeline.result_check_of_written`, `Pipeline.result_check_of_wrong`: what a check finds
-/

namespace LinePipe.Pipeline

section Parsing

variable (registry : Registry) (settings : Option StageSettings) (text : Text)

theorem result_parse_checkOnly :
    (parse text true registry settings).result =
      (parse text false registry settings).result.map fun _ => identity := by
  rw [result_parse, result_parse]
  cases attempt registry settings text <;> rfl

/-- Nothing is shown while stages are built. -/
theorem shown_build (settings : StageSettings) (tokens : List StageToken) :
    (build registry settings tokens).shown = [] := by
  induction tokens with
  | nil => rfl
  | cons token rest ih =>
    rw [build]
    split
    · rfl
    · have hstage : (registry.build token.name token.arguments (some settings)
          (some token.position)).shown = [] := by
        rw [Registry.build]
        split
        · rename_i command _
          cases command.build token.arguments (registry.fillSettings (some settings)) <;> rfl
        · rfl
      cases hbuild : (registry.build token.name token.arguments (some settings)
          (some token.position)).result with
      | error failure => rw [Outcome.shown_bind_of_error hbuild, hstage]
      | ok stage =>
        rw [Outcome.shown_bind_of_ok hbuild, hstage, List.nil_append]
        cases hrest : (build registry settings rest).result with
        | error failure => rw [Outcome.shown_bind_of_error hrest, ih]
        | ok stages => rw [Outcome.shown_bind_of_ok hrest, ih, Outcome.shown_pure, List.append_nil]

/-- Nothing is shown while a text is parsed. -/
theorem shown_parse (checkOnly : Bool) : (parse text checkOnly registry settings).shown = [] := by
  have hbuild := shown_build registry (registry.fillSettings settings) (StageToken.scan text)
  rw [Outcome.shown] at hbuild
  rw [parse]
  split
  · rw [Outcome.shown, List.filterMap_append, hbuild]
    rfl
  · rw [Outcome.shown, List.filterMap_append, hbuild]
    rfl
  · exact hbuild

end Parsing

section Checking

variable {text : Text}

/-- A check finds nothing wrong with a text that is a pipeline. -/
theorem result_check_of_written {forms : List StageForm} (h : Written text forms) :
    (check text).result = .ok none := by
  have hparse := result_parse_checkOnly Registry.builtin none text
  rw [result_parse_of_written h] at hparse
  rw [check]
  dsimp only
  rw [hparse]
  rfl

/-- A check finds what is wrong with a text that is no pipeline. -/
theorem result_check_of_wrong {error : ParseError} (h : Wrong text error) :
    (check text).result = .ok (some error) := by
  have hparse := result_parse_checkOnly Registry.builtin none text
  rw [result_parse_of_wrong h] at hparse
  rw [check]
  dsimp only
  rw [hparse]
  rfl

end Checking

end LinePipe.Pipeline
