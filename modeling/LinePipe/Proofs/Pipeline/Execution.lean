import LinePipe.Pipeline.Basic
import LinePipe.Proofs.Outcome

/-!
# Running stages

A run goes through the stages in order and ends at the first that fails. What the user is told of a
failure depends on who raised it: an error of the pipeline that the stage raised is passed on as it
is, any other failure is wrapped together with the place of the stage. `trial` runs the stages with
the failure kept apart from the report, so the place can be seen and moved.

## Main definitions

- `Breakage`: a failure of a stage, with the place where it happened
- `Pipeline.trial`: a run that ends with the raw failure

## Main statements

- `Pipeline.runStages_append`: two lists of stages in a row
- `Pipeline.result_runStages`: a run reports the failure of the trial
- `Pipeline.trialFrom_add`: stages with `k` more in front of them fail `k` places later
-/

namespace LinePipe

/-- A failure of a stage in a run: the name of the stage, its place counted from 0, and how it
failed. -/
structure Breakage where
  stage : Text
  index : Nat
  failure : StageFailure
  deriving Repr, DecidableEq

namespace Breakage

/-- What a run tells about a failure. An error that the stage raised for the pipeline is told as it
is; any other failure is wrapped with the name and place of the stage. -/
def report (b : Breakage) : PipelineError :=
  match b.failure with
  | .pipeline error => error
  | .unexpected reason => .stageFailed b.stage b.index reason

/-- The same failure `k` places later. -/
def later (k : Nat) (b : Breakage) : Breakage :=
  { b with index := b.index + k }

end Breakage

namespace Pipeline

/-- Stages applied to lines in turn, the first of them having the given index, with the first
failure as it was raised. -/
def trialFrom (index : Nat) : List Stage → List Text → Except Breakage (List Text)
  | [], lines => .ok lines
  | stage :: rest, lines =>
    match (stage.run lines).result with
    | .ok out => trialFrom (index + 1) rest out
    | .error failure => .error ⟨stage.name, index, failure⟩

/-- The pipeline applied to lines, with the first failure as it was raised. -/
def trial (p : Pipeline) (lines : List Text) : Except Breakage (List Text) :=
  trialFrom 0 p.stages lines

/-- A stage that succeeds hands its lines on, and only logs are added to what it did. -/
theorem step_of_ok {stage : Stage} {lines out : List Text} (index : Nat)
    (h : (stage.run lines).result = .ok out) :
    (step index stage lines).result = .ok out ∧
      (step index stage lines).shown = (stage.run lines).shown := by
  simp only [step, h, Outcome.shown, List.filterMap_append, List.filterMap_cons,
    List.filterMap_nil, List.append_nil, and_self]

/-- A stage that fails ends the run with the report of its failure. -/
theorem step_of_error {stage : Stage} {lines : List Text} {failure : StageFailure} (index : Nat)
    (h : (stage.run lines).result = .error failure) :
    (step index stage lines).result = .error (Breakage.mk stage.name index failure).report ∧
      (step index stage lines).shown = (stage.run lines).shown := by
  cases failure with
  | pipeline error => simp only [step, h, Breakage.report, Outcome.shown, and_self]
  | unexpected reason =>
    simp only [step, h, Breakage.report, Outcome.shown, List.filterMap_append,
      List.filterMap_cons, List.filterMap_nil, List.append_nil, and_self]

/-- The index of a stage is told in logs and failures only: what it shows does not depend on it. -/
theorem shown_step (index : Nat) (stage : Stage) (lines : List Text) :
    (step index stage lines).shown = (stage.run lines).shown := by
  cases h : (stage.run lines).result with
  | ok out => exact (step_of_ok index h).2
  | error failure => exact (step_of_error index h).2

theorem runStages_cons (index : Nat) (stage : Stage) (rest : List Stage) (lines : List Text) :
    runStages index (stage :: rest) lines =
      step index stage lines >>= runStages (index + 1) rest :=
  rfl

/-- Two lists of stages in a row: the second runs on what the first leaves, and its stages are
counted on from those of the first. -/
theorem runStages_append (front back : List Stage) (index : Nat) (lines : List Text) :
    runStages index (front ++ back) lines =
      runStages index front lines >>= runStages (index + front.length) back := by
  induction front generalizing index lines with
  | nil =>
    change _ = (pure lines : Outcome PipelineError (List Text)) >>= _
    rw [Outcome.value_bind]
    rfl
  | cons stage front ih =>
    -- The first stage takes one place, so the others are counted from one place further on.
    have hindex : index + 1 + front.length = index + (front.length + 1) := by omega
    rw [List.cons_append, runStages_cons, runStages_cons, Outcome.bind_assoc, List.length_cons]
    congr 1
    funext out
    rw [ih, hindex]

/-- A run ends as the trial does, with the report of the failure in its place. -/
theorem result_runStages (stages : List Stage) (index : Nat) (lines : List Text) :
    (runStages index stages lines).result =
      (trialFrom index stages lines).mapError Breakage.report := by
  induction stages generalizing index lines with
  | nil => rfl
  | cons stage rest ih =>
    rw [runStages_cons, Outcome.result_bind, trialFrom]
    cases h : (stage.run lines).result with
    | ok out =>
      rw [(step_of_ok index h).1]
      exact ih (index + 1) out
    | error failure =>
      rw [(step_of_error index h).1]
      rfl

/-- Stages that are counted from `k` places further on fail `k` places later, and otherwise the
same. -/
theorem trialFrom_add (stages : List Stage) (index k : Nat) (lines : List Text) :
    trialFrom (index + k) stages lines =
      (trialFrom index stages lines).mapError (Breakage.later k) := by
  induction stages generalizing index lines with
  | nil => rfl
  | cons stage rest ih =>
    have hindex : index + k + 1 = index + 1 + k := by omega
    rw [trialFrom, trialFrom]
    cases (stage.run lines).result with
    | ok out =>
      simp only [hindex]
      exact ih (index + 1) out
    | error failure => rfl

/-- Two lists of stages in a row fail where the first of them fails. -/
theorem trialFrom_append (front back : List Stage) (index : Nat) (lines : List Text) :
    trialFrom index (front ++ back) lines =
      (trialFrom index front lines).bind (trialFrom (index + front.length) back) := by
  induction front generalizing index lines with
  | nil => rfl
  | cons stage front ih =>
    have hindex : index + 1 + front.length = index + (front.length + 1) := by omega
    rw [List.cons_append, trialFrom, trialFrom, List.length_cons]
    cases (stage.run lines).result with
    | ok out =>
      simp only [← hindex]
      exact ih (index + 1) out
    | error failure => rfl

/-- What stages show does not depend on where they are counted from. -/
theorem shown_runStages (stages : List Stage) (index index' : Nat) (lines : List Text) :
    (runStages index stages lines).shown = (runStages index' stages lines).shown := by
  induction stages generalizing index index' lines with
  | nil => rfl
  | cons stage rest ih =>
    rw [runStages_cons, runStages_cons]
    cases h : (stage.run lines).result with
    | ok out =>
      rw [Outcome.shown_bind_of_ok (step_of_ok index h).1,
        Outcome.shown_bind_of_ok (step_of_ok index' h).1, shown_step, shown_step, ih]
    | error failure =>
      rw [Outcome.shown_bind_of_error (step_of_error index h).1,
        Outcome.shown_bind_of_error (step_of_error index' h).1, shown_step, shown_step]

theorem result_execute (p : Pipeline) (lines : List Text) :
    (p.execute lines).result = (p.trial lines).mapError Breakage.report := by
  rw [execute, Outcome.result_bind]
  exact result_runStages p.stages 0 lines

theorem shown_execute (p : Pipeline) (lines : List Text) :
    (p.execute lines).shown = (runStages 0 p.stages lines).shown := by
  rw [execute, Outcome.shown_bind_of_ok rfl]
  rfl

/-- A trial that ends with lines is a run that does. -/
theorem trial_eq_ok_iff {p : Pipeline} {lines out : List Text} :
    p.trial lines = .ok out ↔ (p.execute lines).result = .ok out := by
  rw [result_execute, except_mapError_eq_ok_iff]

end Pipeline

end LinePipe
