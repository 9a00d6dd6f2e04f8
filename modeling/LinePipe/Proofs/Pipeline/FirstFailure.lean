import LinePipe.Proofs.Pipeline.Sink

/-!
# The first stage that fails

A run hands the lines on from stage to stage. It ends with the lines that the last stage leaves, or
at the first stage that fails on the lines it receives. Up to there, and no further, documents are
shown. Where documents go has no part in how the run ends.

## Main definitions

- `Stage.transform`: what a stage makes of the lines that it receives
- `Stage.document?`: the document that a stage puts on a display
- `Pipeline.folded`: the lines handed on from stage to stage
- `Pipeline.FailsAt`: the place of the first stage that fails
- `Pipeline.EndsAtFirstFailure`: how a run ends and what it shows, by that place

## Main statements

- `Pipeline.runStages_of_folded`: a run through stages that pass
- `Pipeline.runStages_of_failing`: a run that comes to a stage that fails
- `Pipeline.exists_failsAt`: a fold that fails does so at some first stage
- `Pipeline.endsAtFirstFailure`: every run ends at its first failing stage, or with the fold
-/

namespace LinePipe

namespace Stage

/-- What a stage makes of the lines that it receives. The sink of a help stage has no part in
it. -/
def transform : Stage → List Text → Except StageFailure (List Text)
  | sort descending collator, lines => .ok (collator.sort descending lines)
  | uniq, lines => .ok lines.eraseDups
  | help _ _, lines => .ok lines
  | custom _ _ f, lines => f lines

/-- The document that a stage puts on a display: that of a help stage whose sink is a display. -/
def document? : Stage → Option Text
  | help document .display => some document
  | _ => none

theorem result_run (stage : Stage) (lines : List Text) :
    (stage.run lines).result = stage.transform lines := by
  cases stage with
  | sort descending collator => rfl
  | uniq => rfl
  | custom name arguments f => rfl
  | help document sink =>
    simp only [run, transform, Outcome.result_bind, result_emit, Outcome.result_pure]
    rfl

theorem shown_run (stage : Stage) (lines : List Text) :
    (stage.run lines).shown = stage.document?.toList := by
  cases stage with
  | sort descending collator => rfl
  | uniq => rfl
  | custom name arguments f => rfl
  | help document sink => cases sink <;> rfl

/-- Help passes its lines through, so a stage that fails has no document. -/
theorem document?_of_failing {stage : Stage} {lines : List Text} {failure : StageFailure}
    (h : stage.transform lines = .error failure) : stage.document? = none := by
  cases stage with
  | sort descending collator => cases h
  | uniq => cases h
  | help document sink => cases h
  | custom name arguments f => rfl

end Stage

namespace Pipeline

/-- The lines that are left when each stage in turn is given what the one before it leaves. -/
def folded (stages : List Stage) (lines : List Text) : Except StageFailure (List Text) :=
  stages.foldlM (fun received stage => stage.transform received) lines

theorem folded_cons (stage : Stage) (rest : List Stage) (lines : List Text) :
    folded (stage :: rest) lines = stage.transform lines >>= folded rest := by
  rw [folded, List.foldlM_cons]
  rfl

/-- The stage at index `k` fails on the lines that reach it, and no stage before it fails. -/
def FailsAt (stages : List Stage) (lines : List Text) (k : Nat) (stage : Stage)
    (failure : StageFailure) : Prop :=
  stages[k]? = some stage ∧
    ∃ received, folded (stages.take k) lines = .ok received ∧
      stage.transform received = .error failure

/-- A stage that passes puts the first failure one place later. -/
theorem FailsAt.cons {first stage : Stage} {rest : List Stage} {lines between : List Text}
    {k : Nat} {failure : StageFailure} (hfirst : first.transform lines = .ok between)
    (h : FailsAt rest between k stage failure) :
    FailsAt (first :: rest) lines (k + 1) stage failure := by
  obtain ⟨hstage, received, hfolded, hfails⟩ := h
  refine ⟨hstage, received, ?_, hfails⟩
  rw [List.take_succ_cons, folded_cons, hfirst]
  exact hfolded

/-- A fold that fails does so at some first stage. -/
theorem exists_failsAt {stages : List Stage} {lines : List Text} {failure : StageFailure}
    (h : folded stages lines = .error failure) : ∃ k stage, FailsAt stages lines k stage failure := by
  induction stages generalizing lines with
  | nil => cases h
  | cons first rest ih =>
    rw [folded_cons] at h
    obtain hfails | ⟨between, hpasses, hrest⟩ := except_bind_eq_error_iff.mp h
    · exact ⟨0, first, rfl, lines, rfl, hfails⟩
    · obtain ⟨k, stage, hk⟩ := ih hrest
      exact ⟨k + 1, stage, hk.cons hpasses⟩

/-- A run through stages that pass leaves the folded lines and shows their documents. -/
theorem runStages_of_folded {stages : List Stage} {lines out : List Text}
    (h : folded stages lines = .ok out) (index : Nat) :
    (runStages index stages lines).result = .ok out ∧
      (runStages index stages lines).shown = stages.filterMap Stage.document? := by
  induction stages generalizing lines index with
  | nil =>
    cases h
    exact ⟨rfl, rfl⟩
  | cons first rest ih =>
    rw [folded_cons] at h
    obtain ⟨between, hfirst, hrest⟩ := except_bind_eq_ok_iff.mp h
    obtain ⟨hresult, hshown⟩ := ih hrest (index + 1)
    have hpassed : (step index first lines).result = .ok between :=
      (step_of_ok index ((first.result_run lines).trans hfirst)).1
    rw [runStages_cons]
    constructor
    · rw [Outcome.result_bind_of_ok hpassed, hresult]
    · rw [Outcome.shown_bind_of_ok hpassed, shown_step, Stage.shown_run, hshown]
      cases hdocument : first.document? with
      | none => rw [List.filterMap_cons_none hdocument, Option.toList_none, List.nil_append]
      | some document =>
        rw [List.filterMap_cons_some hdocument, Option.toList_some, List.singleton_append]

/-- A run that comes to a stage that fails ends there with the report of the failure, and shows the
documents of the stages before it. -/
theorem runStages_of_failing {before : List Stage} {stage : Stage}
    {lines received : List Text} {failure : StageFailure}
    (hbefore : folded before lines = .ok received)
    (hfails : stage.transform received = .error failure) (after : List Stage) (index : Nat) :
    (runStages index (before ++ stage :: after) lines).result =
        .error (Breakage.mk stage.name (index + before.length) failure).report ∧
      (runStages index (before ++ stage :: after) lines).shown =
        before.filterMap Stage.document? := by
  obtain ⟨hresult, hshown⟩ := runStages_of_folded hbefore index
  have hfailed := (step_of_error (index + before.length)
    ((stage.result_run received).trans hfails)).1
  rw [runStages_append]
  constructor
  · rw [Outcome.result_bind_of_ok hresult, runStages_cons, Outcome.result_bind_of_error hfailed]
  · rw [Outcome.shown_bind_of_ok hresult, hshown, runStages_cons,
      Outcome.shown_bind_of_error hfailed, shown_step, Stage.shown_run,
      Stage.document?_of_failing hfails]
    exact List.append_nil _

/-- A run ends at the first failing stage with the report of its failure. -/
theorem execute_of_failsAt {p : Pipeline} {lines : List Text} {k : Nat} {stage : Stage}
    {failure : StageFailure} (h : FailsAt p.stages lines k stage failure) :
    (p.execute lines).result = .error (Breakage.mk stage.name k failure).report ∧
      (p.execute lines).shown = (p.stages.take k).filterMap Stage.document? := by
  obtain ⟨hstage, received, hbefore, hfails⟩ := h
  obtain ⟨hk, hget⟩ := List.getElem?_eq_some_iff.mp hstage
  have hcut : p.stages = p.stages.take k ++ stage :: p.stages.drop (k + 1) := by
    rw [← hget, ← List.drop_eq_getElem_cons hk, List.take_append_drop]
  have hlength : 0 + (p.stages.take k).length = k := by
    rw [List.length_take]
    omega
  have hrun := runStages_of_failing hbefore hfails (p.stages.drop (k + 1)) 0
  rw [← hcut, hlength] at hrun
  constructor
  · rw [result_execute, trial, ← result_runStages]
    exact hrun.1
  · rw [shown_execute]
    exact hrun.2

/-- How a run ends and what it shows. The lines of a run without a failing stage are the left fold of
the stages. Otherwise the first failing stage decides: an error of the pipeline is passed on as it
is, any other failure is told with the name and index of the stage and with its cause. Documents are
shown up to that stage, and where they go does not change the end. -/
structure EndsAtFirstFailure (p : Pipeline) (lines : List Text) : Prop where
  folds : (∀ k stage failure, ¬ FailsAt p.stages lines k stage failure) →
    ∃ out, folded p.stages lines = .ok out ∧ (p.execute lines).result = .ok out ∧
      (p.execute lines).shown = p.stages.filterMap Stage.document?
  passesOn : ∀ k stage error, FailsAt p.stages lines k stage (.pipeline error) →
    (p.execute lines).result = .error error
  wraps : ∀ k stage cause, FailsAt p.stages lines k stage (.unexpected cause) →
    (p.execute lines).result = .error (.stageFailed stage.name k cause)
  shows : ∀ k stage failure, FailsAt p.stages lines k stage failure →
    (p.execute lines).shown = (p.stages.take k).filterMap Stage.document?
  ignoresSinks : ∀ q : Pipeline, q.withSink .absent = p.withSink .absent →
    (q.execute lines).result = (p.execute lines).result

/-- Every run ends at its first failing stage, or with the left fold of its stages. -/
theorem endsAtFirstFailure (p : Pipeline) (lines : List Text) : p.EndsAtFirstFailure lines where
  folds hnone := by
    cases hfolded : folded p.stages lines with
    | error failure =>
      obtain ⟨k, stage, hk⟩ := exists_failsAt hfolded
      exact absurd hk (hnone k stage failure)
    | ok out =>
      obtain ⟨hresult, hshown⟩ := runStages_of_folded hfolded 0
      refine ⟨out, rfl, ?_, ?_⟩
      · rw [result_execute, trial, ← result_runStages]
        exact hresult
      · rw [shown_execute]
        exact hshown
  passesOn _ _ _ h := (execute_of_failsAt h).1
  wraps _ _ _ h := (execute_of_failsAt h).1
  shows _ _ _ h := (execute_of_failsAt h).2
  ignoresSinks q h := by
    rw [← result_execute_withSink .absent q, h, result_execute_withSink]

/-- A stage that fails between two help stages: the first document is shown, the second is not. -/
example :
    let failing := Stage.custom "boom".toList [] fun _ => .error (.unexpected "kaput".toList)
    let p : Pipeline := ⟨[.help ['1'] .display, .uniq, failing, .help ['2'] .display]⟩
    (p.execute [['a']]).result = .error (.stageFailed "boom".toList 2 "kaput".toList) ∧
      (p.execute [['a']]).shown = [['1']] := by
  decide

end Pipeline

end LinePipe
