import LinePipe.Proofs.Pipeline.Building
import LinePipe.Proofs.Pipeline.Execution

/-!
# The pipe is composition

A pipe character between two texts puts the one pipeline behind the other. All that counts stages is
counted on in the second half: the places in the failures of the parser and of the registry, and the
place in a failure that a run wraps. What a command or a stage says itself stays as it is.

## Main definitions

- `Pipeline.append`: the stages of one pipeline followed by those of another
- `Pipeline.Composes`: what it means that a pipe character composes two texts

## Main statements

- `Pipeline.trial_append`: a run of appended pipelines
- `Pipeline.composes_of_not_blank`: a pipe character composes any two texts that are not blank
-/

namespace LinePipe.Pipeline

/-- The stages of one pipeline followed by those of another. -/
def append (p q : Pipeline) : Pipeline :=
  ⟨p.stages ++ q.stages⟩

/-- The second pipeline runs on what the first leaves, and fails as many places later as the first
has stages. -/
theorem trial_append (p q : Pipeline) (lines : List Text) :
    (p.append q).trial lines =
      (p.trial lines).bind fun between =>
        (q.trial between).mapError (Breakage.later p.stages.length) := by
  have hlater (between : List Text) :
      trialFrom (0 + p.stages.length) q.stages between =
        (q.trial between).mapError (Breakage.later p.stages.length) :=
    trialFrom_add q.stages 0 p.stages.length between
  rw [trial, append, trialFrom_append]
  simp only [← hlater]
  rfl

/-- If the first pipeline fails, nothing of the second is run. -/
theorem execute_append_of_error {p : Pipeline} {lines : List Text} {error : PipelineError}
    (h : (p.execute lines).result = .error error) (q : Pipeline) :
    ((p.append q).execute lines).result = .error error ∧
      ((p.append q).execute lines).shown = (p.execute lines).shown := by
  have hstages : (runStages 0 p.stages lines).result = .error error := by
    rw [← h, result_execute, result_runStages]
    rfl
  constructor
  · rw [result_execute, except_mapError_eq_error_iff] at h
    obtain ⟨breakage, htrial, hreport⟩ := h
    rw [result_execute, trial_append, htrial, ← hreport]
    rfl
  · rw [shown_execute, shown_execute, append, runStages_append,
      Outcome.shown_bind_of_error hstages]

/-- If the first pipeline leaves lines, the second goes on from them. -/
theorem execute_append_of_ok {p : Pipeline} {lines between : List Text}
    (h : (p.execute lines).result = .ok between) (q : Pipeline) :
    ((p.append q).execute lines).result =
        ((q.trial between).mapError (Breakage.later p.stages.length)).mapError Breakage.report ∧
      ((p.append q).execute lines).shown =
        (p.execute lines).shown ++ (q.execute between).shown := by
  have hstages : (runStages 0 p.stages lines).result = .ok between := by
    rw [← h, result_execute, result_runStages]
    rfl
  constructor
  · rw [result_execute, trial_append, trial_eq_ok_iff.mpr h]
    rfl
  · rw [shown_execute, shown_execute, shown_execute, append, runStages_append,
      Outcome.shown_bind_of_ok hstages, shown_runStages q.stages (0 + p.stages.length) 0]

/-- The attempt at two texts with a pipe character between them: first the one, then the other. -/
theorem attempt_pipe (registry : Registry) (settings : Option StageSettings) {a b : Text}
    (ha : ¬ Text.isAllBlank a) (hb : ¬ Text.isAllBlank b) :
    attempt registry settings (a ++ pipeChar :: b) =
      (attempt registry settings a).bind fun front =>
        ((attempt registry settings b).mapError (Refusal.later front.length)).map (front ++ ·) := by
  rw [attempt, attempt, attempt, StageToken.scan_pipe ha hb, List.mapM_append,
    mapM_resolve_later]
  -- The second text is only looked at if the first has given stages, one for each of its tokens.
  cases hfront : (StageToken.scan a).mapM (resolve registry (registry.fillSettings settings)) with
  | error refusal => rfl
  | ok front =>
    have hlength : front.length = (StageToken.scan a).length := length_of_mapM_resolve hfront
    simp only [bind, Except.bind, hlength]
    cases (StageToken.scan b).mapM (resolve registry (registry.fillSettings settings)) <;> rfl

/-- The pipelines `p` and `q` run in turn where the stages of `q` stand behind those of `p`. -/
structure RunsInTurn (p q : Pipeline) : Prop where
  /-- A failure in the first half is told unchanged, and nothing else is shown. -/
  first_fails : ∀ lines error, (p.execute lines).result = .error error →
    ((p.append q).execute lines).result = .error error ∧
      ((p.append q).execute lines).shown = (p.execute lines).shown
  /-- Otherwise the second half goes on from what the first half leaves, and shows its documents
  after those of the first half. -/
  first_succeeds : ∀ lines between, (p.execute lines).result = .ok between →
    ((p.append q).execute lines).shown = (p.execute lines).shown ++ (q.execute between).shown ∧
      ∀ out, (q.execute between).result = .ok out →
        ((p.append q).execute lines).result = .ok out
  /-- A failure in the second half is that of the second pipeline alone, with the stages of the
  first counted where the run wraps the failure. -/
  second_fails : ∀ lines between error, (p.execute lines).result = .ok between →
    (q.execute between).result = .error error →
    ∃ breakage, q.trial between = .error breakage ∧ breakage.report = error ∧
      ((p.append q).execute lines).result = .error (breakage.later p.stages.length).report
  /-- An error that a stage of the second raises for the pipeline is told as it is. -/
  raised_unchanged : ∀ lines between stage index error, (p.execute lines).result = .ok between →
    q.trial between = .error ⟨stage, index, .pipeline error⟩ →
    ((p.append q).execute lines).result = .error error
  /-- The stage number in the message about a wrapped failure is counted in the same way. -/
  wrapped_message : ∀ lines between stage index reason, (p.execute lines).result = .ok between →
    q.trial between = .error ⟨stage, index, .unexpected reason⟩ →
    ∃ error, ((p.append q).execute lines).result = .error error ∧
      error.message = "Stage ".toList ++ Text.ofNat (index + p.stages.length + 1) ++ [' ', '('] ++
        Text.quoted stage ++ ") failed: ".toList ++ reason

/-- A pipe character between two texts composes the pipelines that they stand for. -/
structure Composes (registry : Registry) (settings : Option StageSettings) (a b : Text) :
    Prop where
  /-- If the first text is no pipeline, its failure is that of the whole. -/
  first_refused : ∀ failure, (parse a false registry settings).result = .error failure →
    (parse (a ++ pipeChar :: b) false registry settings).result = .error failure
  /-- If only the second text is no pipeline, its failure is that of the whole, with the stages of
  the first counted where the parser or the registry counts stages. -/
  second_refused : ∀ p failure, (parse a false registry settings).result = .ok p →
    (parse b false registry settings).result = .error failure →
    ∃ refusal, attempt registry settings b = .error refusal ∧ refusal.report = failure ∧
      (parse (a ++ pipeChar :: b) false registry settings).result =
        .error (refusal.later p.stages.length).report
  /-- What a command of the second text says itself is told as it is. -/
  command_unchanged : ∀ p failure, (parse a false registry settings).result = .ok p →
    attempt registry settings b = .error (.command failure) →
    (parse (a ++ pipeChar :: b) false registry settings).result = .error failure
  /-- The stage number in the message about an empty stage is counted in the same way. -/
  empty_message : ∀ p position, (parse a false registry settings).result = .ok p →
    attempt registry settings b = .error (.emptyStage position) →
    ∃ error, (parse (a ++ pipeChar :: b) false registry settings).result =
        .error (.rejected error) ∧
      error.message = "Empty command at stage ".toList ++
        Text.ofNat (position + p.stages.length) ++ " (stray '|'?)".toList
  /-- If both texts are pipelines, the whole has the stages of the first and then those of the
  second, and the two run in turn. -/
  accepted : ∀ p q, (parse a false registry settings).result = .ok p →
    (parse b false registry settings).result = .ok q →
    (parse (a ++ pipeChar :: b) false registry settings).result = .ok (p.append q) ∧
      RunsInTurn p q

/-- Any two pipelines run in turn if the stages of one stand behind those of the other. -/
theorem runsInTurn (p q : Pipeline) : RunsInTurn p q where
  first_fails := fun _ _ h => execute_append_of_error h q
  first_succeeds := by
    intro lines between h
    obtain ⟨hresult, hshown⟩ := execute_append_of_ok h q
    refine ⟨hshown, ?_⟩
    intro out hout
    rw [hresult, trial_eq_ok_iff.mpr hout]
    rfl
  second_fails := by
    intro lines between error h herror
    rw [result_execute, except_mapError_eq_error_iff] at herror
    obtain ⟨breakage, htrial, hreport⟩ := herror
    refine ⟨breakage, htrial, hreport, ?_⟩
    rw [(execute_append_of_ok h q).1, htrial]
    rfl
  raised_unchanged := by
    intro lines between stage index error h ht
    rw [(execute_append_of_ok h q).1, ht]
    rfl
  wrapped_message := by
    intro lines between stage index reason h ht
    refine ⟨.stageFailed stage ↑(index + p.stages.length) reason, ?_, rfl⟩
    rw [(execute_append_of_ok h q).1, ht]
    rfl

/-- A pipe character composes any two texts that are not blank. A blank half would be the identity
on its own but an empty stage behind or before a pipe character. -/
theorem composes_of_not_blank (registry : Registry) (settings : Option StageSettings) {a b : Text}
    (ha : ¬ Text.isAllBlank a) (hb : ¬ Text.isAllBlank b) : Composes registry settings a b where
  first_refused := by
    intro failure h
    obtain ⟨refusal, hrefusal, hreport⟩ := result_parse_eq_error_iff.mp h
    rw [result_parse_eq_error_iff]
    refine ⟨refusal, ?_, hreport⟩
    rw [attempt_pipe registry settings ha hb, hrefusal]
    rfl
  second_refused := by
    intro p failure hp h
    obtain ⟨refusal, hrefusal, hreport⟩ := result_parse_eq_error_iff.mp h
    refine ⟨refusal, hrefusal, hreport, ?_⟩
    rw [result_parse_eq_error_iff]
    refine ⟨refusal.later p.stages.length, ?_, rfl⟩
    rw [attempt_pipe registry settings ha hb, result_parse_eq_ok_iff.mp hp, hrefusal]
    rfl
  command_unchanged := by
    intro p failure hp h
    rw [result_parse_eq_error_iff]
    refine ⟨.command failure, ?_, rfl⟩
    rw [attempt_pipe registry settings ha hb, result_parse_eq_ok_iff.mp hp, h]
    rfl
  empty_message := by
    intro p position hp h
    refine ⟨.emptyCommand ↑(position + p.stages.length), ?_, rfl⟩
    rw [result_parse_eq_error_iff]
    refine ⟨.emptyStage (position + p.stages.length), ?_, rfl⟩
    rw [attempt_pipe registry settings ha hb, result_parse_eq_ok_iff.mp hp, h]
    rfl
  accepted := by
    intro p q hp hq
    refine ⟨?_, runsInTurn p q⟩
    rw [result_parse_eq_ok_iff, attempt_pipe registry settings ha hb,
      result_parse_eq_ok_iff.mp hp, result_parse_eq_ok_iff.mp hq]
    rfl

/-- An empty stage and an unknown command behind a pipe character. -/
theorem composes_sort_unknown :
    ¬ Text.isAllBlank "sort desc | uniq".toList ∧ ¬ Text.isAllBlank " | frob".toList ∧
      Composes Registry.builtin none "sort desc | uniq".toList " | frob".toList :=
  ⟨by decide, by decide, composes_of_not_blank Registry.builtin none (by decide) (by decide)⟩

end LinePipe.Pipeline
