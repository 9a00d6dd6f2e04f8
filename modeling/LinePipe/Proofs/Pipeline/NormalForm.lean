import LinePipe.Proofs.Collation.Sorting
import LinePipe.Proofs.Pipeline.Composition
import Mathlib.Data.List.Induction

/-!
# The normal form of a pipeline

A pipeline of built-in commands can sort and drop repeated lines many times, in any order. What it
leaves depends on two things only: whether repeated lines are dropped somewhere, and which way the
last sort goes. Help stages pass the lines through, and each shows the document once.

## Main definitions

- `Stage.Builtin`: the stages that built-in commands make
- `Pipeline.normalForm`: what a pipeline of built-in commands leaves of the lines

## Main statements

- `Stage.Builtin.run_normalForm`: one more stage takes a normal form to a normal form
- `Pipeline.runStages_normalForm`: a run of built-in stages ends in the normal form
- `Pipeline.builtin_of_parse`: texts parse to pipelines of built-in stages
-/

namespace LinePipe

/-- The document that help shows under the given settings. -/
def Builtin.helpDocument (settings : StageSettings) : Text :=
  HelpDocument.render (settings.catalog.getD Registry.builtin.catalog)

namespace Stage

/-- The stages that built-in commands make where sorting uses this order, and where help shows this
document here. -/
inductive Builtin (collator : Collator) (document : Text) (sink : Sink) : Stage → Prop where
  | sort (descending : Bool) : Builtin collator document sink (.sort descending collator)
  | uniq : Builtin collator document sink .uniq
  | help : Builtin collator document sink (.help document sink)

/-- Which way a stage sorts, with `true` for descending, if it does. -/
def direction? : Stage → Option Bool
  | sort descending _ => some descending
  | _ => none

/-- Whether a stage drops repeated lines. -/
def dropsRepeats : Stage → Bool
  | uniq => true
  | _ => false

/-- Whether a stage shows help. -/
def showsHelp : Stage → Bool
  | help _ _ => true
  | _ => false

end Stage

namespace Pipeline

/-- Which way the last sort of a pipeline goes, if it sorts. -/
def lastDirection? (p : Pipeline) : Option Bool :=
  (p.stages.filterMap Stage.direction?).getLast?

/-- Whether repeated lines are dropped anywhere in a pipeline. -/
def dropsRepeats (p : Pipeline) : Bool :=
  p.stages.any Stage.dropsRepeats

/-- How many stages of a pipeline show help. -/
def helpCount (p : Pipeline) : Nat :=
  p.stages.countP Stage.showsHelp

/-- What a pipeline of built-in commands leaves of lines: each line once if repeated lines are
dropped anywhere, and all of them sorted in the last direction if there is one. -/
def normalForm (p : Pipeline) (collator : Collator) (lines : List Text) : List Text :=
  let kept := if p.dropsRepeats then lines.eraseDups else lines
  match p.lastDirection? with
  | none => kept
  | some descending => collator.sort descending kept

theorem lastDirection?_append (p q : Pipeline) :
    (p.append q).lastDirection? = q.lastDirection?.or p.lastDirection? := by
  rw [lastDirection?, append, List.filterMap_append, List.getLast?_append]
  rfl

theorem dropsRepeats_append (p q : Pipeline) :
    (p.append q).dropsRepeats = (p.dropsRepeats || q.dropsRepeats) :=
  List.any_append

theorem helpCount_append (p q : Pipeline) :
    (p.append q).helpCount = p.helpCount + q.helpCount :=
  List.countP_append

end Pipeline

namespace Stage

variable {collator : Collator} {document : Text} {sink : Sink} {stage : Stage}

/-- A built-in stage after a normal form leaves the normal form of the longer pipeline. A sort
erases the sort before it, and repeated lines can just as well be dropped before sorting. -/
theorem Builtin.run_normalForm (h : stage.Builtin collator document sink) (p : Pipeline)
    (lines : List Text) :
    (stage.run (p.normalForm collator lines)).result =
      .ok ((p.append ⟨[stage]⟩).normalForm collator lines) := by
  have hlast := p.lastDirection?_append ⟨[stage]⟩
  have hdrops := p.dropsRepeats_append ⟨[stage]⟩
  cases h with
  | sort descending =>
    have hlast' : (p.append ⟨[.sort descending collator]⟩).lastDirection? = some descending := hlast
    have hdrops' : (p.append ⟨[.sort descending collator]⟩).dropsRepeats = p.dropsRepeats := by
      rw [hdrops]
      exact Bool.or_false _
    simp only [run, Pipeline.normalForm, hlast', hdrops', Outcome.result_pure]
    cases p.lastDirection? with
    | none => rfl
    | some earlier => rw [Collator.sort_sort]
  | uniq =>
    have hlast' : (p.append ⟨[.uniq]⟩).lastDirection? = p.lastDirection? := hlast
    have hdrops' : (p.append ⟨[.uniq]⟩).dropsRepeats = true := by
      rw [hdrops]
      exact Bool.or_true _
    have honce : (if p.dropsRepeats then lines.eraseDups else lines).eraseDups =
        lines.eraseDups := by
      split
      · exact eraseDups_eraseDups lines
      · rfl
    simp only [run, Pipeline.normalForm, hlast', hdrops', Outcome.result_pure, if_true]
    cases p.lastDirection? with
    | none => rw [honce]
    | some descending => rw [Collator.eraseDups_sort, honce]
  | help =>
    have hlast' : (p.append ⟨[.help document sink]⟩).lastDirection? = p.lastDirection? := hlast
    have hdrops' : (p.append ⟨[.help document sink]⟩).dropsRepeats = p.dropsRepeats := by
      rw [hdrops]
      exact Bool.or_false _
    simp only [Pipeline.normalForm, hlast', hdrops']
    cases sink <;> rfl

/-- A built-in stage shows the document if it is help and there is a display. -/
theorem Builtin.shown_run (h : stage.Builtin collator document sink) (lines : List Text) :
    (stage.run lines).shown =
      if sink = .display then List.replicate (Pipeline.mk [stage]).helpCount document else [] := by
  cases h with
  | sort descending => exact (ite_self _).symm
  | uniq => exact (ite_self _).symm
  | help => cases sink <;> rfl

end Stage

namespace Pipeline

variable {collator : Collator} {document : Text} {sink : Sink}

/-- Built-in stages leave the normal form of the lines, and show the document as often as there are
help stages. The induction adds stages at the end: the last sort is the one that counts. -/
theorem runStages_normalForm (stages : List Stage)
    (h : ∀ stage ∈ stages, stage.Builtin collator document sink) (index : Nat)
    (lines : List Text) :
    (runStages index stages lines).result = .ok ((Pipeline.mk stages).normalForm collator lines) ∧
      (runStages index stages lines).shown =
        if sink = .display then List.replicate (Pipeline.mk stages).helpCount document else [] := by
  induction stages using List.reverseRecOn with
  | nil => exact ⟨rfl, (ite_self _).symm⟩
  | append_singleton front stage ih =>
    have hstage : stage.Builtin collator document sink := h stage (by simp)
    obtain ⟨hresult, hshown⟩ := ih fun s hs => h s (by simp [hs])
    obtain ⟨hlast, hlastShown⟩ :=
      step_of_ok (index + front.length) (hstage.run_normalForm ⟨front⟩ lines)
    have hsingle (between : List Text) : runStages (index + front.length) [stage] between =
        step (index + front.length) stage between >>= pure := rfl
    rw [runStages_append]
    constructor
    · rw [Outcome.bind_of_ok hresult, hsingle, Outcome.bind_of_ok hlast]
      rfl
    · have hcount : (Pipeline.mk (front ++ [stage])).helpCount =
          (Pipeline.mk front).helpCount + (Pipeline.mk [stage]).helpCount :=
        helpCount_append ⟨front⟩ ⟨[stage]⟩
      rw [Outcome.shown_bind_of_ok hresult, hshown, hsingle, Outcome.shown_bind_of_ok hlast,
        hlastShown, hstage.shown_run, Outcome.shown_pure, List.append_nil, hcount]
      split
      · exact List.replicate_append_replicate
      · rfl

/-- Dropping repeated lines loses no line altogether. -/
theorem mem_kept (p : Pipeline) (lines : List Text) (line : Text) :
    line ∈ (if p.dropsRepeats then lines.eraseDups else lines) ↔ line ∈ lines := by
  split
  · exact List.mem_eraseDups
  · rfl

theorem mem_normalForm (p : Pipeline) (collator : Collator) (lines : List Text) (line : Text) :
    line ∈ p.normalForm collator lines ↔ line ∈ lines := by
  have hkept := p.mem_kept lines line
  rw [normalForm]
  cases p.lastDirection? with
  | none => exact hkept
  | some descending => exact (collator.sort_perm descending _).mem_iff.trans hkept

theorem execute_builtin {p : Pipeline}
    (h : ∀ stage ∈ p.stages, stage.Builtin collator document sink) (lines : List Text) :
    (p.execute lines).result = .ok (p.normalForm collator lines) := by
  rw [execute, Outcome.result_bind]
  exact (runStages_normalForm p.stages h 0 lines).1

/-- A token that the built-in registry takes becomes a built-in stage. -/
theorem builtin_of_resolve {settings : StageSettings} {token : StageToken} {stage : Stage}
    (h : resolve Registry.builtin settings token = .ok stage) :
    stage.Builtin settings.collator (Builtin.helpDocument settings) settings.sink := by
  rw [resolve] at h
  split at h
  · cases h
  · cases hget : Registry.builtin.get? token.name with
    | none => simp only [hget, reduceCtorEq] at h
    | some command =>
      have hmem : command ∈ Builtin.commands := List.mem_of_find?_eq_some hget
      have hbuild : command.build token.arguments settings = .ok stage := by
        rw [hget] at h
        exact except_mapError_eq_ok_iff.mp h
      simp only [Builtin.commands, List.mem_cons, List.not_mem_nil, or_false] at hmem
      obtain rfl | rfl | rfl := hmem
      · simp only [Builtin.sort] at hbuild
        split at hbuild
        · cases hbuild
          exact .sort _
        · cases hbuild
      · simp only [Builtin.uniq] at hbuild
        split at hbuild
        · cases hbuild
          exact .uniq
        · cases hbuild
      · cases hbuild
        exact .help

/-- A text that is a pipeline of the built-in commands has built-in stages only. -/
theorem builtin_of_parse {text : Text} {settings : Option StageSettings} {p : Pipeline}
    (h : (parse text false Registry.builtin settings).result = .ok p) :
    ∀ stage ∈ p.stages, stage.Builtin (settings.getD {}).collator
      (Builtin.helpDocument (settings.getD {})) (settings.getD {}).sink := by
  intro stage hstage
  have hresolved := mapM_resolve_eq_ok_iff.mp (result_parse_eq_ok_iff.mp h)
  obtain ⟨i, hi, rfl⟩ := List.getElem_of_mem hstage
  have hi' : i < (StageToken.scan text).length := hresolved.length_eq.symm ▸ hi
  have hfilled := builtin_of_resolve (hresolved.get hi' hi)
  -- Filling in the commands that help lists leaves the order, the sink and the document alone.
  exact hfilled

/-- The built-in registry refuses a token by an error of the text. -/
theorem rejected_of_resolve {settings : StageSettings} {token : StageToken} {refusal : Refusal}
    (h : resolve Registry.builtin settings token = .error refusal) :
    ∃ error, refusal.report = .rejected error := by
  rw [resolve] at h
  split at h
  · cases h
    exact ⟨_, rfl⟩
  · cases hget : Registry.builtin.get? token.name with
    | none =>
      simp only [hget, Except.error.injEq] at h
      subst h
      exact ⟨_, rfl⟩
    | some command =>
      have hmem : command ∈ Builtin.commands := List.mem_of_find?_eq_some hget
      simp only [hget] at h
      obtain ⟨failure, hbuild, rfl⟩ := except_mapError_eq_error_iff.mp h
      simp only [Builtin.commands, List.mem_cons, List.not_mem_nil, or_false] at hmem
      obtain rfl | rfl | rfl := hmem
      · dsimp only [Builtin.sort] at hbuild
        split at hbuild
        · cases hbuild
        · cases hbuild
          exact ⟨_, rfl⟩
      · dsimp only [Builtin.uniq] at hbuild
        split at hbuild
        · cases hbuild
        · cases hbuild
          exact ⟨_, rfl⟩
      · cases hbuild

theorem rejected_of_parse {text : Text} {settings : Option StageSettings} {failure : BuildFailure}
    (h : (parse text false Registry.builtin settings).result = .error failure) :
    ∃ error, failure = .rejected error := by
  obtain ⟨refusal, hattempt, rfl⟩ := result_parse_eq_error_iff.mp h
  obtain ⟨token, -, hrefused⟩ := of_mapM_resolve_eq_error hattempt
  exact rejected_of_resolve hrefused

/-- A pipeline of the built-in commands never fails. It leaves the normal form of the lines, and
shows the help document once for each help stage if there is a display to show it on. -/
theorem execute_normalForm {text : Text} {settings : Option StageSettings} {p : Pipeline}
    (h : (parse text false Registry.builtin settings).result = .ok p) (lines : List Text) :
    (p.execute lines).result = .ok (p.normalForm (settings.getD {}).collator lines) ∧
      (p.execute lines).shown =
        if (settings.getD {}).sink = .display then
          List.replicate p.helpCount (Builtin.helpDocument (settings.getD {}))
        else [] := by
  have hbuiltin := builtin_of_parse h
  refine ⟨execute_builtin hbuiltin lines, ?_⟩
  rw [shown_execute]
  exact (runStages_normalForm p.stages hbuiltin 0 lines).2

/-- Two sorts, repeated lines dropped between them, and a help document on a display. -/
theorem execute_sort_uniq_sort_help :
    ∃ p, (parse "sort | uniq | sort desc | help".toList false Registry.builtin
        (some { sink := .display })).result = .ok p ∧
      (p.execute ["a2".toList, "a10".toList, "a2".toList]).result =
        .ok ["a10".toList, "a2".toList] ∧
      (p.execute ["a2".toList, "a10".toList, "a2".toList]).shown =
        [Builtin.helpDocument { sink := .display }] := by
  have hsorted : ["a10".toList, "a2".toList] =
      ({} : Collator).sort true ["a2".toList, "a10".toList] :=
    Collator.eq_sort {} true (List.Perm.swap _ _ _) (by decide)
  obtain ⟨p, hp⟩ : ∃ p, (parse "sort | uniq | sort desc | help".toList false Registry.builtin
      (some { sink := .display })).result = .ok p := ⟨_, rfl⟩
  obtain ⟨hresult, hshown⟩ :=
    execute_normalForm hp ["a2".toList, "a10".toList, "a2".toList]
  cases hp
  exact ⟨_, rfl, hresult.trans (congrArg Except.ok hsorted.symm), hshown⟩

end Pipeline

end LinePipe
