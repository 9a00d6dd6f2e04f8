import LinePipe.Pipeline.Parse
import LinePipe.Proofs.Command.Registry
import LinePipe.Proofs.Pipeline.Tokens
import Mathlib.Data.List.Forall2

/-!
# Building stages

A text becomes a pipeline if a stage can be built for each of its tokens; otherwise the first token
that is refused decides the failure. A token is refused by the parser if it is empty, by the
registry if its name is not registered, and else by the command of that name. `attempt` builds the
stages with the refusal kept apart from the report, so it can be seen who refused, and where.

## Main definitions

- `Refusal`: who refuses a token, and why
- `Pipeline.resolve`: the stage for one token
- `Pipeline.attempt`: the stages of a text

## Main statements

- `Pipeline.result_parse`: parsing reports the refusal of the attempt
- `Pipeline.resolve_later`: a token `k` places later is refused `k` places later
-/

namespace LinePipe

/-- Who refuses a token. -/
inductive Refusal where
  /-- The parser, because the stage at this position has no words. -/
  | emptyStage (position : Nat)
  /-- The registry, because it has no command of this name, written at this position. -/
  | unknownName (name : Text) (position : Nat)
  /-- The command, with a failure of its own. -/
  | command (failure : BuildFailure)
  deriving Repr, DecidableEq

namespace Refusal

/-- The failure that is told. -/
def report : Refusal → BuildFailure
  | emptyStage position => .rejected (.emptyCommand position)
  | unknownName name position => .rejected (.unknownCommand name (some position))
  | command failure => failure

/-- The same refusal `k` places later. The failure of a command knows no place. -/
def later (k : Nat) : Refusal → Refusal
  | emptyStage position => emptyStage (position + k)
  | unknownName name position => unknownName name (position + k)
  | command failure => command failure

end Refusal

/-- Once it is settled which commands help lists, nothing is left to fill in. -/
theorem Registry.fillSettings_fillSettings (r : Registry) (settings : Option StageSettings) :
    r.fillSettings (some (r.fillSettings settings)) = r.fillSettings settings :=
  rfl

namespace Pipeline

/-- The stage for a token, or who refuses it. -/
def resolve (registry : Registry) (settings : StageSettings) (token : StageToken) :
    Except Refusal Stage :=
  if token.name.isEmpty then .error (.emptyStage token.position)
  else
    match registry.get? token.name with
    | none => .error (.unknownName token.name token.position)
    | some command => (command.build token.arguments settings).mapError .command

/-- The stages of a text, or the refusal of its first token that is refused. -/
def attempt (registry : Registry) (settings : Option StageSettings) (text : Text) :
    Except Refusal (List Stage) :=
  (StageToken.scan text).mapM (resolve registry (registry.fillSettings settings))

/-- A token `k` places later is resolved in the same way, or refused `k` places later. -/
theorem resolve_later (registry : Registry) (settings : StageSettings) (k : Nat)
    (token : StageToken) :
    resolve registry settings (token.later k) =
      (resolve registry settings token).mapError (Refusal.later k) := by
  by_cases hempty : token.name.isEmpty
  · simp only [resolve, StageToken.later, hempty, if_true]
    rfl
  · simp only [resolve, StageToken.later, hempty]
    cases registry.get? token.name with
    | none => rfl
    | some command =>
      cases h : command.build token.arguments settings <;>
        simp [h, Refusal.later]

/-- Tokens that all stand `k` places later are resolved in the same way, or the first refusal is `k`
places later. -/
theorem mapM_resolve_later (registry : Registry) (settings : StageSettings) (k : Nat)
    (tokens : List StageToken) :
    (tokens.map (StageToken.later k)).mapM (resolve registry settings) =
      (tokens.mapM (resolve registry settings)).mapError (Refusal.later k) := by
  induction tokens with
  | nil => rfl
  | cons token rest ih =>
    rw [List.map_cons, List.mapM_cons, List.mapM_cons, resolve_later, ih]
    cases resolve registry settings token with
    | error refusal => rfl
    | ok stage => cases rest.mapM (resolve registry settings) <;> rfl

/-- Building ends as resolving the tokens one after the other does. -/
theorem result_build (registry : Registry) (settings : StageSettings)
    (hfilled : registry.fillSettings (some settings) = settings) (tokens : List StageToken) :
    (build registry settings tokens).result =
      (tokens.mapM (resolve registry settings)).mapError Refusal.report := by
  induction tokens with
  | nil => rfl
  | cons token rest ih =>
    rw [build, List.mapM_cons, resolve]
    split
    · rfl
    · rw [Outcome.result_bind, Registry.result_build, hfilled]
      cases registry.get? token.name with
      | none => rfl
      | some command =>
        dsimp only
        cases command.build token.arguments settings with
        | error failure => rfl
        | ok stage =>
          simp only [Outcome.result_bind, Outcome.result_pure, ih]
          cases rest.mapM (resolve registry settings) <;> rfl

/-- Parsing ends as the attempt to build the stages does. Where only the validity is wanted, the
identity stands for the pipeline. -/
theorem result_parse (registry : Registry) (settings : Option StageSettings) (text : Text)
    (checkOnly : Bool) :
    (parse text checkOnly registry settings).result =
      ((attempt registry settings text).map fun stages =>
        if checkOnly then identity else ⟨stages⟩).mapError Refusal.report := by
  have hbuild := result_build registry (registry.fillSettings settings)
    (registry.fillSettings_fillSettings settings) (StageToken.scan text)
  rw [attempt]
  simp only [parse, hbuild]
  cases (StageToken.scan text).mapM (resolve registry (registry.fillSettings settings)) with
  | ok stages => rfl
  | error refusal =>
    simp only [except_mapError_error, Except.map]
    cases refusal.report <;> rfl

/-- A text parses to a pipeline if the stages of that pipeline can be built for it. -/
theorem result_parse_eq_ok_iff {registry : Registry} {settings : Option StageSettings}
    {text : Text} {p : Pipeline} :
    (parse text false registry settings).result = .ok p ↔
      attempt registry settings text = .ok p.stages := by
  rw [result_parse]
  cases attempt registry settings text with
  | error refusal => simp only [Except.map, except_mapError_error, reduceCtorEq]
  | ok stages =>
    simp only [Except.map, except_mapError_ok, Except.ok.injEq, Bool.false_eq_true, if_false]
    constructor
    · rintro rfl
      rfl
    · rintro rfl
      rfl

/-- Parsing fails with the report of the refusal. -/
theorem result_parse_eq_error_iff {registry : Registry} {settings : Option StageSettings}
    {text : Text} {failure : BuildFailure} :
    (parse text false registry settings).result = .error failure ↔
      ∃ refusal, attempt registry settings text = .error refusal ∧ refusal.report = failure := by
  rw [result_parse]
  cases attempt registry settings text with
  | ok stages => simp [Except.map]
  | error refusal => simp [Except.map]

/-- Stages are built for tokens if each of them is, in order, what its token resolves to. -/
theorem mapM_resolve_eq_ok_iff {registry : Registry} {settings : StageSettings}
    {tokens : List StageToken} {stages : List Stage} :
    tokens.mapM (resolve registry settings) = .ok stages ↔
      List.Forall₂ (fun token stage => resolve registry settings token = .ok stage) tokens
        stages := by
  induction tokens generalizing stages with
  | nil =>
    rw [List.forall₂_nil_left_iff]
    constructor
    · intro h
      exact (Except.ok.inj h).symm
    · rintro rfl
      rfl
  | cons token rest ih =>
    rw [List.mapM_cons, List.forall₂_cons_left_iff, except_bind_eq_ok_iff]
    constructor
    · rintro ⟨stage, hstage, h⟩
      obtain ⟨built, hbuilt, hstages⟩ := except_bind_eq_ok_iff.mp h
      exact ⟨stage, built, hstage, ih.mp hbuilt, (Except.ok.inj hstages).symm⟩
    · rintro ⟨stage, built, hstage, hbuilt, rfl⟩
      exact ⟨stage, hstage, except_bind_eq_ok_iff.mpr ⟨built, ih.mpr hbuilt, rfl⟩⟩

/-- Tokens are refused because one of them is. -/
theorem of_mapM_resolve_eq_error {registry : Registry} {settings : StageSettings}
    {tokens : List StageToken} {refusal : Refusal}
    (h : tokens.mapM (resolve registry settings) = .error refusal) :
    ∃ token ∈ tokens, resolve registry settings token = .error refusal := by
  induction tokens with
  | nil => cases h
  | cons token rest ih =>
    rw [List.mapM_cons] at h
    obtain hfirst | ⟨stage, -, h⟩ := except_bind_eq_error_iff.mp h
    · exact ⟨token, List.mem_cons_self, hfirst⟩
    · obtain hrest | ⟨stages, -, h⟩ := except_bind_eq_error_iff.mp h
      · obtain ⟨token', hmem, hrefused⟩ := ih hrest
        exact ⟨token', List.mem_cons_of_mem token hmem, hrefused⟩
      · cases h

theorem length_of_mapM_resolve {registry : Registry} {settings : StageSettings}
    {tokens : List StageToken} {stages : List Stage}
    (h : tokens.mapM (resolve registry settings) = .ok stages) :
    stages.length = tokens.length :=
  (mapM_resolve_eq_ok_iff.mp h).length_eq.symm

end Pipeline

end LinePipe
