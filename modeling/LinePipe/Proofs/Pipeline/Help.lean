import LinePipe.Proofs.Pipeline.Checking

/-!
# What help lists

Help should list the commands that there are, which are those of the registry in which the names of
a text are looked up. It lists those that come with the settings, so it lists the wrong ones if a
text is parsed with settings that were made for another registry.

## Main definitions

- `Registry.inForce`: the registry in which names are looked up
- `Registry.listed`: the commands that help lists
- `Pipeline.AsksHelp`: a token for which a help stage is built
- `Pipeline.HelpIsTrue`: a pipeline in which help lists the commands that there are

## Main statements

- `Registry.contains_iff`: the commands that there are
- `Pipeline.document_eq_of_resolve`: the document that a help stage shows
- `Pipeline.helpIsTrue_iff`: when help lists the commands that there are
-/

namespace LinePipe

namespace Registry

/-- The registry in which names are looked up: the one that is given, or else that of the built-in
commands. -/
def inForce (argument : Option Registry) : Registry :=
  argument.getD Registry.builtin

/-- The commands that help lists: those that come with the settings, or else those of the
registry. -/
def listed (r : Registry) (settings : Option StageSettings) : List CommandInfo :=
  (settings.bind StageSettings.catalog).getD r.catalog

theorem catalog_fillSettings (r : Registry) (settings : Option StageSettings) :
    (r.fillSettings settings).catalog = some (r.listed settings) := by
  cases settings <;> rfl

/-- A name is found if it is that of a command in the catalog. -/
theorem contains_iff (r : Registry) (name : Text) :
    r.contains name = true ↔ ∃ info ∈ r.catalog, info.name = name := by
  rw [contains, get?, List.find?_isSome, catalog]
  constructor
  · rintro ⟨command, hcommand, hname⟩
    exact ⟨command.info, List.mem_map_of_mem hcommand, beq_iff_eq.mp hname⟩
  · rintro ⟨info, hinfo, hname⟩
    obtain ⟨command, hcommand, rfl⟩ := List.mem_map.mp hinfo
    exact ⟨command, hcommand, beq_iff_eq.mpr hname⟩

end Registry

namespace Pipeline

/-- A token asks for help if its command does with its arguments what the help command does. -/
def AsksHelp (registry : Registry) (token : StageToken) : Prop :=
  ∃ command, registry.get? token.name = some command ∧
    ∀ settings, command.build token.arguments settings = Builtin.help token.arguments settings

/-- Of the stages that stand for the tokens of a text, those that show help show the commands of a
registry. -/
def HelpIsTrue (registry : Registry) (text : Text) (p : Pipeline) : Prop :=
  ∀ token document sink, (token, Stage.help document sink) ∈ (StageToken.scan text).zip p.stages →
    AsksHelp registry token → document = HelpDocument.render registry.catalog

variable {registry : Registry} {settings : Option StageSettings} {text : Text} {p : Pipeline}
  {token : StageToken}

theorem exists_mem_zip {α β : Type} {l : List α} {l' : List β} (h : l.length = l'.length) {a : α}
    (ha : a ∈ l) : ∃ b, (a, b) ∈ l.zip l' := by
  obtain ⟨i, hi, rfl⟩ := List.getElem_of_mem ha
  have hi' : i < (l.zip l').length := by
    rw [List.length_zip]
    omega
  refine ⟨l'[i], ?_⟩
  rw [← List.getElem_zip (h := hi')]
  exact List.getElem_mem hi'

/-- What is built where help is asked for is a stage that shows the commands listed. -/
theorem AsksHelp.eq_help (h : AsksHelp registry token) {stage : Stage}
    (hstage : resolve registry (registry.fillSettings settings) token = .ok stage) :
    stage = .help (HelpDocument.render (registry.listed settings))
      (registry.fillSettings settings).sink := by
  obtain ⟨command, hcommand, hbuild⟩ := h
  rw [resolve] at hstage
  split at hstage
  · cases hstage
  · simp only [hcommand, hbuild, Builtin.help, registry.catalog_fillSettings, Option.getD_some,
      except_mapError_ok, Except.ok.injEq] at hstage
    exact hstage.symm

theorem helpIsTrue_of_attempt_iff (h : attempt registry settings text = .ok p.stages) :
    HelpIsTrue registry text p ↔
      (∀ token ∈ StageToken.scan text, ¬ AsksHelp registry token) ∨
        HelpDocument.render (registry.listed settings) = HelpDocument.render registry.catalog := by
  have hresolved := mapM_resolve_eq_ok_iff.mp h
  constructor
  · intro htrue
    by_cases hasks : ∀ token ∈ StageToken.scan text, ¬ AsksHelp registry token
    · exact .inl hasks
    · -- The stage of one token that asks for help tells what all of them list.
      right
      simp only [not_forall, not_not] at hasks
      obtain ⟨token, htoken, hasks⟩ := hasks
      obtain ⟨stage, hmem⟩ := exists_mem_zip hresolved.length_eq htoken
      have hstage := hasks.eq_help ((List.forall₂_iff_zip.mp hresolved).2 hmem)
      rw [hstage] at hmem
      exact htrue _ _ _ hmem hasks
  · rintro (hnone | hsame) token document sink hmem hasks
    · exact absurd hasks (hnone token (List.of_mem_zip hmem).1)
    · have hstage := hasks.eq_help ((List.forall₂_iff_zip.mp hresolved).2 hmem)
      rw [← hsame]
      exact (Stage.help.inj hstage).1

/-- Where a text parses, help lists the commands that there are exactly if only the validity of the
text is wanted, or nothing asks for help, or the settings come with no commands, or with commands
that are described in the same way. -/
theorem helpIsTrue_iff {checkOnly : Bool} {argument : Option Registry}
    (h : (parse text checkOnly (Registry.inForce argument) settings).result = .ok p) :
    (HelpIsTrue (Registry.inForce argument) text p ↔
      checkOnly = true ∨
      (∀ token ∈ StageToken.scan text, ¬ AsksHelp (Registry.inForce argument) token) ∨
      HelpDocument.render ((Registry.inForce argument).listed settings) =
        HelpDocument.render (Registry.inForce argument).catalog) ∧
    ∀ name, (Registry.inForce argument).contains name = true ↔
      ∃ info ∈ (Registry.inForce argument).catalog, info.name = name := by
  refine ⟨?_, fun name => Registry.contains_iff _ name⟩
  cases checkOnly with
  | true =>
    rw [result_parse_checkOnly] at h
    obtain ⟨p', -, rfl⟩ := except_map_eq_ok_iff.mp h
    refine iff_of_true ?_ (.inl rfl)
    intro token document sink hmem
    rw [show identity.stages = [] from rfl, List.zip_nil_right] at hmem
    cases hmem
  | false =>
    rw [helpIsTrue_of_attempt_iff (result_parse_eq_ok_iff.mp h)]
    simp only [Bool.false_eq_true, false_or]

/-- Help in a text with plain settings lists the built-in commands. -/
theorem helpIsTrue_of_sort_help :
    ∃ p, (parse "sort | help".toList false (Registry.inForce none)
        (some { sink := .display })).result = .ok p ∧
      p.helpCount = 1 ∧ HelpIsTrue (Registry.inForce none) "sort | help".toList p := by
  obtain ⟨p, hp, hcount⟩ : ∃ p, (parse "sort | help".toList false (Registry.inForce none)
      (some { sink := .display })).result = .ok p ∧ p.helpCount = 1 := ⟨_, rfl, rfl⟩
  exact ⟨p, hp, hcount, (helpIsTrue_iff hp).1.mpr (.inr (.inr rfl))⟩

/-- Settings that were made for a registry with one command. -/
def reversing : StageSettings where
  sink := .display
  catalog := some [{ name := "reverse".toList, summary := "Reverse the lines.".toList }]

/-- Help lists a command that is not found where its own name is. -/
theorem help_lists_other_registry :
    ∃ document, (parse "help".toList false (Registry.inForce none) (some reversing)).result =
        .ok ⟨[.help document .display]⟩ ∧
      document = HelpDocument.render [⟨"reverse".toList, "Reverse the lines.".toList, []⟩] ∧
      (Registry.inForce none).contains "help".toList = true ∧
      (Registry.inForce none).contains "reverse".toList = false ∧
      ¬ HelpIsTrue (Registry.inForce none) "help".toList ⟨[.help document .display]⟩ := by
  refine ⟨_, rfl, rfl, by decide, by decide, ?_⟩
  intro htrue
  have hasks : AsksHelp (Registry.inForce none) ⟨1, "help".toList, []⟩ := ⟨_, rfl, fun _ => rfl⟩
  have hsame := htrue _ _ _ List.mem_cons_self hasks
  revert hsame
  decide +kernel

end Pipeline

end LinePipe
