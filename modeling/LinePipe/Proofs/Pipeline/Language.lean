import LinePipe.Proofs.Pipeline.NormalForm
import LinePipe.Proofs.Text.Words

/-!
# The language of pipelines

Which texts are pipelines of the built-in commands, said without the parser: texts of whitespace
only, and stages with a pipe character between neighbours, each of them written in one of the forms
of its command. All other texts have a first stage that is wrong, and the error is about that stage.

## Main definitions

- `StageForm`: what a stage of a built-in command asks for
- `StageForm.Written`, `StageForm.Wrong`: words that ask for a stage, and words that do not
- `Pipeline.Written`, `Pipeline.Wrong`: texts that are pipelines, and texts that are not

## Main statements

- `Pipeline.written_or_wrong`: each text is of one of the two kinds
- `Pipeline.result_parse_of_written`, `Pipeline.result_parse_of_wrong`: how the parser takes them
- `Pipeline.parse_decides`: the parser takes exactly the texts that are pipelines
-/

namespace LinePipe

/-- What a stage of a built-in command asks for, whatever the settings are. -/
inductive StageForm where
  | sort (descending : Bool)
  | uniq
  | help
  deriving Repr, DecidableEq

namespace StageForm

/-- The stage under settings. -/
def stage (settings : StageSettings) : StageForm → Stage
  | sort descending => .sort descending settings.collator
  | uniq => .uniq
  | help => .help (Builtin.helpDocument settings) settings.sink

/-- The words that ask for a stage. -/
inductive Written : List Text → StageForm → Prop where
  | sort : Written ["sort".toList] (.sort false)
  | sortAscending : Written ["sort".toList, "asc".toList] (.sort false)
  | sortFlag : Written ["sort".toList, "-d".toList] (.sort true)
  | sortDescending : Written ["sort".toList, "desc".toList] (.sort true)
  | uniq : Written ["uniq".toList] .uniq
  | help (arguments : List Text) : Written ("help".toList :: arguments) .help

/-- Words at a position in a text that ask for no stage, and the error about them. -/
inductive Wrong (position : Nat) : List Text → ParseError → Prop where
  | empty : Wrong position [] (.emptyCommand position)
  | unknown {name : Text} (arguments : List Text)
      (h : name ∉ ["sort".toList, "uniq".toList, "help".toList]) :
      Wrong position (name :: arguments) (.unknownCommand name (some position))
  | sort {arguments : List Text} (h : ∀ form, ¬ Written ("sort".toList :: arguments) form) :
      Wrong position ("sort".toList :: arguments)
        (.invalidArguments "sort".toList arguments
          ["(none)".toList, "asc".toList, "-d".toList, "desc".toList])
  | uniq {arguments : List Text} (h : arguments ≠ []) :
      Wrong position ("uniq".toList :: arguments)
        (.invalidArguments "uniq".toList arguments ["(none)".toList])

theorem written_or_wrong (position : Nat) (ws : List Text) :
    (∃ form, Written ws form) ∨ ∃ error, Wrong position ws error := by
  cases ws with
  | nil => exact .inr ⟨_, .empty⟩
  | cons name arguments =>
    by_cases hname : name ∈ ["sort".toList, "uniq".toList, "help".toList]
    · simp only [List.mem_cons, List.not_mem_nil, or_false] at hname
      obtain rfl | rfl | rfl := hname
      · by_cases hwritten : ∃ form, Written ("sort".toList :: arguments) form
        · exact .inl hwritten
        · exact .inr ⟨_, .sort (not_exists.mp hwritten)⟩
      · cases arguments with
        | nil => exact .inl ⟨_, .uniq⟩
        | cons argument arguments => exact .inr ⟨_, .uniq (List.cons_ne_nil _ _)⟩
      · exact .inl ⟨_, .help arguments⟩
    · exact .inr ⟨_, .unknown arguments hname⟩

/-- The argument lists in the table of the sort command are those of the forms. -/
theorem written_of_lookup {arguments : List Text} {descending : Bool}
    (h : Builtin.sortForms.lookup arguments = some descending) :
    Written ("sort".toList :: arguments) (.sort descending) := by
  obtain ⟨before, after, hforms, -⟩ := List.lookup_eq_some_iff.mp h
  have hmem : (arguments, descending) ∈ Builtin.sortForms := by
    rw [hforms]
    exact List.mem_append_right before List.mem_cons_self
  simp only [Builtin.sortForms, List.mem_cons, List.not_mem_nil, or_false, Prod.mk.injEq] at hmem
  obtain ⟨rfl, rfl⟩ | ⟨rfl, rfl⟩ | ⟨rfl, rfl⟩ | ⟨rfl, rfl⟩ := hmem
  · exact .sort
  · exact .sortAscending
  · exact .sortFlag
  · exact .sortDescending

end StageForm

namespace Pipeline

/-! ## Segments -/

section Segments

variable {settings : StageSettings}

/-- The words of a segment ask for a stage. -/
def Asks (segment : Text) (form : StageForm) : Prop :=
  ∃ ws, Text.Spaced ws segment ∧ form.Written ws

/-- A segment that asks for a stage resolves to it. -/
theorem resolve_of_asks {segment : Text} {form : StageForm} (h : Asks segment form)
    (position : Nat) :
    resolve Registry.builtin settings (StageToken.ofSegment position segment) =
      .ok (form.stage settings) := by
  obtain ⟨ws, hsegment, hwritten⟩ := h
  rw [StageToken.ofSegment, hsegment.words_eq]
  cases hwritten <;> rfl

/-- A segment whose words ask for no stage is refused with the error about them. -/
theorem resolve_of_wrong {segment : Text} {ws : List Text} {position : Nat} {error : ParseError}
    (hsegment : Text.Spaced ws segment) (h : StageForm.Wrong position ws error) :
    ∃ refusal, resolve Registry.builtin settings (StageToken.ofSegment position segment) =
      .error refusal ∧ refusal.report = .rejected error := by
  rw [StageToken.ofSegment, hsegment.words_eq]
  cases h with
  | empty => exact ⟨.emptyStage position, rfl, rfl⟩
  | @unknown name arguments hname =>
    refine ⟨.unknownName name position, ?_, rfl⟩
    have hempty : name.isEmpty = false := by
      simpa using hsegment.ne_nil List.mem_cons_self
    have hget : Registry.builtin.get? name = none := by
      refine List.find?_eq_none.mpr fun command hcommand hfound => hname ?_
      simp only [Registry.builtin, Builtin.commands, List.mem_cons, List.not_mem_nil, or_false]
        at hcommand
      rw [← beq_iff_eq.mp hfound]
      obtain rfl | rfl | rfl := hcommand <;> decide
    simp only [resolve, hempty, hget, Bool.false_eq_true, if_false]
  | @sort arguments hnone =>
    have hlookup : Builtin.sortForms.lookup arguments = none :=
      Option.eq_none_iff_forall_ne_some.mpr fun descending hsome =>
        hnone _ (StageForm.written_of_lookup hsome)
    have hbuild : Builtin.sort arguments settings =
        .error (.rejected (.invalidArguments "sort".toList arguments
          ["(none)".toList, "asc".toList, "-d".toList, "desc".toList])) := by
      rw [Builtin.sort, hlookup]
      rfl
    exact ⟨_, congrArg (Except.mapError Refusal.command) hbuild, rfl⟩
  | @uniq arguments hne =>
    have hbuild : Builtin.uniq arguments settings =
        .error (.rejected (.invalidArguments "uniq".toList arguments ["(none)".toList])) := by
      rw [Builtin.uniq, if_neg (by simpa using hne)]
      rfl
    exact ⟨_, congrArg (Except.mapError Refusal.command) hbuild, rfl⟩

/-- Segments that ask for stages resolve to these. -/
theorem mapM_resolve_of_asks {segments : List Text} {forms : List StageForm}
    (h : List.Forall₂ Asks segments forms) (position : Nat) :
    (StageToken.ofSegments position segments).mapM (resolve Registry.builtin settings) =
      .ok (forms.map (StageForm.stage settings)) := by
  induction h generalizing position with
  | nil => rfl
  | cons hasks hrest ih =>
    rw [StageToken.ofSegments, List.mapM_cons, resolve_of_asks hasks, ih]
    rfl

/-- Segments are refused with the error about the first that asks for no stage. -/
theorem mapM_resolve_of_wrong {before after : List Text} {segment : Text} {ws : List Text}
    {position : Nat} {error : ParseError} (hbefore : ∀ s ∈ before, ∃ form, Asks s form)
    (hsegment : Text.Spaced ws segment)
    (hwrong : StageForm.Wrong (position + before.length) ws error) :
    ∃ refusal, (StageToken.ofSegments position (before ++ segment :: after)).mapM
      (resolve Registry.builtin settings) = .error refusal ∧
        refusal.report = .rejected error := by
  induction before generalizing position with
  | nil =>
    obtain ⟨refusal, hrefused, hreport⟩ := resolve_of_wrong hsegment hwrong
    refine ⟨refusal, ?_, hreport⟩
    rw [List.nil_append, StageToken.ofSegments, List.mapM_cons, List.length_nil, Nat.add_zero]
      at *
    rw [hrefused]
    rfl
  | cons s before ih =>
    obtain ⟨⟨form, hform⟩, hrest⟩ := List.forall_mem_cons.mp hbefore
    have hposition : position + (s :: before).length = position + 1 + before.length := by
      rw [List.length_cons]
      omega
    rw [hposition] at hwrong
    obtain ⟨refusal, hrefused, hreport⟩ := ih hrest hwrong
    refine ⟨refusal, ?_, hreport⟩
    rw [List.cons_append, StageToken.ofSegments, List.mapM_cons, resolve_of_asks hform, hrefused]
    rfl

end Segments

/-- Either all of some segments ask for stages, or there is a first that does not. -/
theorem all_ask_or_first_wrong (segments : List Text) (position : Nat) :
    (∃ forms, List.Forall₂ Asks segments forms) ∨
      ∃ before segment after ws error, segments = before ++ segment :: after ∧
        (∀ s ∈ before, ∃ form, Asks s form) ∧ Text.Spaced ws segment ∧
          StageForm.Wrong (position + before.length) ws error := by
  induction segments generalizing position with
  | nil => exact .inl ⟨[], .nil⟩
  | cons s segments ih =>
    obtain ⟨ws, hws⟩ := Text.exists_spaced s
    obtain ⟨form, hform⟩ | ⟨error, herror⟩ := StageForm.written_or_wrong position ws
    · -- The segments behind this one are counted on from the next position.
      have hasks : Asks s form := ⟨ws, hws, hform⟩
      obtain ⟨forms, hforms⟩ |
        ⟨before, segment, after, ws', error, rfl, hbefore, hsegment, hwrong⟩ := ih (position + 1)
      · exact .inl ⟨form :: forms, .cons hasks hforms⟩
      · have hposition : position + 1 + before.length = position + (s :: before).length := by
          rw [List.length_cons]
          omega
        rw [hposition] at hwrong
        exact .inr ⟨s :: before, segment, after, ws', error, rfl,
          List.forall_mem_cons.mpr ⟨⟨form, hasks⟩, hbefore⟩, hsegment, hwrong⟩
    · exact .inr ⟨[], s, segments, ws, error, rfl, List.forall_mem_nil _, hws, herror⟩

/-! ## Texts -/

/-- A text that is a pipeline: it asks for no stage if it is all whitespace, and else for one in
each of its segments between pipe characters. -/
inductive Written : Text → List StageForm → Prop where
  | blank {text : Text} (h : ∀ c ∈ text, Text.isBlank c) : Written text []
  | stages {segments : List Text} {forms : List StageForm} (hne : segments ≠ [])
      (hpipe : ∀ segment ∈ segments, pipeChar ∉ segment)
      (hasks : List.Forall₂ Asks segments forms) :
      Written (Text.joinWith [pipeChar] segments) forms

/-- A text that is no pipeline: it is not all whitespace, and the first of its segments that asks
for no stage is wrong in this way. -/
inductive Wrong : Text → ParseError → Prop where
  | first {before after : List Text} {segment : Text} {ws : List Text} {error : ParseError}
      (hblank : ¬ ∀ c ∈ Text.joinWith [pipeChar] (before ++ segment :: after), Text.isBlank c)
      (hpipe : ∀ s ∈ before ++ segment :: after, pipeChar ∉ s)
      (hbefore : ∀ s ∈ before, ∃ form, Asks s form)
      (hsegment : Text.Spaced ws segment)
      (hwrong : StageForm.Wrong (before.length + 1) ws error) :
      Wrong (Text.joinWith [pipeChar] (before ++ segment :: after)) error

theorem isAllBlank_iff {text : Text} : Text.isAllBlank text ↔ ∀ c ∈ text, Text.isBlank c :=
  List.all_eq_true

/-- The tokens of segments with a pipe character between neighbours. -/
theorem scan_joinWith {segments : List Text} (hne : segments ≠ [])
    (hpipe : ∀ segment ∈ segments, pipeChar ∉ segment)
    (hblank : ¬ ∀ c ∈ Text.joinWith [pipeChar] segments, Text.isBlank c) :
    StageToken.scan (Text.joinWith [pipeChar] segments) = StageToken.ofSegments 1 segments := by
  have hsplit := Text.splitOn_eq_iff.mpr ⟨hne, hpipe, rfl⟩
  rw [StageToken.scan_of_not_blank (isAllBlank_iff.not.mpr hblank), hsplit]

/-- A text whose first segment asks for a stage is not all whitespace. -/
theorem not_blank_of_asks {segment : Text} {form : StageForm} (h : Asks segment form)
    (segments : List Text) :
    ¬ ∀ c ∈ Text.joinWith [pipeChar] (segment :: segments), Text.isBlank c := by
  intro hblank
  obtain ⟨ws, hsegment, hwritten⟩ := h
  have hfirst : ∀ c ∈ segment, Text.isBlank c := by
    intro c hc
    refine hblank c ?_
    cases segments with
    | nil => exact hc
    | cons next segments =>
      rw [Text.joinWith, List.append_assoc]
      exact List.mem_append_left _ hc
  have hwords := hsegment.words_eq
  rw [Text.words_of_blank hfirst] at hwords
  subst hwords
  cases hwritten

theorem written_or_wrong (text : Text) :
    (∃ forms, Written text forms) ∨ ∃ error, Wrong text error := by
  by_cases hblank : ∀ c ∈ text, Text.isBlank c
  · exact .inl ⟨[], .blank hblank⟩
  · obtain ⟨hne, hpipe, hjoin⟩ := Text.splitOn_eq_iff.mp (rfl : Text.splitOn pipeChar text = _)
    obtain ⟨forms, hforms⟩ |
      ⟨before, segment, after, ws, error, hsegments, hbefore, hsegment, hwrong⟩ :=
        all_ask_or_first_wrong (Text.splitOn pipeChar text) 1
    · left
      rw [← hjoin]
      exact ⟨forms, .stages hne hpipe hforms⟩
    · right
      rw [hsegments] at hpipe hjoin
      rw [Nat.add_comm] at hwrong
      rw [← hjoin] at hblank ⊢
      exact ⟨error, .first hblank hpipe hbefore hsegment hwrong⟩

section Parsing

variable {text : Text} {settings : Option StageSettings}

/-- A text that is a pipeline is parsed to the stages that it asks for. -/
theorem result_parse_of_written {forms : List StageForm} (h : Written text forms) :
    (parse text false Registry.builtin settings).result =
      .ok ⟨forms.map (StageForm.stage (settings.getD {}))⟩ := by
  rw [result_parse_eq_ok_iff, attempt]
  cases h with
  | blank hblank =>
    rw [StageToken.scan, if_pos (isAllBlank_iff.mpr hblank)]
    rfl
  | @stages segments forms hne hpipe hasks =>
    have hblank : ¬ ∀ c ∈ Text.joinWith [pipeChar] segments, Text.isBlank c := by
      cases hasks with
      | nil => exact absurd rfl hne
      | cons hfirst hrest => exact not_blank_of_asks hfirst _
    rw [scan_joinWith hne hpipe hblank, mapM_resolve_of_asks hasks]
    -- Filling in the commands that help lists leaves the order, the sink and the document alone.
    rfl

/-- A text that is no pipeline is refused with the error about its first wrong segment. -/
theorem result_parse_of_wrong {error : ParseError} (h : Wrong text error) :
    (parse text false Registry.builtin settings).result = .error (.rejected error) := by
  rw [result_parse_eq_error_iff, attempt]
  obtain ⟨hblank, hpipe, hbefore, hsegment, hwrong⟩ := h
  rw [scan_joinWith (by simp) hpipe hblank]
  rw [Nat.add_comm] at hwrong
  exact mapM_resolve_of_wrong hbefore hsegment hwrong

theorem result_parse_builtin_eq_ok_iff {p : Pipeline} :
    (parse text false Registry.builtin settings).result = .ok p ↔
      ∃ forms, Written text forms ∧ p = ⟨forms.map (StageForm.stage (settings.getD {}))⟩ := by
  constructor
  · intro h
    obtain ⟨forms, hforms⟩ | ⟨error, herror⟩ := written_or_wrong text
    · refine ⟨forms, hforms, ?_⟩
      rw [result_parse_of_written hforms] at h
      exact (Except.ok.inj h).symm
    · rw [result_parse_of_wrong herror] at h
      cases h
  · rintro ⟨forms, hforms, rfl⟩
    exact result_parse_of_written hforms

theorem result_parse_builtin_eq_error_iff {failure : BuildFailure} :
    (parse text false Registry.builtin settings).result = .error failure ↔
      ∃ error, Wrong text error ∧ failure = .rejected error := by
  constructor
  · intro h
    obtain ⟨forms, hforms⟩ | ⟨error, herror⟩ := written_or_wrong text
    · rw [result_parse_of_written hforms] at h
      cases h
    · refine ⟨error, herror, ?_⟩
      rw [result_parse_of_wrong herror] at h
      exact (Except.error.inj h).symm
  · rintro ⟨error, herror, rfl⟩
    exact result_parse_of_wrong herror

end Parsing

/-- The parser takes exactly the texts that are pipelines, as the stages that they ask for, and
refuses all others with the error about the first segment that is wrong. -/
theorem parse_decides (settings : Option StageSettings) (text : Text) :
    (∀ p, (parse text false Registry.builtin settings).result = .ok p ↔
      ∃ forms, Written text forms ∧ p = ⟨forms.map (StageForm.stage (settings.getD {}))⟩) ∧
    ∀ failure, (parse text false Registry.builtin settings).result = .error failure ↔
      ∃ error, Wrong text error ∧ failure = .rejected error :=
  ⟨fun _ => result_parse_builtin_eq_ok_iff, fun _ => result_parse_builtin_eq_error_iff⟩

example : (parse "sort asc | frob || uniq x".toList).result =
    .error (.rejected (.unknownCommand "frob".toList (some 2))) :=
  rfl

end Pipeline

end LinePipe
