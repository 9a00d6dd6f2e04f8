import LinePipe.Proofs.Pipeline.Language

/-!
# The canonical text of a pipeline

A pipeline is shown with one space between the words of a stage and with a pipe character between
two spaces after it, each argument in one spelling. This text is a pipeline again, and the same
one; so showing tells different pipelines apart and gives texts of the same pipeline one form.

## Main definitions

- `StageForm.canonicalWords`: the words that a stage is shown with
- `Pipeline.reprint`: parsing followed by showing
- `Pipeline.ShowsFaithfully`: what showing keeps of a pipeline

## Main statements

- `Pipeline.written_describe`: what is shown is a text of the same stages
- `Pipeline.shows_faithfully_of_parse`: pipelines that were parsed are shown faithfully
-/

namespace LinePipe

namespace StageForm

/-- The words that a stage is shown with. -/
def canonicalWords : StageForm → List Text
  | sort false => ["sort".toList]
  | sort true => ["sort".toList, "desc".toList]
  | uniq => ["uniq".toList]
  | help => ["help".toList]

theorem describe_stage (settings : StageSettings) (form : StageForm) :
    (form.stage settings).describe = Text.unwords form.canonicalWords := by
  cases form with
  | sort descending => cases descending <;> rfl
  | uniq => rfl
  | help => rfl

theorem written_canonicalWords (form : StageForm) : Written form.canonicalWords form := by
  cases form with
  | sort descending =>
    cases descending with
    | false => exact .sort
    | true => exact .sortDescending
  | uniq => exact .uniq
  | help => exact .help []

/-- The canonical words stand apart where they are shown. -/
theorem spaced_canonicalWords (form : StageForm) :
    Text.Spaced form.canonicalWords (Text.unwords form.canonicalWords) := by
  have hwords : ∀ w ∈ form.canonicalWords, w ≠ [] ∧ w.any Text.isBlank = false := by
    cases form with
    | sort descending => cases descending <;> decide
    | uniq => decide
    | help => decide
  refine Text.spaced_unwords (fun w hw => (hwords w hw).1) fun w hw c hc => ?_
  exact List.any_eq_false.mp (hwords w hw).2 c hc

end StageForm

namespace Pipeline

/-! ## Building texts of pipelines -/

theorem Asks.blank_append {segment gap : Text} {form : StageForm} (h : Asks segment form)
    (hgap : ∀ c ∈ gap, Text.isBlank c) : Asks (gap ++ segment) form := by
  obtain ⟨ws, hsegment, hwritten⟩ := h
  exact ⟨ws, hsegment.blank_append hgap, hwritten⟩

theorem Asks.append_blank {segment gap : Text} {form : StageForm} (h : Asks segment form)
    (hgap : ∀ c ∈ gap, Text.isBlank c) : Asks (segment ++ gap) form := by
  obtain ⟨ws, hsegment, hwritten⟩ := h
  exact ⟨ws, hsegment.append_blank hgap, hwritten⟩

theorem pipeChar_not_mem_of_blank {gap : Text} (hgap : ∀ c ∈ gap, Text.isBlank c) :
    pipeChar ∉ gap := by
  intro hmem
  have hpipe := hgap pipeChar hmem
  revert hpipe
  decide

/-- Whitespace in front of a pipeline belongs to its first segment. -/
theorem Written.blank_append {text gap : Text} {forms : List StageForm} (h : Written text forms)
    (hgap : ∀ c ∈ gap, Text.isBlank c) : Written (gap ++ text) forms := by
  cases h with
  | blank hblank => exact .blank (List.forall_mem_append.mpr ⟨hgap, hblank⟩)
  | @stages segments forms hne hpipe hasks =>
    cases hasks with
    | nil => exact absurd rfl hne
    | @cons segment form segments forms hfirst hrest =>
      obtain ⟨hsegment, hsegments⟩ := List.forall_mem_cons.mp hpipe
      have hjoin : gap ++ Text.joinWith [pipeChar] (segment :: segments) =
          Text.joinWith [pipeChar] ((gap ++ segment) :: segments) := by
        cases segments with
        | nil => rfl
        | cons next segments => simp only [Text.joinWith, List.append_assoc]
      rw [hjoin]
      refine .stages (List.cons_ne_nil _ _) ?_ (.cons (hfirst.blank_append hgap) hrest)
      refine List.forall_mem_cons.mpr ⟨?_, hsegments⟩
      exact List.not_mem_append (pipeChar_not_mem_of_blank hgap) hsegment

/-- A segment with a pipe character behind it is one more stage in front of a pipeline. -/
theorem Written.cons {segment text : Text} {form : StageForm} {forms : List StageForm}
    (h : Written text forms) (hne : forms ≠ []) (hsegment : pipeChar ∉ segment)
    (hasks : Asks segment form) : Written (segment ++ [pipeChar] ++ text) (form :: forms) := by
  cases h with
  | blank => exact absurd rfl hne
  | @stages segments forms hsegments hpipe hrest =>
    obtain ⟨next, segments, rfl⟩ := List.exists_cons_of_ne_nil hsegments
    have hmore : Written (Text.joinWith [pipeChar] (segment :: next :: segments)) (form :: forms) :=
      .stages (List.cons_ne_nil _ _) (List.forall_mem_cons.mpr ⟨hsegment, hpipe⟩)
        (.cons hasks hrest)
    exact hmore

/-! ## What is shown -/

section Showing

variable (settings : StageSettings)

theorem asks_describe (form : StageForm) : Asks (form.stage settings).describe form := by
  rw [form.describe_stage]
  exact ⟨form.canonicalWords, form.spaced_canonicalWords, form.written_canonicalWords⟩

theorem pipeChar_not_mem_describe (form : StageForm) :
    pipeChar ∉ (form.stage settings).describe := by
  rw [form.describe_stage]
  cases form with
  | sort descending => cases descending <;> decide
  | uniq => decide
  | help => decide

/-- What is shown of stages is a text that asks for these stages. -/
theorem written_describe {forms : List StageForm} (hne : forms ≠ []) :
    Written (describe ⟨forms.map (StageForm.stage settings)⟩) forms := by
  induction forms with
  | nil => exact absurd rfl hne
  | cons form forms ih =>
    have hasks := asks_describe settings form
    have hpipe := pipeChar_not_mem_describe settings form
    cases forms with
    | nil =>
      exact .stages (List.cons_ne_nil _ []) (List.forall_mem_singleton.mpr hpipe)
        (.cons hasks .nil)
    | cons next forms =>
      -- One space of the separator goes to each of its sides.
      have happend : describe ⟨(form :: next :: forms).map (StageForm.stage settings)⟩ =
          ((form.stage settings).describe ++ [' ']) ++ [pipeChar] ++
            ([' '] ++ describe ⟨(next :: forms).map (StageForm.stage settings)⟩) := by
        simp [describe, isIdentity, separator, Text.joinWith]
      have hlater := (ih (List.cons_ne_nil _ _)).blank_append Text.isBlank_space
      rw [happend]
      refine hlater.cons (List.cons_ne_nil _ _) ?_ (hasks.append_blank Text.isBlank_space)
      exact List.not_mem_append hpipe (by decide)

end Showing

section Parsed

variable (settings : Option StageSettings)

/-- What is shown of a pipeline that was parsed is parsed to the same pipeline. -/
theorem result_parse_describe {text : Text} {p : Pipeline}
    (h : (parse text false Registry.builtin settings).result = .ok p) (hne : p.stages ≠ []) :
    (parse p.describe false Registry.builtin settings).result = .ok p := by
  obtain ⟨forms, -, rfl⟩ := result_parse_builtin_eq_ok_iff.mp h
  refine result_parse_of_written (written_describe _ ?_)
  rintro rfl
  exact hne rfl

/-- What is shown of the pipeline that a text is parsed to. -/
def reprint (text : Text) : Except BuildFailure Text :=
  (parse text false Registry.builtin settings).result.map describe

/-- Showing a pipeline gives a text of this pipeline and of no other. -/
structure ShowsFaithfully (p : Pipeline) : Prop where
  parses : (parse p.describe false Registry.builtin settings).result = .ok p
  fixed : reprint settings p.describe = .ok p.describe
  decides : ∀ text p', (parse text false Registry.builtin settings).result = .ok p' →
    p'.stages ≠ [] → (p.describe = p'.describe ↔ p = p')

/-- A pipeline with stages that a text is parsed to is shown faithfully. -/
theorem shows_faithfully_of_parse {text : Text} {p : Pipeline}
    (h : (parse text false Registry.builtin settings).result = .ok p) (hne : p.stages ≠ []) :
    ShowsFaithfully settings p := by
  have hparse := result_parse_describe settings h hne
  refine ⟨hparse, ?_, ?_⟩
  · rw [reprint, hparse]
    rfl
  · intro text' p' h' hne'
    constructor
    · intro hdescribe
      have hparse' := result_parse_describe settings h' hne'
      rw [← hdescribe, hparse] at hparse'
      exact Except.ok.inj hparse'
    · rintro rfl
      rfl

end Parsed

/-- The text `help | sort desc | uniq` with other spellings and other whitespace. -/
theorem shows_faithfully_respelled :
    let p : Pipeline := ⟨[.help (Builtin.helpDocument {}) .absent, .sort true {}, .uniq]⟩
    (parse " help me |sort -d|\tuniq".toList).result = .ok p ∧
      p.describe = "help | sort desc | uniq".toList ∧ ShowsFaithfully none p :=
  have h : (parse " help me |sort -d|\tuniq".toList).result = .ok
      ⟨[.help (Builtin.helpDocument {}) .absent, .sort true {}, .uniq]⟩ := rfl
  ⟨h, rfl, shows_faithfully_of_parse none h (List.cons_ne_nil _ _)⟩

end Pipeline

end LinePipe
