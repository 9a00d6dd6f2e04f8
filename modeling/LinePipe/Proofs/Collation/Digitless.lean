import LinePipe.Proofs.Collation.Prefix
import LinePipe.Proofs.Edit

/-!
# Lines without digits

Whether digit runs count as numbers decides how a line is cut into chunks. A line without digits has
only one run, so it has the same chunk either way. The empty line is the exception: it has no run,
but taken as a whole it has a chunk without characters, as has a line of null characters only. Such
lines do not change places by this, since the empty line comes before all others in any case.

## Main definitions

- `Text.Digitless`: a text without decimal digits
- `Edit.IgnoresNumeric`: lines to which it makes no difference whether digit runs count as numbers

## Main statements

- `Collator.compare_eq_of_digitless`, `Collator.sort_eq_of_digitless`: all orders agree on lines
  without digits
- `Edit.ignoresNumeric_of_digitless`: so pipelines leave the same of them
-/

namespace LinePipe

/-- No character of the text is a decimal digit of any script. -/
def Text.Digitless (t : Text) : Prop :=
  ∀ x ∈ t, isDecimal x = false

instance (t : Text) : Decidable t.Digitless :=
  List.decidableBAll _ t

namespace Collator

/-- A line without digits that is not empty is one run of words, whether it is cut or not. -/
theorem chunks_of_digitless (c : Collator) {line : Text} (hne : line ≠ [])
    (h : line.Digitless) : c.chunks line = [.words (foldedWords line)] := by
  by_cases hnumeric : c.numeric = true
  · exact chunks_of_words hnumeric hne h
  · rw [chunks, if_neg hnumeric]

/-- All orders agree on two lines without digits. -/
theorem compare_eq_of_digitless (c c' : Collator) {a b : Text} (ha : a.Digitless)
    (hb : b.Digitless) : c.compare a b = c'.compare a b := by
  by_cases hfirst : a = []
  · subst hfirst
    by_cases hsecond : b = []
    · rw [c.compare_eq_iff.mpr hsecond.symm, c'.compare_eq_iff.mpr hsecond.symm]
    · rw [← List.nil_append b, c.compare_append [] hsecond, c'.compare_append [] hsecond]
  · by_cases hsecond : b = []
    · subst hsecond
      have hlater (c : Collator) : c.compare a [] = .gt :=
        Std.OrientedCmp.gt_of_lt (c.compare_append [] hfirst)
      rw [hlater c, hlater c']
    · simp only [compare_eq_then, chunks_of_digitless _ hfirst ha, chunks_of_digitless _ hsecond hb]

/-- So there is one arrangement of lines without digits for each direction. -/
theorem sort_eq_of_digitless (c c' : Collator) (descending : Bool) {lines : List Text}
    (h : ∀ line ∈ lines, line.Digitless) :
    c.sort descending lines = c'.sort descending lines := by
  refine c'.eq_sort descending (c.sort_perm descending lines) ?_
  have hmem {line : Text} (hline : line ∈ c.sort descending lines) : line.Digitless :=
    h line ((c.sort_perm descending lines).mem_iff.mp hline)
  refine (c.pairwise_sort descending lines).imp_of_mem fun {a b} ha hb hab => ?_
  unfold precedes at hab ⊢
  rwa [c'.compare_eq_of_digitless c (hmem hb) (hmem ha),
    c'.compare_eq_of_digitless c (hmem ha) (hmem hb)]

end Collator

namespace Pipeline

/-- A pipeline leaves the same of lines without digits in all orders. -/
theorem normalForm_eq_of_digitless (p : Pipeline) (c c' : Collator) {lines : List Text}
    (h : ∀ line ∈ lines, line.Digitless) : p.normalForm c lines = p.normalForm c' lines := by
  have hkept : ∀ line ∈ (if p.dropsRepeats then lines.eraseDups else lines), line.Digitless :=
    fun line hline => h line ((p.mem_kept lines line).mp hline)
  rw [normalForm, normalForm]
  cases p.lastDirection? with
  | none => rfl
  | some descending => exact Collator.sort_eq_of_digitless c c' descending hkept

/-- What stages leave in a given order depends on their settings only by that order. -/
theorem normalForm_stages (forms : List StageForm) (settings settings' : StageSettings)
    (c : Collator) (lines : List Text) :
    normalForm ⟨forms.map (StageForm.stage settings)⟩ c lines =
      normalForm ⟨forms.map (StageForm.stage settings')⟩ c lines := by
  have hdirection : Stage.direction? ∘ StageForm.stage settings =
      Stage.direction? ∘ StageForm.stage settings' := by
    funext form
    cases form <;> rfl
  have hdrops : Stage.dropsRepeats ∘ StageForm.stage settings =
      Stage.dropsRepeats ∘ StageForm.stage settings' := by
    funext form
    cases form <;> rfl
  simp only [normalForm, lastDirection?, dropsRepeats, List.filterMap_map, List.any_map,
    hdirection, hdrops]

end Pipeline

namespace Edit

variable {pipeline : Text} {settings : Settings} {lines : List Text}

/-- Running a text that is a pipeline leaves the normal form of the lines in the order that the
settings ask for. -/
theorem result_runLines_normalForm {forms : List StageForm} (h : settings.LocaleAvailable)
    (hwritten : Pipeline.Written pipeline forms) (lines : List Text) (sink : Sink) :
    (runLines pipeline lines settings sink).result =
      .ok (Pipeline.normalForm ⟨forms.map (StageForm.stage {})⟩ ⟨settings.numeric⟩ lines) := by
  have hparse : (Pipeline.parse pipeline false Registry.builtin
      (some (settings.given sink))).result = _ := Pipeline.result_parse_of_written hwritten
  have hexecute := Pipeline.execute_builtin (Pipeline.builtin_of_parse hparse) lines
  rw [result_runLines h, Outcome.result_bind_of_ok (Outcome.result_mapError_eq_ok_iff.mpr hparse),
    Outcome.result_mapError_eq_ok_iff.mpr hexecute, Pipeline.normalForm_stages]
  rfl

/-- A locale that cannot be chosen keeps a pipeline text from running. -/
theorem result_runLines_of_locale (settings : Settings) {failure : Locale.Failure}
    (hne : settings.locale ≠ []) (h : Locale.resolve settings.locale = .error failure)
    (sink : Sink) : (runLines pipeline lines settings sink).result = .error (.locale failure) := by
  have hprepare : (settings.prepare sink).result = .error failure :=
    Settings.prepare_eq_error_iff.mpr ⟨hne, h⟩
  have hfailed : ((settings.prepare sink).mapError Failure.locale).result =
      .error (.locale failure) := by
    rw [Outcome.result_mapError, hprepare]
    rfl
  rw [runLines, Outcome.result_bind_of_error hfailed]

/-- Whether digit runs count as numbers is asked only where lines with digits are compared. -/
theorem result_runLines_of_digitless (pipeline : Text) (h : ∀ line ∈ lines, line.Digitless)
    (settings : Settings) (sink : Sink) :
    (runLines pipeline lines { settings with numeric := true } sink).result =
      (runLines pipeline lines { settings with numeric := false } sink).result := by
  cases hlocale : Locale.resolve settings.locale with
  | error failure =>
    have hne : settings.locale ≠ [] := by
      intro hnone
      rw [hnone] at hlocale
      cases hlocale
    have hfails (numeric : Bool) :
        (runLines pipeline lines { settings with numeric } sink).result =
          .error (.locale failure) :=
      result_runLines_of_locale { settings with numeric } hne hlocale sink
    rw [hfails true, hfails false]
  | ok locale =>
    have havailable (numeric : Bool) : { settings with numeric }.LocaleAvailable :=
      ⟨locale, hlocale⟩
    obtain ⟨forms, hforms⟩ | ⟨error, herror⟩ := Pipeline.written_or_wrong pipeline
    · rw [result_runLines_normalForm (havailable true) hforms,
        result_runLines_normalForm (havailable false) hforms,
        Pipeline.normalForm_eq_of_digitless _ _ _ h]
    · rw [result_runLines_of_wrong (havailable true) lines sink herror,
        result_runLines_of_wrong (havailable false) lines sink herror]

/-- It makes no difference to lines whether digit runs count as numbers: not for their order, not
for sorting them, and not for what a pipeline text does to them or for why it fails. -/
structure IgnoresNumeric (lines : List Text) : Prop where
  compares : ∀ a ∈ lines, ∀ b ∈ lines, Collator.compare ⟨true⟩ a b = Collator.compare ⟨false⟩ a b
  sorts : ∀ descending, ((Stage.sort descending ⟨true⟩).run lines).result =
    ((Stage.sort descending ⟨false⟩).run lines).result
  runs : ∀ (pipeline : Text) (settings : Settings) (sink : Sink),
    (runLines pipeline lines { settings with numeric := true } sink).result =
      (runLines pipeline lines { settings with numeric := false } sink).result

/-- It makes no difference to lines without digits whether digit runs count as numbers. -/
theorem ignoresNumeric_of_digitless (h : ∀ line ∈ lines, line.Digitless) :
    IgnoresNumeric lines where
  compares a ha b hb := Collator.compare_eq_of_digitless _ _ (h a ha) (h b hb)
  sorts descending := congrArg Except.ok (Collator.sort_eq_of_digitless _ _ descending h)
  runs pipeline := result_runLines_of_digitless pipeline h

/-- An empty line, a line of null characters and a word in two cases. The empty line has other
chunks if digit runs count as numbers, but it is sorted to the same place. -/
theorem ignoresNumeric_empty_and_null :
    let lines : List Text := ["b".toList, ['\x00'], "B".toList, []]
    (∀ line ∈ lines, line.Digitless) ∧ IgnoresNumeric lines ∧
      Collator.chunks ⟨true⟩ [] ≠ Collator.chunks ⟨false⟩ [] ∧
      ((Stage.sort false ⟨true⟩).run lines).result =
        .ok [[], ['\x00'], "b".toList, "B".toList] := by
  intro lines
  have h : ∀ line ∈ lines, line.Digitless := by decide
  have hperm : [[], ['\x00'], "b".toList, "B".toList].Perm lines := by decide
  have hsorted := Collator.eq_sort ⟨true⟩ false hperm (by decide)
  exact ⟨h, ignoresNumeric_of_digitless h, by decide, congrArg Except.ok hsorted.symm⟩

end Edit

end LinePipe
