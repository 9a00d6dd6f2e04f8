import LinePipe.Proofs.Buffer.Replacing
import LinePipe.Proofs.Edit

/-!
# The line break at the end

An edit remembers whether the text ended in a line break, apart from its lines. So a line break at
the end never gets lost. But a text without one seems to get one where the edit puts an empty line
last, since the line break before that line then stands at the end.

## Main definitions

- `Pipeline.PutsBlankLast`: a pipeline moves an empty line to the end

## Main statements

- `TextBuffer.IsCut.endsInBreak_toText_iff`: when the text of a buffer ends in a line break
- `TextBuffer.endsInBreak_replace_iff`: when rearranged lines keep the end of a text as it is
- `Pipeline.getLast?_normalForm_iff`: when the built-in commands leave an empty line last
- `Edit.endsInBreak_applyTo_iff`: when an edit keeps the end of a text as it is
-/

namespace LinePipe

namespace TextBuffer

/-- The text of a buffer ends in a line break if the buffer says so, or if the last of several lines
is empty. -/
theorem IsCut.endsInBreak_toText_iff {b : TextBuffer} (h : b.IsCut) (hsome : b.lines ≠ []) :
    b.toText.EndsInBreak ↔
      b.finalNewline = true ∨ 1 < b.lines.length ∧ b.lines.getLast? = some [] := by
  rw [toText_eq_joinWith,
    Text.endsInBreak_joinWith_iff h.newline (feed_not_mem_of_mem_pieces h.lines), pieces]
  have hlength := List.length_pos_iff.mpr hsome
  cases b.finalNewline with
  | true => simpa [hsome] using hlength
  | false => simp

/-- An empty line behind another that is not empty is not the only line. -/
theorem one_lt_length {line : Text} {lines : List Text} (hlast : lines.getLast? = some [])
    (hmem : line ∈ lines) (hne : line ≠ []) : 1 < lines.length := by
  obtain ⟨front, rfl⟩ := List.getLast?_eq_some_iff.mp hlast
  obtain hfront | hempty := List.mem_append.mp hmem
  · have hpos := List.length_pos_of_mem hfront
    simpa using hpos
  · exact absurd (List.mem_singleton.mp hempty) hne

/-- Lines that are rearranged in a region keep the end of the text as it is, unless they end with an
empty line where the text ended with another. -/
theorem endsInBreak_replace_iff {t : Text} {mode : NewlineMode} {r : LineRegion}
    {old new : List Text} {edited : TextBuffer} (hne : t ≠ [])
    (hold : (ofText t mode).linesIn r = .ok old) (hnew : ∀ line, line ∈ new ↔ line ∈ old)
    (h : ((ofText t mode).replace r new).result = .ok edited) :
    edited.toText.EndsInBreak ↔
      t.EndsInBreak ∨
        r.ReachesEnd (ofText t mode).lines.length ∧ new.getLast? = some [] := by
  have hsome := lines_ofText_ne_nil hne mode
  have hmem := mem_lines_of_replace hold hnew h
  obtain ⟨start, stop, hclamp, -, -, hle, hstop⟩ := of_linesIn_eq_ok hsome hold
  obtain ⟨start', stop', hclamp', rfl⟩ := of_replace_eq_ok h
  obtain ⟨rfl, rfl⟩ : start = start' ∧ stop = stop' := by
    simpa using hclamp.symm.trans hclamp'
  have hnewSome : new ≠ [] := by
    obtain ⟨line, hline⟩ := List.exists_mem_of_ne_nil _ (linesIn_ne_nil hsome hold)
    exact List.ne_nil_of_mem ((hnew line).mpr hline)
  have hcut : ((ofText t mode).splice start stop new).IsCut :=
    (isCut_ofText t mode).splice fun line => (hmem line).mp
  -- The last line of the text is not lost, so the edited text has lines.
  have hkept := (hmem _).mpr (List.getLast_mem hsome)
  have hsplice := getLast?_lines_splice start hle hnewSome
  have hfinal : ((ofText t mode).splice start stop new).finalNewline = true ↔ t.EndsInBreak :=
    finalNewline_ofText_iff hne mode
  rw [hcut.endsInBreak_toText_iff (List.ne_nil_of_mem hkept), hfinal]
  by_cases hbreak : t.EndsInBreak
  · simp [hbreak]
  · have hlast := getLast?_lines_ofText hne mode hbreak
    have hlastLine : (ofText t mode).lines.getLast hsome ≠ [] := by
      rwa [List.getLast?_eq_some_getLast hsome, Ne, Option.some.injEq] at hlast
    rw [or_iff_right hbreak, or_iff_right hbreak, ← hstop]
    -- Only a region that reaches to the end can change which line is the last.
    by_cases hend : stop = (ofText t mode).lines.length
    · rw [if_pos hend] at hsplice
      rw [and_iff_right hend, ← hsplice, and_iff_right_iff_imp]
      intro hblank
      exact one_lt_length hblank hkept hlastLine
    · rw [if_neg hend] at hsplice
      simp [hsplice, hlast, hend]

end TextBuffer

namespace Pipeline

/-- A pipeline puts an empty line last, though the last of the lines is not empty. It does so if it
sorts downwards and there is an empty line, or if it drops repeated lines without sorting them and
the last line that is new is empty. -/
def PutsBlankLast (p : Pipeline) (lines : List Text) : Prop :=
  match p.lastDirection? with
  | some true => [] ∈ lines
  | some false => False
  | none => p.dropsRepeats = true ∧ lines.eraseDups.getLast? = some []

/-- A pipeline of built-in commands leaves an empty line last just if it moves one there. -/
theorem getLast?_normalForm_iff (p : Pipeline) (collator : Collator) {lines : List Text}
    (hlast : lines.getLast? ≠ some []) :
    (p.normalForm collator lines).getLast? = some [] ↔ p.PutsBlankLast lines := by
  have hmem := p.mem_kept lines
  rw [normalForm, PutsBlankLast]
  cases p.lastDirection? with
  | none =>
    cases p.dropsRepeats with
    | true => simp
    | false => simpa using hlast
  | some descending =>
    cases descending with
    | true => exact (collator.getLast?_sort_descending_iff _).trans (hmem [])
    | false =>
      -- Upwards an empty line is last only if all lines are empty, and one is not.
      refine iff_of_false (fun hblank => ?_) id
      have hall := collator.eq_nil_of_getLast?_sort_ascending hblank
      have hsorted := (collator.sort_perm false _).mem_iff.mp (List.mem_of_getLast? hblank)
      have hsome : lines ≠ [] := List.ne_nil_of_mem ((hmem []).mp hsorted)
      have hempty : lines.getLast hsome = [] := hall _ ((hmem _).mpr (List.getLast_mem hsome))
      rw [List.getLast?_eq_some_getLast hsome, hempty] at hlast
      exact hlast rfl

end Pipeline

namespace Edit

/-- An edit by the built-in commands keeps the end of a text as it is, with a line break or without,
unless there is no line break, the region reaches to the end, and the pipeline puts an empty line
last. -/
theorem endsInBreak_applyTo_iff {text pipeline : Text} {region : LineRegion} {settings : Settings}
    {sink : Sink} {p : Pipeline} {lines : List Text} (hne : text ≠ [])
    (hlocale : settings.LocaleAvailable)
    (hparse : (Pipeline.parse pipeline false Registry.builtin
      (some (settings.given sink))).result = .ok p)
    (hlines : (TextBuffer.ofText text).linesIn region = .ok lines) :
    ∃ out, (applyTo text pipeline region settings sink).result = .ok out ∧
      ((out.EndsInBreak ↔ text.EndsInBreak) ↔
        ¬ (¬ text.EndsInBreak ∧ region.ReachesEnd (TextBuffer.ofText text).lines.length ∧
          p.PutsBlankLast lines)) := by
  obtain ⟨edited, hreplace, hresult⟩ := result_applyTo hlocale hparse hlines
  refine ⟨edited.toText, hresult, ?_⟩
  rw [← TextBuffer.linesIn_ofText text settings.newline] at hlines
  rw [← TextBuffer.lines_ofText text settings.newline]
  rw [TextBuffer.endsInBreak_replace_iff hne hlines (p.mem_normalForm _ lines) hreplace]
  by_cases hbreak : text.EndsInBreak
  · simp [hbreak]
  · have hblank (hend : region.ReachesEnd (TextBuffer.ofText text settings.newline).lines.length) :
        (p.normalForm ⟨settings.numeric⟩ lines).getLast? = some [] ↔ p.PutsBlankLast lines := by
      apply p.getLast?_normalForm_iff
      rw [TextBuffer.getLast?_linesIn (TextBuffer.lines_ofText_ne_nil hne _) hlines hend]
      exact TextBuffer.getLast?_lines_ofText hne _ hbreak
    simp only [hbreak, false_or, iff_false, not_false_eq_true, true_and]
    rw [and_congr_right hblank]

/-- An empty line is put last in the region, but another line stands behind the region. -/
theorem endsInBreak_applyTo_before_last :
    ∃ region out, region.first = 0 ∧ region.last = some 1 ∧
      (applyTo "\nb\na".toList "sort desc".toList region).result = .ok out ∧
        (Text.EndsInBreak out ↔ Text.EndsInBreak "\nb\na".toList) := by
  let region : LineRegion := ⟨0, some 1, fun l _ => Nat.zero_le l⟩
  have hlines : (TextBuffer.ofText "\nb\na".toList).linesIn region = .ok [[], ['b']] := rfl
  obtain ⟨p, hp⟩ : ∃ p, (Pipeline.parse "sort desc".toList false Registry.builtin
      (some (({} : Settings).given .absent))).result = .ok p := ⟨_, rfl⟩
  obtain ⟨out, hout, hiff⟩ := endsInBreak_applyTo_iff (by decide) ⟨_, rfl⟩ hp hlines
  refine ⟨region, out, rfl, rfl, hout, hiff.mpr ?_⟩
  rintro ⟨-, hend, -⟩
  exact absurd (hend 1 rfl) (by decide)

/-- An empty line that a pipeline puts last, by sorting or by dropping the line behind it, looks
like a line break at the end of a text that has none. -/
theorem endsInBreak_applyTo_of_blank_last :
    (applyTo "\na".toList "sort desc".toList).result = .ok "a\n".toList ∧
      (applyTo "a\n\na".toList "uniq".toList).result = .ok "a\n".toList ∧
        Text.EndsInBreak "a\n".toList ∧ ¬ Text.EndsInBreak "\na".toList ∧
          ¬ Text.EndsInBreak "a\n\na".toList := by
  have hsort : ({} : Collator).sort true [[], ['a']] = [['a'], []] :=
    (Collator.eq_sort {} true (List.Perm.swap _ _ _) (by decide)).symm
  have hspliced : (applyTo "\na".toList "sort desc".toList).result =
      .ok ((TextBuffer.ofText "\na".toList).splice 0 2
        (({} : Collator).sort true [[], ['a']])).toText := rfl
  refine ⟨?_, rfl, by decide, by decide, by decide⟩
  rw [hspliced, hsort]
  rfl

end Edit

end LinePipe
