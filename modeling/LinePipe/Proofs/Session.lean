import LinePipe.Proofs.Buffer.Replacing
import LinePipe.Proofs.Pipeline.Settled
import LinePipe.Session

/-!
# No line is lost in a session

The built-in commands rearrange lines and drop repeated ones, and so does a step of a session with
the lines of its region. It leaves all other lines and the line break of the buffer alone. So
whatever a session does, in how many steps ever, the buffer holds the lines it held at the start,
some of them less often.

## Main definitions

- `TextBuffer.Thins`: a buffer is another with lines rearranged and repeated ones dropped
- `Session.Step.Replaces`: what a step does that does not fail
- `Session.LosesNoLine`: what is kept by a session

## Main statements

- `Session.thins_next`: what one step does to a buffer
- `Session.thins_run`: what steps in a row do to it
- `Session.losesNoLine`: this for the buffer of a text, before and after each step
-/

namespace LinePipe

namespace TextBuffer

/-- A buffer with the lines of another, rearranged and some of them less often, but none lost. -/
structure Thins (before after : TextBuffer) : Prop where
  mem_iff : ∀ line, line ∈ after.lines ↔ line ∈ before.lines
  subperm : after.lines.Subperm before.lines
  newline : after.newline = before.newline
  finalNewline : after.finalNewline = before.finalNewline

theorem Thins.refl (b : TextBuffer) : b.Thins b where
  mem_iff _ := Iff.rfl
  subperm := List.Subperm.refl _
  newline := rfl
  finalNewline := rfl

theorem Thins.trans {a b c : TextBuffer} (hab : a.Thins b) (hbc : b.Thins c) : a.Thins c where
  mem_iff line := (hbc.mem_iff line).trans (hab.mem_iff line)
  subperm := hbc.subperm.trans hab.subperm
  newline := hbc.newline.trans hab.newline
  finalNewline := hbc.finalNewline.trans hab.finalNewline

/-- If the lines of a region are rearranged and some are dropped, so are those of the buffer. -/
theorem thins_of_replace {b edited : TextBuffer} {r : LineRegion} {old new : List Text}
    (hold : b.linesIn r = .ok old) (hmem : ∀ line, line ∈ new ↔ line ∈ old)
    (hnew : new.Subperm old) (h : (b.replace r new).result = .ok edited) : b.Thins edited := by
  obtain ⟨start, stop, hclamp, hedited⟩ := of_replace_eq_ok h
  have hsubperm : edited.lines.Subperm b.lines := by
    obtain ⟨hle, -⟩ := LineRegion.le_of_clamp_eq_ok hclamp
    rw [linesIn_of_clamp hclamp, Except.ok.injEq] at hold
    rw [← b.lines_split hle, hedited, hold]
    exact ((List.Subperm.refl _).append hnew).append (List.Subperm.refl _)
  exact ⟨mem_lines_of_replace hold hmem h, hsubperm, by rw [hedited]; rfl, by rw [hedited]; rfl⟩

end TextBuffer

namespace Session

/-- What a step does to a buffer if its region lies in the buffer and its text is a pipeline: the
normal form of the lines of the region is put in their place. -/
def Step.Replaces (s : Step) (b after : TextBuffer) : Prop :=
  ∀ region p lines, s.target.resolve = .ok region →
    (Pipeline.parse s.pipeline false Registry.builtin s.settings).result = .ok p →
    b.linesIn region = .ok lines →
    (b.replace region (p.normalForm (s.settings.getD {}).collator lines)).result = .ok after

variable {s : Step} {b after : TextBuffer}

/-- A step that does not fail reads a region, runs a pipeline and puts its normal form back. -/
theorem of_perform_eq_ok (h : (s.perform b).result = .ok after) :
    ∃ region p lines, s.target.resolve = .ok region ∧
      (Pipeline.parse s.pipeline false Registry.builtin s.settings).result = .ok p ∧
      b.linesIn region = .ok lines ∧
      (b.replace region (p.normalForm (s.settings.getD {}).collator lines)).result = .ok after := by
  obtain ⟨region, hregion, h⟩ := Outcome.result_bind_eq_ok_iff.mp h
  obtain ⟨p, hparse, h⟩ := Outcome.result_bind_eq_ok_iff.mp h
  obtain ⟨lines, hlines, h⟩ := Outcome.result_bind_eq_ok_iff.mp h
  obtain ⟨out, hout, h⟩ := Outcome.result_bind_eq_ok_iff.mp h
  rw [Outcome.result_mapError_eq_ok_iff] at hparse hout h
  rw [Outcome.result_ofExcept, except_mapError_eq_ok_iff] at hregion hlines
  rw [Pipeline.execute_builtin (Pipeline.builtin_of_parse hparse), Except.ok.injEq] at hout
  subst hout
  exact ⟨region, p, lines, hregion, hparse, hlines, h⟩

/-- A step whose region lies in the buffer and whose text is a pipeline does not fail. -/
theorem replaces_next (s : Step) (b : TextBuffer) : s.Replaces b (next b s) := by
  intro region p lines hregion hparse hlines
  have hexecute := Pipeline.execute_builtin (Pipeline.builtin_of_parse hparse) lines
  cases hreplace :
      (b.replace region (p.normalForm (s.settings.getD {}).collator lines)).result with
  | error e => exact absurd hreplace (TextBuffer.result_replace_ne_error hlines _ e)
  | ok edited =>
    have hread : (Outcome.ofExcept ((b.linesIn region).mapError Failure.region)).result =
        .ok lines := by
      rw [hlines]
      rfl
    have hnamed : (Outcome.ofExcept (s.target.resolve.mapError Failure.range)).result =
        .ok region := by
      rw [hregion]
      rfl
    have hperform : (s.perform b).result = .ok edited := by
      rw [Step.perform, Outcome.result_bind_of_ok hnamed,
        Outcome.result_bind_of_ok (Outcome.result_mapError_eq_ok_iff.mpr hparse),
        Outcome.result_bind_of_ok hread,
        Outcome.result_bind_of_ok (Outcome.result_mapError_eq_ok_iff.mpr hexecute)]
      exact Outcome.result_mapError_eq_ok_iff.mpr hreplace
    rw [next, hperform]

theorem next_of_error {failure : Failure} (h : (s.perform b).result = .error failure) :
    next b s = b := by
  rw [next, h]

/-- One step rearranges the lines of its region and drops some, or it does nothing. -/
theorem thins_next (b : TextBuffer) (s : Step) : b.Thins (next b s) := by
  cases hperform : (s.perform b).result with
  | error failure =>
    rw [next_of_error hperform]
    exact TextBuffer.Thins.refl b
  | ok edited =>
    obtain ⟨region, p, lines, -, -, hlines, hreplace⟩ := of_perform_eq_ok hperform
    rw [next, hperform]
    exact TextBuffer.thins_of_replace hlines (p.mem_normalForm _ lines)
      (p.normalForm_subperm _ lines) hreplace

/-- So do steps in a row. -/
theorem thins_run (b : TextBuffer) (steps : List Step) : b.Thins (run b steps) := by
  induction steps generalizing b with
  | nil => exact TextBuffer.Thins.refl b
  | cons s rest ih => exact (thins_next b s).trans (ih (next b s))

theorem run_append (b : TextBuffer) (earlier later : List Step) :
    run b (earlier ++ later) = run (run b earlier) later :=
  List.foldl_append

/-- What a session keeps, between the buffer it started from, the buffer before a step and the
buffer after it. -/
structure LosesNoLine (initial before : TextBuffer) (s : Step) (after : TextBuffer) : Prop where
  fails : ∀ failure, (s.perform before).result = .error failure → after = before
  replaces : s.Replaces before after
  mem_iff : ∀ line, line ∈ after.lines ↔ line ∈ initial.lines
  count_le : ∀ line, after.lines.count line ≤ before.lines.count line
  length_le : after.lines.length ≤ before.lines.length
  empty : after.lines.length = 0 → before.lines.length = 0
  newline : after.newline = initial.newline
  finalNewline : after.finalNewline = initial.finalNewline
  feed : ∀ line ∈ after.lines, '\n' ∉ line

/-- Whatever steps came earlier and whatever the next one is, it loses no line of the text. -/
theorem losesNoLine (t : Text) (mode : NewlineMode) (earlier : List Step) (s : Step) :
    LosesNoLine (TextBuffer.ofText t mode) (run (TextBuffer.ofText t mode) earlier) s
      (run (TextBuffer.ofText t mode) (earlier ++ [s])) := by
  have hstep := thins_next (run (TextBuffer.ofText t mode) earlier) s
  have hrun := thins_run (TextBuffer.ofText t mode) (earlier ++ [s])
  rw [run_append] at hrun ⊢
  exact {
    fails := fun _ => next_of_error
    replaces := replaces_next s _
    mem_iff := hrun.mem_iff
    count_le := fun line => hstep.subperm.count_le line
    length_le := hstep.subperm.length_le
    empty := by
      simp only [List.length_eq_zero_iff, List.eq_nil_iff_forall_not_mem]
      exact fun hnone line hline => hnone line ((hstep.mem_iff line).mpr hline)
    newline := hrun.newline
    finalNewline := hrun.finalNewline
    feed := fun line hline =>
      (TextBuffer.isCut_ofText t mode).lines line ((hrun.mem_iff line).mp hline) }

end Session

end LinePipe
