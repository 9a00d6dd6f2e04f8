import LinePipe.Buffer.Basic
import LinePipe.Proofs.Outcome
import LinePipe.Proofs.Text.LineBreak

/-!
# Buffers and line breaks

The line break of a buffer matters only when the lines are joined again. So two texts with the same
lines are edited in the same way, and the results differ at most in how their line breaks are
written.

## Main definitions

- `TextBuffer.breakCount`: how many line breaks stand in the text of a buffer
- `TextBuffer.withNewline`: a buffer with another line break

## Main statements

- `TextBuffer.count_toText`: how often a character stands in the text of a buffer
- `TextBuffer.ofText_normalizeBreaks`: normalising changes at most the line break of a buffer
- `TextBuffer.mem_lines_of_replace`: lines are only lost where they were to be replaced
-/

namespace LinePipe

/-- The texts themselves and the separators between them make up a joined text. -/
theorem Text.count_joinWith (sep : Text) (ts : List Text) (c : Char) :
    (Text.joinWith sep ts).count c = ts.flatten.count c + (ts.length - 1) * sep.count c := by
  induction ts with
  | nil => simp [Text.joinWith]
  | cons t rest ih =>
    cases rest with
    | nil => simp [Text.joinWith]
    | cons u rest =>
      have hlength : (t :: u :: rest).length - 1 = ((u :: rest).length - 1) + 1 := by simp
      have hflatten : (t :: u :: rest).flatten = t ++ (u :: rest).flatten := List.flatten_cons
      rw [Text.joinWith, List.count_append, List.count_append, ih, hflatten, List.count_append,
        hlength, Nat.succ_mul]
      omega

/-- The empty text stays empty when breaks are normalised, and no other text becomes empty. -/
theorem Text.isEmpty_normalizeBreaks (t : Text) : (normalizeBreaks t).isEmpty = t.isEmpty := by
  unfold normalizeBreaks
  split <;> rfl

/-- Every policy asks for one of the two line breaks. -/
theorem NewlineMode.breakFor_eq (mode : NewlineMode) (t : Text) :
    mode.breakFor t = ['\n'] ∨ mode.breakFor t = ['\r', '\n'] := by
  cases mode with
  | auto =>
    simp only [breakFor, detectNewline]
    split
    · exact .inr rfl
    · exact .inl rfl
  | lf => exact .inl rfl
  | crlf => exact .inr rfl

namespace TextBuffer

/-- How many line breaks stand in the text of a buffer. -/
def breakCount (b : TextBuffer) : Nat :=
  (b.lines.length - 1) + if b.finalNewline && !b.lines.isEmpty then 1 else 0

/-- The buffer with another line break. -/
def withNewline (b : TextBuffer) (newline : Text) : TextBuffer :=
  { b with newline }

/-- A character of the text of a buffer stands in a line or in a line break. -/
theorem count_toText (b : TextBuffer) (c : Char) :
    b.toText.count c = b.lines.flatten.count c + b.breakCount * b.newline.count c := by
  rw [toText, List.count_append, Text.count_joinWith, breakCount, Nat.add_mul]
  split
  · omega
  · simp

/-- Without line breaks it does not matter how they would be written. -/
theorem toText_withNewline {b : TextBuffer} (h : b.breakCount = 0) (newline : Text) :
    (b.withNewline newline).toText = b.toText := by
  have hlast : (b.finalNewline && !b.lines.isEmpty) = false := by
    rw [Bool.eq_false_iff]
    intro htrue
    rw [breakCount, if_pos htrue] at h
    omega
  have hlength : b.lines.length ≤ 1 := by
    rw [breakCount] at h
    omega
  have hjoin : Text.joinWith newline b.lines = Text.joinWith b.newline b.lines := by
    cases hlines : b.lines with
    | nil => rfl
    | cons line rest =>
      cases rest with
      | nil => rfl
      | cons next rest => simp [hlines] at hlength
  simp only [toText, withNewline, hlast, hjoin, Bool.false_eq_true, if_false]

theorem count_flatten_eq_zero_iff (lines : List Text) (c : Char) :
    lines.flatten.count c = 0 ↔ ∀ line ∈ lines, c ∉ line := by
  rw [List.count_eq_zero, List.mem_flatten]
  constructor
  · intro h line hline hc
    exact h ⟨line, hline, hc⟩
  · rintro h ⟨line, hline, hc⟩
    exact h line hline hc

/-! ## Cutting a text -/

/-- Every policy asks for a line break with one line feed. -/
theorem count_feed_breakFor (mode : NewlineMode) (t : Text) :
    (mode.breakFor t).count '\n' = 1 := by
  obtain h | h := mode.breakFor_eq t <;> rw [h] <;> rfl

/-- Without carriage returns in it, a text uses a line feed. -/
theorem detectNewline_of_not_mem {t : Text} (h : '\r' ∉ t) : detectNewline t = ['\n'] := by
  rw [detectNewline, if_neg]
  intro hbreak
  exact h (Text.return_mem_of_hasCarriageBreak hbreak)

/-- Only the break found in the text can change when breaks are normalised. -/
theorem breakFor_normalizeBreaks {mode : NewlineMode} {t : Text}
    (h : mode = .auto → '\r' ∉ t) :
    mode.breakFor (Text.normalizeBreaks t) = mode.breakFor t := by
  cases mode with
  | auto => rw [Text.normalizeBreaks_of_not_mem (h rfl)]
  | lf => rfl
  | crlf => rfl

/-- Normalising breaks takes the carriage return out of the line break that a text uses. -/
theorem count_return_breakFor_normalizeBreaks (mode : NewlineMode) (t : Text) :
    (mode.breakFor (Text.normalizeBreaks t)).count '\r' ≤ (mode.breakFor t).count '\r' := by
  cases mode with
  | auto =>
    simp only [NewlineMode.breakFor,
      detectNewline_of_not_mem (Text.return_not_mem_normalizeBreaks t)]
    exact Nat.zero_le _
  | lf => exact Nat.le_refl _
  | crlf => exact Nat.le_refl _

/-- The buffer of a text has the line break that the policy asks for. -/
theorem newline_ofText (t : Text) (mode : NewlineMode) :
    (ofText t mode).newline = mode.breakFor t := by
  unfold ofText
  dsimp only
  split
  · rfl
  · split <;> rfl

/-- How lines are joined does not matter when a text is cut into lines. -/
theorem lines_ofText (t : Text) (mode : NewlineMode) :
    (ofText t mode).lines = (ofText t).lines := by
  unfold ofText
  dsimp only
  split
  · rfl
  · split <;> rfl

theorem linesIn_ofText (t : Text) (mode : NewlineMode) (r : LineRegion) :
    (ofText t mode).linesIn r = (ofText t).linesIn r := by
  rw [linesIn, linesIn, lines_ofText]

/-- A line of a buffer is a line of its text. -/
theorem mem_breakLines_of_mem_ofText {t line : Text} {mode : NewlineMode}
    (h : line ∈ (ofText t mode).lines) : line ∈ Text.breakLines t := by
  unfold ofText at h
  dsimp only at h
  split at h
  · cases h
  · split at h
    · exact (List.dropLast_sublist _).subset h
    · exact h

/-- A line of a text that is not empty is a line of its buffer. -/
theorem mem_ofText_of_mem_breakLines {t line : Text} (mode : NewlineMode)
    (h : line ∈ Text.breakLines t) (hne : line ≠ []) : line ∈ (ofText t mode).lines := by
  unfold ofText
  dsimp only
  split
  · rename_i hempty
    rw [List.isEmpty_iff.mp hempty] at h
    exact absurd (List.mem_singleton.mp h) hne
  · split
    · rename_i hlast
      obtain ⟨front, hfront⟩ := List.getLast?_eq_some_iff.mp (eq_of_beq hlast)
      rw [hfront] at h ⊢
      rw [List.dropLast_concat]
      obtain hmem | hmem := List.mem_append.mp h
      · exact hmem
      · exact absurd (List.mem_singleton.mp hmem) hne
    · exact h

/-- The lines of a text whose carriage returns are part of line breaks are not changed by
normalising its breaks. -/
theorem ofText_normalizeBreaks {t : Text} (h : Text.ReturnsBreak t) (mode : NewlineMode) :
    ofText (Text.normalizeBreaks t) mode =
      (ofText t mode).withNewline (mode.breakFor (Text.normalizeBreaks t)) := by
  simp only [ofText, Text.isEmpty_normalizeBreaks, Text.breakLines_normalizeBreaks h]
  split
  · rfl
  · split <;> rfl

/-! ## Replacing lines -/

/-- Lines are replaced in the same way whatever the line break is. -/
theorem replace_withNewline (b : TextBuffer) (newline : Text) (r : LineRegion)
    (lines : List Text) :
    (b.withNewline newline).replace r lines =
      b.replace r lines >>= fun edited => pure (edited.withNewline newline) := by
  simp only [replace, Outcome.bind_assoc, Outcome.value_bind]
  rfl

/-- What a buffer is after a region of it was replaced. -/
theorem of_replace_eq_ok {b edited : TextBuffer} {r : LineRegion} {lines : List Text}
    (h : (b.replace r lines).result = .ok edited) :
    ∃ start stop, r.clamp b.lines.length = .ok (start, stop) ∧
      edited = b.splice start stop lines := by
  cases hclamp : r.clamp b.lines.length with
  | error e => simp [replace, hclamp, Outcome.ofExcept, Except.bind] at h
  | ok range =>
    obtain ⟨start, stop⟩ := range
    refine ⟨start, stop, rfl, ?_⟩
    simp only [replace, hclamp, Outcome.ofExcept, Outcome.result_bind, Outcome.result_log,
      Outcome.result_pure, Except.bind, Except.ok.injEq] at h
    exact h.symm

/-- Lines that could be read can be replaced. -/
theorem result_replace_ne_error {b : TextBuffer} {r : LineRegion} {old : List Text}
    (h : b.linesIn r = .ok old) (lines : List Text) (e : RegionError) :
    (b.replace r lines).result ≠ .error e := by
  intro herror
  rw [linesIn] at h
  cases hclamp : r.clamp b.lines.length with
  | error e' => simp [hclamp, Except.map] at h
  | ok range => simp [replace, hclamp, Except.bind] at herror

/-- If the new lines are the lines of the region, each of them once or more, no line is lost and
none is added. -/
theorem mem_lines_of_replace {b edited : TextBuffer} {r : LineRegion} {old new : List Text}
    (hold : b.linesIn r = .ok old) (hnew : ∀ line, line ∈ new ↔ line ∈ old)
    (h : (b.replace r new).result = .ok edited) (line : Text) :
    line ∈ edited.lines ↔ line ∈ b.lines := by
  -- The lines stand before the region, in it or behind it, and only those in it are replaced.
  obtain ⟨start, stop, hclamp, rfl⟩ := of_replace_eq_ok h
  simp only [linesIn, hclamp, Except.map, Except.ok.injEq] at hold
  have hsplit : line ∈ b.lines ↔ line ∈ b.lines.take start ∨ line ∈ b.lines.drop start := by
    rw [← List.mem_append, List.take_append_drop]
  have hstop : line ∈ b.lines ↔ line ∈ b.lines.take stop ∨ line ∈ b.lines.drop stop := by
    rw [← List.mem_append, List.take_append_drop]
  simp only [splice, List.mem_append, hnew, ← hold]
  constructor
  · rintro ((hmem | hmem) | hmem)
    · exact hsplit.mpr (.inl hmem)
    · exact hstop.mpr (.inl (List.mem_of_mem_drop hmem))
    · exact hstop.mpr (.inr hmem)
  · intro hmem
    obtain hfront | hback := hstop.mp hmem
    · -- Lines before the end of the region stand before it or in it.
      rw [← List.take_append_drop start (b.lines.take stop), List.mem_append, List.take_take,
        Nat.min_comm, ← List.take_take] at hfront
      obtain hbefore | hin := hfront
      · exact .inl (.inl (List.mem_of_mem_take hbefore))
      · exact .inl (.inr hin)
    · exact .inr hback

end TextBuffer

end LinePipe
