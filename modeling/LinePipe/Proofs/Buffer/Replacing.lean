import LinePipe.Proofs.Buffer.RoundTrip

/-!
# Replacing the lines of a region

A region that can be read takes in a row of lines of a buffer. Lines that are put in their place
decide which line is the last if the region reaches to the end, and change nothing behind it
otherwise.

## Main definitions

- `LineRegion.stopIn`: where a region ends in a text of some number of lines
- `LineRegion.ReachesEnd`: a region takes in the last line
- `TextBuffer.withLines`: a buffer with other lines
- `TextBuffer.IsCut`: no line feed stands in a buffer but at the end of its line break

## Main statements

- `LineRegion.clamp_eq`: the bounds of a region, and when it has none
- `LineRegion.of_clamp_eq_ok`: the bounds of a region in a text with lines
- `TextBuffer.isCut_ofText`: the buffers of texts are cut
- `TextBuffer.finalNewline_ofText_iff`: what a buffer says about the end of its text
- `TextBuffer.getLast?_lines_splice`: the last line after lines were replaced
-/

namespace LinePipe

namespace LineRegion

variable {r : LineRegion} {count start stop : Nat}

/-- The line after the last one of a region in a text of `count` lines. -/
def stopIn (r : LineRegion) (count : Nat) : Nat :=
  r.last.elim count fun l => min (l + 1) count

@[simp] theorem stopIn_zero (r : LineRegion) : r.stopIn 0 = 0 := by
  rw [stopIn]
  cases r.last with
  | none => rfl
  | some l => exact Nat.min_zero (l + 1)

/-- A region has bounds in a text if it starts in the text. In an empty text it may start where the
first line would be. -/
theorem clamp_eq (r : LineRegion) (count : Nat) :
    r.clamp count =
      if count ≤ r.first ∧ ¬ (r.first = 0 ∧ count = 0) then
        .error (.pastLastLine (r.first + 1) count)
      else .ok (r.first, r.stopIn count) := by
  by_cases hempty : r.first = 0 ∧ count = 0
  · obtain ⟨hfirst, rfl⟩ := hempty
    simp [clamp, hfirst]
  · have hsome : (count == 0 && r.first == 0) = false := by simpa [and_comm] using hempty
    rw [clamp, hsome, if_neg Bool.false_ne_true]
    by_cases hpast : count ≤ r.first
    · rw [if_pos hpast, if_pos ⟨hpast, hempty⟩]
    · rw [if_neg hpast, if_neg fun h => hpast h.1, stopIn]
      cases r.last <;> rfl

theorem clamp_eq_ok_iff : r.clamp count = .ok (start, stop) ↔
    (r.first < count ∨ r.first = 0 ∧ count = 0) ∧ start = r.first ∧ stop = r.stopIn count := by
  rw [clamp_eq]
  split
  · simp only [reduceCtorEq, false_iff]
    omega
  · simp only [Except.ok.injEq, Prod.mk.injEq]
    omega

theorem clamp_eq_error_iff {e : RegionError} : r.clamp count = .error e ↔
    (count ≤ r.first ∧ ¬ (r.first = 0 ∧ count = 0)) ∧ e = .pastLastLine (r.first + 1) count := by
  rw [clamp_eq]
  split
  · rename_i hpast
    simp only [hpast, Except.error.injEq, true_and, eq_comm, not_false_eq_true]
  · rename_i hnot
    simp only [hnot, reduceCtorEq, false_and]

/-- The last line of a text of some number of lines is in the region, if the region starts in the
text. -/
def ReachesEnd (r : LineRegion) (count : Nat) : Prop :=
  ∀ l ∈ r.last, count ≤ l + 1

/-- In a text with lines a region has a line of it, and ends where the text does or before. -/
theorem of_clamp_eq_ok (hcount : 0 < count) (h : r.clamp count = .ok (start, stop)) :
    start < stop ∧ stop ≤ count ∧ (stop = count ↔ r.ReachesEnd count) := by
  obtain ⟨hstart, rfl, rfl⟩ := clamp_eq_ok_iff.mp h
  have hordered := r.ordered
  rw [stopIn, ReachesEnd]
  cases hlast : r.last with
  | none =>
    rw [Option.elim_none]
    exact ⟨by omega, Nat.le_refl count, by simp⟩
  | some l =>
    have hle : r.first ≤ l := hordered l hlast
    simp only [Option.elim_some, Option.mem_some_iff, forall_eq']
    omega

/-- The bounds of a region lie in the text, one not before the other. -/
theorem le_of_clamp_eq_ok (h : r.clamp count = .ok (start, stop)) :
    start ≤ stop ∧ stop ≤ count := by
  obtain rfl | hcount := Nat.eq_zero_or_pos count
  · obtain ⟨hstart, rfl, rfl⟩ := clamp_eq_ok_iff.mp h
    rw [stopIn_zero]
    omega
  · obtain ⟨hlt, hle, -⟩ := of_clamp_eq_ok hcount h
    exact ⟨Nat.le_of_lt hlt, hle⟩

/-- All lines of a text are in it. -/
theorem clamp_whole (count : Nat) : whole.clamp count = .ok (0, count) := by
  cases count <;> rfl

end LineRegion

namespace TextBuffer

/-- The buffer with other lines. -/
def withLines (b : TextBuffer) (lines : List Text) : TextBuffer :=
  { b with lines }

theorem linesIn_whole (b : TextBuffer) : b.linesIn .whole = .ok b.lines := by
  rw [linesIn, LineRegion.clamp_whole]
  simp [Except.map]

theorem linesIn_of_clamp {b : TextBuffer} {r : LineRegion} {start stop : Nat}
    (h : r.clamp b.lines.length = .ok (start, stop)) :
    b.linesIn r = .ok ((b.lines.take stop).drop start) := by
  rw [linesIn, h]
  rfl

/-- The lines before some bounds, between them and behind them are all lines. -/
theorem lines_split (b : TextBuffer) {start stop : Nat} (h : start ≤ stop) :
    b.lines.take start ++ (b.lines.take stop).drop start ++ b.lines.drop stop = b.lines := by
  have hfront : b.lines.take start = (b.lines.take stop).take start := by
    rw [List.take_take, Nat.min_eq_left h]
  rw [hfront, List.take_append_drop, List.take_append_drop]

theorem replace_whole (b : TextBuffer) (lines : List Text) :
    (b.replace .whole lines).result = .ok (b.withLines lines) := by
  simp [replace, LineRegion.clamp_whole, splice, withLines, Except.bind]

/-- The line break of a buffer ends in a line feed, and its lines hold none. -/
structure IsCut (b : TextBuffer) : Prop where
  newline : b.newline.EndsInBreak
  lines : ∀ line ∈ b.lines, '\n' ∉ line

theorem isCut_ofText (t : Text) (mode : NewlineMode) : (ofText t mode).IsCut where
  newline := by
    rw [newline_ofText]
    obtain h | h := mode.breakFor_eq t <;> rw [h] <;> rfl
  lines _ hline := Text.feed_not_mem_of_mem_breakLines (mem_breakLines_of_mem_ofText hline)

theorem IsCut.splice {b : TextBuffer} {start stop : Nat} {new : List Text} (h : b.IsCut)
    (hmem : ∀ line ∈ (b.splice start stop new).lines, line ∈ b.lines) :
    (b.splice start stop new).IsCut :=
  ⟨h.newline, fun line hline => h.lines line (hmem line hline)⟩

/-! ## The last line -/

section

variable {t : Text} (hne : t ≠ []) (mode : NewlineMode)
include hne

theorem finalNewline_ofText_iff : (ofText t mode).finalNewline = true ↔ t.EndsInBreak := by
  obtain ⟨front, last, hlines⟩ := Text.exists_breakLines_eq_concat t
  rw [Text.endsInBreak_iff, ofText_of_breakLines mode hne hlines, hlines, List.getLast?_concat]
  by_cases hlast : last = [] <;> simp [hne, hlast]

theorem lines_ofText_ne_nil : (ofText t mode).lines ≠ [] := by
  intro hnil
  have hpieces := pieces_ofText hne mode
  rw [pieces, hnil] at hpieces
  exact Text.breakLines_ne_nil t (by simpa using hpieces.symm)

/-- If no line break stands at the end, the last line is not empty. -/
theorem getLast?_lines_ofText (hopen : ¬ t.EndsInBreak) :
    (ofText t mode).lines.getLast? ≠ some [] := by
  have hpieces := pieces_ofText hne mode
  have hfinal : (ofText t mode).finalNewline = false := by
    rw [← Bool.not_eq_true, finalNewline_ofText_iff hne mode]
    exact hopen
  rw [pieces, hfinal, Bool.false_and, if_neg Bool.false_ne_true] at hpieces
  rw [hpieces]
  intro hlast
  exact hopen ((Text.endsInBreak_iff t).mpr ⟨hne, hlast⟩)

end

/-- Lines that are put in the place of others decide which is the last if nothing stands behind
them. -/
theorem getLast?_lines_splice {b : TextBuffer} (start : Nat) {stop : Nat} {new : List Text}
    (hstop : stop ≤ b.lines.length) (hnew : new ≠ []) :
    (b.splice start stop new).lines.getLast? =
      if stop = b.lines.length then new.getLast? else b.lines.getLast? := by
  rw [splice]
  by_cases hend : stop = b.lines.length
  · rw [if_pos hend, hend, List.drop_length, List.append_nil, List.getLast?_append_of_ne_nil _ hnew]
  · have hbehind : b.lines.drop stop ≠ [] := by
      rw [Ne, List.drop_eq_nil_iff]
      omega
    rw [if_neg hend, List.getLast?_append_of_ne_nil _ hbehind, List.getLast?_drop, if_neg]
    omega

section

variable {b : TextBuffer} {r : LineRegion} {old : List Text} (hsome : b.lines ≠ [])
  (hold : b.linesIn r = .ok old)
include hsome hold

/-- Where the lines of a region stand. There is at least one. -/
theorem of_linesIn_eq_ok :
    ∃ start stop, r.clamp b.lines.length = .ok (start, stop) ∧
      old = (b.lines.take stop).drop start ∧ start < stop ∧ stop ≤ b.lines.length ∧
        (stop = b.lines.length ↔ r.ReachesEnd b.lines.length) := by
  rw [linesIn] at hold
  obtain ⟨⟨start, stop⟩, hclamp, rfl⟩ := except_map_eq_ok_iff.mp hold
  have hbounds := LineRegion.of_clamp_eq_ok (List.length_pos_iff.mpr hsome) hclamp
  exact ⟨start, stop, hclamp, rfl, hbounds⟩

theorem linesIn_ne_nil : old ≠ [] := by
  obtain ⟨start, stop, -, rfl, hlt, hle, -⟩ := of_linesIn_eq_ok hsome hold
  rw [Ne, List.drop_eq_nil_iff, List.length_take]
  omega

/-- The last line of a region that reaches to the end is the last line. -/
theorem getLast?_linesIn (hend : r.ReachesEnd b.lines.length) :
    old.getLast? = b.lines.getLast? := by
  obtain ⟨start, stop, -, rfl, hlt, -, hstop⟩ := of_linesIn_eq_ok hsome hold
  rw [hstop.mpr hend] at hlt ⊢
  rw [List.take_length, List.getLast?_drop, if_neg]
  omega

end

end TextBuffer

end LinePipe
