import LinePipe.Proofs.Buffer.Replacing
import LinePipe.Proofs.Text.BreakStyle

/-!
# Texts of buffers read again

The text of a buffer is read with the line breaks that joined the lines, unless a line in front of
one of them ends in a carriage return. If none does, the lines that are read are those of the
buffer, or all of them but an empty last one.

## Main definitions

- `TextBuffer.KeepsReturns`: no carriage return of a line gets into a line break

## Main statements

- `TextBuffer.breaks_toText`: the line breaks of the text of a buffer
- `TextBuffer.keepsReturns_iff`: when they are all written as the buffer writes them
- `TextBuffer.lines_ofText_toText_sublist`: the lines that are read then
-/

namespace LinePipe

namespace TextBuffer

/-- No carriage return at the end of a line gets into a line break. -/
def KeepsReturns (b : TextBuffer) : Prop :=
  b.newline = ['\r', '\n'] ∨ ∀ line ∈ b.broken, line.getLast? ≠ some '\r'

/-- All pieces but the last have a line break behind them. -/
theorem broken_eq_dropLast_pieces (b : TextBuffer) : b.broken = b.pieces.dropLast := by
  rw [broken, pieces]
  cases b.finalNewline with
  | false => simp
  | true =>
    by_cases hnil : b.lines = []
    · simp [hnil]
    · simp [hnil]

section

variable {b : TextBuffer} {before : Text} (hbefore : before = [] ∨ before = ['\r'])
  (hnewline : b.newline = before ++ ['\n']) (hlines : ∀ line ∈ b.lines, '\n' ∉ line)
include hbefore hnewline hlines

/-- Behind each line that has a line break behind it one is read, together with a carriage return at
the end of the line. -/
theorem breaks_toText :
    b.toText.breaks = b.broken.map fun line => Text.breakAfter (line ++ before) := by
  have hmem := feed_not_mem_of_mem_pieces hlines
  rw [broken_eq_dropLast_pieces, toText_eq_joinWith, hnewline]
  obtain hnil | ⟨front, last, hpieces⟩ := b.pieces.eq_nil_or_concat'
  · rw [hnil]
    rfl
  · rw [hpieces] at hmem ⊢
    have hfeed : '\n' ∉ before := by
      obtain rfl | rfl := hbefore <;> decide
    rw [List.dropLast_concat]
    refine Text.breaks_joinWith before hfeed (fun line hline => ?_) ?_
    · exact hmem line (List.mem_append_left _ hline)
    · exact hmem last (List.mem_append_right _ (List.mem_singleton_self last))

/-- The line breaks are read as the buffer writes them just if no line loses a carriage return to
them. -/
theorem keepsReturns_iff : b.KeepsReturns ↔ ∀ unit ∈ b.toText.breaks, unit = b.newline := by
  rw [breaks_toText hbefore hnewline hlines, List.forall_mem_map, KeepsReturns, hnewline]
  obtain rfl | rfl := hbefore
  · simp [Text.breakAfter_eq_feed_iff]
  · simp [Text.breakAfter_eq_pair_iff]

/-- If no line loses a carriage return, the pieces are read as they are. -/
theorem breakLines_toText_of_keepsReturns (h : b.KeepsReturns) (hsome : b.lines ≠ []) :
    Text.breakLines b.toText = b.pieces := by
  obtain hnil | ⟨front, last, hpieces⟩ := b.pieces.eq_nil_or_concat'
  · rw [pieces] at hnil
    split at hnil
    · exact absurd hnil (by simp)
    · exact absurd hnil hsome
  · have hreturn : before = ['\r'] ↔ b.newline = ['\r', '\n'] := by
      rw [hnewline]
      obtain rfl | rfl := hbefore <;> decide
    have hfront : b.broken = front := by
      rw [broken_eq_dropLast_pieces, hpieces, List.dropLast_concat]
    have hback : Text.readBack before front = front := by
      rw [Text.readBack_eq_self_iff hbefore, hreturn, ← hfront]
      exact h
    rw [breakLines_toText hbefore hnewline hlines hpieces, hback, hpieces]

/-- Then the lines are read as they are. Only an empty last line is not seen. -/
theorem lines_ofText_toText_sublist (h : b.KeepsReturns) (mode : NewlineMode) :
    (ofText b.toText mode).lines.Sublist b.lines := by
  by_cases htext : b.toText = []
  · rw [htext]
    exact List.nil_sublist _
  · have hsome : b.lines ≠ [] := by
      intro hnil
      exact htext (by simp [toText, hnil, Text.joinWith])
    have hcut := breakLines_toText_of_keepsReturns hbefore hnewline hlines h hsome
    obtain hnil | ⟨front, last, hpieces⟩ := b.pieces.eq_nil_or_concat'
    · exact absurd (hcut.trans hnil) (Text.breakLines_ne_nil _)
    · rw [ofText_of_breakLines mode htext (hcut.trans hpieces)]
      -- The last piece is a line of its own, unless it only marks the line break at the end.
      rw [pieces] at hpieces
      split at hpieces
      · obtain ⟨hfront, hlast⟩ := List.append_inj' hpieces rfl
        rw [← hfront, ← List.singleton_inj.mp hlast, if_pos rfl]
      · rw [hpieces]
        split
        · exact List.sublist_append_left front [last]
        · exact List.Sublist.refl _

end

end TextBuffer

end LinePipe
