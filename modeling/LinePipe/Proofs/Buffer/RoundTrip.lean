import LinePipe.Proofs.Buffer.Basic
import LinePipe.Proofs.Text.Rebreak

/-!
# Texts and buffers, there and back

Cutting a text into a buffer and writing the buffer again rewrites the line breaks of the text and
changes nothing else. The other way round, a buffer that is written and read again need not come
back: a carriage return at the end of a line can become part of a line break, and an empty last line
looks like a line break at the end.

## Main definitions

- `TextBuffer.pieces`: what stands between the line breaks of the text of a buffer
- `TextBuffer.NormalizesBreaks`: what cutting and writing do to a text
- `TextBuffer.broken`: the lines of a buffer with a line break behind them
- `TextBuffer.Reloadable`: buffers that come back

## Main statements

- `TextBuffer.toText_ofText`: a text cut and written has its line breaks rewritten
- `TextBuffer.normalizesBreaks`: this under each policy
- `TextBuffer.reloads_iff`: which buffers come back
-/

namespace LinePipe.TextBuffer

/-! ## Pieces -/

/-- What stands between the line breaks of the text of a buffer. Behind a line break at the end
stands an empty piece. -/
def pieces (b : TextBuffer) : List Text :=
  if b.finalNewline && !b.lines.isEmpty then b.lines ++ [[]] else b.lines

theorem toText_eq_joinWith (b : TextBuffer) : b.toText = Text.joinWith b.newline b.pieces := by
  rw [toText, pieces]
  by_cases hfinal : (b.finalNewline && !b.lines.isEmpty) = true
  · have hlines : b.lines ≠ [] := by
      rintro hnil
      simp [hnil] at hfinal
    rw [if_pos hfinal, if_pos hfinal, Text.joinWith_concat _ _ hlines, List.append_nil]
  · rw [if_neg hfinal, if_neg hfinal, List.append_nil]

theorem feed_not_mem_of_mem_pieces {b : TextBuffer} (h : ∀ line ∈ b.lines, '\n' ∉ line) :
    ∀ piece ∈ b.pieces, '\n' ∉ piece := by
  intro piece hpiece
  rw [pieces] at hpiece
  split at hpiece
  · obtain hline | hempty := List.mem_append.mp hpiece
    · exact h piece hline
    · rw [List.mem_singleton.mp hempty]
      exact List.not_mem_nil
  · exact h piece hpiece

/-- The buffer of a text that is not empty: an empty last line means that a line break stands at the
end. -/
theorem ofText_of_breakLines {t last : Text} {front : List Text} (mode : NewlineMode)
    (hne : t ≠ []) (h : Text.breakLines t = front ++ [last]) :
    ofText t mode =
      if last = [] then { lines := front, newline := mode.breakFor t, finalNewline := true }
      else { lines := front ++ [last], newline := mode.breakFor t } := by
  have hisEmpty : t.isEmpty = false := by simpa using hne
  simp only [ofText, hisEmpty, h, List.getLast?_concat, List.dropLast_concat, Bool.false_eq_true,
    if_false]
  by_cases hlast : last = []
  · simp [hlast]
  · simp [hlast]

/-- The pieces of the buffer of a text are the lines between its line breaks. -/
theorem pieces_ofText {t : Text} (hne : t ≠ []) (mode : NewlineMode) :
    (ofText t mode).pieces = Text.breakLines t := by
  obtain ⟨front, last, hlines⟩ := Text.exists_breakLines_eq_concat t
  rw [ofText_of_breakLines mode hne hlines, hlines]
  by_cases hlast : last = []
  · have hfront : front ≠ [] := by
      rintro rfl
      rw [hlast] at hlines
      exact hne (Text.eq_nil_of_breakLines hlines)
    simp [hlast, pieces, hfront]
  · simp [hlast, pieces]

/-! ## From a text and back -/

/-- A text cut into a buffer and written again has its line breaks rewritten. -/
theorem toText_ofText (t : Text) (mode : NewlineMode) :
    (ofText t mode).toText = t.rebreak (mode.breakFor t) := by
  by_cases hne : t = []
  · subst hne
    cases mode <;> rfl
  · rw [toText_eq_joinWith, pieces_ofText hne, newline_ofText, Text.joinWith_breakLines]

/-- Cutting a text and writing it again puts the line break of the policy in the place of each line
break, and leaves the rest. The policy that takes the line break from the text takes a carriage
return and a line feed if they stand together anywhere, and leaves a text alone whose line breaks
are all written in one way. -/
structure NormalizesBreaks (t : Text) : Prop where
  feed : (ofText t .lf).toText = t.rebreak ['\n']
  pair : (ofText t .crlf).toText = t.rebreak ['\r', '\n']
  found_pair : ['\r', '\n'] <:+: t → (ofText t .auto).toText = t.rebreak ['\r', '\n']
  found_feed : ¬ ['\r', '\n'] <:+: t → (ofText t .auto).toText = t.rebreak ['\n']
  unchanged : (∀ unit ∈ t.breaks, ∀ other ∈ t.breaks, unit = other) → (ofText t .auto).toText = t
  lines : ∀ mode, ∀ line ∈ (ofText t mode).lines, '\n' ∉ line

theorem breakFor_auto_of_pair {t : Text} (h : ['\r', '\n'] <:+: t) :
    NewlineMode.auto.breakFor t = ['\r', '\n'] :=
  if_pos ((Text.hasCarriageBreak_iff_pair t).mpr h)

theorem breakFor_auto_of_no_pair {t : Text} (h : ¬ ['\r', '\n'] <:+: t) :
    NewlineMode.auto.breakFor t = ['\n'] :=
  if_neg (mt (Text.hasCarriageBreak_iff_pair t).mp h)

/-- If the line breaks of a text are all written in one way, the text uses it. -/
theorem eq_breakFor_of_mem_breaks {t : Text}
    (h : ∀ unit ∈ t.breaks, ∀ other ∈ t.breaks, unit = other) :
    ∀ unit ∈ t.breaks, unit = NewlineMode.auto.breakFor t := by
  intro unit hunit
  by_cases hpair : ['\r', '\n'] ∈ t.breaks
  · rw [breakFor_auto_of_pair ((Text.hasCarriageBreak_iff_pair t).mp
      ((Text.hasCarriageBreak_iff_mem t).mpr hpair))]
    exact h unit hunit _ hpair
  · have hfeed : NewlineMode.auto.breakFor t = ['\n'] :=
      if_neg (mt (Text.hasCarriageBreak_iff_mem t).mp hpair)
    rw [hfeed]
    exact (Text.eq_of_mem_breaks hunit).resolve_right fun heq => hpair (heq ▸ hunit)

theorem normalizesBreaks (t : Text) : NormalizesBreaks t where
  feed := toText_ofText t .lf
  pair := toText_ofText t .crlf
  found_pair h := by rw [toText_ofText, breakFor_auto_of_pair h]
  found_feed h := by rw [toText_ofText, breakFor_auto_of_no_pair h]
  unchanged h := by
    rw [toText_ofText]
    exact Text.rebreak_eq_self (eq_breakFor_of_mem_breaks h)
  lines _ _ hline := Text.feed_not_mem_of_mem_breakLines (mem_breakLines_of_mem_ofText hline)

/-! ## From a buffer and back -/

/-- The lines of a buffer that have a line break behind them in its text. -/
def broken (b : TextBuffer) : List Text :=
  if b.finalNewline then b.lines else b.lines.dropLast

theorem mem_lines_of_mem_broken {b : TextBuffer} {line : Text} (h : line ∈ b.broken) :
    line ∈ b.lines := by
  rw [broken] at h
  split at h
  · exact h
  · exact (List.dropLast_sublist _).subset h

/-- A buffer comes back with its lines and its line break at the end when its text is read. -/
def Reloads (b : TextBuffer) (mode : NewlineMode) : Prop :=
  (ofText b.toText mode).lines = b.lines ∧ (ofText b.toText mode).finalNewline = b.finalNewline

/-- A buffer whose text tells its lines. No carriage return at the end of a line gets into a line
break, and a line break stands at the end of the text if and only if the buffer has one there. -/
structure Reloadable (b : TextBuffer) : Prop where
  returns : b.newline = ['\r', '\n'] ∨ ∀ line ∈ b.broken, line.getLast? ≠ some '\r'
  without_lines : b.lines = [] → b.finalNewline = false
  last_line : b.lines ≠ [] → b.finalNewline = false → b.lines.getLast? ≠ some []

theorem reloads_iff_of_nil {b : TextBuffer} (h : b.lines = []) (mode : NewlineMode) :
    b.Reloads mode ↔ b.finalNewline = false := by
  have htext : b.toText = [] := by simp [toText, h, Text.joinWith]
  rw [Reloads, htext, h]
  constructor
  · rintro ⟨-, hfinal⟩
    exact hfinal.symm
  · intro hfinal
    exact ⟨rfl, hfinal.symm⟩

section

variable {b : TextBuffer} {before last : Text} {front : List Text}
  (hbefore : before = [] ∨ before = ['\r']) (hnewline : b.newline = before ++ ['\n'])
  (hlines : ∀ line ∈ b.lines, '\n' ∉ line) (hpieces : b.pieces = front ++ [last])
include hbefore hnewline hlines hpieces

/-- The lines of the text of a buffer. Each piece but the last has a line break behind it. -/
theorem breakLines_toText :
    Text.breakLines b.toText = Text.readBack before front ++ [last] := by
  have hmem := feed_not_mem_of_mem_pieces hlines
  rw [hpieces] at hmem
  have hfeed : '\n' ∉ before := by
    obtain rfl | rfl := hbefore <;> decide
  rw [toText_eq_joinWith, hnewline, hpieces]
  refine Text.breakLines_joinWith before hfeed (fun line hline => ?_) ?_
  · exact hmem line (List.mem_append_left _ hline)
  · exact hmem last (List.mem_append_right _ (List.mem_singleton_self last))

/-- What comes back of a buffer whose text is not empty. -/
theorem ofText_toText (hsome : front ≠ [] ∨ last ≠ []) (mode : NewlineMode) :
    ofText b.toText mode =
      let newline := mode.breakFor b.toText
      if last = [] then { lines := Text.readBack before front, newline, finalNewline := true }
      else { lines := Text.readBack before front ++ [last], newline } := by
  have hcut := breakLines_toText hbefore hnewline hlines hpieces
  refine ofText_of_breakLines mode ?_ hcut
  intro hnil
  -- The empty text has one line, which is empty.
  have hempty : [] ++ [[]] = Text.readBack before front ++ [last] := by
    rw [hnil] at hcut
    exact hcut
  obtain ⟨hfront, hlast⟩ := List.append_inj' hempty rfl
  obtain hfront' | hlast' := hsome
  · exact hfront' (List.map_eq_nil_iff.mp hfront.symm)
  · exact hlast' (List.singleton_inj.mp hlast).symm

end

section

variable {b : TextBuffer} {before : Text} (hbefore : before = [] ∨ before = ['\r'])
  (hnewline : b.newline = before ++ ['\n']) (hlines : ∀ line ∈ b.lines, '\n' ∉ line)
include hbefore hnewline hlines

/-- With a line break at the end, all lines have one behind them. -/
theorem reloads_iff_of_final (hsome : b.lines ≠ []) (hfinal : b.finalNewline = true)
    (mode : NewlineMode) : b.Reloads mode ↔ Text.readBack before b.lines = b.lines := by
  have hpieces : b.pieces = b.lines ++ [[]] := by simp [pieces, hfinal, hsome]
  rw [Reloads, ofText_toText hbefore hnewline hlines hpieces (.inl hsome), hfinal]
  exact and_iff_left rfl

/-- Without one, an empty last line is not seen: it is taken for a line break at the end, or the
text is empty. -/
theorem reloads_iff_of_open {front : List Text} {last : Text} (hlast : b.lines = front ++ [last])
    (hopen : b.finalNewline = false) (mode : NewlineMode) :
    b.Reloads mode ↔ last ≠ [] ∧ Text.readBack before front = front := by
  have hpieces : b.pieces = front ++ [last] := by simp [pieces, hopen, hlast]
  by_cases hblank : last = []
  · subst hblank
    refine iff_of_false ?_ fun h => h.1 rfl
    rintro ⟨hback, hfinal⟩
    by_cases hfront : front = []
    · have htext : b.toText = [] := by
        rw [toText_eq_joinWith, hpieces, hfront]
        rfl
      rw [htext, hlast] at hback
      simp [ofText] at hback
    · rw [ofText_toText hbefore hnewline hlines hpieces (.inl hfront), hopen] at hfinal
      cases hfinal
  · rw [Reloads, ofText_toText hbefore hnewline hlines hpieces (.inr hblank), hlast, hopen]
    simp [hblank]

end

/-- A buffer comes back if and only if none of three things happens: a carriage return at the end of
a line that gets into a line break, a line break at the end of no lines, and an empty last line that
nothing follows. -/
theorem reloads_iff {b : TextBuffer}
    (hnewline : b.newline = ['\n'] ∨ b.newline = ['\r', '\n'])
    (hlines : ∀ line ∈ b.lines, '\n' ∉ line) (mode : NewlineMode) :
    b.Reloads mode ↔ b.Reloadable := by
  obtain ⟨before, hbefore, hbreak, hreturn⟩ : ∃ before : Text, (before = [] ∨ before = ['\r']) ∧
      b.newline = before ++ ['\n'] ∧ (before = ['\r'] ↔ b.newline = ['\r', '\n']) := by
    obtain h | h := hnewline
    · exact ⟨[], .inl rfl, h, by simp [h]⟩
    · exact ⟨['\r'], .inr rfl, h, by simp [h]⟩
  have hkept := Text.readBack_eq_self_iff hbefore
  simp only [hreturn] at hkept
  obtain hnil | ⟨front, last, hlast⟩ := b.lines.eq_nil_or_concat'
  · have hbroken : b.broken = [] := by simp [broken, hnil]
    rw [reloads_iff_of_nil hnil]
    constructor
    · intro hfinal
      exact ⟨.inr (by simp [hbroken]), fun _ => hfinal, fun h => absurd hnil h⟩
    · intro h
      exact h.without_lines hnil
  · have hsome : b.lines ≠ [] := by simp [hlast]
    cases hfinal : b.finalNewline with
    | true =>
      have hbroken : b.broken = b.lines := by simp [broken, hfinal]
      rw [reloads_iff_of_final hbefore hbreak hlines hsome hfinal, hkept, ← hbroken]
      constructor
      · intro h
        exact ⟨h, fun hnil => absurd hnil hsome, fun _ hopen => by simp [hfinal] at hopen⟩
      · exact Reloadable.returns
    | false =>
      have hbroken : b.broken = front := by simp [broken, hfinal, hlast]
      have hlast' : b.lines.getLast? = some last := by rw [hlast, List.getLast?_concat]
      rw [reloads_iff_of_open hbefore hbreak hlines hlast hfinal, hkept, ← hbroken]
      constructor
      · rintro ⟨hne, h⟩
        exact ⟨h, fun hnil => absurd hnil hsome, fun _ _ => by simpa [hlast'] using hne⟩
      · intro h
        exact ⟨by simpa [hlast'] using h.last_line hsome hfinal, h.returns⟩

/-- A line that ends in a carriage return, an empty line and a last line that ends in a carriage
return, with breaks of both characters between them. -/
theorem reloads_carriage_lines :
    ∃ b : TextBuffer, b.newline = ['\r', '\n'] ∧ (∀ line ∈ b.lines, '\n' ∉ line) ∧
      b.lines = ["a\r".toList, [], "b\r".toList] ∧ b.toText = "a\r\r\n\r\nb\r".toList ∧
        b.Reloads .lf := by
  let b : TextBuffer := { lines := ["a\r".toList, [], "b\r".toList], newline := ['\r', '\n'] }
  have hlines : ∀ line ∈ b.lines, '\n' ∉ line := by decide
  have hreloadable : b.Reloadable :=
    ⟨.inl rfl, fun h => absurd h (by decide), fun _ _ => by decide⟩
  exact ⟨b, rfl, hlines, rfl, by decide, (reloads_iff (.inr rfl) hlines .lf).mpr hreloadable⟩

end LinePipe.TextBuffer
