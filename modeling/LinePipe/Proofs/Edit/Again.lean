import LinePipe.Proofs.Buffer.Reread
import LinePipe.Proofs.Edit
import LinePipe.Proofs.Pipeline.Settled
import Mathlib.Data.List.Flatten

/-!
# Editing a text again

A pipeline leaves its own output alone, but an edit passes through a text, which is cut into lines
again the next time. Where a line in front of a line feed ends in a carriage return, the two are read
as one line break, and the line has lost a character. So the same edit made twice is the same edit
made once if no line lends a carriage return to a line break, and otherwise it is not, but for the
case of two lines whose only line break is found and kept.

## Main definitions

- `Pipeline.edited`: the buffer that a pipeline leaves of a text
- `Pipeline.KeepsPair`: two lines that are kept though their line break is read in another way

## Main statements

- `Pipeline.edited_again_of_keepsReturns`: what settles an edited text
- `Pipeline.breaks_of_edited_again`: a settled text has all its line breaks written in one way
- `Edit.applyTo_again_iff`: when an edit made twice is the edit made once
-/

namespace LinePipe

open TextBuffer

namespace Pipeline

variable (p : Pipeline) (c : Collator) (mode : NewlineMode) (t : Text)

/-- The buffer that a pipeline of built-in commands leaves of a whole text. -/
def edited : TextBuffer :=
  (ofText t mode).withLines (p.normalForm c (ofText t mode).lines)

/-- A buffer has two lines, the first of which ends in a carriage return, and the pipeline leaves
the two lines alone without it, or the second line is empty. -/
def KeepsPair (b : TextBuffer) : Prop :=
  ∃ x y, b.lines = [x ++ ['\r'], y] ∧ (y = [] ∨ p.normalForm c [x, y] = [x, y])

theorem newline_edited : (p.edited c mode t).newline = mode.breakFor t :=
  newline_ofText t mode

theorem feed_not_mem_of_mem_edited : ∀ line ∈ (p.edited c mode t).lines, '\n' ∉ line :=
  fun line hline => Text.feed_not_mem_of_mem_breakLines
    (mem_breakLines_of_mem_ofText ((p.mem_normalForm c _ line).mp hline))

variable {p c mode t}

/-- If a pipeline has nothing to do with the lines, only the line breaks are rewritten. -/
theorem edited_of_settled (h : p.Settled c (ofText t mode).lines) :
    p.edited c mode t = ofText t mode := by
  rw [edited, h.normalForm_eq]
  rfl

/-- Line breaks that are all written as a policy asks for in one text are as it asks for in the text
that has them. -/
theorem eq_breakFor_of_breaks {out : Text} (h : ∀ unit ∈ out.breaks, unit = mode.breakFor t) :
    ∀ unit ∈ out.breaks, unit = mode.breakFor out := by
  cases mode with
  | auto => exact eq_breakFor_of_mem_breaks fun unit hunit other hother =>
      (h unit hunit).trans (h other hother).symm
  | lf => exact h
  | crlf => exact h

/-- An edited text is settled if its lines are, and its line breaks are all written as they would
be written again. -/
theorem edited_again_eq {out : Text} (hsettled : p.Settled c (ofText out mode).lines)
    (hbreaks : ∀ unit ∈ out.breaks, unit = mode.breakFor out) :
    (p.edited c mode out).toText = out := by
  rw [edited_of_settled hsettled, toText_ofText]
  exact Text.rebreak_eq_self hbreaks

/-- The line break of an edited buffer, with what stands before the line feed. -/
theorem exists_newline_edited (p : Pipeline) (c : Collator) (mode : NewlineMode) (t : Text) :
    ∃ before : Text, (before = [] ∨ before = ['\r']) ∧
      (p.edited c mode t).newline = before ++ ['\n'] := by
  rw [newline_edited]
  obtain h | h := mode.breakFor_eq t
  · exact ⟨[], .inl rfl, h⟩
  · exact ⟨['\r'], .inr rfl, h⟩

/-- An edit made again changes nothing if no line loses a carriage return. -/
theorem edited_again_of_keepsReturns (h : (p.edited c mode t).KeepsReturns) :
    (p.edited c mode (p.edited c mode t).toText).toText = (p.edited c mode t).toText := by
  obtain ⟨before, hbefore, hnewline⟩ := p.exists_newline_edited c mode t
  have hlines := p.feed_not_mem_of_mem_edited c mode t
  have hsettled := (p.settled_normalForm c (ofText t mode).lines).sublist
    (lines_ofText_toText_sublist hbefore hnewline hlines h mode)
  have hbreaks := (keepsReturns_iff hbefore hnewline hlines).mp h
  rw [newline_edited] at hbreaks
  exact edited_again_eq hsettled (eq_breakFor_of_breaks hbreaks)

/-! ## What is settled -/

variable (p c) in
/-- A pipeline brings no characters in. -/
theorem count_flatten_normalForm_le (lines : List Text) (x : Char) :
    (p.normalForm c lines).flatten.count x ≤ lines.flatten.count x := by
  obtain ⟨kept, hperm, hsub⟩ := p.normalForm_subperm c lines
  rw [← hperm.flatten.count_eq]
  exact hsub.flatten.count_le x

/-- If the pieces of an edited text are those that it was cut into, its lines are settled. -/
theorem settled_of_pieces_edited {out : Text}
    (h : (p.edited c mode out).pieces = (ofText out mode).pieces) :
    p.Settled c (ofText out mode).lines := by
  have hfinal : (p.edited c mode out).finalNewline = (ofText out mode).finalNewline := rfl
  have hnil : (p.edited c mode out).lines = [] ↔ (ofText out mode).lines = [] := by
    simp only [List.eq_nil_iff_forall_not_mem]
    exact forall_congr' fun line => not_congr (p.mem_normalForm c _ line)
  apply normalForm_eq_self_iff.mp
  simp only [pieces, hfinal, List.isEmpty_eq_false_iff, Bool.and_eq_true, Bool.not_eq_true',
    ne_eq, hnil] at h
  split at h
  · exact List.append_cancel_right h
  · exact h

/-- If an edit made again changes nothing in a text, its line breaks are all written as they would be
written again. If they have a carriage return, the lines are settled. -/
theorem breaks_of_edited_again {out : Text} (h : (p.edited c mode out).toText = out) :
    (∀ unit ∈ out.breaks, unit = mode.breakFor out) ∧
      (mode.breakFor out = ['\r', '\n'] → p.Settled c (ofText out mode).lines) := by
  obtain hfeed | hpair := mode.breakFor_eq out
  · -- The carriage returns of the text are those of its lines, so none is in a line break.
    refine ⟨?_, fun hpair => absurd (hfeed.symm.trans hpair) (by decide)⟩
    have hagain := count_toText (p.edited c mode out) '\r'
    have honce := count_toText (ofText out mode) '\r'
    have hrebreak := Text.count_return_rebreak ['\n'] out
    have hle := count_flatten_normalForm_le p c (ofText out mode).lines '\r'
    have hnone : List.count '\r' ['\n'] = 0 := rfl
    rw [newline_edited, h, hfeed, hnone, Nat.mul_zero, Nat.add_zero] at hagain
    rw [toText_ofText, newline_ofText, hfeed, hnone, Nat.mul_zero, Nat.add_zero] at honce
    rw [hnone, Nat.mul_zero, Nat.add_zero, honce] at hrebreak
    have hcount : out.breaks.count ['\r', '\n'] = 0 := by
      have hlines : (p.edited c mode out).lines.flatten.count '\r' ≤
          (ofText out mode).lines.flatten.count '\r' := hle
      omega
    rw [hfeed]
    intro unit hunit
    refine (Text.eq_of_mem_breaks hunit).resolve_right ?_
    rintro rfl
    exact List.count_eq_zero.mp hcount hunit
  · have hsettled : p.Settled c (ofText out mode).lines := by
      by_cases hne : out = []
      · subst hne
        exact (p.settled_normalForm c []).sublist (List.nil_sublist _)
      · have hnewline : (p.edited c mode out).newline = ['\r'] ++ ['\n'] :=
          (p.newline_edited c mode out).trans hpair
        have hsome : (p.edited c mode out).lines ≠ [] := by
          obtain ⟨line, hline⟩ := List.exists_mem_of_ne_nil _ (lines_ofText_ne_nil hne mode)
          exact List.ne_nil_of_mem ((p.mem_normalForm c _ line).mpr hline)
        have hcut := breakLines_toText_of_keepsReturns (.inr rfl) hnewline
          (p.feed_not_mem_of_mem_edited c mode out) (.inl hnewline) hsome
        rw [h, ← pieces_ofText hne mode] at hcut
        exact settled_of_pieces_edited hcut.symm
    refine ⟨?_, fun _ => hsettled⟩
    rw [edited_of_settled hsettled, toText_ofText] at h
    exact (Text.rebreak_eq_self_iff (mode.breakFor_eq out)).mp h

/-! ## Carriage returns that are lost -/

/-- Whether a line ends in a carriage return. -/
def endsInReturn (line : Text) : Bool :=
  line.getLast? == some '\r'

/-- If a line loses a carriage return, line feeds are written, and one of them stands behind it. -/
theorem of_not_keepsReturns (h : ¬ (p.edited c mode t).KeepsReturns) :
    (p.edited c mode t).newline = ['\n'] ∧
      ∃ line ∈ (p.edited c mode t).broken, endsInReturn line = true := by
  rw [KeepsReturns, not_or] at h
  obtain ⟨hnewline, hbroken⟩ := h
  refine ⟨?_, by simpa [endsInReturn] using hbroken⟩
  rw [newline_edited] at hnewline ⊢
  exact (mode.breakFor_eq t).resolve_right hnewline

/-- Where the line break is found in the text, only the last line of the text can have lost a
carriage return, and then no line break stands behind it. -/
theorem of_lost_return (h : ¬ (p.edited c .auto t).KeepsReturns) :
    (p.edited c .auto t).finalNewline = false ∧
      (p.edited c .auto t).lines.countP endsInReturn ≤ 1 := by
  obtain ⟨hnewline, line, hline, hreturn⟩ := of_not_keepsReturns h
  have hmem : line ∈ (ofText t .auto).lines :=
    (p.mem_normalForm c _ line).mp (mem_lines_of_mem_broken hline)
  have hne : t ≠ [] := by
    rintro rfl
    cases hmem
  have hbreak : Text.hasCarriageBreak t = false := by
    rw [newline_edited, NewlineMode.breakFor, detectNewline] at hnewline
    by_contra hpair
    rw [if_pos (by simpa using hpair)] at hnewline
    cases hnewline
  obtain ⟨front, last, hlines⟩ := Text.exists_breakLines_eq_concat t
  have hfront : ∀ line ∈ front, ¬ endsInReturn line = true := by
    simpa [endsInReturn] using Text.not_return_of_mem_front hbreak hlines
  have hcut := ofText_of_breakLines .auto hne hlines
  by_cases hlast : last = []
  · rw [hcut, if_pos hlast] at hmem
    exact absurd hreturn (hfront line hmem)
  · rw [if_neg hlast] at hcut
    have hcount : (ofText t .auto).lines.countP endsInReturn ≤ 1 := by
      rw [hcut, List.countP_append, List.countP_eq_zero.mpr hfront, Nat.zero_add]
      exact List.countP_le_length
    have hfinal : (ofText t .auto).finalNewline = false := by rw [hcut]
    have hle := (p.normalForm_subperm c (ofText t .auto).lines).countP_le endsInReturn
    exact ⟨hfinal, Nat.le_trans hle hcount⟩

section Pair

variable {b : TextBuffer} {x y : Text} (hnewline : b.newline = ['\n'])
  (hfinal : b.finalNewline = false) (hlines : b.lines = [x ++ ['\r'], y])
  (hfeed : ∀ line ∈ b.lines, '\n' ∉ line)
include hnewline hfinal hlines hfeed

/-- The line break between two lines is read together with the carriage return in front of it. -/
theorem breaks_toText_pair : b.toText.breaks = [['\r', '\n']] := by
  have hbreak : b.newline = [] ++ ['\n'] := hnewline
  rw [breaks_toText (.inl rfl) hbreak hfeed]
  simp [broken, hfinal, hlines, Text.breakAfter]

/-- Two lines are read without the carriage return. If the second is empty, the line break stands at
the end. -/
theorem lines_ofText_toText_pair (mode : NewlineMode) :
    (ofText b.toText mode).lines = if y = [] then [x] else [x, y] := by
  have hpieces : b.pieces = [x ++ ['\r']] ++ [y] := by simp [pieces, hfinal, hlines]
  have hback : Text.readBack [] [x ++ ['\r']] = [x] := by simp [Text.readBack, Text.beforeFeed]
  rw [ofText_toText (.inl rfl) hnewline hfeed hpieces (.inl (List.cons_ne_nil _ _)), hback]
  split <;> rfl

end Pair

/-- Only where the line break is found in the text can a text that lost a carriage return be
settled. Its two lines had one line break, which is now found with the carriage return in it. -/
theorem keepsPair_of_edited_again (h : ¬ (p.edited c mode t).KeepsReturns)
    (hagain : (p.edited c mode (p.edited c mode t).toText).toText = (p.edited c mode t).toText) :
    mode = .auto ∧ p.KeepsPair c (p.edited c mode t) := by
  obtain ⟨hnewline, lost, hlost, hreturn⟩ := of_not_keepsReturns h
  have hfeed := p.feed_not_mem_of_mem_edited c mode t
  have hbreak : (p.edited c mode t).newline = [] ++ ['\n'] := hnewline
  have hbreaks := breaks_toText (.inl rfl) hbreak hfeed
  obtain ⟨huniform, hsettled⟩ := breaks_of_edited_again hagain
  have hpair : mode.breakFor (p.edited c mode t).toText = ['\r', '\n'] := by
    have hread : Text.breakAfter (lost ++ []) = ['\r', '\n'] := by
      rw [List.append_nil, Text.breakAfter_eq_pair_iff]
      simpa [endsInReturn] using hreturn
    rw [← huniform _ (hbreaks ▸ List.mem_map_of_mem hlost), hread]
  have hauto : mode = .auto := by
    cases mode with
    | auto => rfl
    | lf => cases hpair
    | crlf =>
      rw [newline_edited] at hnewline
      cases hnewline
  subst hauto
  refine ⟨rfl, ?_⟩
  obtain ⟨hfinal, hcount⟩ := of_lost_return h
  -- Every line with a line break behind it has lost a carriage return, and only one line can have.
  have hall : ∀ line ∈ (p.edited c .auto t).broken, endsInReturn line = true := by
    intro line hline
    have hread := huniform _ (hbreaks ▸ List.mem_map_of_mem hline)
    rw [hpair, List.append_nil, Text.breakAfter_eq_pair_iff] at hread
    simpa [endsInReturn] using hread
  obtain hnil | ⟨front, y, hlines⟩ := (p.edited c .auto t).lines.eq_nil_or_concat'
  · rw [broken, hfinal, hnil] at hlost
    cases hlost
  · have hbroken : (p.edited c .auto t).broken = front := by
      rw [broken, hfinal, hlines, List.dropLast_concat]
      rfl
    rw [hbroken] at hlost hall
    have hlength : front.length ≤ 1 := by
      rw [hlines, List.countP_append, List.countP_eq_length.mpr hall] at hcount
      exact Nat.le_trans (Nat.le_add_right _ _) hcount
    obtain ⟨first, rfl⟩ := List.length_eq_one_iff.mp
      (Nat.le_antisymm hlength (List.length_pos_of_mem hlost))
    obtain ⟨x, rfl⟩ := List.getLast?_eq_some_iff.mp
      (by simpa [endsInReturn] using hall first (List.mem_singleton_self first))
    refine ⟨x, y, hlines, or_iff_not_imp_left.mpr fun hy => ?_⟩
    have hread := lines_ofText_toText_pair hnewline hfinal hlines hfeed .auto
    rw [if_neg hy] at hread
    rw [← hread]
    exact (hsettled hpair).normalForm_eq

theorem edited_again_of_keepsPair (h : ¬ (p.edited c .auto t).KeepsReturns)
    (hpair : p.KeepsPair c (p.edited c .auto t)) :
    (p.edited c .auto (p.edited c .auto t).toText).toText = (p.edited c .auto t).toText := by
  obtain ⟨x, y, hlines, hkept⟩ := hpair
  have hnewline := (of_not_keepsReturns h).1
  have hfinal := (of_lost_return h).1
  have hfeed := p.feed_not_mem_of_mem_edited c .auto t
  refine edited_again_eq ?_ (eq_breakFor_of_mem_breaks ?_)
  · rw [lines_ofText_toText_pair hnewline hfinal hlines hfeed]
    split
    · exact p.settled_singleton c x
    · rename_i hy
      exact normalForm_eq_self_iff.mp (hkept.resolve_left hy)
  · rw [breaks_toText_pair hnewline hfinal hlines hfeed]
    simp

/-- An edit made again changes nothing just if no line lost a carriage return, or the line break of
two lines is found with it. -/
theorem edited_again_iff :
    (p.edited c mode (p.edited c mode t).toText).toText = (p.edited c mode t).toText ↔
      (p.edited c mode t).KeepsReturns ∨ mode = .auto ∧ p.KeepsPair c (p.edited c mode t) := by
  by_cases hkeeps : (p.edited c mode t).KeepsReturns
  · exact iff_of_true (edited_again_of_keepsReturns hkeeps) (.inl hkeeps)
  · rw [or_iff_right hkeeps]
    constructor
    · exact keepsPair_of_edited_again hkeeps
    · rintro ⟨rfl, hpair⟩
      exact edited_again_of_keepsPair hkeeps hpair

end Pipeline

namespace Edit

variable {pipeline : Text} {settings : Settings} {sink : Sink} {p : Pipeline}

theorem result_applyTo_whole (hlocale : settings.LocaleAvailable)
    (hparse : (Pipeline.parse pipeline false Registry.builtin
      (some (settings.given sink))).result = .ok p) (text : Text) :
    (applyTo text pipeline .whole settings sink).result =
      .ok (p.edited ⟨settings.numeric⟩ settings.newline text).toText := by
  obtain ⟨edited, hreplace, hresult⟩ :=
    result_applyTo hlocale hparse (linesIn_whole (ofText text))
  rw [replace_whole, Except.ok.injEq] at hreplace
  rw [hresult, ← hreplace, Pipeline.edited, lines_ofText text settings.newline]

/-- An edit of a whole text by the built-in commands, made again, leaves its own result as it is if
and only if the line breaks of the result have a carriage return anyway, or no line with a line
break behind it ends in one, or the line break is found in the text and the result has two lines
which are kept without it. -/
theorem applyTo_again_iff (text : Text) (hlocale : settings.LocaleAvailable)
    (hparse : (Pipeline.parse pipeline false Registry.builtin
      (some (settings.given sink))).result = .ok p) :
    ∃ edited again, edited = p.edited ⟨settings.numeric⟩ settings.newline text ∧
      (applyTo text pipeline .whole settings sink).result = .ok edited.toText ∧
      (applyTo edited.toText pipeline .whole settings sink).result = .ok again ∧
      (again = edited.toText ↔
        edited.KeepsReturns ∨
          settings.newline = .auto ∧ p.KeepsPair ⟨settings.numeric⟩ edited) :=
  ⟨_, _, rfl, result_applyTo_whole hlocale hparse text, result_applyTo_whole hlocale hparse _,
    Pipeline.edited_again_iff⟩

/-- A carriage return that moves to the front of a line break is found there, and stays there. -/
theorem applyTo_again_found_break :
    ∃ out, (applyTo "b\na\r".toList "sort".toList).result = .ok out ∧
      out = "a\r\nb".toList ∧ (applyTo out "sort".toList).result = .ok out := by
  have hsort (lines sorted : List Text) (hperm : sorted.Perm lines)
      (hordered : sorted.Pairwise fun a b => ({} : Collator).precedes false a b) :
      ({} : Collator).sort false lines = sorted :=
    (({} : Collator).eq_sort false hperm hordered).symm
  obtain ⟨p, hp⟩ : ∃ p, (Pipeline.parse "sort".toList false Registry.builtin
      (some (({} : Settings).given .absent))).result = .ok p := ⟨_, rfl⟩
  obtain ⟨edited, again, hedited, hout, hagain, hiff⟩ :=
    applyTo_again_iff "b\na\r".toList ⟨_, rfl⟩ hp
  cases hp
  have hlines : edited.lines = [['a'] ++ ['\r'], ['b']] := by
    rw [hedited]
    exact hsort [['b'], ['a', '\r']] _ (List.Perm.swap _ _ _) (by decide)
  have htext : edited.toText = "a\r\nb".toList := by
    rw [TextBuffer.toText, hlines, hedited]
    rfl
  have hsame := hiff.mpr (.inr ⟨rfl, ['a'], ['b'], hlines, .inr
    (hsort [['a'], ['b']] _ (List.Perm.refl _) (by decide))⟩)
  exact ⟨edited.toText, hout, htext, hsame ▸ hagain⟩

/-- A carriage return in front of a line feed is lost when the result is read again: another one was
taken with its line break before, or sorting moved it there. -/
theorem applyTo_again_of_lost_return :
    ∃ onlyFeeds : Settings, onlyFeeds.newline = .lf ∧
      (applyTo "a\r\r\n".toList [] .whole onlyFeeds).result = .ok "a\r\n".toList ∧
      (applyTo "a\r\n".toList [] .whole onlyFeeds).result = .ok "a\n".toList ∧
      (applyTo "c\nb\na\r".toList "sort".toList).result = .ok "a\r\nb\nc".toList ∧
      (applyTo "a\r\nb\nc".toList "sort".toList).result = .ok "a\r\nb\r\nc".toList := by
  have hmoved : ({} : Collator).sort false [['c'], ['b'], ['a', '\r']] =
      [['a', '\r'], ['b'], ['c']] :=
    (({} : Collator).eq_sort false (by decide) (by decide)).symm
  have hkept : ({} : Collator).sort false [['a'], ['b'], ['c']] = [['a'], ['b'], ['c']] :=
    (({} : Collator).eq_sort false (List.Perm.refl _) (by decide)).symm
  have hfirst : (applyTo "c\nb\na\r".toList "sort".toList).result =
      .ok ((ofText "c\nb\na\r".toList).splice 0 3
        (({} : Collator).sort false [['c'], ['b'], ['a', '\r']])).toText := rfl
  have hsecond : (applyTo "a\r\nb\nc".toList "sort".toList).result =
      .ok ((ofText "a\r\nb\nc".toList).splice 0 3
        (({} : Collator).sort false [['a'], ['b'], ['c']])).toText := rfl
  refine ⟨{ newline := .lf }, rfl, rfl, rfl, ?_, ?_⟩
  · rw [hfirst, hmoved]
    rfl
  · rw [hsecond, hkept]
    rfl

end Edit

end LinePipe
