import LinePipe.Proofs.Text.Rebreak

/-!
# How line breaks are written

A line break that was written as a line feed may be read with a carriage return before it, which the
line in front of it left there. So the line breaks of joined lines need not all be those that joined
them. Rewriting the line breaks of a text leaves it alone only if they are all written in the new
way already.

## Main definitions

- `Text.breakAfter`: the line break that is read behind a line

## Main statements

- `Text.breaks_joinWith`: the line breaks of joined lines
- `Text.count_return_rebreak`: the carriage returns of a text whose line breaks are rewritten
- `Text.rebreak_eq_self_iff`: when rewriting the line breaks changes nothing
- `Text.not_return_of_mem_front`: without line breaks of two characters no line in front of a line
  break ends in a carriage return
-/

namespace LinePipe.Text

/-- The line break that is read where a line feed follows a line. A carriage return at the end of
the line belongs to it. -/
def breakAfter (line : Text) : Text :=
  if line.getLast? = some '\r' then ['\r', '\n'] else ['\n']

theorem breakAfter_cons_cons (c d : Char) (line : Text) :
    breakAfter (c :: d :: line) = breakAfter (d :: line) := by
  rw [breakAfter, breakAfter, List.getLast?_cons_cons]

theorem breakAfter_eq_pair_iff {line : Text} :
    breakAfter line = ['\r', '\n'] ↔ line.getLast? = some '\r' := by
  rw [breakAfter]
  split <;> simp_all

theorem breakAfter_eq_feed_iff {line : Text} :
    breakAfter line = ['\n'] ↔ line.getLast? ≠ some '\r' := by
  rw [breakAfter]
  split <;> simp_all

theorem breaks_append_feed {line : Text} (h : '\n' ∉ line) (rest : Text) :
    breaks (line ++ '\n' :: rest) = breakAfter line :: breaks rest := by
  induction line with
  | nil => exact breaks_feed rest
  | cons c line ih =>
    rw [List.mem_cons, not_or] at h
    obtain ⟨hfeed, hline⟩ := h
    cases line with
    | nil =>
      by_cases hreturn : c = '\r'
      · subst hreturn
        exact breaks_pair rest
      · have hafter : breakAfter [c] = ['\n'] := breakAfter_eq_feed_iff.mpr (by simpa using hreturn)
        rw [hafter, List.singleton_append, breaks_cons (Ne.symm hfeed) fun hc => absurd hc hreturn,
          breaks_feed]
    | cons d line =>
      have hd : d ≠ '\n' := fun hd => hline (hd ▸ List.mem_cons_self)
      rw [breakAfter_cons_cons, ← ih hline]
      exact breaks_cons (Ne.symm hfeed) fun _ => by simpa using hd

theorem breaks_of_not_mem {line : Text} (h : '\n' ∉ line) : breaks line = [] := by
  induction line with
  | nil => rfl
  | cons c line ih =>
    rw [List.mem_cons, not_or] at h
    rw [breaks_cons (Ne.symm h.1) fun _ hnext => h.2 (List.mem_of_head? hnext), ih h.2]

/-- Behind each of joined lines but the last a line break is read. -/
theorem breaks_joinWith (before : Text) {front : List Text} {last : Text}
    (hbefore : '\n' ∉ before) (hfront : ∀ line ∈ front, '\n' ∉ line) (hlast : '\n' ∉ last) :
    breaks (joinWith (before ++ ['\n']) (front ++ [last])) =
      front.map fun line => breakAfter (line ++ before) := by
  induction front with
  | nil => exact breaks_of_not_mem hlast
  | cons line front ih =>
    have hline : '\n' ∉ line ++ before := by
      rw [List.mem_append, not_or]
      exact ⟨hfront line List.mem_cons_self, hbefore⟩
    rw [List.cons_append, joinWith_cons _ _ (by simp), ← List.append_assoc, List.append_assoc,
      List.singleton_append, breaks_append_feed hline,
      ih fun t ht => hfront t (List.mem_cons_of_mem line ht)]
    rfl

/-! ## Rewritten line breaks -/

/-- Rewriting the line breaks takes their carriage returns away and brings in those of the
joiner. -/
theorem count_return_rebreak (joiner t : Text) :
    (rebreak t joiner).count '\r' + (breaks t).count ['\r', '\n'] =
      t.count '\r' + (breaks t).length * joiner.count '\r' := by
  induction t using breakInduction with
  | nil => simp [rebreak, breaks, units]
  | pair rest ih =>
    have hcount : ('\r' :: '\n' :: rest).count '\r' = rest.count '\r' + 1 := by simp
    rw [rebreak_pair, breaks_pair, List.count_append, List.count_cons_self, List.length_cons,
      Nat.succ_mul, hcount]
    omega
  | feed rest ih =>
    have hcount : ('\n' :: rest).count '\r' = rest.count '\r' := by simp
    have hbreaks : (['\n'] :: breaks rest).count ['\r', '\n'] =
        (breaks rest).count ['\r', '\n'] := by simp
    rw [rebreak_feed, breaks_feed, List.count_append, hbreaks, List.length_cons, Nat.succ_mul,
      hcount]
    omega
  | ordinary c rest hfeed hnext ih =>
    rw [rebreak_cons joiner hfeed hnext, breaks_cons hfeed hnext, List.count_cons, List.count_cons]
    omega

/-- Rewriting the line breaks changes nothing just if they are all written in the new way
already. -/
theorem rebreak_eq_self_iff {joiner t : Text} (h : joiner = ['\n'] ∨ joiner = ['\r', '\n']) :
    rebreak t joiner = t ↔ ∀ unit ∈ breaks t, unit = joiner := by
  refine ⟨fun heq => ?_, rebreak_eq_self⟩
  have hcount := count_return_rebreak joiner t
  rw [heq, Nat.add_left_cancel_iff] at hcount
  -- As many line breaks as the joiner asks for have a carriage return: none of them, or all.
  obtain rfl | rfl := h
  · have hnone : (breaks t).count ['\r', '\n'] = 0 := hcount
    intro unit hunit
    refine (eq_of_mem_breaks hunit).resolve_right ?_
    rintro rfl
    exact List.count_eq_zero.mp hnone hunit
  · have hall : (breaks t).count ['\r', '\n'] = (breaks t).length := by
      rw [hcount]
      exact Nat.mul_one _
    intro unit hunit
    exact (List.count_eq_length.mp hall unit hunit).symm

/-- A line in front of a line break keeps no carriage return at its end, if no line break takes one
with it. -/
theorem not_return_of_mem_front {t last : Text} {front : List Text}
    (h : hasCarriageBreak t = false) (hlines : breakLines t = front ++ [last]) :
    ∀ line ∈ front, line.getLast? ≠ some '\r' := by
  have hmem : ∀ line ∈ front ++ [last], '\n' ∉ line := by
    rw [← hlines]
    exact fun line hline => feed_not_mem_of_mem_breakLines hline
  have hfeeds : ∀ unit ∈ breaks t, unit = ['\n'] := by
    intro unit hunit
    refine (eq_of_mem_breaks hunit).resolve_right ?_
    rintro rfl
    rw [(hasCarriageBreak_iff_mem t).mpr hunit] at h
    cases h
  -- The text is its lines joined by line feeds, and cutting it gives these lines back.
  have hback : readBack [] front ++ [last] = front ++ [last] := by
    have hcut := breakLines_joinWith [] List.not_mem_nil
      (fun line hline => hmem line (List.mem_append_left _ hline))
      (hmem last (List.mem_append_right _ (List.mem_singleton_self last)))
    rw [← hcut, ← hlines, List.nil_append, joinWith_breakLines, rebreak_eq_self hfeeds]
  have hkept := (readBack_eq_self_iff (.inl rfl) front).mp (List.append_cancel_right hback)
  exact hkept.resolve_left (List.cons_ne_nil _ _).symm

end LinePipe.Text
