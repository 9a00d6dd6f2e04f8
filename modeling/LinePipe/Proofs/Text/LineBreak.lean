import LinePipe.Text.LineBreak

/-!
# Line breaks and carriage returns

Cutting a text at its line breaks and normalising its breaks agree on carriage returns that stand
directly before a line feed. A carriage return anywhere else stays in its line when the text is cut,
but becomes a line break of its own when breaks are normalised.

## Main definitions

- `Text.ReturnsBreak`: each carriage return of a text stands directly before a line feed

## Main statements

- `Text.breakLines_normalizeBreaks`: the lines of such a text are not changed by normalising
- `Text.returnsBreak_iff`: such texts are those with no carriage return in their lines
-/

namespace LinePipe.Text

/-- Each carriage return stands directly before a line feed. -/
def ReturnsBreak (t : Text) : Prop :=
  ∀ before after, t = before ++ '\r' :: after → after.head? = some '\n'

/-- Induction over the line breaks of a text. A character is ordinary if no line break starts at
it. -/
theorem breakInduction {motive : Text → Prop} (nil : motive [])
    (pair : ∀ rest, motive rest → motive ('\r' :: '\n' :: rest))
    (feed : ∀ rest, motive rest → motive ('\n' :: rest))
    (ordinary : ∀ c rest, c ≠ '\n' → (c = '\r' → rest.head? ≠ some '\n') → motive rest →
      motive (c :: rest)) (t : Text) : motive t := by
  -- A pair takes two characters at once, so the induction is on the length.
  induction hn : t.length using Nat.strongRecOn generalizing t with
  | _ n ih =>
    cases t with
    | nil => exact nil
    | cons c rest =>
      have hrest : motive rest := ih rest.length (by simp at hn; omega) rest rfl
      by_cases hfeed : c = '\n'
      · subst hfeed
        exact feed rest hrest
      · by_cases hpair : c = '\r' ∧ rest.head? = some '\n'
        · obtain ⟨rfl, hnext⟩ := hpair
          obtain ⟨after, rfl⟩ : ∃ after, rest = '\n' :: after := by
            cases rest with
            | nil => cases hnext
            | cons d after => exact ⟨after, by rw [Option.some.inj hnext]⟩
          exact pair after (ih after.length (by simp at hn; omega) after rfl)
        · exact ordinary c rest hfeed (fun hc hnext => hpair ⟨hc, hnext⟩) hrest

/-- Every text has a first line. -/
theorem breakLines_ne_nil (t : Text) : breakLines t ≠ [] := by
  unfold breakLines
  split
  · exact List.cons_ne_nil _ _
  · exact List.cons_ne_nil _ _
  · exact List.cons_ne_nil _ _
  · split <;> exact List.cons_ne_nil _ _

/-- An ordinary character goes to the front of the first line. -/
theorem breakLines_cons {c : Char} (rest : Text) (hfeed : c ≠ '\n')
    (hnext : c = '\r' → rest.head? ≠ some '\n') :
    ∃ line lines, breakLines rest = line :: lines ∧
      breakLines (c :: rest) = (c :: line) :: lines := by
  obtain ⟨line, lines, hrest⟩ := List.exists_cons_of_ne_nil (breakLines_ne_nil rest)
  refine ⟨line, lines, hrest, ?_⟩
  rw [breakLines.eq_4, hrest]
  · rintro after rfl rfl
    exact hnext rfl rfl
  · exact hfeed

theorem normalizeBreaks_cons {c : Char} (hreturn : c ≠ '\r') (rest : Text) :
    normalizeBreaks (c :: rest) = c :: normalizeBreaks rest := by
  rw [normalizeBreaks.eq_4]
  · rintro _ rfl
    exact absurd rfl hreturn
  · exact hreturn

theorem normalizeBreaks_return {rest : Text} (hnext : rest.head? ≠ some '\n') :
    normalizeBreaks ('\r' :: rest) = '\n' :: normalizeBreaks rest := by
  rw [normalizeBreaks.eq_3]
  rintro after rfl
  exact hnext rfl

/-- No carriage return is left when breaks are normalised. -/
theorem return_not_mem_normalizeBreaks (t : Text) : '\r' ∉ normalizeBreaks t := by
  induction t using breakInduction with
  | nil => exact List.not_mem_nil
  | pair rest ih => exact List.not_mem_cons_of_ne_of_not_mem (by decide) ih
  | feed rest ih => exact List.not_mem_cons_of_ne_of_not_mem (by decide) ih
  | ordinary c rest hfeed hnext ih =>
    by_cases hreturn : c = '\r'
    · subst hreturn
      rw [normalizeBreaks_return (hnext rfl)]
      exact List.not_mem_cons_of_ne_of_not_mem (by decide) ih
    · rw [normalizeBreaks_cons hreturn]
      exact List.not_mem_cons_of_ne_of_not_mem (Ne.symm hreturn) ih

/-- Without carriage returns there is nothing to normalise. -/
theorem normalizeBreaks_of_not_mem {t : Text} (h : '\r' ∉ t) : normalizeBreaks t = t := by
  induction t with
  | nil => rfl
  | cons c rest ih =>
    rw [List.mem_cons, not_or] at h
    rw [normalizeBreaks_cons (Ne.symm h.1), ih h.2]

/-- No line holds a line feed. -/
theorem feed_not_mem_of_mem_breakLines {t line : Text} (h : line ∈ breakLines t) :
    '\n' ∉ line := by
  induction t using breakInduction generalizing line with
  | nil =>
    rw [List.mem_singleton.mp h]
    exact List.not_mem_nil
  | pair rest ih =>
    obtain rfl | hrest := List.mem_cons.mp h
    · exact List.not_mem_nil
    · exact ih hrest
  | feed rest ih =>
    obtain rfl | hrest := List.mem_cons.mp h
    · exact List.not_mem_nil
    · exact ih hrest
  | ordinary c rest hfeed hnext ih =>
    obtain ⟨first, lines, hrest, hcons⟩ := breakLines_cons rest hfeed hnext
    rw [hcons] at h
    rw [hrest] at ih
    obtain rfl | hlines := List.mem_cons.mp h
    · exact List.not_mem_cons_of_ne_of_not_mem (Ne.symm hfeed) (ih List.mem_cons_self)
    · exact ih (List.mem_cons_of_mem first hlines)

theorem returnsBreak_nil : ReturnsBreak [] := by
  intro before after h
  cases before <;> cases h

theorem returnsBreak_cons (c : Char) (rest : Text) :
    ReturnsBreak (c :: rest) ↔ (c = '\r' → rest.head? = some '\n') ∧ ReturnsBreak rest := by
  constructor
  · intro h
    refine ⟨?_, fun before after hsplit => h (c :: before) after (by rw [hsplit]; rfl)⟩
    rintro rfl
    exact h [] rest rfl
  · rintro ⟨hfirst, hrest⟩ before after hsplit
    cases before with
    | nil =>
      obtain ⟨rfl, rfl⟩ := List.cons.inj hsplit
      exact hfirst rfl
    | cons d before => exact hrest before after (List.cons.inj hsplit).2

theorem returnsBreak_pair (rest : Text) :
    ReturnsBreak ('\r' :: '\n' :: rest) ↔ ReturnsBreak rest := by
  rw [returnsBreak_cons, returnsBreak_cons]
  simp

/-- The lines stay the same when breaks are normalised, if each carriage return is part of a line
break already. -/
theorem breakLines_normalizeBreaks {t : Text} (h : ReturnsBreak t) :
    breakLines (normalizeBreaks t) = breakLines t := by
  induction t using breakInduction with
  | nil => rfl
  | pair rest ih =>
    have hrest := ih ((returnsBreak_pair rest).mp h)
    rw [normalizeBreaks.eq_2, breakLines.eq_3, breakLines.eq_2, hrest]
  | feed rest ih =>
    have hrest := ih ((returnsBreak_cons _ rest).mp h).2
    rw [normalizeBreaks_cons (by decide), breakLines.eq_3, breakLines.eq_3, hrest]
  | ordinary c rest hfeed hnext ih =>
    obtain ⟨hfirst, hrest⟩ := (returnsBreak_cons c rest).mp h
    -- An ordinary carriage return would have to stand before a line feed.
    have hreturn : c ≠ '\r' := fun hc => hnext hc (hfirst hc)
    obtain ⟨line, lines, hlines, hcons⟩ := breakLines_cons rest hfeed hnext
    obtain ⟨line', lines', hlines', hcons'⟩ :=
      breakLines_cons (normalizeBreaks rest) hfeed fun hc => absurd hc hreturn
    rw [ih hrest, hlines, List.cons.injEq] at hlines'
    obtain ⟨rfl, rfl⟩ := hlines'
    rw [normalizeBreaks_cons hreturn, hcons, hcons']

/-- Each carriage return is part of a line break if and only if none is left in the lines. -/
theorem returnsBreak_iff (t : Text) :
    ReturnsBreak t ↔ ∀ line ∈ breakLines t, '\r' ∉ line := by
  induction t using breakInduction with
  | nil =>
    refine iff_of_true returnsBreak_nil ?_
    intro line hline
    rw [List.mem_singleton.mp hline]
    exact List.not_mem_nil
  | pair rest ih =>
    rw [returnsBreak_pair, ih, breakLines.eq_2]
    simp
  | feed rest ih =>
    rw [returnsBreak_cons, ih, breakLines.eq_3]
    simp
  | ordinary c rest hfeed hnext ih =>
    obtain ⟨line, lines, hrest, hcons⟩ := breakLines_cons rest hfeed hnext
    rw [returnsBreak_cons, ih, hcons, hrest]
    have hreturn : (c = '\r' → rest.head? = some '\n') ↔ '\r' ≠ c := by
      constructor
      · rintro h rfl
        exact hnext rfl (h rfl)
      · intro h hc
        exact absurd hc.symm h
    rw [hreturn, List.forall_mem_cons, List.forall_mem_cons, List.mem_cons, not_or, and_assoc]

/-- A line break with a carriage return needs a carriage return. -/
theorem return_mem_of_hasCarriageBreak {t : Text} (h : hasCarriageBreak t) : '\r' ∈ t := by
  induction t using breakInduction with
  | nil => cases h
  | pair rest ih => exact List.mem_cons_self
  | feed rest ih => exact List.mem_cons_of_mem _ (ih h)
  | ordinary c rest hfeed hnext ih =>
    by_cases hreturn : c = '\r'
    · rw [hreturn]
      exact List.mem_cons_self
    · rw [hasCarriageBreak.eq_3] at h
      · exact List.mem_cons_of_mem _ (ih h)
      · rintro _ rfl
        exact absurd rfl hreturn

/-- If each carriage return is part of a line break, one of them makes a line break with a carriage
return. -/
theorem ReturnsBreak.hasCarriageBreak {t : Text} (h : ReturnsBreak t) (hmem : '\r' ∈ t) :
    hasCarriageBreak t := by
  induction t using breakInduction with
  | nil => cases hmem
  | pair rest ih => rfl
  | feed rest ih =>
    exact ih ((returnsBreak_cons _ rest).mp h).2 (List.mem_of_ne_of_mem (by decide) hmem)
  | ordinary c rest hfeed hnext ih =>
    obtain ⟨hfirst, hrest⟩ := (returnsBreak_cons c rest).mp h
    have hreturn : c ≠ '\r' := fun hc => hnext hc (hfirst hc)
    rw [hasCarriageBreak.eq_3]
    · exact ih hrest (List.mem_of_ne_of_mem (Ne.symm hreturn) hmem)
    · rintro _ rfl
      exact absurd rfl hreturn

end LinePipe.Text
