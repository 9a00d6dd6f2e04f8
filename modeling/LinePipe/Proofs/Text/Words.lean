import LinePipe.Text.Blank

/-!
# The words of a text

Cutting a text at a character and joining the pieces with that character undo each other. The words
of a text are found whatever whitespace stands before, between and behind them.

## Main definitions

- `Text.Spaced`: a text in which given words stand apart

## Main statements

- `Text.splitOn_eq_iff`: the pieces of a text between the occurrences of a character
- `Text.words_eq_iff`: the words of a text are those that stand apart in it
- `Text.spaced_unwords`: words with one space between neighbours stand apart
-/

namespace LinePipe.Text

/-! ## Pieces -/

theorem splitWhere_eq_splitOnP (sep : Char → Bool) (t : Text) :
    splitWhere sep t = t.splitOnP sep := by
  induction t with
  | nil => rfl
  | cons c t ih =>
    rw [splitWhere, List.splitOnP_cons_eq_if_modifyHead, ih]
    cases sep c with
    | true => rfl
    | false =>
      obtain ⟨piece, pieces, hpieces⟩ := List.exists_cons_of_ne_nil (List.splitOnP_ne_nil sep t)
      simp only [Bool.false_eq_true, if_false, hpieces, List.modifyHead_cons]

theorem joinWith_eq_intercalate (sep : Text) (ts : List Text) :
    joinWith sep ts = sep.intercalate ts := by
  induction ts with
  | nil => rfl
  | cons t ts ih =>
    cases ts with
    | nil => rw [joinWith, List.intercalate_singleton]
    | cons u ts => rw [joinWith, List.intercalate_cons_cons, ih]

/-- No separator stands in a piece. -/
theorem not_sep_of_mem_splitWhere {sep : Char → Bool} {t piece : Text} {c : Char}
    (hpiece : piece ∈ splitWhere sep t) (hc : c ∈ piece) : sep c = false := by
  induction t generalizing piece with
  | nil =>
    rw [List.mem_singleton.mp hpiece] at hc
    cases hc
  | cons d t ih =>
    rw [splitWhere] at hpiece
    split at hpiece
    · obtain rfl | hpiece := List.mem_cons.mp hpiece
      · cases hc
      · exact ih hpiece hc
    · rename_i hd
      split at hpiece
      · rw [List.mem_singleton.mp hpiece, List.mem_singleton] at hc
        rw [hc]
        exact Bool.eq_false_iff.mpr hd
      · rename_i first pieces hsplit
        rw [hsplit] at ih
        obtain rfl | hpiece := List.mem_cons.mp hpiece
        · obtain rfl | hc := List.mem_cons.mp hc
          · exact Bool.eq_false_iff.mpr hd
          · exact ih List.mem_cons_self hc
        · exact ih (List.mem_cons_of_mem first hpiece) hc

/-- The pieces of a text hold nothing that is not in the text. -/
theorem mem_of_mem_splitWhere {sep : Char → Bool} {t piece : Text} {c : Char}
    (hpiece : piece ∈ splitWhere sep t) (hc : c ∈ piece) : c ∈ t := by
  induction t generalizing piece with
  | nil =>
    rw [List.mem_singleton.mp hpiece] at hc
    cases hc
  | cons first rest ih =>
    rw [splitWhere] at hpiece
    split at hpiece
    · obtain rfl | hpiece := List.mem_cons.mp hpiece
      · cases hc
      · exact List.mem_cons_of_mem first (ih hpiece hc)
    · split at hpiece
      · rw [List.mem_singleton.mp hpiece, List.mem_singleton] at hc
        rw [hc]
        exact List.mem_cons_self
      · rename_i head tail hsplit
        obtain rfl | hpiece := List.mem_cons.mp hpiece
        · obtain rfl | hc := List.mem_cons.mp hc
          · exact List.mem_cons_self
          · refine List.mem_cons_of_mem first (ih ?_ hc)
            rw [hsplit]
            exact List.mem_cons_self
        · refine List.mem_cons_of_mem first (ih ?_ hc)
          rw [hsplit]
          exact List.mem_cons_of_mem head hpiece

/-- The pieces of a text are the only texts without the character that give the text when they are
joined with it. -/
theorem splitOn_eq_iff {c : Char} {t : Text} {pieces : List Text} :
    splitOn c t = pieces ↔
      pieces ≠ [] ∧ (∀ piece ∈ pieces, c ∉ piece) ∧ joinWith [c] pieces = t := by
  have hsplit (t : Text) : splitOn c t = List.splitOn c t :=
    splitWhere_eq_splitOnP (· == c) t
  constructor
  · rintro rfl
    refine ⟨?_, ?_, ?_⟩
    · rw [hsplit]
      exact List.splitOn_ne_nil c t
    · intro piece hpiece hc
      have hne := not_sep_of_mem_splitWhere hpiece hc
      simp at hne
    · rw [joinWith_eq_intercalate, hsplit]
      exact List.intercalate_splitOn c
  · rintro ⟨hne, hpieces, rfl⟩
    rw [joinWith_eq_intercalate, hsplit]
    exact List.splitOn_intercalate c hpieces hne

/-! ## Words -/

/-- A text in which given words stand apart: whitespace stands between neighbours, and there may be
more of it anywhere between, before and behind the words. -/
inductive Spaced : List Text → Text → Prop where
  | blank {gap : Text} (hgap : ∀ c ∈ gap, isBlank c) : Spaced [] gap
  | word {gap w rest : Text} {ws : List Text} (hgap : ∀ c ∈ gap, isBlank c) (hne : w ≠ [])
      (hw : ∀ c ∈ w, ¬ isBlank c) (hapart : ∀ c ∈ rest.head?, isBlank c) (hrest : Spaced ws rest) :
      Spaced (w :: ws) (gap ++ w ++ rest)

theorem words_cons_of_isBlank {c : Char} (h : isBlank c) (t : Text) :
    words (c :: t) = words t := by
  simp only [words, splitWhere, h, if_true]
  exact List.filter_cons_of_neg (by decide)

theorem words_append_of_blank {gap : Text} (h : ∀ c ∈ gap, isBlank c) (t : Text) :
    words (gap ++ t) = words t := by
  induction gap with
  | nil => rfl
  | cons c gap ih =>
    obtain ⟨hc, hgap⟩ := List.forall_mem_cons.mp h
    rw [List.cons_append, words_cons_of_isBlank hc, ih hgap]

theorem words_of_blank {gap : Text} (h : ∀ c ∈ gap, isBlank c) : words gap = [] := by
  have happend := words_append_of_blank h []
  rw [List.append_nil] at happend
  rw [happend]
  rfl

/-- Characters that are not whitespace, with whitespace or nothing behind them, are a word. -/
theorem words_append_of_not_blank {w rest : Text} (hne : w ≠ []) (hw : ∀ c ∈ w, ¬ isBlank c)
    (hapart : ∀ c ∈ rest.head?, isBlank c) : words (w ++ rest) = w :: words rest := by
  have hsep : ∀ c ∈ w, isBlank c = false := fun c hc => Bool.eq_false_iff.mpr (hw c hc)
  have hkeep (pieces : List Text) : (w :: pieces).filter (!·.isEmpty) =
      w :: pieces.filter (!·.isEmpty) :=
    List.filter_cons_of_pos (by simpa using hne)
  cases rest with
  | nil =>
    rw [words, splitWhere_eq_splitOnP, List.append_nil, List.splitOnP_eq_singleton hsep, hkeep]
    rfl
  | cons c rest =>
    have hc : isBlank c := hapart c rfl
    rw [words_cons_of_isBlank hc, words, words, splitWhere_eq_splitOnP, splitWhere_eq_splitOnP,
      List.splitOnP_append_cons_of_forall_mem hsep c hc, hkeep]

/-- One more whitespace character in front belongs to the gap there. -/
theorem Spaced.cons_blank {ws : List Text} {t : Text} {c : Char} (h : Spaced ws t)
    (hc : isBlank c) : Spaced ws (c :: t) := by
  cases h with
  | blank hgap => exact .blank (List.forall_mem_cons.mpr ⟨hc, hgap⟩)
  | word hgap hne hw hapart hrest =>
    exact .word (List.forall_mem_cons.mpr ⟨hc, hgap⟩) hne hw hapart hrest

/-- One more character of a word in front belongs to the first word if that stands right behind it,
and else it is a word of its own. -/
theorem Spaced.exists_cons_letter {ws : List Text} {t : Text} {c : Char} (h : Spaced ws t)
    (hc : ¬ isBlank c) : ∃ ws', Spaced ws' (c :: t) := by
  have hnil : ∀ d ∈ ([] : Text), isBlank d := List.forall_mem_nil _
  have hletter : ∀ d ∈ [c], ¬ isBlank d := by simpa using hc
  have halone (hapart : ∀ d ∈ t.head?, isBlank d) : ∃ ws', Spaced ws' (c :: t) :=
    ⟨[c] :: ws, .word hnil (List.cons_ne_nil _ _) hletter hapart h⟩
  cases h with
  | blank hgap =>
    refine halone fun d hd => hgap d (List.mem_of_head? hd)
  | @word gap w rest ws hgap hne hw hapart hrest =>
    cases gap with
    | cons d gap =>
      refine halone fun e he => ?_
      cases he
      exact hgap d List.mem_cons_self
    | nil =>
      have hlonger : ∀ d ∈ c :: w, ¬ isBlank d := List.forall_mem_cons.mpr ⟨hc, hw⟩
      exact ⟨(c :: w) :: ws, .word hnil (List.cons_ne_nil _ _) hlonger hapart hrest⟩

/-- In every text some words stand apart. -/
theorem exists_spaced (t : Text) : ∃ ws, Spaced ws t := by
  induction t with
  | nil => exact ⟨[], .blank (List.forall_mem_nil _)⟩
  | cons c t ih =>
    obtain ⟨ws, hws⟩ := ih
    by_cases hc : isBlank c
    · exact ⟨ws, hws.cons_blank hc⟩
    · exact hws.exists_cons_letter hc

/-- The words that stand apart in a text are its words. -/
theorem Spaced.words_eq {ws : List Text} {t : Text} (h : Spaced ws t) : words t = ws := by
  induction h with
  | blank hgap => exact words_of_blank hgap
  | word hgap hne hw hapart hrest ih =>
    rw [List.append_assoc, words_append_of_blank hgap, words_append_of_not_blank hne hw hapart, ih]

theorem words_eq_iff {ws : List Text} {t : Text} : words t = ws ↔ Spaced ws t := by
  constructor
  · rintro rfl
    obtain ⟨ws, hws⟩ := exists_spaced t
    rw [hws.words_eq]
    exact hws
  · exact Spaced.words_eq

theorem Spaced.ne_nil {ws : List Text} {t w : Text} (h : Spaced ws t) (hw : w ∈ ws) : w ≠ [] := by
  induction h with
  | blank hgap => cases hw
  | word hgap hne hletters hapart hrest ih =>
    obtain rfl | hw := List.mem_cons.mp hw
    · exact hne
    · exact ih hw

/-! ## Whitespace around words -/

theorem Spaced.blank_append {ws : List Text} {gap t : Text} (hgap : ∀ c ∈ gap, isBlank c)
    (h : Spaced ws t) : Spaced ws (gap ++ t) := by
  rw [← words_eq_iff, words_append_of_blank hgap]
  exact h.words_eq

theorem Spaced.append_blank {ws : List Text} {t gap : Text} (h : Spaced ws t)
    (hgap : ∀ c ∈ gap, isBlank c) : Spaced ws (t ++ gap) := by
  induction h with
  | blank hgap' => exact .blank (List.forall_mem_append.mpr ⟨hgap', hgap⟩)
  | @word gap' w rest ws hgap' hne hw hapart hrest ih =>
    rw [List.append_assoc]
    refine .word hgap' hne hw ?_ ih
    cases rest with
    | nil => exact fun c hc => hgap c (List.mem_of_head? hc)
    | cons d rest => exact hapart

theorem isBlank_space : ∀ c ∈ [' '], isBlank c :=
  List.forall_mem_singleton.mpr (by decide)

/-- Words with one space between neighbours stand apart. -/
theorem spaced_unwords {ws : List Text} (hne : ∀ w ∈ ws, w ≠ [])
    (hws : ∀ w ∈ ws, ∀ c ∈ w, ¬ isBlank c) : Spaced ws (unwords ws) := by
  have hnil : ∀ c ∈ ([] : Text), isBlank c := List.forall_mem_nil _
  induction ws with
  | nil => exact .blank hnil
  | cons w ws ih =>
    obtain ⟨hw, hrest⟩ := List.forall_mem_cons.mp hne
    obtain ⟨hletters, hrest'⟩ := List.forall_mem_cons.mp hws
    have hlater := ih hrest hrest'
    cases ws with
    | nil =>
      have hlast : Spaced [w] ([] ++ w ++ []) :=
        .word hnil hw hletters (by simp) (.blank hnil)
      rw [List.append_nil] at hlast
      exact hlast
    | cons v ws =>
      have happend : unwords (w :: v :: ws) = [] ++ w ++ ([' '] ++ unwords (v :: ws)) := by
        simp only [unwords, joinWith, List.nil_append, List.append_assoc]
      rw [happend]
      refine .word hnil hw hletters ?_ (hlater.blank_append isBlank_space)
      intro c hc
      cases hc
      exact isBlank_space ' ' List.mem_cons_self

end LinePipe.Text
