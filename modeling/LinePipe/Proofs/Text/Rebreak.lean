import LinePipe.Proofs.Text.LineBreak
import Mathlib.Data.List.Basic

/-!
# Line breaks rewritten

A text taken apart into its line breaks, each of them whole, and its other characters. From this
follow the line breaks as they are written and the text with all of them written in another way,
which is what comes of cutting the text into lines and joining them again.

## Main definitions

- `Text.units`: a text in its line breaks and its other characters
- `Text.breaks`: the line breaks of a text as they are written
- `Text.rebreak`: a text with its line breaks written in another way
- `Text.readBack`: joined lines as they are read
- `Text.EndsInBreak`: a text has a line break at its end

## Main statements

- `Text.joinWith_breakLines`: the lines of a text joined again
- `Text.rebreak_eq_self`: line breaks that are written as they were
- `Text.breakLines_joinWith`: the lines of joined texts
- `Text.endsInBreak_iff`: a line break at the end leaves an empty last line
-/

namespace LinePipe.Text

/-! ## Joined texts -/

theorem joinWith_cons (sep t : Text) {ts : List Text} (h : ts ≠ []) :
    joinWith sep (t :: ts) = t ++ sep ++ joinWith sep ts := by
  obtain ⟨u, rest, rfl⟩ := List.exists_cons_of_ne_nil h
  rfl

/-- A character in front of joined texts stands in front of the first of them. -/
theorem joinWith_cons_cons (sep : Text) (c : Char) (t : Text) (ts : List Text) :
    joinWith sep ((c :: t) :: ts) = c :: joinWith sep (t :: ts) := by
  cases ts <;> rfl

theorem joinWith_concat (sep t : Text) {ts : List Text} (h : ts ≠ []) :
    joinWith sep (ts ++ [t]) = joinWith sep ts ++ sep ++ t := by
  induction ts with
  | nil => exact absurd rfl h
  | cons u ts ih =>
    by_cases hts : ts = []
    · subst hts
      rfl
    · rw [List.cons_append, joinWith_cons sep u (by simp), ih hts, joinWith_cons sep u hts]
      simp only [List.append_assoc]

/-! ## Line breaks and other characters -/

/-- A text in its line breaks, each of them whole, and its other characters, each by itself. -/
def units : Text → List Text
  | [] => []
  | '\r' :: '\n' :: rest => ['\r', '\n'] :: units rest
  | c :: rest => [c] :: units rest

/-- Whether a unit of a text is a line break. -/
def isBreak (unit : Text) : Bool :=
  unit == ['\n'] || unit == ['\r', '\n']

/-- The line breaks of a text as they are written. -/
def breaks (t : Text) : List Text :=
  (units t).filter isBreak

/-- A text with `joiner` in the place of each line break. -/
def rebreak (t joiner : Text) : Text :=
  (units t).flatMap fun unit => if isBreak unit then joiner else unit

theorem units_cons {c : Char} {rest : Text} (hnext : c = '\r' → rest.head? ≠ some '\n') :
    units (c :: rest) = [c] :: units rest := by
  rw [units.eq_3]
  rintro after rfl rfl
  exact hnext rfl rfl

theorem units_feed (rest : Text) : units ('\n' :: rest) = ['\n'] :: units rest :=
  units_cons fun h => absurd h (by decide)

theorem isBreak_singleton {c : Char} (h : c ≠ '\n') : isBreak [c] = false := by
  simp [isBreak, h]

/-- Nothing is lost between the units. -/
theorem flatten_units (t : Text) : (units t).flatten = t := by
  induction t using breakInduction with
  | nil => rfl
  | pair rest ih => rw [units.eq_2, List.flatten_cons, ih, List.cons_append, List.singleton_append]
  | feed rest ih => rw [units_feed, List.flatten_cons, ih, List.singleton_append]
  | ordinary c rest hfeed hnext ih =>
    rw [units_cons hnext, List.flatten_cons, ih, List.singleton_append]

theorem rebreak_pair (joiner rest : Text) :
    rebreak ('\r' :: '\n' :: rest) joiner = joiner ++ rebreak rest joiner := by
  rw [rebreak, units.eq_2, List.flatMap_cons]
  rfl

theorem rebreak_feed (joiner rest : Text) :
    rebreak ('\n' :: rest) joiner = joiner ++ rebreak rest joiner := by
  rw [rebreak, units_feed, List.flatMap_cons]
  rfl

theorem rebreak_cons {c : Char} {rest : Text} (joiner : Text) (hfeed : c ≠ '\n')
    (hnext : c = '\r' → rest.head? ≠ some '\n') :
    rebreak (c :: rest) joiner = c :: rebreak rest joiner := by
  rw [rebreak, units_cons hnext, List.flatMap_cons, isBreak_singleton hfeed]
  rfl

/-- The lines of a text joined again are the text with its line breaks rewritten. -/
theorem joinWith_breakLines (joiner t : Text) :
    joinWith joiner (breakLines t) = rebreak t joiner := by
  induction t using breakInduction with
  | nil => rfl
  | pair rest ih =>
    rw [breakLines.eq_2, joinWith_cons joiner [] (breakLines_ne_nil rest), ih, rebreak_pair,
      List.nil_append]
  | feed rest ih =>
    rw [breakLines.eq_3, joinWith_cons joiner [] (breakLines_ne_nil rest), ih, rebreak_feed,
      List.nil_append]
  | ordinary c rest hfeed hnext ih =>
    obtain ⟨line, lines, hrest, hcons⟩ := breakLines_cons rest hfeed hnext
    rw [hcons, joinWith_cons_cons, ← hrest, ih, rebreak_cons joiner hfeed hnext]

/-- Line breaks that are all written like the joiner stay as they are. -/
theorem rebreak_eq_self {joiner t : Text} (h : ∀ unit ∈ breaks t, unit = joiner) :
    rebreak t joiner = t := by
  have hunits : ∀ unit ∈ units t, (if isBreak unit then joiner else unit) = unit := by
    intro unit hunit
    split
    · rename_i hbreak
      exact (h unit (List.mem_filter.mpr ⟨hunit, hbreak⟩)).symm
    · rfl
  calc rebreak t joiner
      = ((units t).map fun unit => if isBreak unit then joiner else unit).flatten :=
        List.flatMap_def
    _ = (units t).flatten := by rw [List.map_congr_left hunits, List.map_id']
    _ = t := flatten_units t

/-! ## Line breaks with a carriage return -/

theorem eq_of_mem_breaks {t unit : Text} (h : unit ∈ breaks t) :
    unit = ['\n'] ∨ unit = ['\r', '\n'] := by
  have hbreak := (List.mem_filter.mp h).2
  rwa [isBreak, Bool.or_eq_true, beq_iff_eq, beq_iff_eq] at hbreak

theorem breaks_pair (rest : Text) :
    breaks ('\r' :: '\n' :: rest) = ['\r', '\n'] :: breaks rest := by
  rw [breaks, units.eq_2]
  rfl

theorem breaks_feed (rest : Text) : breaks ('\n' :: rest) = ['\n'] :: breaks rest := by
  rw [breaks, units_feed]
  rfl

theorem breaks_cons {c : Char} {rest : Text} (hfeed : c ≠ '\n')
    (hnext : c = '\r' → rest.head? ≠ some '\n') : breaks (c :: rest) = breaks rest := by
  rw [breaks, units_cons hnext, List.filter_cons, isBreak_singleton hfeed]
  rfl

theorem hasCarriageBreak_cons {c : Char} {rest : Text}
    (hnext : c = '\r' → rest.head? ≠ some '\n') :
    hasCarriageBreak (c :: rest) = hasCarriageBreak rest := by
  rw [hasCarriageBreak.eq_3]
  rintro after rfl rfl
  exact hnext rfl rfl

/-- A text is said to have such a line break if it has the two characters somewhere. -/
theorem hasCarriageBreak_iff_pair (t : Text) : hasCarriageBreak t ↔ ['\r', '\n'] <:+: t := by
  induction t with
  | nil => simp [hasCarriageBreak]
  | cons c rest ih =>
    rw [List.infix_cons_iff]
    by_cases hpair : c = '\r' ∧ rest.head? = some '\n'
    · obtain ⟨rfl, hnext⟩ := hpair
      obtain ⟨after, rfl⟩ := List.head?_eq_some_iff.mp hnext
      simp [hasCarriageBreak, List.cons_prefix_cons]
    · rw [hasCarriageBreak_cons fun hc hnext => hpair ⟨hc, hnext⟩, ih]
      constructor
      · exact .inr
      · rintro (⟨after, hstart⟩ | hlater)
        · simp only [List.cons_append, List.nil_append, List.cons.injEq] at hstart
          obtain ⟨rfl, rfl⟩ := hstart
          exact absurd ⟨rfl, rfl⟩ hpair
        · exact hlater

/-- Such a line break is one of the line breaks of the text. -/
theorem hasCarriageBreak_iff_mem (t : Text) : hasCarriageBreak t ↔ ['\r', '\n'] ∈ breaks t := by
  induction t using breakInduction with
  | nil => simp [hasCarriageBreak, breaks, units]
  | pair rest ih => simp [hasCarriageBreak, breaks_pair]
  | feed rest ih =>
    rw [hasCarriageBreak_cons fun h => absurd h (by decide), ih, breaks_feed]
    simp
  | ordinary c rest hfeed hnext ih => rw [hasCarriageBreak_cons hnext, ih, breaks_cons hfeed hnext]

/-! ## Joined texts cut again -/

/-- A line as it is read where a line feed follows it: a carriage return at its end belongs to the
line break. -/
def beforeFeed (line : Text) : Text :=
  if line.getLast? = some '\r' then line.dropLast else line

theorem beforeFeed_cons_cons (c d : Char) (line : Text) :
    beforeFeed (c :: d :: line) = c :: beforeFeed (d :: line) := by
  rw [beforeFeed, beforeFeed, List.getLast?_cons_cons, List.dropLast_cons_cons]
  split <;> rfl

theorem beforeFeed_eq_self_iff {line : Text} :
    beforeFeed line = line ↔ line.getLast? ≠ some '\r' := by
  rw [beforeFeed]
  constructor
  · rintro h hreturn
    rw [if_pos hreturn] at h
    obtain ⟨front, rfl⟩ := List.getLast?_eq_some_iff.mp hreturn
    simp at h
  · intro hreturn
    exact if_neg hreturn

theorem breakLines_cons_of_eq {c : Char} {rest line : Text} {lines : List Text}
    (hrest : breakLines rest = line :: lines) (hfeed : c ≠ '\n')
    (hnext : c = '\r' → rest.head? ≠ some '\n') :
    breakLines (c :: rest) = (c :: line) :: lines := by
  obtain ⟨first, others, hfirst, hcons⟩ := breakLines_cons rest hfeed hnext
  rw [hrest, List.cons.injEq] at hfirst
  obtain ⟨rfl, rfl⟩ := hfirst
  exact hcons

/-- A line without a line feed in it is read up to the next line feed. -/
theorem breakLines_append_feed {line : Text} (h : '\n' ∉ line) (rest : Text) :
    breakLines (line ++ '\n' :: rest) = beforeFeed line :: breakLines rest := by
  induction line with
  | nil => rfl
  | cons c line ih =>
    rw [List.mem_cons, not_or] at h
    obtain ⟨hfeed, hline⟩ := h
    cases line with
    | nil =>
      by_cases hreturn : c = '\r'
      · subst hreturn
        rfl
      · have hkept : beforeFeed [c] = [c] := beforeFeed_eq_self_iff.mpr (by simpa using hreturn)
        rw [hkept]
        exact breakLines_cons_of_eq (ih hline) (Ne.symm hfeed) fun hc => absurd hc hreturn
    | cons d line =>
      have hd : d ≠ '\n' := fun hd => hline (hd ▸ List.mem_cons_self)
      rw [beforeFeed_cons_cons]
      exact breakLines_cons_of_eq (ih hline) (Ne.symm hfeed) fun _ => by simpa using hd

theorem breakLines_of_not_mem {line : Text} (h : '\n' ∉ line) : breakLines line = [line] := by
  induction line with
  | nil => rfl
  | cons c line ih =>
    rw [List.mem_cons, not_or] at h
    refine breakLines_cons_of_eq (ih h.2) (Ne.symm h.1) fun _ hnext => h.2 ?_
    exact List.mem_of_head? hnext

/-- Lines as they are read where `before` and a line feed follow each of them. -/
def readBack (before : Text) (lines : List Text) : List Text :=
  lines.map fun line => beforeFeed (line ++ before)

/-- Joined lines are read one by one. What stands before the line feed of the line break may take a
carriage return away from the line, or be one that is taken away itself. -/
theorem breakLines_joinWith (before : Text) {front : List Text} {last : Text}
    (hbefore : '\n' ∉ before) (hfront : ∀ line ∈ front, '\n' ∉ line) (hlast : '\n' ∉ last) :
    breakLines (joinWith (before ++ ['\n']) (front ++ [last])) =
      readBack before front ++ [last] := by
  induction front with
  | nil => exact breakLines_of_not_mem hlast
  | cons line front ih =>
    have hline : '\n' ∉ line ++ before := by
      rw [List.mem_append, not_or]
      exact ⟨hfront line List.mem_cons_self, hbefore⟩
    rw [List.cons_append, joinWith_cons _ _ (by simp), ← List.append_assoc, List.append_assoc,
      List.singleton_append, breakLines_append_feed hline,
      ih fun t ht => hfront t (List.mem_cons_of_mem line ht)]
    rfl

/-- Lines come back if no line break takes a carriage return away from them. -/
theorem readBack_eq_self_iff {before : Text} (h : before = [] ∨ before = ['\r'])
    (lines : List Text) :
    readBack before lines = lines ↔
      before = ['\r'] ∨ ∀ line ∈ lines, line.getLast? ≠ some '\r' := by
  have hline (line : Text) :
      beforeFeed (line ++ before) = line ↔ before = ['\r'] ∨ line.getLast? ≠ some '\r' := by
    obtain rfl | rfl := h
    · rw [List.append_nil, beforeFeed_eq_self_iff]
      simp
    · rw [beforeFeed, List.getLast?_concat, List.dropLast_concat]
      simp
  have hself : readBack before lines = lines ↔
      ∀ line ∈ lines, before = ['\r'] ∨ line.getLast? ≠ some '\r' := by
    simp only [← hline]
    constructor
    · intro hmap line hmem
      exact List.map_eq_map_iff.mp (hmap.trans (List.map_id lines).symm) line hmem
    · intro hall
      exact (List.map_congr_left hall).trans (List.map_id lines)
  rw [hself]
  by_cases hreturn : before = ['\r'] <;> simp [hreturn]

/-! ## A line break at the end -/

/-- A text has a line break at its end. -/
def EndsInBreak (t : Text) : Prop :=
  t.getLast? = some '\n'

instance (t : Text) : Decidable t.EndsInBreak :=
  inferInstanceAs (Decidable (_ = _))

theorem endsInBreak_cons (c : Char) {rest : Text} (h : rest ≠ []) :
    EndsInBreak (c :: rest) ↔ EndsInBreak rest := by
  rw [EndsInBreak, EndsInBreak, List.getLast?_cons_of_ne_nil h]

/-- Every text has a last line. -/
theorem exists_breakLines_eq_concat (t : Text) : ∃ front last, breakLines t = front ++ [last] :=
  (breakLines t).eq_nil_or_concat'.resolve_left (breakLines_ne_nil t)

/-- Only the empty text has an empty line and no other. -/
theorem eq_nil_of_breakLines {t : Text} (h : breakLines t = [[]]) : t = [] := by
  induction t using breakInduction with
  | nil => rfl
  | pair rest ih =>
    rw [breakLines.eq_2, List.cons.injEq] at h
    exact absurd h.2 (breakLines_ne_nil rest)
  | feed rest ih =>
    rw [breakLines.eq_3, List.cons.injEq] at h
    exact absurd h.2 (breakLines_ne_nil rest)
  | ordinary c rest hfeed hnext ih =>
    obtain ⟨line, lines, -, hcons⟩ := breakLines_cons rest hfeed hnext
    rw [hcons, List.cons.injEq] at h
    exact absurd h.1 (List.cons_ne_nil c line)

/-- A line break at the end of a text leaves an empty last line behind it. -/
theorem endsInBreak_iff (t : Text) :
    EndsInBreak t ↔ t ≠ [] ∧ (breakLines t).getLast? = some [] := by
  have hfed (rest : Text)
      (ih : EndsInBreak rest ↔ rest ≠ [] ∧ (breakLines rest).getLast? = some []) :
      EndsInBreak ('\n' :: rest) ↔ ([] :: breakLines rest).getLast? = some [] := by
    rw [List.getLast?_cons_of_ne_nil (breakLines_ne_nil rest)]
    by_cases hrest : rest = []
    · subst hrest
      decide
    · exact (endsInBreak_cons '\n' hrest).trans (ih.trans (and_iff_right hrest))
  induction t using breakInduction with
  | nil => simp [EndsInBreak]
  | pair rest ih =>
    rw [endsInBreak_cons '\r' (List.cons_ne_nil _ _), hfed rest ih, breakLines.eq_2]
    simp
  | feed rest ih =>
    rw [hfed rest ih, breakLines.eq_3]
    simp
  | ordinary c rest hfeed hnext ih =>
    obtain ⟨line, lines, hrest, hcons⟩ := breakLines_cons rest hfeed hnext
    rw [hcons]
    by_cases hnil : rest = []
    · subst hnil
      cases hrest
      simpa [EndsInBreak] using hfeed
    · refine (endsInBreak_cons c hnil).trans (ih.trans ?_)
      rw [hrest]
      -- The first line is not empty, so it makes no difference if it is also the last.
      cases lines with
      | nil =>
        have hline : line ≠ [] := by
          rintro rfl
          exact hnil (eq_nil_of_breakLines hrest)
        simp [hline]
      | cons next lines => simp [hnil]

/-- Joined texts end in a line break if the separator does and the last of them is empty, which is
then not the only one. -/
theorem endsInBreak_joinWith_iff {sep : Text} {ts : List Text} (hsep : EndsInBreak sep)
    (hts : ∀ t ∈ ts, '\n' ∉ t) :
    EndsInBreak (joinWith sep ts) ↔ 1 < ts.length ∧ ts.getLast? = some [] := by
  obtain rfl | ⟨front, last, rfl⟩ := ts.eq_nil_or_concat'
  · simp [EndsInBreak, joinWith]
  · have hlast : ¬ EndsInBreak last := fun hbreak =>
      hts last (by simp) (List.mem_of_getLast? hbreak)
    rw [List.getLast?_concat]
    by_cases hfront : front = []
    · subst hfront
      exact iff_of_false hlast (by simp)
    · have hlength : 1 < (front ++ [last]).length := by
        have := List.length_pos_iff.mpr hfront
        simpa using this
      rw [joinWith_concat sep last hfront, and_iff_right hlength, Option.some.injEq]
      constructor
      · intro hbreak
        by_contra hne
        rw [EndsInBreak, List.getLast?_append_of_ne_nil _ hne] at hbreak
        exact hlast hbreak
      · rintro rfl
        have hne : sep ≠ [] := by
          rintro rfl
          cases hsep
        rw [List.append_nil, EndsInBreak, List.getLast?_append_of_ne_nil _ hne]
        exact hsep

end LinePipe.Text
