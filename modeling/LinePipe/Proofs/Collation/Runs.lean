import LinePipe.Proofs.Collation.Order
import LinePipe.Proofs.Text.Case
import LinePipe.Proofs.Text.Digit
import Mathlib.Data.List.DropRight

/-!
# Digit runs in lines

A digit run of a line is one chunk of its key, whatever stands around it, and it compares by the
number that it writes. So lines that agree up to a digit run are ordered by the numbers there, and a
digit run comes before words at the same place.

## Main definitions

- `Text.RunBetween`: a run of digits that ends where the texts around it begin
- `Collator.PlacesRun`: what comes behind a line with such a run

## Main statements

- `digitRuns_append`: where a run ends, a line can be cut without changing the runs
- `Chunk.compare_numberChunk`: digit runs compare by number, then by length
- `Collator.compare_runs`: lines that differ from a digit run on compare by the numbers there
- `Collator.compare_run_words`: a digit run comes before words at the same place
- `Collator.placesRun`: the place of a line with a digit run
-/

namespace LinePipe

/-! ## Runs -/

/-- A character of the same class joins the run that it stands before. -/
theorem digitRuns_cons_of_same {c d : Char} (h : Text.isDecimal c = Text.isDecimal d)
    (rest : Text) :
    ∃ run runs, digitRuns (d :: rest) = (d :: run) :: runs ∧
      digitRuns (c :: d :: rest) = (c :: d :: run) :: runs := by
  have hfirst : ∃ run runs, digitRuns (d :: rest) = (d :: run) :: runs := by
    rw [digitRuns]
    split
    · split
      · exact ⟨_, _, rfl⟩
      · exact ⟨_, _, rfl⟩
    · exact ⟨_, _, rfl⟩
  obtain ⟨run, runs, hruns⟩ := hfirst
  refine ⟨run, runs, hruns, ?_⟩
  rw [digitRuns, hruns]
  simp only [h, beq_self_eq_true, if_true]

theorem digitRuns_cons_of_ne {c d : Char} (h : Text.isDecimal c ≠ Text.isDecimal d)
    (rest : Text) : digitRuns (c :: d :: rest) = [c] :: digitRuns (d :: rest) := by
  obtain ⟨run, runs, hruns, -⟩ := digitRuns_cons_of_same (Eq.refl (Text.isDecimal d)) rest
  rw [digitRuns, hruns]
  simp only [beq_eq_false_iff_ne.mpr h, Bool.false_eq_true, if_false]

/-- Where one run ends and another begins, a line can be cut. -/
theorem digitRuns_append {front back : Text}
    (h : ∀ c ∈ front.getLast?, ∀ d ∈ back.head?, Text.isDecimal c ≠ Text.isDecimal d) :
    digitRuns (front ++ back) = digitRuns front ++ digitRuns back := by
  induction front with
  | nil => rfl
  | cons c front ih =>
    cases front with
    | nil =>
      cases back with
      | nil => rfl
      | cons d back => exact digitRuns_cons_of_ne (h c rfl d rfl) back
    | cons e front =>
      have hrest : digitRuns (e :: (front ++ back)) = digitRuns (e :: front) ++ digitRuns back :=
        ih h
      by_cases hclass : Text.isDecimal c = Text.isDecimal e
      · obtain ⟨run, runs, hruns, hcons⟩ := digitRuns_cons_of_same hclass front
        obtain ⟨run', runs', hruns', hcons'⟩ := digitRuns_cons_of_same hclass (front ++ back)
        rw [hruns, hruns', List.cons_append, List.cons.injEq, List.cons.injEq] at hrest
        obtain ⟨⟨-, rfl⟩, rfl⟩ := hrest
        rw [hcons]
        exact hcons'
      · rw [digitRuns_cons_of_ne hclass front]
        exact (digitRuns_cons_of_ne hclass (front ++ back)).trans (congrArg ([c] :: ·) hrest)

/-- Characters of one class make one run. -/
theorem digitRuns_of_uniform {run : Text} {decimal : Bool} (hne : run ≠ [])
    (h : ∀ c ∈ run, Text.isDecimal c = decimal) : digitRuns run = [run] := by
  induction run with
  | nil => exact absurd rfl hne
  | cons c rest ih =>
    cases rest with
    | nil => rfl
    | cons d rest =>
      have hclass : Text.isDecimal c = Text.isDecimal d := by
        rw [h c (by simp), h d (by simp)]
      obtain ⟨run, runs, hruns, hcons⟩ := digitRuns_cons_of_same hclass rest
      rw [ih (List.cons_ne_nil _ _) fun x hx => h x (List.mem_cons_of_mem c hx), List.cons.injEq,
        List.cons.injEq] at hruns
      obtain ⟨⟨-, rfl⟩, rfl⟩ := hruns
      exact hcons

/-- A text ends with a run of the given class, which may be empty. -/
theorem exists_run_at_end (decimal : Bool) (t : Text) :
    ∃ front run, t = front ++ run ∧ (∀ x ∈ front.getLast?, Text.isDecimal x ≠ decimal) ∧
      ∀ x ∈ run, Text.isDecimal x = decimal := by
  refine ⟨t.rdropWhile (Text.isDecimal · == decimal), t.rtakeWhile (Text.isDecimal · == decimal),
    List.rdropWhile_append_rtakeWhile.symm, ?_, ?_⟩
  · intro x hx
    obtain ⟨hne, rfl⟩ := List.mem_getLast?_eq_getLast hx
    simpa using List.rdropWhile_last_not _ _ hne
  · intro x hx
    simpa using List.mem_rtakeWhile_imp hx

/-- A text starts with a run of the given class, which may be empty. -/
theorem exists_run_at_start (decimal : Bool) (t : Text) :
    ∃ back, t = t.takeWhile (Text.isDecimal · == decimal) ++ back ∧
      (∀ x ∈ back.head?, Text.isDecimal x ≠ decimal) ∧
        ∀ x ∈ t.takeWhile (Text.isDecimal · == decimal), Text.isDecimal x = decimal := by
  refine ⟨t.dropWhile (Text.isDecimal · == decimal), List.takeWhile_append_dropWhile.symm, ?_, ?_⟩
  · intro x hx
    have hfirst := List.head?_dropWhile_not (Text.isDecimal · == decimal) t
    rw [Option.mem_def.mp hx] at hfirst
    simpa using hfirst
  · intro x hx
    simpa using List.mem_takeWhile_imp hx

/-- A run ends where a character of the other class comes next. -/
theorem apart_behind_run {run rest : Text} {decimal : Bool}
    (hrun : ∀ x ∈ run, Text.isDecimal x = decimal)
    (hrest : ∀ y ∈ rest.head?, Text.isDecimal y ≠ decimal) :
    ∀ x ∈ run.getLast?, ∀ y ∈ rest.head?, Text.isDecimal x ≠ Text.isDecimal y := by
  intro x hx y hy
  rw [hrun x (List.mem_of_getLast? hx)]
  exact (hrest y hy).symm

/-- A run begins where a character of the other class comes directly before. -/
theorem apart_before_run {front run : Text} {decimal : Bool}
    (hfront : ∀ x ∈ front.getLast?, Text.isDecimal x ≠ decimal)
    (hrun : ∀ y ∈ run, Text.isDecimal y = decimal) :
    ∀ x ∈ front.getLast?, ∀ y ∈ run.head?, Text.isDecimal x ≠ Text.isDecimal y := by
  intro x hx y hy
  rw [hrun y (List.mem_of_head? hy)]
  exact hfront x hx

/-- What holds of the empty text, and of a run before a text of which it holds where another run
begins, holds of every text. -/
theorem runInduction {motive : Text → Prop} (nil : motive [])
    (run : ∀ decimal run rest, run ≠ [] → (∀ x ∈ run, Text.isDecimal x = decimal) →
      (∀ x ∈ rest.head?, Text.isDecimal x ≠ decimal) → motive rest → motive (run ++ rest))
    (t : Text) : motive t := by
  cases t with
  | nil => exact nil
  | cons c tail =>
    obtain ⟨back, hcut, hback, hrun⟩ := exists_run_at_start (Text.isDecimal c) (c :: tail)
    have hfirst : (c :: tail).takeWhile (Text.isDecimal · == Text.isDecimal c) =
        c :: tail.takeWhile (Text.isDecimal · == Text.isDecimal c) :=
      List.takeWhile_cons_of_pos (beq_self_eq_true _)
    have hshort : back.length < (c :: tail).length := by
      have hlength := congrArg List.length hcut
      rw [hfirst] at hlength
      simp only [List.length_append, List.length_cons] at hlength ⊢
      omega
    rw [hcut]
    refine run _ _ back ?_ hrun hback (runInduction nil run back)
    rw [hfirst]
    exact List.cons_ne_nil _ _
termination_by t.length
decreasing_by exact hshort

/-! ## Chunks -/

theorem foldedWords_append (run rest : Text) :
    foldedWords (run ++ rest) = foldedWords run ++ foldedWords rest := by
  rw [foldedWords, Text.foldCase, List.flatMap_append, List.filter_append]
  rfl

/-- A character other than the null character gives a run weight. -/
theorem foldedWords_ne_nil {run : Text} (h : ∃ c ∈ run, c ≠ '\x00') : foldedWords run ≠ [] := by
  obtain ⟨c, hc, hne⟩ := h
  obtain ⟨d, hd, hd'⟩ := Text.exists_mem_foldChar hne
  have hmem : d ∈ foldedWords run := by
    rw [foldedWords, List.mem_filter, Text.foldCase, List.mem_flatMap]
    exact ⟨⟨c, hc, hd⟩, by simpa using hd'⟩
  exact List.ne_nil_of_mem hmem

/-- One character tells the class of a run. -/
theorem any_isDecimal_of_uniform {run : Text} {decimal : Bool} (hne : run ≠ [])
    (h : ∀ x ∈ run, Text.isDecimal x = decimal) : run.any Text.isDecimal = decimal := by
  cases decimal with
  | true =>
    obtain ⟨x, hx⟩ := List.exists_mem_of_ne_nil run hne
    exact List.any_eq_true.mpr ⟨x, hx, h x hx⟩
  | false => exact List.any_eq_false.mpr fun x hx => by simp [h x hx]

theorem chunkOfRun_of_digits {run : Text} (hne : run ≠ []) (h : ∀ x ∈ run, Text.isDecimal x) :
    chunkOfRun run = numberChunk run :=
  if_pos (any_isDecimal_of_uniform hne h)

theorem chunkOfRun_of_words {run : Text} (hne : run ≠ [])
    (h : ∀ x ∈ run, Text.isDecimal x = false) : chunkOfRun run = .words (foldedWords run) := by
  rw [chunkOfRun, any_isDecimal_of_uniform hne h]
  rfl

/-- Digit runs compare by the numbers that they write, and those that write the same number by how
many digits they have. -/
theorem Chunk.compare_numberChunk (run run' : Text) :
    compare (numberChunk run) (numberChunk run') =
      (compare (Text.decimalValue run) (Text.decimalValue run')).then
        (compare run.length run'.length) := by
  rw [← Text.compare_decimalValue, Ordering.then_assoc]
  simp only [numberChunk, Text.dropWhile_map_asciiDigit, compare, Chunk.order, List.length_map]

/-- Lists with the same beginning compare by what follows it. -/
theorem compare_append_left {α : Type} [Ord α] [Std.ReflOrd α] (front xs ys : List α) :
    compare (front ++ xs) (front ++ ys) = compare xs ys := by
  induction front with
  | nil => rfl
  | cons a front ih =>
    rw [List.cons_append, List.cons_append, List.compare_cons_cons, Std.compare_self,
      Ordering.eq_then, ih]

/-- A list comes before those that go on where it ends. -/
theorem compare_append_self {α : Type} [Ord α] [Std.ReflOrd α] {front back : List α}
    (h : back ≠ []) : compare front (front ++ back) = .lt := by
  obtain ⟨a, rest, rfl⟩ := List.exists_cons_of_ne_nil h
  have hcut := compare_append_left front [] (a :: rest)
  rwa [List.append_nil] at hcut

/-- A comparison that decides leaves nothing to the next one. -/
theorem then_of_ne_eq {first second : Ordering} (h : first ≠ .eq) :
    first.then second = first := by
  cases first with
  | lt => rfl
  | eq => exact absurd rfl h
  | gt => rfl

namespace Collator

variable {c : Collator}

theorem chunks_append (hnumeric : c.numeric = true) {front back : Text}
    (h : ∀ x ∈ front.getLast?, ∀ y ∈ back.head?, Text.isDecimal x ≠ Text.isDecimal y) :
    c.chunks (front ++ back) = c.chunks front ++ c.chunks back := by
  rw [chunks, chunks, chunks, if_pos hnumeric, if_pos hnumeric, if_pos hnumeric,
    digitRuns_append h, List.map_append]

/-- Characters of one class between others give chunks of their own. -/
theorem chunks_around (hnumeric : c.numeric = true) {front run back : Text} {decimal : Bool}
    (hne : run ≠ []) (hrun : ∀ x ∈ run, Text.isDecimal x = decimal)
    (hfront : ∀ x ∈ front.getLast?, Text.isDecimal x ≠ decimal)
    (hback : ∀ x ∈ back.head?, Text.isDecimal x ≠ decimal) :
    c.chunks (front ++ run ++ back) = c.chunks front ++ (c.chunks run ++ c.chunks back) := by
  have hahead : ∀ x ∈ front.getLast?, ∀ y ∈ (run ++ back).head?,
      Text.isDecimal x ≠ Text.isDecimal y := by
    rw [List.head?_append_of_ne_nil _ hne]
    exact apart_before_run hfront hrun
  rw [List.append_assoc, chunks_append hnumeric hahead,
    chunks_append hnumeric (apart_behind_run hrun hback)]

theorem chunks_nil (hnumeric : c.numeric = true) : c.chunks [] = [] := by
  rw [chunks, if_pos hnumeric]
  rfl

/-- Characters of one class make one chunk. -/
theorem chunks_of_uniform (hnumeric : c.numeric = true) {run : Text} {decimal : Bool}
    (hne : run ≠ []) (h : ∀ x ∈ run, Text.isDecimal x = decimal) :
    c.chunks run = [chunkOfRun run] := by
  rw [chunks, if_pos hnumeric, digitRuns_of_uniform hne h, List.map_singleton]

theorem chunks_of_digits (hnumeric : c.numeric = true) {run : Text} (hne : run ≠ [])
    (h : ∀ x ∈ run, Text.isDecimal x) : c.chunks run = [numberChunk run] := by
  rw [chunks_of_uniform hnumeric hne h, chunkOfRun_of_digits hne h]

theorem chunks_of_words (hnumeric : c.numeric = true) {run : Text} (hne : run ≠ [])
    (h : ∀ x ∈ run, Text.isDecimal x = false) :
    c.chunks run = [.words (foldedWords run)] := by
  rw [chunks_of_uniform hnumeric hne h, chunkOfRun_of_words hne h]

/-- Chunks decide first, then the lines with cases exchanged, then the lines as they are. -/
theorem compare_eq_then (a b : Text) :
    c.compare a b = (Ord.compare (c.chunks a) (c.chunks b)).then
      ((Ord.compare (Text.swapCase a) (Text.swapCase b)).then (Ord.compare a b)) :=
  rfl

/-- Chunks that differ decide. -/
theorem compare_of_chunks {a b : Text} (h : Ord.compare (c.chunks a) (c.chunks b) = .lt) :
    c.compare a b = .lt := by
  rw [compare_eq_then, h]
  rfl

/-- Lines with the same chunks compare with cases exchanged, and then as they are. -/
theorem compare_of_chunks_eq {a b : Text} (h : c.chunks a = c.chunks b) :
    c.compare a b =
      (Ord.compare (Text.swapCase a) (Text.swapCase b)).then (Ord.compare a b) := by
  rw [compare_eq_then, h, Std.compare_self, Ordering.eq_then]

end Collator

/-! ## The place of a line with a digit run -/

/-- A run of decimal digits between two texts, which ends where they begin: no digit stands directly
before or behind it. -/
structure Text.RunBetween (before run after : Text) : Prop where
  nonempty : run ≠ []
  digits : ∀ d ∈ run, isDecimal d
  before_apart : ∀ x ∈ before.getLast?, isDecimal x = false
  after_apart : ∀ x ∈ after.head?, isDecimal x = false

theorem Text.runBetween_iff {before run after : Text} :
    RunBetween before run after ↔
      run ≠ [] ∧ run.all isDecimal ∧ (before.getLast?.all fun x => !isDecimal x) ∧
        after.head?.all fun x => !isDecimal x := by
  simp only [List.all_eq_true, Option.all_eq_true, Bool.not_eq_true']
  constructor
  · rintro ⟨hne, hdigits, hbefore, hafter⟩
    exact ⟨hne, hdigits, hbefore, hafter⟩
  · rintro ⟨hne, hdigits, hbefore, hafter⟩
    exact ⟨hne, hdigits, hbefore, hafter⟩

instance (before run after : Text) : Decidable (Text.RunBetween before run after) :=
  decidable_of_iff _ Text.runBetween_iff.symm

namespace Collator

variable {c : Collator}

/-- A line with a digit run comes before each line that has at the place of the run one that writes
a greater number, or the same number with more digits, and before each that has words there. Words
have weight if they hold some other character than the null character. -/
structure PlacesRun (c : Collator) (before run after : Text) : Prop where
  smaller : ∀ run' after', Text.RunBetween before run' after' →
    Text.decimalValue run < Text.decimalValue run' →
      c.compare (before ++ run ++ after) (before ++ run' ++ after') = .lt
  shorter : ∀ run' after', Text.RunBetween before run' after' →
    Text.decimalValue run = Text.decimalValue run' → run.length < run'.length →
      c.compare (before ++ run ++ after) (before ++ run' ++ after') = .lt
  beforeWords : ∀ rest, (∃ x ∈ rest.takeWhile (!Text.isDecimal ·), x ≠ '\x00') →
    c.compare (before ++ run ++ after) (before ++ rest) = .lt

/-- The run is a chunk of its own. -/
theorem chunks_of_runBetween (hnumeric : c.numeric = true) {before run after : Text}
    (h : Text.RunBetween before run after) :
    c.chunks (before ++ run ++ after) = c.chunks before ++ numberChunk run :: c.chunks after := by
  rw [chunks_around hnumeric h.nonempty h.digits (fun x hx => by simp [h.before_apart x hx])
    (fun x hx => by simp [h.after_apart x hx]), chunks_of_digits hnumeric h.nonempty h.digits]
  rfl

section

variable (hnumeric : c.numeric = true) {before run after : Text}
  (h : Text.RunBetween before run after)
include hnumeric h

/-- With a digit run at the same place, the numbers and then the lengths of the runs decide. -/
theorem compare_runs {run' after' : Text} (h' : Text.RunBetween before run' after')
    (hlt : (Ord.compare (Text.decimalValue run) (Text.decimalValue run')).then
      (Ord.compare run.length run'.length) = .lt) :
    c.compare (before ++ run ++ after) (before ++ run' ++ after') = .lt := by
  refine compare_of_chunks ?_
  rw [chunks_of_runBetween hnumeric h, chunks_of_runBetween hnumeric h', compare_append_left,
    List.compare_cons_cons, Chunk.compare_numberChunk, hlt]
  rfl

/-- Words at the same place join the words that come directly before it. If there are none, a number
meets words; if there are some, they meet longer words. -/
theorem compare_run_words {rest : Text}
    (hweight : ∃ x ∈ rest.takeWhile (!Text.isDecimal ·), x ≠ '\x00') :
    c.compare (before ++ run ++ after) (before ++ rest) = .lt := by
  obtain ⟨front, tail, rfl, hfront, htail⟩ := exists_run_at_end false before
  obtain ⟨back, hrest, hback, hwords⟩ := exists_run_at_start false rest
  have hclass : (Text.isDecimal · == false) = (!Text.isDecimal ·) := by
    funext x
    exact beq_false _
  rw [hclass] at hrest hwords
  generalize rest.takeWhile (!Text.isDecimal ·) = words at hweight hrest hwords
  subst hrest
  have hjoined : ∀ x ∈ tail ++ words, Text.isDecimal x = false := by
    intro x hx
    exact (List.mem_append.mp hx).elim (htail x) (hwords x)
  have hne : tail ++ words ≠ [] := by
    obtain ⟨x, hx, -⟩ := hweight
    exact List.ne_nil_of_mem (List.mem_append_right tail hx)
  have hline : c.chunks (front ++ tail ++ (words ++ back)) =
      c.chunks front ++ .words (foldedWords tail ++ foldedWords words) :: c.chunks back := by
    rw [List.append_assoc, ← List.append_assoc tail, ← List.append_assoc front,
      chunks_around hnumeric hne hjoined hfront hback, chunks_of_words hnumeric hne hjoined,
      foldedWords_append]
    rfl
  refine compare_of_chunks ?_
  rw [hline, chunks_of_runBetween hnumeric h]
  by_cases hnil : tail = []
  · subst hnil
    rw [List.append_nil, compare_append_left]
    rfl
  · have hbefore : c.chunks (front ++ tail) = c.chunks front ++ [.words (foldedWords tail)] := by
      rw [chunks_append hnumeric (apart_before_run hfront htail),
        chunks_of_words hnumeric hnil htail]
    have hgrown : Ord.compare (Chunk.words (foldedWords tail))
        (.words (foldedWords tail ++ foldedWords words)) = .lt :=
      compare_append_self (foldedWords_ne_nil hweight)
    rw [hbefore, List.append_assoc, compare_append_left, List.singleton_append,
      List.compare_cons_cons, hgrown]
    rfl

end

theorem placesRun (hnumeric : c.numeric = true) {before run after : Text}
    (h : Text.RunBetween before run after) : c.PlacesRun before run after where
  smaller run' after' h' hlt := by
    refine compare_runs hnumeric h h' ?_
    rw [Nat.compare_eq_lt.mpr hlt]
    rfl
  shorter run' after' h' heq hlt := by
    refine compare_runs hnumeric h h' ?_
    rw [heq, Std.compare_self, Nat.compare_eq_lt.mpr hlt]
    rfl
  beforeWords rest hweight := compare_run_words hnumeric h hweight

/-- An Arabic two with a leading zero, against ten, against a two with one more zero, and against a
word that joins the one before the number. -/
theorem placesRun_arabic_two :
    ∃ c : Collator, c.numeric = true ∧
      Text.RunBetween "item".toList "٠٢".toList ".txt".toList ∧
        c.PlacesRun "item".toList "٠٢".toList ".txt".toList ∧
        c.compare "item٠٢.txt".toList "item10".toList = .lt ∧
        c.compare "item٠٢.txt".toList "item002".toList = .lt ∧
        c.compare "item٠٢.txt".toList "items".toList = .lt := by
  have hrun : Text.RunBetween "item".toList "٠٢".toList ".txt".toList := by decide
  have hten : Text.RunBetween "item".toList "10".toList [] := by decide
  have htwo : Text.RunBetween "item".toList "002".toList [] := by decide
  have hplace := placesRun (c := {}) rfl hrun
  exact ⟨{}, rfl, hrun, hplace, hplace.smaller _ _ hten (by decide),
    hplace.shorter _ _ htwo (by decide) (by decide),
    hplace.beforeWords "s".toList ⟨'s', by decide, by decide⟩⟩

end Collator

end LinePipe
