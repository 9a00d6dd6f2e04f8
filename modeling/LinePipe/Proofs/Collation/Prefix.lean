import LinePipe.Proofs.Collation.Runs
import LinePipe.Proofs.Text.SwapCase

/-!
# Lines that go on where another ends

What is put behind a line lengthens its last run or starts new ones. More digits write a greater
number, or the same one at greater length; more words compare later, unless they are null characters
only. Those leave the chunks as they are, and then the line with cases exchanged decides, which they
lengthen too. So a line always comes before the lines that go on where it ends.

## Main definitions

- `Collator.PutsPrefixesFirst`: a line comes before those that go on where it ends

## Main statements

- `Chunk.compare_numberChunk_append`, `Chunk.compare_words_append`: a run that is lengthened
- `Collator.compare_chunks_append`: the chunks of a line that is lengthened
- `Collator.putsPrefixesFirst`: the order puts prefixes first
-/

namespace LinePipe

/-- Digits behind a number multiply it and add the number that they write. -/
theorem Text.decimalValue_append (run more : Text) :
    decimalValue (run ++ more) = decimalValue run * 10 ^ more.length + decimalValue more := by
  rw [decimalValue, List.foldl_append]
  exact foldl_digitValue more (decimalValue run)

theorem Text.decimalValue_le_append (run more : Text) :
    decimalValue run ≤ decimalValue (run ++ more) := by
  rw [decimalValue_append]
  exact Nat.le_add_right_of_le (Nat.le_mul_of_pos_right _ (Nat.pow_pos (by decide)))

/-- Digits put behind a run make it greater, or longer. -/
theorem Chunk.compare_numberChunk_append (run : Text) {more : Text} (h : more ≠ []) :
    compare (numberChunk run) (numberChunk (run ++ more)) = .lt := by
  have hlonger : run.length < (run ++ more).length := by
    have hpos := List.length_pos_iff.mpr h
    rw [List.length_append]
    omega
  rw [Chunk.compare_numberChunk]
  obtain hlt | heq := Nat.lt_or_eq_of_le (Text.decimalValue_le_append run more)
  · rw [Nat.compare_eq_lt.mpr hlt]
    rfl
  · rw [← heq, Std.compare_self, Nat.compare_eq_lt.mpr hlonger]
    rfl

/-- Null characters have no weight. -/
theorem foldedWords_of_null {run : Text} (h : ∀ x ∈ run, x = '\x00') : foldedWords run = [] := by
  induction run with
  | nil => rfl
  | cons x rest ih =>
    have hnull : foldedWords ['\x00'] = [] := by decide
    rw [← List.singleton_append, foldedWords_append, h x List.mem_cons_self, hnull,
      ih fun y hy => h y (List.mem_cons_of_mem x hy)]
    rfl

/-- Characters put behind words make them later, unless they have no weight. -/
theorem Chunk.compare_words_append (run more : Text) :
    compare (Chunk.words (foldedWords run)) (.words (foldedWords (run ++ more))) = .lt ∨
      foldedWords (run ++ more) = foldedWords run ∧ ∀ x ∈ more, x = '\x00' := by
  by_cases hnull : ∀ x ∈ more, x = '\x00'
  · refine .inr ⟨?_, hnull⟩
    rw [foldedWords_append, foldedWords_of_null hnull, List.append_nil]
  · refine .inl ?_
    rw [foldedWords_append]
    refine compare_append_self (foldedWords_ne_nil ?_)
    simpa using hnull

/-- A run that is lengthened by characters of its class compares later, unless these have no
weight. -/
theorem compare_chunkOfRun_append {run more : Text} {decimal : Bool} (hne : run ≠ [])
    (hrun : ∀ x ∈ run, Text.isDecimal x = decimal)
    (hmore : ∀ x ∈ more, Text.isDecimal x = decimal) :
    compare (chunkOfRun run) (chunkOfRun (run ++ more)) = .lt ∨
      chunkOfRun (run ++ more) = chunkOfRun run ∧ ∀ x ∈ more, x = '\x00' := by
  by_cases hnil : more = []
  · subst hnil
    rw [List.append_nil]
    exact .inr ⟨rfl, List.forall_mem_nil _⟩
  have hjoined : ∀ x ∈ run ++ more, Text.isDecimal x = decimal := by
    intro x hx
    exact (List.mem_append.mp hx).elim (hrun x) (hmore x)
  have hne' : run ++ more ≠ [] := List.append_ne_nil_of_left_ne_nil hne more
  cases decimal with
  | true =>
    refine .inl ?_
    rw [chunkOfRun_of_digits hne hrun, chunkOfRun_of_digits hne' hjoined]
    exact Chunk.compare_numberChunk_append run hnil
  | false =>
    rw [chunkOfRun_of_words hne hrun, chunkOfRun_of_words hne' hjoined, Chunk.words.injEq]
    exact Chunk.compare_words_append run more

namespace Collator

variable (c : Collator)

theorem chunks_ne_nil {line : Text} (h : line ≠ []) : c.chunks line ≠ [] := by
  obtain ⟨x, rest, rfl⟩ := List.exists_cons_of_ne_nil h
  rw [chunks]
  split
  · obtain ⟨run, runs, hruns, -⟩ := digitRuns_cons_of_same (Eq.refl (Text.isDecimal x)) rest
    rw [hruns]
    exact List.cons_ne_nil _ _
  · exact List.cons_ne_nil _ _

/-- The last run of a line and the characters of its class that are put behind it decide how the
chunks compare; if they do not, the runs after them do. -/
theorem compare_chunks_runs (hnumeric : c.numeric = true) {front run more back : Text}
    {decimal : Bool} (hne : run ≠ []) (hrun : ∀ x ∈ run, Text.isDecimal x = decimal)
    (hmore : ∀ x ∈ more, Text.isDecimal x = decimal)
    (hfront : ∀ x ∈ front.getLast?, Text.isDecimal x ≠ decimal)
    (hback : ∀ x ∈ back.head?, Text.isDecimal x ≠ decimal) :
    Ord.compare (c.chunks (front ++ run)) (c.chunks (front ++ run ++ (more ++ back))) =
      (Ord.compare (chunkOfRun run) (chunkOfRun (run ++ more))).then
        (Ord.compare [] (c.chunks back)) := by
  have hjoined : ∀ x ∈ run ++ more, Text.isDecimal x = decimal := by
    intro x hx
    exact (List.mem_append.mp hx).elim (hrun x) (hmore x)
  have hline : c.chunks (front ++ run) = c.chunks front ++ [chunkOfRun run] := by
    rw [← chunks_of_uniform hnumeric hne hrun]
    exact chunks_append hnumeric (apart_before_run hfront hrun)
  have hne' : run ++ more ≠ [] := List.append_ne_nil_of_left_ne_nil hne more
  have hlonger : c.chunks (front ++ run ++ (more ++ back)) =
      c.chunks front ++ chunkOfRun (run ++ more) :: c.chunks back := by
    rw [List.append_assoc, ← List.append_assoc run, ← List.append_assoc front,
      chunks_around hnumeric hne' hjoined hfront hback, chunks_of_uniform hnumeric hne' hjoined,
      List.singleton_append]
  rw [hline, hlonger, compare_append_left, List.compare_cons_cons]

/-- What is put behind a line makes its chunks compare later, unless it is null characters only and
leaves them as they are. -/
theorem compare_chunks_append (line : Text) {rest : Text} (h : rest ≠ []) :
    Ord.compare (c.chunks line) (c.chunks (line ++ rest)) = .lt ∨
      c.chunks line = c.chunks (line ++ rest) ∧ ∀ x ∈ rest, x = '\x00' := by
  by_cases hnumeric : c.numeric = true
  · by_cases hnil : line = []
    · subst hnil
      refine .inl ?_
      rw [List.nil_append, chunks, if_pos hnumeric]
      exact compare_append_self (c.chunks_ne_nil h)
    · obtain ⟨front, run, hcut, hfront, hrun⟩ :=
        exists_run_at_end (Text.isDecimal (line.getLast hnil)) line
      obtain ⟨back, hrest, hback, hmore⟩ :=
        exists_run_at_start (Text.isDecimal (line.getLast hnil)) rest
      generalize rest.takeWhile _ = more at hrest hmore
      -- The last character of the line belongs to its last run.
      have hne : run ≠ [] := by
        rintro rfl
        rw [List.append_nil] at hcut
        exact hfront _ (hcut ▸ List.getLast?_eq_some_getLast hnil) rfl
      generalize Text.isDecimal (line.getLast hnil) = decimal at hfront hrun hback hmore
      subst hcut hrest
      have hruns := c.compare_chunks_runs hnumeric hne hrun hmore hfront hback
      obtain hlater | ⟨hsame, hnull⟩ := compare_chunkOfRun_append hne hrun hmore
      · refine .inl ?_
        rw [hruns, hlater]
        rfl
      · rw [hsame, Std.compare_self, Ordering.eq_then] at hruns
        by_cases hlast : back = []
        · subst hlast
          rw [chunks_nil hnumeric] at hruns
          refine .inr ⟨Std.compare_eq_iff_eq.mp hruns, ?_⟩
          rwa [List.append_nil]
        · refine .inl ?_
          rw [hruns]
          exact compare_append_self (c.chunks_ne_nil hlast)
  · have hchunks (t : Text) : c.chunks t = [.words (foldedWords t)] := by
      rw [chunks, if_neg hnumeric]
    rw [hchunks, hchunks]
    obtain hlater | ⟨hsame, hnull⟩ := Chunk.compare_words_append line rest
    · refine .inl ?_
      rw [List.compare_cons_cons, hlater]
      rfl
    · rw [hsame]
      exact .inr ⟨rfl, hnull⟩

/-- Null characters put behind a line lengthen it with cases exchanged, and change nothing before:
they hide no letter from a sigma at the end of the line. -/
theorem compare_swapCase_append (line : Text) {rest : Text} (h : rest ≠ [])
    (hnull : ∀ x ∈ rest, x = '\x00') :
    Ord.compare (Text.swapCase line) (Text.swapCase (line ++ rest)) = .lt := by
  obtain ⟨x, rest, rfl⟩ := List.exists_cons_of_ne_nil h
  rw [hnull x List.mem_cons_self]
  have hmeets : Text.meetsCased [] = Text.meetsCased ('\x00' :: rest) := by
    have hclasses : Text.caseIgnorables.holds '\x00' = false ∧
        Text.casedLetters.holds '\x00' = false := by decide
    rw [Text.meetsCased_cons, hclasses.1, hclasses.2]
    rfl
  obtain ⟨front, hline, hlonger⟩ :=
    Text.exists_mapWithSigma_append Text.swapChar [] line hmeets
  have hswap : Text.swapChar '\x00' = ['\x00'] := by decide
  rw [List.append_nil, Text.mapWithSigma, List.append_nil] at hline
  rw [Text.mapWithSigma, if_neg (by decide), hswap, List.singleton_append] at hlonger
  rw [Text.swapCase, Text.swapCase, hline, hlonger]
  exact compare_append_self (List.cons_ne_nil _ _)

theorem compare_append (line : Text) {rest : Text} (h : rest ≠ []) :
    c.compare line (line ++ rest) = .lt := by
  obtain hlater | ⟨hsame, hnull⟩ := c.compare_chunks_append line h
  · exact compare_of_chunks hlater
  · rw [compare_of_chunks_eq hsame, compare_swapCase_append line h hnull]
    rfl

/-- A line comes before all lines that go on where it ends, so the empty line comes before all
others. -/
structure PutsPrefixesFirst : Prop where
  before : ∀ line rest, rest ≠ [] → c.compare line (line ++ rest) = .lt
  least : ∀ line, line ≠ [] → c.compare [] line = .lt

theorem putsPrefixesFirst : c.PutsPrefixesFirst where
  before line _ h := c.compare_append line h
  least _ h := c.compare_append [] h

end Collator

end LinePipe
