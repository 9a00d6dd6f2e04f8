import LinePipe.Proofs.Collation.Runs
import LinePipe.Proofs.Collation.Sorting
import LinePipe.Proofs.Text.CaseTable

/-!
# Case variants of a line

A line is cut into runs before it is folded. Folding leaves digits alone and makes no others, so the
cuts are those of the folded line, and the chunks of a line can be read off it. Hence lines that are
folded alike have the same chunks, other lines compare with them in the same way, and sorting puts
no line between them that has other chunks.

## Main definitions

- `Chunk.ofFolded`: the chunk of a run of a folded line
- `Text.bare`: a text without case, null characters and scripts of digits
- `Collator.KeepsVariantsTogether`: lines that are folded alike stay together

## Main statements

- `Collator.chunks_eq_map_ofFolded`: chunks are those of the folded line
- `Collator.bare_eq_flatMap_chunks`: what the chunks of a line say of its characters
- `Collator.keepsVariantsTogether`: sorting keeps case variants together
-/

namespace LinePipe

/-! ## Folding and runs -/

theorem Text.foldCase_append (t u : Text) : foldCase (t ++ u) = foldCase t ++ foldCase u :=
  List.flatMap_append

/-- Folding takes a run of digits or of words to one of the same class. -/
theorem Text.isDecimal_of_mem_foldCase {run : Text} {decimal : Bool}
    (h : ∀ x ∈ run, isDecimal x = decimal) : ∀ y ∈ foldCase run, isDecimal y = decimal := by
  intro y hy
  obtain ⟨x, hx, hfold⟩ := List.mem_flatMap.mp hy
  rw [isDecimal_of_mem_foldChar hfold]
  exact h x hx

theorem Text.foldCase_ne_nil {t : Text} (h : t ≠ []) : foldCase t ≠ [] := by
  obtain ⟨x, rest, rfl⟩ := List.exists_cons_of_ne_nil h
  exact List.append_ne_nil_of_left_ne_nil (foldChar_ne_nil x) _

/-- Folding leaves digits as they are. -/
theorem Text.foldCase_of_digits {run : Text} (h : ∀ x ∈ run, isDecimal x) : foldCase run = run := by
  induction run with
  | nil => rfl
  | cons x rest ih =>
    rw [foldCase, List.flatMap_cons, foldChar_of_isDecimal (h x List.mem_cons_self)]
    exact congrArg (x :: ·) (ih fun y hy => h y (List.mem_cons_of_mem x hy))

/-- Where a run ends in a line, one ends in the folded line. -/
theorem Text.isDecimal_of_head?_foldCase {rest : Text} {decimal : Bool}
    (h : ∀ x ∈ rest.head?, isDecimal x ≠ decimal) :
    ∀ y ∈ (foldCase rest).head?, isDecimal y ≠ decimal := by
  cases rest with
  | nil =>
    intro y hy
    cases hy
  | cons x rest =>
    intro y hy
    have hfirst : y ∈ foldChar x := by
      rw [foldCase, List.flatMap_cons, List.head?_append_of_ne_nil _ (foldChar_ne_nil x)] at hy
      exact List.mem_of_head? hy
    rw [isDecimal_of_mem_foldChar hfirst]
    exact h x rfl

/-- The chunk of a run of a folded line. -/
def Chunk.ofFolded (run : Text) : Chunk :=
  if run.any Text.isDecimal then numberChunk run else .words (run.filter (· != '\x00'))

theorem Chunk.ofFolded_foldCase {run : Text} {decimal : Bool} (hne : run ≠ [])
    (h : ∀ x ∈ run, Text.isDecimal x = decimal) :
    Chunk.ofFolded (Text.foldCase run) = chunkOfRun run := by
  cases decimal with
  | true =>
    rw [Text.foldCase_of_digits h, chunkOfRun_of_digits hne h, ofFolded,
      any_isDecimal_of_uniform hne h]
    rfl
  | false =>
    have hany := any_isDecimal_of_uniform (Text.foldCase_ne_nil hne)
      (Text.isDecimal_of_mem_foldCase h)
    rw [chunkOfRun_of_words hne h, ofFolded, hany]
    rfl

namespace Collator

variable (c : Collator)

/-- The runs of a folded line are the folded runs of the line, so the chunks can be read off it. -/
theorem chunks_eq_map_ofFolded (hnumeric : c.numeric = true) (line : Text) :
    c.chunks line = (digitRuns (Text.foldCase line)).map Chunk.ofFolded := by
  induction line using runInduction with
  | nil => exact chunks_nil hnumeric
  | run decimal run rest hne hrun hrest ih =>
    have hcut : c.chunks (run ++ rest) = chunkOfRun run :: c.chunks rest := by
      rw [← List.singleton_append, ← chunks_of_uniform hnumeric hne hrun]
      exact chunks_append hnumeric (apart_behind_run hrun hrest)
    have hrun' := Text.isDecimal_of_mem_foldCase hrun
    have hfolded : digitRuns (Text.foldCase (run ++ rest)) =
        Text.foldCase run :: digitRuns (Text.foldCase rest) := by
      rw [Text.foldCase_append, ← List.singleton_append,
        ← digitRuns_of_uniform (Text.foldCase_ne_nil hne) hrun']
      exact digitRuns_append (apart_behind_run hrun' (Text.isDecimal_of_head?_foldCase hrest))
    rw [hcut, hfolded, List.map_cons, Chunk.ofFolded_foldCase hne hrun, ih]

/-- Lines that are folded alike have the same chunks. -/
theorem chunks_eq_of_foldCase_eq {a b : Text} (h : Text.foldCase a = Text.foldCase b) :
    c.chunks a = c.chunks b := by
  by_cases hnumeric : c.numeric = true
  · rw [c.chunks_eq_map_ofFolded hnumeric, c.chunks_eq_map_ofFolded hnumeric, h]
  · rw [chunks, chunks, if_neg hnumeric, if_neg hnumeric, foldedWords, foldedWords, h]

/-- Lines with different chunks compare as these do. -/
theorem compare_of_chunks_ne {a b : Text} (h : c.chunks a ≠ c.chunks b) :
    c.compare a b = Ord.compare (c.chunks a) (c.chunks b) := by
  have hne : Ord.compare (c.chunks a) (c.chunks b) ≠ .eq := fun heq =>
    h (Std.compare_eq_iff_eq.mp heq)
  rw [compare_eq_then, then_of_ne_eq hne]

/-- A line that stands between two others has chunks between theirs. -/
theorem isLE_compare_chunks {a b : Text} (h : (c.compare a b).isLE) :
    (Ord.compare (c.chunks a) (c.chunks b)).isLE :=
  (Ordering.isLE_then_iff_and.mp h).1

/-- In either direction of sorting, what stands between lines with the same chunks has these
chunks. -/
theorem chunks_eq_of_between {descending : Bool} {a b x : Text} (hab : c.chunks a = c.chunks b)
    (hax : c.precedes descending a x) (hxb : c.precedes descending x b) :
    c.chunks x = c.chunks a := by
  have hle : (Ord.compare (c.chunks a) (c.chunks x)).isLE ∧
      (Ord.compare (c.chunks x) (c.chunks a)).isLE := by
    cases descending with
    | false =>
      refine ⟨c.isLE_compare_chunks hax, ?_⟩
      rw [hab]
      exact c.isLE_compare_chunks hxb
    | true =>
      refine ⟨?_, c.isLE_compare_chunks hax⟩
      rw [hab]
      exact c.isLE_compare_chunks hxb
  exact (Std.compare_eq_iff_eq.mp (Std.OrientedCmp.isLE_antisymm hle.1 hle.2)).symm

end Collator

/-! ## What chunks say of a line -/

/-- A digit as the ASCII digit of the same value, and any other character as it is. -/
def Text.plainDigit (x : Char) : Char :=
  if isDecimal x then asciiDigit x else x

/-- What is left of a text when its case, its null characters and the scripts of its digits are
disregarded. -/
def Text.bare (t : Text) : Text :=
  ((foldCase t).filter (· != '\x00')).map plainDigit

theorem Text.bare_append (t u : Text) : bare (t ++ u) = bare t ++ bare u := by
  rw [bare, foldCase_append, List.filter_append, List.map_append]
  rfl

/-- The characters that a chunk stands for: a number with its leading zeros, or words. -/
def Chunk.spelled : Chunk → Text
  | number significant width => List.replicate (width - significant.length) '0' ++ significant
  | words folded => folded.map Text.plainDigit

/-- The zeros that are dropped can be put back if it is known how many there were. -/
theorem replicate_append_dropWhile (digits : Text) :
    List.replicate (digits.length - (digits.dropWhile (· == '0')).length) '0' ++
      digits.dropWhile (· == '0') = digits := by
  induction digits with
  | nil => rfl
  | cons x rest ih =>
    rw [List.dropWhile_cons]
    by_cases hzero : x = '0'
    · have hle := List.length_dropWhile_le (· == '0') rest
      rw [if_pos (beq_iff_eq.mpr hzero), List.length_cons, Nat.succ_sub hle, List.replicate_succ,
        List.cons_append, ih, hzero]
    · rw [if_neg (by simpa using hzero), Nat.sub_self]
      rfl

theorem Chunk.spelled_numberChunk {run : Text} (h : ∀ x ∈ run, Text.isDecimal x) :
    (numberChunk run).spelled = Text.bare run := by
  have hnull : run.filter (· != '\x00') = run := by
    rw [List.filter_eq_self]
    intro x hx
    have hne : x ≠ '\x00' := by
      rintro rfl
      exact absurd (h _ hx) (by decide)
    simpa using hne
  have hdigits : run.map Text.plainDigit = run.map Text.asciiDigit :=
    List.map_congr_left fun x hx => if_pos (h x hx)
  have hzeros := replicate_append_dropWhile (run.map Text.asciiDigit)
  rw [List.length_map] at hzeros
  rw [Text.bare, Text.foldCase_of_digits h, hnull, hdigits]
  exact hzeros

theorem Chunk.spelled_chunkOfRun {run : Text} {decimal : Bool} (hne : run ≠ [])
    (h : ∀ x ∈ run, Text.isDecimal x = decimal) : (chunkOfRun run).spelled = Text.bare run := by
  cases decimal with
  | true => rw [chunkOfRun_of_digits hne h, Chunk.spelled_numberChunk h]
  | false =>
    rw [chunkOfRun_of_words hne h]
    rfl

namespace Collator

variable (c : Collator)

/-- The chunks of a line tell its characters, but for case, null characters and the scripts of
digits. -/
theorem bare_eq_flatMap_chunks (line : Text) :
    Text.bare line = (c.chunks line).flatMap Chunk.spelled := by
  by_cases hnumeric : c.numeric = true
  · induction line using runInduction with
    | nil =>
      rw [chunks_nil hnumeric]
      rfl
    | run decimal run rest hne hrun hrest ih =>
      rw [Text.bare_append, chunks_append hnumeric (apart_behind_run hrun hrest),
        chunks_of_uniform hnumeric hne hrun, List.flatMap_append, List.flatMap_singleton,
        Chunk.spelled_chunkOfRun hne hrun, ih]
  · rw [chunks, if_neg hnumeric, List.flatMap_singleton]
    rfl

/-- Lines that are folded alike have the same chunks, so any line with other chunks compares with
them in the same way. In a sorted list a line between them has their chunks, and differs from them
in case, null characters and the scripts of digits only. -/
structure KeepsVariantsTogether : Prop where
  sameChunks : ∀ a b, Text.foldCase a = Text.foldCase b →
    (c.sortKey a).chunks = (c.sortKey b).chunks
  sameOrder : ∀ a b d, Text.foldCase a = Text.foldCase b →
    (c.sortKey d).chunks ≠ (c.sortKey a).chunks → c.compare a d = c.compare b d
  together : ∀ descending lines out, ((Stage.sort descending c).run lines).result = .ok out →
    ∀ front middle back a b, out = front ++ a :: middle ++ b :: back →
      Text.foldCase a = Text.foldCase b → ∀ x ∈ middle,
        (c.sortKey x).chunks = (c.sortKey a).chunks ∧ Text.bare x = Text.bare a

theorem keepsVariantsTogether : c.KeepsVariantsTogether where
  sameChunks _ _ h := c.chunks_eq_of_foldCase_eq h
  sameOrder a b d h hne := by
    have hsame := c.chunks_eq_of_foldCase_eq h
    have hne' : c.chunks a ≠ c.chunks d := hne.symm
    rw [c.compare_of_chunks_ne hne', c.compare_of_chunks_ne (hsame ▸ hne'), hsame]
  together descending lines out hout front middle back a b hcut h x hx := by
    cases hout
    have hordered := c.pairwise_sort descending lines
    rw [hcut, List.append_assoc, List.pairwise_append, List.cons_append,
      List.pairwise_cons] at hordered
    obtain ⟨-, ⟨ha, hrest⟩, -⟩ := hordered
    have hax : c.precedes descending a x := ha x (List.mem_append_left _ hx)
    have hxb : c.precedes descending x b :=
      (List.pairwise_append.mp hrest).2.2 x hx b List.mem_cons_self
    have hchunks := c.chunks_eq_of_between (c.chunks_eq_of_foldCase_eq h) hax hxb
    refine ⟨hchunks, ?_⟩
    rw [c.bare_eq_flatMap_chunks x, c.bare_eq_flatMap_chunks a, hchunks]

end Collator

end LinePipe
