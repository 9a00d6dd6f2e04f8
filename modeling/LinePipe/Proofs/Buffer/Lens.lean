import LinePipe.Proofs.Buffer.Replacing
import Mathlib.Data.List.DropRight

/-!
# Reading and writing a region

A region of a buffer is read and written between the same two bounds. So what was read can be put
back without a change, what was written is read again, and a later writing leaves no trace of an
earlier one. The bounds depend on how many lines there are, which writing changes; but a region with
a last line finds its bounds again if as many lines are written as were there, and one that reaches
to the end finds them again whatever is written, unless nothing is left where it starts.

## Main definitions

- `LineRegion.Admits`: lines that a region takes in again once they stand in its place
- `TextBuffer.KeepsAround`: a buffer is another but for the lines between some bounds
- `TextBuffer.ObeysLensLaws`: the laws of reading and writing a region

## Main statements

- `LineRegion.clamp_of_admits`: the bounds of a region after lines were written
- `TextBuffer.splice_splice`: a later writing leaves no trace of an earlier one
- `TextBuffer.obeysLensLaws`: reading and writing any region of any buffer obey the laws
-/

namespace LinePipe

namespace LineRegion

/-- Lines that a region takes in again once they stand between its bounds: as many as stood there,
or, if nothing is ever behind the region, any lines at all that leave it where it starts. -/
def Admits (r : LineRegion) (start stop : Nat) (lines : List Text) : Prop :=
  lines.length = stop - start ∨ r.last = none ∧ (lines ≠ [] ∨ start = 0)

/-- A region that takes in the lines again ends behind the last of them. -/
theorem clamp_of_admits {r : LineRegion} {count start stop : Nat} {lines : List Text}
    (h : r.clamp count = .ok (start, stop)) (hlines : r.Admits start stop lines) :
    r.clamp (start + lines.length + (count - stop)) = .ok (start, start + lines.length) := by
  obtain ⟨hle, hstop⟩ := le_of_clamp_eq_ok h
  obtain hlength | ⟨hopen, hsome⟩ := hlines
  · -- There are as many lines as before, so the bounds are the same.
    have hcount : start + lines.length + (count - stop) = count := by omega
    have hend : start + lines.length = stop := by omega
    rw [hcount, hend, h]
  · obtain ⟨-, rfl, rfl⟩ := clamp_eq_ok_iff.mp h
    have hreaches (n : Nat) : r.stopIn n = n := by
      rw [stopIn, hopen]
      rfl
    rw [hreaches, Nat.sub_self, Nat.add_zero, clamp_eq_ok_iff, hreaches]
    refine ⟨?_, rfl, rfl⟩
    obtain hne | hfirst := hsome
    · have hpos := List.length_pos_iff.mpr hne
      omega
    · omega

end LineRegion

namespace TextBuffer

variable {b : TextBuffer} {r : LineRegion} {start stop : Nat}

theorem result_replace_of_clamp (h : r.clamp b.lines.length = .ok (start, stop))
    (lines : List Text) : (b.replace r lines).result = .ok (b.splice start stop lines) := by
  simp only [replace, h, Outcome.result_bind, Outcome.result_ofExcept, Outcome.result_log,
    Outcome.result_pure, Except.bind]

/-- Reading and writing fail alike, because the region has no bounds. -/
theorem linesIn_eq_error_iff {e : RegionError} :
    b.linesIn r = .error e ↔ r.clamp b.lines.length = .error e := by
  rw [linesIn]
  cases r.clamp b.lines.length <;> simp [Except.map]

theorem result_replace_eq_error_iff {e : RegionError} {lines : List Text} :
    (b.replace r lines).result = .error e ↔ r.clamp b.lines.length = .error e := by
  cases h : r.clamp b.lines.length with
  | error e' => simp [replace, h, Except.bind]
  | ok range => simp [result_replace_of_clamp h]

/-! ## Lines between bounds -/

section

variable (lines : List Text)

theorem length_take_of_le (hle : start ≤ stop) (hstop : stop ≤ b.lines.length) :
    (b.lines.take start).length = start :=
  List.length_take_of_le (hle.trans hstop)

theorem length_splice (hle : start ≤ stop) (hstop : stop ≤ b.lines.length) :
    (b.splice start stop lines).lines.length =
      start + lines.length + (b.lines.length - stop) := by
  rw [splice, List.length_append, List.length_append, length_take_of_le hle hstop,
    List.length_drop]

theorem take_splice (hle : start ≤ stop) (hstop : stop ≤ b.lines.length) :
    (b.splice start stop lines).lines.take start = b.lines.take start := by
  rw [splice, List.append_assoc]
  exact List.take_left' (length_take_of_le hle hstop)

theorem drop_splice (hle : start ≤ stop) (hstop : stop ≤ b.lines.length) :
    (b.splice start stop lines).lines.drop (start + lines.length) = b.lines.drop stop := by
  refine List.drop_left' ?_
  rw [List.length_append, length_take_of_le hle hstop]

/-- The lines that were written stand between the bounds. -/
theorem lines_splice_between (hle : start ≤ stop) (hstop : stop ≤ b.lines.length) :
    ((b.splice start stop lines).lines.take (start + lines.length)).drop start = lines := by
  have hlength := length_take_of_le hle hstop
  have htake : (b.splice start stop lines).lines.take (start + lines.length) =
      b.lines.take start ++ lines := by
    refine List.take_left' ?_
    rw [List.length_append, hlength]
  rw [htake, List.drop_left' hlength]

/-- What was written between bounds is gone when other lines are written there. -/
theorem splice_splice (hle : start ≤ stop) (hstop : stop ≤ b.lines.length) (later : List Text) :
    (b.splice start stop lines).splice start (start + lines.length) later =
      b.splice start stop later := by
  rw [splice, take_splice lines hle hstop, drop_splice lines hle hstop]
  rfl

theorem splice_self (hle : start ≤ stop) :
    b.splice start stop ((b.lines.take stop).drop start) = b := by
  rw [splice, lines_split b hle]

/-- A buffer is another but for the lines between some bounds: the lines before and behind them are
the same, and so are the line break and what follows the last line. -/
structure KeepsAround (b : TextBuffer) (start stop : Nat) (edited : TextBuffer) : Prop where
  before : edited.lines.take start = b.lines.take start
  behind : edited.lines.rtake (b.lines.length - stop) = b.lines.rtake (b.lines.length - stop)
  newline : edited.newline = b.newline
  finalNewline : edited.finalNewline = b.finalNewline

theorem keepsAround_splice (hle : start ≤ stop) (hstop : stop ≤ b.lines.length) :
    b.KeepsAround start stop (b.splice start stop lines) where
  before := take_splice lines hle hstop
  behind := by
    have hold : b.lines.length - (b.lines.length - stop) = stop := by omega
    rw [List.rtake, List.rtake, length_splice lines hle hstop, Nat.add_sub_cancel, hold,
      drop_splice lines hle hstop]
  newline := rfl
  finalNewline := rfl

end

/-! ## The laws -/

/-- The laws of reading and writing a region of a buffer. -/
structure ObeysLensLaws (b : TextBuffer) (r : LineRegion) : Prop where
  /-- Reading fails if the region starts behind the lines, but not for the first line of none. -/
  fails_iff : ∀ e, b.linesIn r = .error e ↔
    (b.lines.length ≤ r.first ∧ ¬ (r.first = 0 ∧ b.lines.length = 0)) ∧
      e = .pastLastLine (r.first + 1) b.lines.length
  /-- Writing fails as reading does. -/
  fails_alike : ∀ lines e, (b.replace r lines).result = .error e ↔ b.linesIn r = .error e
  /-- Lines that were read are put back without a change. -/
  restores : ∀ lines, b.linesIn r = .ok lines → (b.replace r lines).result = .ok b
  /-- Only lines of the region are written over. -/
  keeps : ∀ start stop, r.clamp b.lines.length = .ok (start, stop) → ∀ lines,
    ∃ edited, (b.replace r lines).result = .ok edited ∧ b.KeepsAround start stop edited
  /-- Lines that the region admits are read again, and a later writing leaves no trace of them. -/
  rereads : ∀ start stop, r.clamp b.lines.length = .ok (start, stop) →
    ∀ lines, r.Admits start stop lines →
      ∃ edited, (b.replace r lines).result = .ok edited ∧ edited.linesIn r = .ok lines ∧
        ∀ later, (edited.replace r later).result = (b.replace r later).result

theorem obeysLensLaws (b : TextBuffer) (r : LineRegion) : b.ObeysLensLaws r where
  fails_iff _ := linesIn_eq_error_iff.trans LineRegion.clamp_eq_error_iff
  fails_alike _ _ := result_replace_eq_error_iff.trans linesIn_eq_error_iff.symm
  restores lines h := by
    obtain ⟨⟨start, stop⟩, hclamp, rfl⟩ := except_map_eq_ok_iff.mp h
    obtain ⟨hle, -⟩ := LineRegion.le_of_clamp_eq_ok hclamp
    rw [result_replace_of_clamp hclamp, splice_self hle]
  keeps start stop hclamp lines := by
    obtain ⟨hle, hstop⟩ := LineRegion.le_of_clamp_eq_ok hclamp
    exact ⟨_, result_replace_of_clamp hclamp lines, keepsAround_splice lines hle hstop⟩
  rereads start stop hclamp lines hlines := by
    obtain ⟨hle, hstop⟩ := LineRegion.le_of_clamp_eq_ok hclamp
    have hbounds := LineRegion.clamp_of_admits hclamp hlines
    rw [← length_splice lines hle hstop] at hbounds
    refine ⟨_, result_replace_of_clamp hclamp lines, ?_, fun later => ?_⟩
    · rw [linesIn_of_clamp hbounds, lines_splice_between lines hle hstop]
    · rw [result_replace_of_clamp hbounds, splice_splice lines hle hstop,
        result_replace_of_clamp hclamp]

end TextBuffer

end LinePipe
