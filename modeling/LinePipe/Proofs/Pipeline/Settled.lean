import LinePipe.Proofs.Pipeline.NormalForm
import Mathlib.Data.List.Perm.Subperm

/-!
# Lines that a pipeline leaves alone

A pipeline of built-in commands takes lines away and rearranges the rest. What it leaves has nothing
left to drop and stands in order already. So the pipeline changes nothing when it runs again on its
own output, or on a part of it.

## Main definitions

- `Pipeline.Settled`: lines are as a pipeline leaves them

## Main statements

- `Pipeline.normalForm_subperm`: no line comes to stand more often than before
- `Pipeline.settled_normalForm`: the output of a pipeline is settled
- `Pipeline.normalForm_eq_self_iff`: a pipeline leaves settled lines alone, and no others
-/

namespace LinePipe.Pipeline

variable (p : Pipeline) (c : Collator)

/-- The pipeline has nothing to drop from lines, and they stand in the order of its last sort. -/
structure Settled (lines : List Text) : Prop where
  distinct : p.dropsRepeats = true → lines.Nodup
  ordered : ∀ descending ∈ p.lastDirection?,
    lines.Pairwise fun a b => c.precedes descending a b

/-- A pipeline drops lines and rearranges the others. -/
theorem normalForm_subperm (lines : List Text) : (p.normalForm c lines).Subperm lines := by
  have hkept : (if p.dropsRepeats then lines.eraseDups else lines).Sublist lines := by
    split
    · exact eraseDups_sublist lines
    · exact List.Sublist.refl lines
  rw [normalForm]
  cases p.lastDirection? with
  | none => exact hkept.subperm
  | some descending => exact (c.sort_perm descending _).subperm.trans hkept.subperm

theorem settled_normalForm (lines : List Text) : p.Settled c (p.normalForm c lines) := by
  constructor
  · intro hdrops
    rw [normalForm, hdrops, if_pos rfl]
    cases p.lastDirection? with
    | none => exact nodup_eraseDups lines
    | some descending =>
      exact (c.sort_perm descending _).nodup_iff.mpr (nodup_eraseDups lines)
  · intro descending hlast
    rw [normalForm, Option.mem_def.mp hlast]
    exact c.pairwise_sort descending _

/-- There is nothing to do with a single line. -/
theorem settled_singleton (line : Text) : p.Settled c [line] where
  distinct _ := List.pairwise_singleton _ line
  ordered _ _ := List.pairwise_singleton _ line

variable {p c}

/-- A part of settled lines is settled. -/
theorem Settled.sublist {lines part : List Text} (h : p.Settled c lines)
    (hpart : part.Sublist lines) : p.Settled c part where
  distinct hdrops := hpart.nodup (h.distinct hdrops)
  ordered descending hlast := (h.ordered descending hlast).sublist hpart

theorem Settled.normalForm_eq {lines : List Text} (h : p.Settled c lines) :
    p.normalForm c lines = lines := by
  have hkept : (if p.dropsRepeats then lines.eraseDups else lines) = lines := by
    split
    · rename_i hdrops
      exact eraseDups_of_nodup (h.distinct hdrops)
    · rfl
  rw [normalForm, hkept]
  cases hlast : p.lastDirection? with
  | none => rfl
  | some descending =>
    exact (c.eq_sort descending (List.Perm.refl lines) (h.ordered descending hlast)).symm

/-- A pipeline changes nothing in lines just if they are settled. -/
theorem normalForm_eq_self_iff {lines : List Text} :
    p.normalForm c lines = lines ↔ p.Settled c lines := by
  constructor
  · intro h
    rw [← h]
    exact p.settled_normalForm c lines
  · exact Settled.normalForm_eq

end LinePipe.Pipeline
