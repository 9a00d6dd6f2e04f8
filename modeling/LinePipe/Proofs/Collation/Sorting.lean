import LinePipe.Pipeline.Stage
import LinePipe.Proofs.Collation.Order
import LinePipe.Proofs.Distinct
import Mathlib.Data.List.Basic

/-!
# Sorting is canonical

Sorting arranges lines in the order of a direction, and there is only one such arrangement. So the
result does not depend on how the lines were arranged before; in particular an earlier sort leaves
no trace in a later one, and dropping repeated lines can be done before or after sorting.

## Main statements

- `Collator.eq_sort`: the sorted list is the only ordered arrangement of the lines
- `Collator.sort_sort`: a later sort erases an earlier one
- `Collator.sort_descending`: sorting downwards reverses sorting upwards
- `Collator.eraseDups_sort`: sorting and dropping repeated lines commute
- `Collator.getLast?_sort_descending_iff`: sorting downwards puts an empty line last
- `Collator.sortsCanonically`: the order is linear, and the sort stage arranges lines in it
-/

namespace LinePipe.Collator

open Std

variable (c : Collator) (descending : Bool)

/-- Sorting by keys is sorting the lines themselves by the order of their keys. -/
theorem sort_eq_mergeSort (lines : List Text) :
    c.sort descending lines = lines.mergeSort (c.precedes descending) := by
  have hkeys : (lines.mergeSort (c.precedes descending)).map c.sortKey =
      (lines.map c.sortKey).mergeSort fun a b =>
        if descending then (Ord.compare b a).isLE else (Ord.compare a b).isLE :=
    List.map_mergeSort fun _ _ _ _ => rfl
  calc c.sort descending lines
      = ((lines.mergeSort (c.precedes descending)).map c.sortKey).map SortKey.text := by
        rw [hkeys]
        rfl
    _ = lines.mergeSort (c.precedes descending) := by
        rw [List.map_map]
        exact List.map_id _

/-- Sorting loses no line and adds none. -/
theorem sort_perm (lines : List Text) : (c.sort descending lines).Perm lines := by
  rw [sort_eq_mergeSort]
  exact List.mergeSort_perm lines _

/-- Sorted lines stand in the order of the direction. -/
theorem pairwise_sort (lines : List Text) :
    (c.sort descending lines).Pairwise fun a b => c.precedes descending a b := by
  rw [sort_eq_mergeSort]
  exact List.pairwise_mergeSort (c.precedes_trans descending)
    (c.precedes_total descending) lines

/-- An arrangement of the lines in the order of the direction is the sorted list. -/
theorem eq_sort {lines arranged : List Text} (hperm : arranged.Perm lines)
    (hordered : arranged.Pairwise fun a b => c.precedes descending a b) :
    arranged = c.sort descending lines :=
  List.Perm.eq_of_pairwise (fun _ _ _ _ => c.precedes_antisymm descending) hordered
    (c.pairwise_sort descending lines) (hperm.trans (c.sort_perm descending lines).symm)

/-- Sorting forgets how the lines were arranged. -/
theorem sort_eq_of_perm {lines lines' : List Text} (h : lines.Perm lines') :
    c.sort descending lines = c.sort descending lines' :=
  c.eq_sort descending ((c.sort_perm descending lines).trans h) (c.pairwise_sort descending lines)

/-- A later sort erases an earlier one, whatever its direction. -/
theorem sort_sort (earlier : Bool) (lines : List Text) :
    c.sort descending (c.sort earlier lines) = c.sort descending lines :=
  c.sort_eq_of_perm descending (c.sort_perm earlier lines)

/-- Sorting downwards is the reverse of sorting upwards, since no different lines tie. -/
theorem sort_descending (lines : List Text) :
    c.sort true lines = (c.sort false lines).reverse := by
  have hperm : (c.sort false lines).reverse.Perm lines :=
    (List.reverse_perm _).trans (c.sort_perm false lines)
  have hordered : (c.sort false lines).reverse.Pairwise fun a b => c.precedes true a b := by
    rw [List.pairwise_reverse]
    exact c.pairwise_sort false lines
  exact (c.eq_sort true hperm hordered).symm

/-- Repeated lines can be dropped before or after sorting. -/
theorem eraseDups_sort (lines : List Text) :
    (c.sort descending lines).eraseDups = c.sort descending lines.eraseDups := by
  refine c.eq_sort descending (eraseDups_perm (c.sort_perm descending lines)) ?_
  exact (c.pairwise_sort descending lines).sublist (eraseDups_sublist _)

/-- Sorting downwards puts an empty line last. -/
theorem getLast?_sort_descending_iff (lines : List Text) :
    (c.sort true lines).getLast? = some [] ↔ [] ∈ lines := by
  rw [← (c.sort_perm true lines).mem_iff]
  have hordered := c.pairwise_sort true lines
  constructor
  · exact List.mem_of_getLast?
  · intro hmem
    obtain hnil | ⟨front, last, hsort⟩ := (c.sort true lines).eq_nil_or_concat'
    · rw [hnil] at hmem
      cases hmem
    · rw [hsort] at hmem hordered ⊢
      rw [List.getLast?_concat, Option.some.injEq]
      obtain hfront | hlast := List.mem_append.mp hmem
      · have hle :=
          (List.pairwise_append.mp hordered).2.2 [] hfront last (List.mem_singleton_self last)
        exact c.precedes_antisymm true (c.isLE_compare_nil last) hle
      · exact (List.mem_singleton.mp hlast).symm

/-- Sorting upwards puts an empty line last only if all lines are empty. -/
theorem eq_nil_of_getLast?_sort_ascending {lines : List Text}
    (h : (c.sort false lines).getLast? = some []) : ∀ line ∈ lines, line = [] := by
  intro line hline
  have hordered := c.pairwise_sort false lines
  rw [← (c.sort_perm false lines).mem_iff] at hline
  obtain ⟨front, hsort⟩ := List.getLast?_eq_some_iff.mp h
  rw [hsort] at hline hordered
  obtain hfront | hlast := List.mem_append.mp hline
  · have hle :=
      (List.pairwise_append.mp hordered).2.2 line hfront [] (List.mem_singleton_self [])
    exact c.precedes_antisymm false hle (c.isLE_compare_nil line)
  · exact List.mem_singleton.mp hlast

/-- Lines are ordered linearly, and the sort stage arranges them in the one way that fits its
direction. -/
structure SortsCanonically : Prop where
  swap : ∀ a b, c.compare a b = (c.compare b a).swap
  tie : ∀ a b, c.compare a b = .eq ↔ a = b
  lt_trans : ∀ a b d, c.compare a b = .lt → c.compare b d = .lt → c.compare a d = .lt
  le_trans : ∀ a b d, c.compare a b ≠ .gt → c.compare b d ≠ .gt → c.compare a d ≠ .gt
  arranges : ∀ descending lines, ∃ out, ((Stage.sort descending c).run lines).result = .ok out ∧
    out.Perm lines ∧ out.Pairwise fun a b => c.precedes descending a b
  forgets : ∀ descending lines lines', lines.Perm lines' →
    ((Stage.sort descending c).run lines).result = ((Stage.sort descending c).run lines').result
  reverses : ∀ lines, ((Stage.sort true c).run lines).result =
    ((Stage.sort false c).run lines).result.map List.reverse

theorem sortsCanonically : c.SortsCanonically where
  swap _ _ := OrientedCmp.eq_swap
  tie _ _ := c.compare_eq_iff
  lt_trans _ _ _ := TransCmp.lt_trans
  le_trans a b d hab hbd := by
    have hab' := Ordering.isLE_iff_ne_gt.mpr hab
    have hbd' := Ordering.isLE_iff_ne_gt.mpr hbd
    exact Ordering.isLE_iff_ne_gt.mp (TransCmp.isLE_trans hab' hbd')
  arranges descending lines :=
    ⟨c.sort descending lines, rfl, c.sort_perm descending lines, c.pairwise_sort descending lines⟩
  forgets descending _ _ h := congrArg Except.ok (c.sort_eq_of_perm descending h)
  reverses lines := congrArg Except.ok (c.sort_descending lines)

end LinePipe.Collator
