import LinePipe.Collation.Key

/-!
# The order of lines

Lines compare by their keys, and keys by their parts in turn. Each part is ordered totally, so the
keys are, and since the last part is the line itself two lines tie only if they are the same.

## Main statements

- `Chunk.order` and `SortKey.order` are transitive and tie only equal values
- `Collator.compare_eq_iff`: lines that tie are equal
- `Collator.precedes_trans`, `Collator.precedes_total`, `Collator.precedes_antisymm`: either
  direction of sorting follows a linear order
-/

namespace LinePipe

open Std

namespace Chunk

/-- Numbers come before words. -/
def rank : Chunk → Nat
  | number _ _ => 0
  | words _ => 1

/-- How many digits count in a number; words have no such size. -/
def size : Chunk → Nat
  | number s _ => s.length
  | words _ => 0

/-- The characters that are compared. -/
def content : Chunk → Text
  | number s _ => s
  | words k => k

/-- How many digits a number is written with; words have no such width. -/
def width : Chunk → Nat
  | number _ w => w
  | words _ => 0

/-- Chunks compare by rank, then by size, then by content, then by width. -/
theorem order_eq_compareLex :
    order = compareLex (compareOn rank)
      (compareLex (compareOn size) (compareLex (compareOn content) (compareOn width))) := by
  funext a b
  cases a with
  | number s w =>
    cases b with
    | number s' w' => simp [order, compareLex, compareOn, rank, size, content, width]
    | words k => rfl
  | words k =>
    cases b with
    | number s w => rfl
    | words k' => simp [order, compareLex, compareOn, rank, size, content, width]

instance : TransCmp order := by
  rw [order_eq_compareLex]
  infer_instance

instance : TransOrd Chunk :=
  inferInstanceAs (TransCmp order)

instance : LawfulEqOrd Chunk where
  eq_of_compare {a b} h := by
    have hparts : compareLex (compareOn rank) (compareLex (compareOn size)
        (compareLex (compareOn content) (compareOn width))) a b = .eq := by
      rw [← order_eq_compareLex]
      exact h
    simp only [compareLex_eq_eq, compareOn, Std.compare_eq_iff_eq] at hparts
    obtain ⟨hrank, -, hcontent, hwidth⟩ := hparts
    cases a <;> cases b <;> simp_all [rank, content, width]

end Chunk

namespace SortKey

/-- Keys compare by their chunks, then with cases exchanged, then by the line. -/
theorem order_eq_compareLex :
    order = compareLex (compareOn chunks) (compareLex (compareOn swapped) (compareOn text)) :=
  rfl

instance : TransCmp order := by
  rw [order_eq_compareLex]
  infer_instance

instance : TransOrd SortKey :=
  inferInstanceAs (TransCmp order)

instance : LawfulEqOrd SortKey where
  eq_of_compare {a b} h := by
    have hparts : compareLex (compareOn chunks)
        (compareLex (compareOn swapped) (compareOn text)) a b = .eq := h
    simp only [compareLex_eq_eq, compareOn, Std.compare_eq_iff_eq] at hparts
    obtain ⟨hchunks, hswapped, htext⟩ := hparts
    cases a
    cases b
    simp_all

end SortKey

namespace Collator

variable (c : Collator)

/-- Lines compare as their keys do. -/
theorem compare_eq_compareOn : c.compare = compareOn c.sortKey :=
  rfl

instance : TransCmp c.compare := by
  rw [compare_eq_compareOn]
  infer_instance

/-- Different lines never tie. -/
theorem compare_eq_iff {a b : Text} : c.compare a b = .eq ↔ a = b := by
  rw [Collator.compare, Std.compare_eq_iff_eq]
  constructor
  · intro h
    exact congrArg SortKey.text h
  · rintro rfl
    rfl

/-- No line comes before the empty line. -/
theorem isLE_compare_nil (line : Text) : (c.compare [] line).isLE := by
  have hleast {α : Type} [Ord α] (l : List α) : (Ord.compare [] l).isLE := by
    cases l <;> rfl
  have hchunks : (Ord.compare (c.chunks []) (c.chunks line)).isLE := by
    rw [chunks, chunks]
    split
    · exact hleast _
    · rw [List.compare_cons_cons, List.compare_nil_nil, Ordering.then_eq]
      exact hleast (foldedWords line)
  exact Ordering.isLE_then_iff_and.mpr ⟨hchunks, .inr <|
    Ordering.isLE_then_iff_and.mpr ⟨hleast _, .inr (hleast _)⟩⟩

/-- Whether one line may stand before another in a direction of sorting. -/
def precedes (descending : Bool) (a b : Text) : Bool :=
  if descending then (c.compare b a).isLE else (c.compare a b).isLE

theorem precedes_trans (descending : Bool) (x y z : Text) (hxy : c.precedes descending x y)
    (hyz : c.precedes descending y z) : c.precedes descending x z := by
  cases descending with
  | false => exact TransCmp.isLE_trans hxy hyz
  | true => exact TransCmp.isLE_trans hyz hxy

theorem precedes_total (descending : Bool) (x y : Text) :
    c.precedes descending x y || c.precedes descending y x := by
  have hswap : c.compare x y = (c.compare y x).swap := OrientedOrd.eq_swap
  unfold precedes
  rw [hswap]
  cases descending <;> cases c.compare y x <;> rfl

theorem precedes_antisymm (descending : Bool) {x y : Text} (hxy : c.precedes descending x y)
    (hyx : c.precedes descending y x) : x = y := by
  have hle : (c.compare x y).isLE ∧ (c.compare y x).isLE := by
    cases descending with
    | false => exact ⟨hxy, hyx⟩
    | true => exact ⟨hyx, hxy⟩
  exact c.compare_eq_iff.mp (OrientedCmp.isLE_antisymm hle.1 hle.2)

end Collator

end LinePipe
