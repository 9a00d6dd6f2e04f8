import LinePipe.Proofs.Text.Digit
import Mathlib.Data.List.Sort

/-!
# Stretches of code points in a class

A class of characters is a list of ranges. Whether a whole stretch of code points lies in one of the
ranges, or none of it in any, is found by one pass through the list. For many stretches one pass is
enough as well, if they are taken from low to high.

## Main definitions

- `CharClass.includes`, `CharClass.avoids`: a stretch lies in a range, or in none
- `Sweep`: a test of many items against one list, and `Sweep.passes`, which makes it in one pass
- `Text.decimals`: the decimal digits as a class of characters

## Main statements

- `CharClass.covers_of_includes`, `CharClass.not_covers_of_avoids`: what this says of each code point
- `Sweep.test_of_passes`: what is found in one pass holds of each item
- `Text.isDecimal_eq_holds`: the decimal digits are the characters of that class
-/

namespace LinePipe

namespace CharClass

/-- Whether one range has all code points from `lo` to `hi`. -/
def includes (lo hi : Nat) : CharClass → Bool
  | [] => false
  | (first, last) :: rest =>
    first.ble lo && (hi.ble last || (last.blt lo && includes lo hi rest))

/-- Whether no range has a code point from `lo` to `hi`. -/
def avoids (lo hi : Nat) : CharClass → Bool
  | [] => true
  | (first, last) :: rest => hi.blt first || (last.blt lo && avoids lo hi rest)

variable {ranges : CharClass} {lo hi n : Nat}

theorem of_covers (h : ranges.covers n) :
    ∃ range ∈ ranges, range.1 ≤ n ∧ n ≤ range.2 := by
  induction ranges with
  | nil => cases h
  | cons range rest ih =>
    obtain ⟨first, last⟩ := range
    rw [covers] at h
    split at h
    · cases h
    · split at h
      · exact ⟨_, List.mem_cons_self, by dsimp only; omega, by assumption⟩
      · obtain ⟨range, hmem, hbounds⟩ := ih h
        exact ⟨range, List.mem_cons_of_mem _ hmem, hbounds⟩

theorem covers_of_includes (h : ranges.includes lo hi) (hlo : lo ≤ n) (hhi : n ≤ hi) :
    ranges.covers n = true := by
  induction ranges with
  | nil => cases h
  | cons range rest ih =>
    obtain ⟨first, last⟩ := range
    simp only [includes, Bool.and_eq_true, Bool.or_eq_true, Nat.ble_eq] at h
    obtain ⟨hfirst, hlast | ⟨-, hrest⟩⟩ := h
    · rw [covers, if_neg (by omega), if_pos (by omega)]
    · rw [covers, if_neg (by omega), ih hrest, ite_self]

theorem not_covers_of_avoids (h : ranges.avoids lo hi) (hlo : lo ≤ n) (hhi : n ≤ hi) :
    ranges.covers n = false := by
  induction ranges with
  | nil => rfl
  | cons range rest ih =>
    obtain ⟨first, last⟩ := range
    simp only [avoids, Bool.and_eq_true, Bool.or_eq_true, Nat.blt_eq] at h
    rw [covers]
    obtain hahead | ⟨hbehind, hrest⟩ := h
    · rw [if_pos (by omega)]
    · rw [if_neg (by omega : ¬ n ≤ last), ih hrest, ite_self]

end CharClass

/-! ## Many stretches -/

/-- A test of items against a list of ranges. An item begins at some code point, and ranges behind
that do not keep it from passing. -/
structure Sweep (α β : Type) where
  low : α → Nat
  behind : β → Nat → Bool
  test : α → List β → Bool
  behind_of_le : ∀ range n m, n ≤ m → behind range n → behind range m
  test_cons : ∀ item range ranges, behind range (low item) → test item ranges →
    test item (range :: ranges)

namespace Sweep

variable {α β : Type} (s : Sweep α β)

/-- Whether items pass, one after another. The ranges behind an item are dropped for the items after
it too. -/
def passes : List β → List α → Bool
  | _, [] => true
  | ranges, item :: rest =>
    let ahead := ranges.dropWhile (s.behind · (s.low item))
    s.test item ahead && passes ahead rest

/-- The items from low to high. -/
def ordered (items : List α) : List α :=
  items.insertionSort fun item other => s.low item ≤ s.low other

variable {s}

theorem test_of_dropWhile {item : α} {n : Nat} (hle : n ≤ s.low item) {ranges : List β}
    (h : s.test item (ranges.dropWhile (s.behind · n))) : s.test item ranges := by
  induction ranges with
  | nil => exact h
  | cons range rest ih =>
    rw [List.dropWhile_cons] at h
    by_cases hbehind : s.behind range n
    · rw [if_pos hbehind] at h
      exact s.test_cons item range rest (s.behind_of_le range n _ hle hbehind) (ih h)
    · rwa [if_neg hbehind] at h

theorem test_of_passes_of_pairwise {ranges : List β} {items : List α}
    (hordered : items.Pairwise fun item other => s.low item ≤ s.low other)
    (h : s.passes ranges items) : ∀ item ∈ items, s.test item ranges := by
  induction items generalizing ranges with
  | nil =>
    intro item hitem
    cases hitem
  | cons first rest ih =>
    obtain ⟨hfirst, hrest⟩ := List.pairwise_cons.mp hordered
    obtain ⟨hhere, hlater⟩ := Bool.and_eq_true_iff.mp h
    intro item hitem
    obtain rfl | hmem := List.mem_cons.mp hitem
    · exact test_of_dropWhile le_rfl hhere
    · exact test_of_dropWhile (hfirst item hmem) (ih hrest hlater item hmem)

/-- What is found in one pass holds of each item. -/
theorem test_of_passes {ranges : List β} {items : List α}
    (h : s.passes ranges (s.ordered items)) : ∀ item ∈ items, s.test item ranges := by
  have htotal : Std.Total fun item other : α => s.low item ≤ s.low other :=
    ⟨fun item other => le_total (s.low item) (s.low other)⟩
  have htrans : IsTrans α fun item other => s.low item ≤ s.low other :=
    ⟨fun _ _ _ h₁ h₂ => h₁.trans h₂⟩
  intro item hitem
  refine test_of_passes_of_pairwise (List.pairwise_insertionSort _ items) h item ?_
  exact (List.mem_insertionSort _).mpr hitem

end Sweep

/-- Stretches that no range of a class meets. -/
def CharClass.avoidance : Sweep (Nat × Nat) (Nat × Nat) where
  low stretch := stretch.1
  behind range n := range.2.blt n
  test stretch ranges := avoids stretch.1 stretch.2 ranges
  behind_of_le range n m hle h := by
    rw [Nat.blt_eq] at h ⊢
    omega
  test_cons stretch range ranges hbehind h := by
    rw [avoids, hbehind, h, Bool.true_and, Bool.or_true]

namespace Text

/-- The decimal digits, ten in each range. -/
def decimals : CharClass :=
  decimalZeros.map fun z => (z, z + 9)

theorem isDecimal_eq_holds (c : Char) : isDecimal c = decimals.holds c := by
  have hzero (zeros : List Nat) (n : Nat) :
      (zeroOf? zeros n).isSome = CharClass.covers (zeros.map fun z => (z, z + 9)) n := by
    induction zeros with
    | nil => rfl
    | cons z rest ih =>
      rw [zeroOf?, List.map_cons, CharClass.covers, ← ih]
      by_cases hlow : n < z
      · rw [if_pos hlow, if_pos hlow]
        rfl
      · by_cases hhigh : n < z + 10
        · rw [if_neg hlow, if_neg hlow, if_pos hhigh, if_pos (Nat.le_of_lt_succ hhigh)]
          rfl
        · rw [if_neg hlow, if_neg hlow, if_neg hhigh, if_neg (by omega)]
  rw [isDecimal, digitValue?, Option.isSome_map]
  exact hzero decimalZeros c.toNat

end Text

end LinePipe
