import LinePipe.Proofs.Collation.CaseVariant
import LinePipe.Proofs.Text.SwapCase

/-!
# Lines that differ in case only

Lines that differ only in the case of letters have the same chunks, so they compare with cases
exchanged. Where they first differ, the one then holds the upper case letter and the other the lower
case one, and these compare by code points. So the line with the lower case letter comes first
exactly if the upper case letter has the smaller code point. That is so in most scripts, but not in
all, and not for each letter of the Latin script.

## Main definitions

- `CaseAlike`: the same character, or the two letters of a pair
- `FirstDiffer`: lines that are the same up to the two letters of a pair

## Main statements

- `Collator.compare_of_firstDiffer`: the letters decide, with their places exchanged
- `Collator.compare_eq_lt_iff_of_caseAlike`: when the line with the lower case letter comes first
-/

namespace LinePipe

/-- The same character, or the two letters of a pair. -/
def CaseAlike (x y : Char) : Prop :=
  x = y ∨ CasePair x y ∨ CasePair y x

instance (x y : Char) : Decidable (CaseAlike x y) :=
  inferInstanceAs (Decidable (x = y ∨ CasePair x y ∨ CasePair y x))

theorem CaseAlike.foldChar_eq {x y : Char} (h : CaseAlike x y) :
    Text.foldChar x = Text.foldChar y := by
  obtain rfl | hpair | hpair := h
  · rfl
  · exact hpair.folded
  · exact hpair.folded.symm

/-- Lines that differ in case only are folded alike. -/
theorem Text.foldCase_eq_of_caseAlike {a b : Text} (h : List.Forall₂ CaseAlike a b) :
    foldCase a = foldCase b := by
  induction h with
  | nil => rfl
  | cons hxy _ ih =>
    rw [foldCase, List.flatMap_cons, hxy.foldChar_eq]
    exact congrArg (foldChar _ ++ ·) ih

/-- The lines are the same up to a place where the first holds a lower case letter and the second
its upper case form. -/
structure FirstDiffer (lower upper : Char) (a b : Text) : Prop where
  pair : CasePair lower upper
  parts : ∃ front rest rest', a = front ++ lower :: rest ∧ b = front ++ upper :: rest'

theorem FirstDiffer.cons {lower upper : Char} {a b : Text} (h : FirstDiffer lower upper a b)
    (x : Char) : FirstDiffer lower upper (x :: a) (x :: b) := by
  obtain ⟨front, rest, rest', rfl, rfl⟩ := h.parts
  exact ⟨h.pair, x :: front, rest, rest', rfl, rfl⟩

/-- Different lines that differ in case only differ first in the letters of a pair. -/
theorem exists_firstDiffer {a b : Text} (h : List.Forall₂ CaseAlike a b) (hne : a ≠ b) :
    ∃ lower upper, FirstDiffer lower upper a b ∨ FirstDiffer lower upper b a := by
  induction h with
  | nil => exact absurd rfl hne
  | @cons x y a b hxy _ ih =>
    obtain rfl | hpair | hpair := hxy
    · have hrest : a ≠ b := fun heq => hne (congrArg (x :: ·) heq)
      obtain ⟨lower, upper, hfirst | hfirst⟩ := ih hrest
      · exact ⟨lower, upper, .inl (hfirst.cons x)⟩
      · exact ⟨lower, upper, .inr (hfirst.cons x)⟩
    · exact ⟨x, y, .inl ⟨hpair, [], a, b, rfl, rfl⟩⟩
    · exact ⟨y, x, .inr ⟨hpair, [], b, a, rfl, rfl⟩⟩

namespace Collator

variable (c : Collator)

/-- Of lines that are folded alike, the letters of a pair decide where the lines first differ in
them, with their places exchanged. -/
theorem compare_of_firstDiffer {lower upper : Char} {a b : Text}
    (hfold : Text.foldCase a = Text.foldCase b) (h : FirstDiffer lower upper a b) :
    c.compare a b = Ord.compare upper lower := by
  obtain ⟨front, rest, rest', rfl, rfl⟩ := h.parts
  obtain ⟨swapped, u, v, small, hlower, hupper, hsmall⟩ := h.pair.exists_swapCase front rest rest'
  have hne : Ord.compare upper lower ≠ .eq := fun heq =>
    h.pair.ne (Std.compare_eq_iff_eq.mp heq).symm
  rw [compare_of_chunks_eq (c.chunks_eq_of_foldCase_eq hfold), hlower, hupper,
    compare_append_left, List.compare_cons_cons, hsmall, then_of_ne_eq hne, then_of_ne_eq hne]

/-- Of different lines that differ in case only, the one that holds the lower case letter where they
first differ comes first exactly if the upper case letter has the smaller code point. -/
theorem compare_eq_lt_iff_of_caseAlike {a b : Text} (halike : List.Forall₂ CaseAlike a b)
    (hne : a ≠ b) :
    ∃ lower upper,
      (FirstDiffer lower upper a b ∧ (c.compare a b = .lt ↔ upper < lower)) ∨
        (FirstDiffer lower upper b a ∧ (c.compare b a = .lt ↔ upper < lower)) := by
  have hfold := Text.foldCase_eq_of_caseAlike halike
  obtain ⟨lower, upper, hfirst | hfirst⟩ := exists_firstDiffer halike hne
  · refine ⟨lower, upper, .inl ⟨hfirst, ?_⟩⟩
    rw [c.compare_of_firstDiffer hfold hfirst]
    exact compareOfLessAndEq_eq_lt
  · refine ⟨lower, upper, .inr ⟨hfirst, ?_⟩⟩
    rw [c.compare_of_firstDiffer hfold.symm hfirst]
    exact compareOfLessAndEq_eq_lt

/-- Letters before and behind the first difference, with a sigma that has two small forms. -/
theorem lowercase_before_uppercase :
    List.Forall₂ CaseAlike "ΣσaB1".toList "ΣΣAb1".toList ∧
      "ΣσaB1".toList ≠ "ΣΣAb1".toList ∧
      (⟨true⟩ : Collator).compare "ΣσaB1".toList "ΣΣAb1".toList = .lt ∧
      ∃ lower upper,
        (FirstDiffer lower upper "ΣσaB1".toList "ΣΣAb1".toList ∧
          ((⟨true⟩ : Collator).compare "ΣσaB1".toList "ΣΣAb1".toList = .lt ↔ upper < lower)) ∨
        (FirstDiffer lower upper "ΣΣAb1".toList "ΣσaB1".toList ∧
          ((⟨true⟩ : Collator).compare "ΣΣAb1".toList "ΣσaB1".toList = .lt ↔ upper < lower)) := by
  have halike : List.Forall₂ CaseAlike "ΣσaB1".toList "ΣΣAb1".toList :=
    .cons (by decide) (.cons (by decide) (.cons (by decide) (.cons (by decide)
      (.cons (by decide) .nil))))
  have hne : "ΣσaB1".toList ≠ "ΣΣAb1".toList := by decide
  have hless : (⟨true⟩ : Collator).compare "ΣσaB1".toList "ΣΣAb1".toList = .lt := by
    decide +kernel
  exact ⟨halike, hne, hless, compare_eq_lt_iff_of_caseAlike ⟨true⟩ halike hne⟩

/-- A letter whose upper case form stands far behind it: the line with the upper case letter comes
first. -/
theorem uppercase_before_lowercase :
    FirstDiffer 'ÿ' 'Ÿ' ['ÿ'] ['Ÿ'] ∧ List.Forall₂ CaseAlike ['ÿ'] ['Ÿ'] ∧
      (⟨true⟩ : Collator).compare ['ÿ'] ['Ÿ'] = .gt ∧
        (⟨false⟩ : Collator).compare ['ÿ'] ['Ÿ'] = .gt := by
  have hpair : CasePair 'ÿ' 'Ÿ' := by decide
  exact ⟨⟨hpair, [], [], [], rfl, rfl⟩, .cons (.inr (.inl hpair)) .nil, by decide, by decide⟩

end Collator

end LinePipe
