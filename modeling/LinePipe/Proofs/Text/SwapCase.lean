import LinePipe.Proofs.Text.CaseTable

/-!
# Exchanging cases

Exchanging cases replaces characters one by one, but for the capital sigma, whose small form depends
on whether a letter follows. So two texts with a common front agree in what becomes of the front if
they go on alike in that respect.

## Main definitions

- `CasePair`: a lower case letter and its upper case form

## Main statements

- `Text.exists_mapWithSigma_append`: texts with a common front
- `CasePair.swapChar_lower`, `CasePair.swapChar_upper`: the letters of a pair are exchanged
- `CasePair.exists_swapCase`: what becomes of texts that first differ in the case of a letter
-/

namespace LinePipe

namespace Text

/-! ## What follows a sigma -/

theorem meetsCased_cons (c : Char) (t : Text) :
    meetsCased (c :: t) = if caseIgnorables.holds c then meetsCased t else casedLetters.holds c := by
  rw [meetsCased, List.dropWhile_cons]
  by_cases hignored : caseIgnorables.holds c
  · rw [if_pos hignored, if_pos hignored]
    rfl
  · rw [if_neg hignored, if_neg hignored]

/-- A text is looked through only as far as it does not decide itself. -/
theorem meetsCased_append {u v : Text} (h : meetsCased u = meetsCased v) (t : Text) :
    meetsCased (t ++ u) = meetsCased (t ++ v) := by
  induction t with
  | nil => exact h
  | cons c t ih => rw [List.cons_append, List.cons_append, meetsCased_cons, meetsCased_cons, ih]

/-- Texts with a common front agree in what becomes of it if they agree in whether a cased letter
comes next. -/
theorem exists_mapWithSigma_append (f : Char → List Char) (before t : Text) {u v : Text}
    (h : meetsCased u = meetsCased v) :
    ∃ front, mapWithSigma f before (t ++ u) = front ++ mapWithSigma f (t.reverse ++ before) u ∧
      mapWithSigma f before (t ++ v) = front ++ mapWithSigma f (t.reverse ++ before) v := by
  induction t generalizing before with
  | nil => exact ⟨[], rfl, rfl⟩
  | cons c t ih =>
    obtain ⟨front, hu, hv⟩ := ih (c :: before)
    -- The place of `c` is the same in both texts, so a sigma there gets the same form.
    have hsigma : smallSigma before (t ++ u) = smallSigma before (t ++ v) := by
      rw [smallSigma, smallSigma, meetsCased_append h]
    refine ⟨(if c == capitalSigma then [smallSigma before (t ++ u)] else f c) ++ front, ?_, ?_⟩
    · rw [List.cons_append, mapWithSigma, hu, List.reverse_cons, List.append_assoc,
        List.append_assoc, List.singleton_append]
    · rw [List.cons_append, mapWithSigma, hv, ← hsigma, List.reverse_cons, List.append_assoc,
        List.append_assoc, List.singleton_append]

end Text

/-! ## Letters that are exchanged -/

open Text

/-- A lower case letter and its upper case form: two letters that case conversion takes to each
other, and that are folded alike. -/
structure CasePair (lower upper : Char) : Prop where
  ne : lower ≠ upper
  raised : upperChar lower = [upper]
  lowered : lowerChar upper = [lower]
  folded : foldChar lower = foldChar upper

instance (lower upper : Char) : Decidable (CasePair lower upper) :=
  decidable_of_iff (lower ≠ upper ∧ upperChar lower = [upper] ∧ lowerChar upper = [lower] ∧
      foldChar lower = foldChar upper)
    ⟨fun ⟨hne, hraised, hlowered, hfolded⟩ => ⟨hne, hraised, hlowered, hfolded⟩,
      fun ⟨hne, hraised, hlowered, hfolded⟩ => ⟨hne, hraised, hlowered, hfolded⟩⟩

namespace CasePair

variable {lower upper : Char} (h : CasePair lower upper)
include h

theorem swapChar_lower : swapChar lower = [upper] := by
  rw [swapChar, lowerChar_of_lowerChar h.lowered, h.raised, beq_self_eq_true, if_pos rfl]

theorem swapChar_upper : swapChar upper = [lower] := by
  have hne : ([lower] == [upper]) = false := by
    rw [beq_eq_false_iff_ne]
    exact fun heq => h.ne (List.singleton_inj.mp heq)
  rw [swapChar, h.lowered, hne, upperChar_of_upperChar h.raised, beq_self_eq_true]
  rfl

/-- The capital sigma is not a lower case letter. -/
theorem lower_ne_capitalSigma : lower ≠ capitalSigma := by
  rintro rfl
  have hsigma : upperChar capitalSigma = [capitalSigma] := by decide
  exact h.ne (List.singleton_inj.mp (hsigma.symm.trans h.raised))

/-- Either letter of a pair is a cased letter for a sigma before it. -/
theorem meetsCased_eq (t t' : Text) :
    meetsCased (lower :: t) = meetsCased (upper :: t') := by
  obtain ⟨hupper, hlower⟩ := cased_of_lowerChar h.lowered h.ne.symm
  rw [meetsCased_cons, meetsCased_cons, not_caseIgnorables_of_cased hlower,
    not_caseIgnorables_of_cased hupper, hlower, hupper]
  rfl

/-- The small sigma compares with the capital one in either of its forms as the other one does. -/
theorem compare_smallSigma (hsigma : upper = capitalSigma) (before after : Text) :
    compare upper (smallSigma before after) = compare upper lower := by
  have hlowered : lowerChar capitalSigma = ['σ'] := by decide
  have hlower : lower = 'σ' := by
    rw [← List.singleton_inj, ← h.lowered, hsigma, hlowered]
  rw [hsigma, hlower, smallSigma]
  split
  · decide
  · rfl

/-- With cases exchanged, texts that first differ in a letter of a pair first differ in the letters
in exchanged places, where the form of a small sigma does not matter. -/
theorem exists_swapCase (t u v : Text) :
    ∃ front u' v' small, swapCase (t ++ lower :: u) = front ++ upper :: u' ∧
      swapCase (t ++ upper :: v) = front ++ small :: v' ∧
        compare upper small = compare upper lower := by
  obtain ⟨front, hu, hv⟩ := exists_mapWithSigma_append swapChar [] t (h.meetsCased_eq u v)
  have hlower : (lower == capitalSigma) = false := beq_eq_false_iff_ne.mpr h.lower_ne_capitalSigma
  rw [mapWithSigma, hlower, h.swapChar_lower] at hu
  rw [mapWithSigma, h.swapChar_upper] at hv
  by_cases hupper : upper = capitalSigma
  · rw [beq_iff_eq.mpr hupper] at hv
    exact ⟨front, _, _, _, hu, hv, h.compare_smallSigma hupper _ v⟩
  · rw [beq_eq_false_iff_ne.mpr hupper] at hv
    exact ⟨front, _, _, _, hu, hv, rfl⟩

end CasePair

end LinePipe
