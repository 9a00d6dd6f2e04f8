import LinePipe.Proofs.Text.CharClass
import LinePipe.Text.Integer
import Mathlib.Data.List.TakeWhile

/-!
# Reading integers

A text is taken without the whitespace around it, and a number is read from the digits in it. Only
decimal digits are read, not all that stands for a digit, and not too many of them.

## Main definitions

- `Text.TrimsTo`: a text is a word with whitespace around it

## Main statements

- `Text.strip_eq_iff`: a text without the whitespace around it
- `Text.readInteger_of_isDecimal`: the number that digits write is read
- `Text.readInteger_eq_ok_iff`: which numbers are read from what stands for digits
-/

namespace LinePipe.Text

/-! ## Whitespace around a word -/

/-- A text goes on where characters of one kind end. -/
theorem dropWhile_append_of_stop {p : Char → Bool} {front rest : Text} (hfront : ∀ c ∈ front, p c)
    (hrest : ∀ c ∈ rest.head?, p c = false) : (front ++ rest).dropWhile p = rest := by
  rw [List.dropWhile_append_of_pos hfront]
  cases rest with
  | nil => rfl
  | cons c rest => exact List.dropWhile_cons_of_neg (by simp [hrest c rfl])

theorem takeWhile_append_of_stop {p : Char → Bool} {front rest : Text} (hfront : ∀ c ∈ front, p c)
    (hrest : ∀ c ∈ rest.head?, p c = false) : (front ++ rest).takeWhile p = front := by
  rw [List.takeWhile_append_of_pos hfront]
  cases rest with
  | nil => exact List.append_nil front
  | cons c rest => rw [List.takeWhile_cons_of_neg (by simp [hrest c rfl]), List.append_nil]

theorem stop_of_dropWhile (p : Char → Bool) (t : Text) :
    ∀ c ∈ (t.dropWhile p).head?, p c = false := by
  intro c hc
  have hfirst := List.head?_dropWhile_not p t
  rwa [Option.mem_def.mp hc] at hfirst

/-- What is dropped at the end of a text satisfies a condition, and what is left does not end so. -/
theorem exists_dropRightWhile (p : Char → Bool) (t : Text) :
    (∃ back : Text, (∀ c ∈ back, p c) ∧ t = dropRightWhile p t ++ back) ∧
      ∀ c ∈ (dropRightWhile p t).getLast?, p c = false := by
  constructor
  · refine ⟨(t.reverse.takeWhile p).reverse, fun c hc => ?_, ?_⟩
    · exact List.all_eq_true.mp List.all_takeWhile c (List.mem_reverse.mp hc)
    · rw [dropRightWhile, ← List.reverse_append, List.takeWhile_append_dropWhile,
        List.reverse_reverse]
  · rw [dropRightWhile, List.getLast?_reverse]
    exact stop_of_dropWhile p t.reverse

theorem dropRightWhile_append_of_stop {p : Char → Bool} {front back : Text}
    (hback : ∀ c ∈ back, p c) (hfront : ∀ c ∈ front.getLast?, p c = false) :
    dropRightWhile p (front ++ back) = front := by
  rw [dropRightWhile, List.reverse_append, dropWhile_append_of_stop, List.reverse_reverse]
  · exact fun c hc => hback c (List.mem_reverse.mp hc)
  · rwa [List.head?_reverse]

/-- A text is a word with whitespace around it, and the word neither starts nor ends with any. The
word may be empty. -/
structure TrimsTo (t word : Text) : Prop where
  around : ∃ gap gap' : Text, (∀ c ∈ gap, isBlank c) ∧ (∀ c ∈ gap', isBlank c) ∧
    t = gap ++ word ++ gap'
  first : ∀ c ∈ word.head?, isBlank c = false
  last : ∀ c ∈ word.getLast?, isBlank c = false

variable {t word : Text}

theorem trimsTo_strip (t : Text) : TrimsTo t (strip t) := by
  obtain ⟨⟨gap', hgap', ht⟩, hlast⟩ := exists_dropRightWhile isBlank (stripLeft t)
  refine ⟨⟨t.takeWhile isBlank, gap', List.all_eq_true.mp List.all_takeWhile, hgap', ?_⟩, ?_, hlast⟩
  · rw [List.append_assoc, strip, stripRight, ← ht, stripLeft, List.takeWhile_append_dropWhile]
  · -- The first character of the word is that of the text without whitespace in front.
    intro c hc
    refine stop_of_dropWhile isBlank t c ?_
    change c ∈ (stripLeft t).head?
    rw [ht]
    exact List.mem_head?_append_of_mem_head? hc

/-- A text without the whitespace around it. -/
theorem strip_eq_iff : strip t = word ↔ TrimsTo t word := by
  constructor
  · rintro rfl
    exact trimsTo_strip t
  · rintro ⟨⟨gap, gap', hgap, hgap', rfl⟩, hfirst, hlast⟩
    rw [strip, stripRight, stripLeft]
    cases word with
    | nil =>
      -- Nothing is left for the second step.
      have hgaps : ∀ c ∈ gap ++ gap', isBlank c := List.forall_mem_append.mpr ⟨hgap, hgap'⟩
      rw [List.append_nil, ← List.append_nil (gap ++ gap'),
        dropWhile_append_of_stop hgaps (by simp)]
      rfl
    | cons c word =>
      have hstart : ∀ d ∈ (c :: word ++ gap').head?, isBlank d = false := hfirst
      rw [List.append_assoc, dropWhile_append_of_stop hgap hstart,
        dropRightWhile_append_of_stop hgap' hlast]

/-! ## What stands for digits -/

theorem not_isBlank_of_isDecimal {c : Char} (h : isDecimal c) : isBlank c = false := by
  have hapart : ∀ z ∈ decimalZeros, ∀ range ∈ blanks, range.2 < z ∨ z + 10 ≤ range.1 := by
    decide
  rw [Bool.eq_false_iff]
  intro hblank
  obtain ⟨z, hz, hleast, hgreatest⟩ := of_isDecimal h
  obtain ⟨range, hrange, hfirst, hlast⟩ := CharClass.of_covers hblank
  have := hapart z hz range hrange
  omega

theorem not_isDecimal_of_isBlank {c : Char} (h : isBlank c) : isDecimal c = false := by
  rw [Bool.eq_false_iff]
  intro hdecimal
  rw [not_isBlank_of_isDecimal hdecimal] at h
  cases h

theorem not_isBlank_of_isDigitLike {c : Char} (h : isDigitLike c) : isBlank c = false := by
  obtain hdecimal | hspecial := Bool.or_eq_true_iff.mp h
  · exact not_isBlank_of_isDecimal hdecimal
  · have hapart : ∀ range ∈ specialDigits, ∀ range' ∈ blanks,
        range.2 < range'.1 ∨ range'.2 < range.1 := by
      decide
    rw [Bool.eq_false_iff]
    intro hblank
    obtain ⟨range, hrange, hfirst, hlast⟩ := CharClass.of_covers hspecial
    obtain ⟨range', hrange', hfirst', hlast'⟩ := CharClass.of_covers hblank
    have := hapart range hrange range' hrange'
    omega

theorem isDigitLike_of_isDecimal {c : Char} (h : isDecimal c) : isDigitLike c := by
  rw [isDigitLike, h, Bool.true_or]

/-- Around digits alone there is no whitespace. -/
theorem trimsTo_of_isDecimal {digits : Text} (h : ∀ c ∈ digits, isDecimal c) :
    TrimsTo digits digits where
  around := ⟨[], [], List.forall_mem_nil _, List.forall_mem_nil _, (List.append_nil digits).symm⟩
  first c hc := not_isBlank_of_isDecimal (h c (List.mem_of_head? hc))
  last c hc := not_isBlank_of_isDecimal (h c (List.mem_of_getLast? hc))

theorem takeSign_of_isDigitLike {c : Char} (h : isDigitLike c) (rest : Text) :
    takeSign (c :: rest) = (false, c :: rest) := by
  rw [takeSign.eq_def]
  split
  · rename_i heq
    cases heq
    exact absurd h (by decide)
  · rename_i heq
    cases heq
    exact absurd h (by decide)
  · rfl

/-- Only decimal digits are taken. -/
theorem takeDigits_of_isDigitLike {digits : Text} (h : ∀ c ∈ digits, isDigitLike c) (after : Bool) :
    takeDigits after digits = some (digits.takeWhile isDecimal, digits.dropWhile isDecimal) := by
  induction digits generalizing after with
  | nil => rfl
  | cons c rest ih =>
    obtain ⟨hc, hrest⟩ := List.forall_mem_cons.mp h
    rw [takeDigits.eq_def, List.takeWhile_cons, List.dropWhile_cons]
    cases hdecimal : isDecimal c with
    | true => simp only [hdecimal, if_true, ih hrest, Option.map_some]
    | false =>
      have hunderscore : (c == '_') = false := by
        rw [beq_eq_false_iff_ne]
        rintro rfl
        exact absurd hc (by decide)
      simp only [hdecimal, Bool.false_eq_true, if_false, hunderscore]

/-- What stands for digits is read up to the first that is no decimal digit, and nothing may stand
there. -/
theorem readInteger_of_isDigitLike {digits : Text} (h : ∀ c ∈ digits, isDigitLike c)
    (hne : digits ≠ []) :
    readInteger digits =
      if digitLimit < (digits.takeWhile isDecimal).length then
        .error (.tooLong (digits.takeWhile isDecimal).length)
      else if digits.all isDecimal then .ok (decimalValue digits)
      else .error (.malformed digits) := by
  cases digits with
  | nil => exact absurd rfl hne
  | cons c rest =>
    have hc : isDigitLike c = true := h c List.mem_cons_self
    have hstart : (c :: rest).dropWhile isNumeralBlank = c :: rest := by
      rw [List.dropWhile_cons, isNumeralBlank, not_isBlank_of_isDigitLike hc, Bool.false_and]
      rfl
    rw [readInteger, hstart]
    simp only [takeSign_of_isDigitLike hc, takeDigits_of_isDigitLike h, gt_iff_lt,
      Bool.false_eq_true, if_false]
    by_cases hall : (c :: rest).all isDecimal
    · have htake : (c :: rest).takeWhile isDecimal = c :: rest :=
        List.takeWhile_eq_self_iff.mpr (List.all_eq_true.mp hall)
      have hdrop : (c :: rest).dropWhile isDecimal = [] :=
        List.dropWhile_eq_nil_iff.mpr (List.all_eq_true.mp hall)
      rw [htake, hdrop, if_pos hall]
      rfl
    · -- What is left of the digits is no whitespace.
      have hrest : ((c :: rest).dropWhile isDecimal).all isNumeralBlank = false := by
        have hleft : (c :: rest).dropWhile isDecimal ≠ [] := by
          rwa [ne_eq, List.dropWhile_eq_nil_iff, ← List.all_eq_true]
        obtain ⟨d, hd⟩ := List.exists_mem_of_ne_nil _ hleft
        have hblank := not_isBlank_of_isDigitLike (h d ((List.dropWhile_suffix _).subset hd))
        rw [List.all_eq_false]
        exact ⟨d, hd, by rw [isNumeralBlank, hblank]; exact Bool.false_ne_true⟩
      rw [if_neg hall, hrest, Bool.not_false, Bool.or_true, if_pos rfl]

/-- The number that digits write is read, unless they are too many. -/
theorem readInteger_of_isDecimal {digits : Text} (h : ∀ c ∈ digits, isDecimal c)
    (hne : digits ≠ []) :
    readInteger digits =
      if digitLimit < digits.length then .error (.tooLong digits.length)
      else .ok (decimalValue digits) := by
  have hdigits : ∀ c ∈ digits, isDigitLike c := fun c hc => isDigitLike_of_isDecimal (h c hc)
  rw [readInteger_of_isDigitLike hdigits hne, List.takeWhile_eq_self_iff.mpr h,
    if_pos (List.all_eq_true.mpr h)]

/-- A number is read from what stands for digits if all of it are decimal digits, not too many. -/
theorem readInteger_eq_ok_iff {digits : Text} {n : Int} (h : ∀ c ∈ digits, isDigitLike c)
    (hne : digits ≠ []) :
    readInteger digits = .ok n ↔
      (∀ c ∈ digits, isDecimal c) ∧ digits.length ≤ digitLimit ∧ n = decimalValue digits := by
  by_cases hdecimal : ∀ c ∈ digits, isDecimal c
  · rw [readInteger_of_isDecimal hdecimal hne]
    by_cases hlong : digitLimit < digits.length
    · rw [if_pos hlong]
      exact ⟨nofun, fun h => absurd h.2.1 (Nat.not_le_of_lt hlong)⟩
    · rw [if_neg hlong]
      constructor
      · intro h
        exact ⟨hdecimal, Nat.le_of_not_lt hlong, (Except.ok.inj h).symm⟩
      · rintro ⟨-, -, rfl⟩
        rfl
  · refine iff_of_false (fun hread => ?_) fun h => hdecimal h.1
    have hall : ¬ digits.all isDecimal := fun hall => hdecimal (List.all_eq_true.mp hall)
    rw [readInteger_of_isDigitLike h hne, if_neg hall] at hread
    split at hread <;> cases hread

end LinePipe.Text
