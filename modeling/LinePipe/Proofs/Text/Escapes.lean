import LinePipe.Text.Style

/-!
# Taking escape sequences out

A text without escape sequences is left alone, and only such a text is. Characters that stand in no
escape sequence, line breaks among them, all stay.

## Main definitions

- `Text.IsEscape`: one escape sequence
- `Text.HasEscape`: an escape sequence somewhere in a text

## Main statements

- `Text.plain_eq_self_iff`: which texts are left alone
- `Text.count_plain`: what stands in no escape sequence stays
-/

namespace LinePipe.Text

/-- One escape sequence: the escape character, a bracket, parameters and a letter. -/
def IsEscape (s : Text) : Prop :=
  ∃ parameters letter, s = escapeChar :: '[' :: (parameters ++ [letter]) ∧
    (∀ c ∈ parameters, isEscapeParameter c) ∧ letter.isAlpha

/-- An escape sequence somewhere in a text. -/
def HasEscape (t : Text) : Prop :=
  ∃ before escape after, t = before ++ escape ++ after ∧ IsEscape escape

/-- A letter is no parameter, so the letter ends the sequence. -/
theorem not_isEscapeParameter_of_isAlpha {c : Char} (h : c.isAlpha) : ¬ isEscapeParameter c := by
  intro hparameter
  simp only [isEscapeParameter, Bool.or_eq_true, beq_iff_eq] at hparameter
  obtain (hdigit | rfl) | rfl := hparameter
  · have hbounds := Char.isDigit_iff_toNat.mp hdigit
    change (decide ('A'.val ≤ c.val ∧ c.val ≤ 'Z'.val) ||
      (decide ('a'.val ≤ c.val) && decide (c.val ≤ 'z'.val))) = true at h
    simp only [Bool.or_eq_true, Bool.and_eq_true, decide_eq_true_eq, UInt32.le_iff_toNat_le,
      Char.toNat_val] at h
    have h9 : '9'.toNat = 57 := rfl
    have hA : 'A'.toNat = 65 := rfl
    have ha : 'a'.toNat = 97 := rfl
    omega
  · exact absurd h (by decide)
  · exact absurd h (by decide)

theorem escapeLength?_append {escape : Text} (h : IsEscape escape) (rest : Text) :
    escapeLength? (escape ++ rest) = some escape.length := by
  obtain ⟨parameters, letter, rfl, hparameters, hletter⟩ := h
  have hstop := not_isEscapeParameter_of_isAlpha hletter
  simp only [List.cons_append, List.append_assoc, List.nil_append, escapeLength?,
    List.dropWhile_append_of_pos hparameters, List.takeWhile_append_of_pos hparameters,
    List.dropWhile_cons_of_neg hstop, List.takeWhile_cons_of_neg hstop]
  simp [hletter]

/-- What is found at the start of a text is an escape sequence. -/
theorem exists_of_escapeLength?_eq_some {t : Text} {n : Nat} (h : escapeLength? t = some n) :
    ∃ escape rest, t = escape ++ rest ∧ IsEscape escape ∧ escape.length = n := by
  unfold escapeLength? at h
  split at h
  · rename_i c rest
    split at h
    · rename_i hescape
      have hsplit := List.takeWhile_append_dropWhile (p := isEscapeParameter) (l := rest)
      cases hdrop : rest.dropWhile isEscapeParameter with
      | nil => simp only [hdrop, reduceCtorEq] at h
      | cons letter after =>
        simp only [hdrop, Option.ite_none_right_eq_some, Option.some.injEq] at h
        obtain ⟨hletter, rfl⟩ := h
        refine ⟨c :: '[' :: (rest.takeWhile isEscapeParameter ++ [letter]), after, ?_,
          ⟨rest.takeWhile isEscapeParameter, letter, ?_, ?_, hletter⟩, ?_⟩
        · rw [hdrop] at hsplit
          simp only [List.cons_append, List.append_assoc, List.nil_append, hsplit]
        · rw [eq_of_beq hescape]
        · intro c hc
          exact List.all_eq_true.mp List.all_takeWhile c hc
        · simp
    · cases h
  · cases h

/-- An escape sequence at the start is taken out. -/
theorem plain_append_of_isEscape {escape : Text} (h : IsEscape escape) (rest : Text) :
    plain (escape ++ rest) = plain rest := by
  have hskip (front : Text) : plainFrom front.length (front ++ rest) = plain rest := by
    induction front with
    | nil => rfl
    | cons c front ih => exact ih
  have hlength := escapeLength?_append h rest
  obtain ⟨parameters, letter, rfl, -⟩ := h
  rw [List.cons_append] at hlength
  rw [plain, List.cons_append, plainFrom, hlength]
  exact hskip _

/-- A character at which no escape sequence starts is kept. -/
theorem plain_cons_of_none {c : Char} {rest : Text} (h : escapeLength? (c :: rest) = none) :
    plain (c :: rest) = c :: plain rest := by
  rw [plain, plainFrom, h]
  rfl

/-- Taking out escape sequences goes on in one of two ways: a sequence is taken out, or the first
character is kept. -/
theorem plain_cases (c : Char) (rest : Text) :
    (∃ escape after, c :: rest = escape ++ after ∧ IsEscape escape ∧
        plain (c :: rest) = plain after) ∨
      (escapeLength? (c :: rest) = none ∧ plain (c :: rest) = c :: plain rest) := by
  cases h : escapeLength? (c :: rest) with
  | none => exact .inr ⟨rfl, plain_cons_of_none h⟩
  | some n =>
    obtain ⟨escape, after, hsplit, hescape, -⟩ := exists_of_escapeLength?_eq_some h
    refine .inl ⟨escape, after, hsplit, hescape, ?_⟩
    rw [hsplit, plain_append_of_isEscape hescape]

theorem IsEscape.length_pos {escape : Text} (h : IsEscape escape) : 0 < escape.length := by
  obtain ⟨_, _, rfl, -⟩ := h
  exact Nat.succ_pos _

/-- Taking out escape sequences makes no text longer. -/
theorem length_plain_le (t : Text) : (plain t).length ≤ t.length := by
  -- A sequence is taken out as a whole, so the induction is on the length.
  induction hn : t.length using Nat.strongRecOn generalizing t with
  | _ n ih =>
    cases t with
    | nil => exact Nat.zero_le n
    | cons c rest =>
      obtain ⟨escape, after, hsplit, hescape, hplain⟩ | ⟨-, hplain⟩ := plain_cases c rest
      · have hpos := hescape.length_pos
        have hsum : (c :: rest).length = escape.length + after.length := by
          rw [hsplit, List.length_append]
        have hafter := ih after.length (by omega) after rfl
        rw [hplain]
        omega
      · have hrest := ih rest.length (by simp at hn; omega) rest rfl
        rw [hplain, List.length_cons]
        simp at hn
        omega

/-- A text is left alone if and only if no escape sequence stands in it. -/
theorem plain_eq_self_iff (t : Text) : plain t = t ↔ ¬ HasEscape t := by
  induction t with
  | nil =>
    refine iff_of_true rfl ?_
    rintro ⟨before, escape, after, hsplit, hescape⟩
    have hlength := congrArg List.length hsplit
    have hpos := hescape.length_pos
    simp at hlength
    omega
  | cons c rest ih =>
    obtain ⟨escape, after, hsplit, hescape, hplain⟩ | ⟨hnone, hplain⟩ := plain_cases c rest
    · refine iff_of_false ?_ (not_not_intro ⟨[], escape, after, hsplit, hescape⟩)
      -- What is left is shorter than the text.
      intro hself
      have hpos := hescape.length_pos
      have hle := length_plain_le after
      have hsum := congrArg List.length hsplit
      rw [← hplain, hself, List.length_append] at *
      omega
    · rw [hplain, List.cons.injEq, ih]
      simp only [true_and]
      refine not_congr ⟨?_, ?_⟩
      · rintro ⟨before, escape, after, rfl, hescape⟩
        exact ⟨c :: before, escape, after, rfl, hescape⟩
      · rintro ⟨before, escape, after, hsplit, hescape⟩
        cases before with
        | nil =>
          -- No escape sequence starts at the first character.
          rw [hsplit, List.nil_append, escapeLength?_append hescape] at hnone
          cases hnone
        | cons d before =>
          rw [List.cons_append, List.cons_append, List.cons.injEq] at hsplit
          exact ⟨before, escape, after, hsplit.2, hescape⟩

/-- Of a character that stands in no escape sequence each occurrence is kept. -/
theorem count_plain {c : Char} (hc : ∀ escape, IsEscape escape → c ∉ escape) (t : Text) :
    (plain t).count c = t.count c := by
  induction hn : t.length using Nat.strongRecOn generalizing t with
  | _ n ih =>
    cases t with
    | nil => rfl
    | cons d rest =>
      obtain ⟨escape, after, hsplit, hescape, hplain⟩ | ⟨-, hplain⟩ := plain_cases d rest
      · have hpos := hescape.length_pos
        have hsum : (d :: rest).length = escape.length + after.length := by
          rw [hsplit, List.length_append]
        rw [hplain, hsplit, List.count_append, List.count_eq_zero_of_not_mem (hc escape hescape),
          Nat.zero_add]
        exact ih after.length (by omega) after rfl
      · have hrest := ih rest.length (by simp at hn; omega) rest rfl
        rw [hplain, List.count_cons, List.count_cons, hrest]

/-- No line break stands in an escape sequence. -/
theorem break_not_mem_isEscape {c : Char} (hc : c = '\n' ∨ c = '\r') {escape : Text}
    (h : IsEscape escape) : c ∉ escape := by
  obtain ⟨parameters, letter, rfl, hparameters, hletter⟩ := h
  have hparameter : ¬ isEscapeParameter c := by obtain rfl | rfl := hc <;> decide
  have hnotLetter : ¬ c.isAlpha := by obtain rfl | rfl := hc <;> decide
  have hstart : c ≠ escapeChar ∧ c ≠ '[' := by obtain rfl | rfl := hc <;> decide
  simp only [List.mem_cons, List.mem_append, List.not_mem_nil, or_false, not_or]
  refine ⟨hstart.1, hstart.2, fun hmem => hparameter (hparameters c hmem), ?_⟩
  rintro rfl
  exact hnotLetter hletter

end LinePipe.Text
