import LinePipe.Text.Digit
import Mathlib.Algebra.Group.Nat.Defs
import Mathlib.Data.List.Basic

/-!
# The number that digits write

Digits of all scripts have values below ten, so a run of them writes a number as decimal numerals
do. Without leading zeros the longer of two runs writes the greater number, and of two equally long
ones the one that is greater at the first difference.

## Main definitions

- `Text.withoutZeros`: a run of digits without its leading zeros

## Main statements

- `Text.decimalValue_lt`: a bound for the number that a run of digits writes
- `Text.decimalValue_withoutZeros`: leading zeros do not change the number
- `Text.compare_decimalValue`: numbers compare by their significant digits
- `Text.decimalValue_ofNat`: the decimal numeral of a number writes that number
-/

namespace LinePipe.Text

theorem of_zeroOf?_eq_some {zeros : List Nat} {n z : Nat} (h : zeroOf? zeros n = some z) :
    z ∈ zeros ∧ z ≤ n ∧ n < z + 10 := by
  induction zeros with
  | nil => cases h
  | cons first rest ih =>
    rw [zeroOf?] at h
    split at h
    · cases h
    · split at h
      · cases h
        exact ⟨List.mem_cons_self, by omega, by omega⟩
      · obtain ⟨hmem, hbounds⟩ := ih h
        exact ⟨List.mem_cons_of_mem first hmem, hbounds⟩

theorem of_isDecimal {c : Char} (h : isDecimal c) :
    ∃ z ∈ decimalZeros, z ≤ c.toNat ∧ c.toNat < z + 10 := by
  rw [isDecimal, digitValue?, Option.isSome_map, Option.isSome_iff_exists] at h
  obtain ⟨z, hz⟩ := h
  exact ⟨z, of_zeroOf?_eq_some hz⟩

theorem digitValue_lt (c : Char) : digitValue c < 10 := by
  rw [digitValue, digitValue?]
  cases hzero : zeroOf? decimalZeros c.toNat with
  | none => exact Nat.zero_lt_succ 9
  | some z =>
    obtain ⟨-, hleast, hgreatest⟩ := of_zeroOf?_eq_some hzero
    simp only [Option.map_some, Option.getD_some]
    omega

/-! ## Positional values -/

/-- Digits behind a number multiply it and add the number that they write. -/
theorem foldl_digitValue (digits : Text) (value : Nat) :
    digits.foldl (fun value d => 10 * value + digitValue d) value =
      value * 10 ^ digits.length + decimalValue digits := by
  induction digits generalizing value with
  | nil => simp [decimalValue]
  | cons d digits ih =>
    have hfirst : decimalValue (d :: digits) =
        (10 * 0 + digitValue d) * 10 ^ digits.length + decimalValue digits := ih _
    rw [List.foldl_cons, ih, hfirst, List.length_cons, Nat.pow_succ', Nat.mul_zero, Nat.zero_add,
      Nat.add_mul, Nat.mul_assoc, Nat.mul_left_comm, Nat.add_assoc]

theorem decimalValue_cons (c : Char) (rest : Text) :
    decimalValue (c :: rest) = digitValue c * 10 ^ rest.length + decimalValue rest := by
  have hcons : decimalValue (c :: rest) =
      (10 * 0 + digitValue c) * 10 ^ rest.length + decimalValue rest := foldl_digitValue rest _
  rw [hcons, Nat.mul_zero, Nat.zero_add]

theorem decimalValue_lt (digits : Text) : decimalValue digits < 10 ^ digits.length := by
  induction digits with
  | nil => decide
  | cons c rest ih =>
    have hc : digitValue c + 1 ≤ 10 := digitValue_lt c
    calc decimalValue (c :: rest)
        = digitValue c * 10 ^ rest.length + decimalValue rest := decimalValue_cons c rest
      _ < digitValue c * 10 ^ rest.length + 10 ^ rest.length := Nat.add_lt_add_left ih _
      _ = (digitValue c + 1) * 10 ^ rest.length := (Nat.succ_mul _ _).symm
      _ ≤ 10 * 10 ^ rest.length := Nat.mul_le_mul_right _ hc
      _ = 10 ^ (c :: rest).length := Nat.pow_succ'.symm

/-- A first digit other than zero makes the number as great as the number of digits allows. -/
theorem le_decimalValue_cons {c : Char} (h : digitValue c ≠ 0) (rest : Text) :
    10 ^ rest.length ≤ decimalValue (c :: rest) := by
  rw [decimalValue_cons]
  exact Nat.le_add_right_of_le (Nat.le_mul_of_pos_left _ (Nat.pos_of_ne_zero h))

/-! ## Leading zeros -/

/-- A run of digits from its first digit on that is not zero. -/
def withoutZeros (digits : Text) : Text :=
  digits.dropWhile (digitValue · == 0)

theorem decimalValue_withoutZeros (digits : Text) :
    decimalValue (withoutZeros digits) = decimalValue digits := by
  induction digits with
  | nil => rfl
  | cons c rest ih =>
    rw [withoutZeros, List.dropWhile_cons]
    split
    · rename_i hzero
      rw [decimalValue_cons, eq_of_beq hzero, Nat.zero_mul, Nat.zero_add]
      exact ih
    · rfl

/-- Without leading zeros a run of digits is empty or starts with a digit that is not zero. -/
theorem withoutZeros_cases (digits : Text) :
    withoutZeros digits = [] ∨
      ∃ c rest, withoutZeros digits = c :: rest ∧ digitValue c ≠ 0 := by
  have hfirst := List.head?_dropWhile_not (digitValue · == 0) digits
  rw [withoutZeros]
  cases hdigits : digits.dropWhile (digitValue · == 0) with
  | nil => exact .inl rfl
  | cons c rest =>
    rw [hdigits] at hfirst
    exact .inr ⟨c, rest, rfl, by simpa using hfirst⟩

/-- The zeros are dropped from the digits or from their ASCII forms. -/
theorem dropWhile_map_asciiDigit (digits : Text) :
    (digits.map asciiDigit).dropWhile (· == '0') = (withoutZeros digits).map asciiDigit := by
  have hzero : ∀ n < 10, (Nat.digitChar n == '0') = (n == 0) := by decide
  rw [List.dropWhile_map]
  have hsame : ((· == '0') ∘ asciiDigit) = (digitValue · == 0) := by
    funext c
    exact hzero _ (digitValue_lt c)
  rw [hsame, withoutZeros]

/-! ## Comparing numbers by their digits -/

/-- The first digits decide unless they are equal: what follows cannot make up for one unit. -/
theorem compare_positional {unit v w : Nat} (hv : v < unit) (hw : w < unit) (m n : Nat) :
    compare (m * unit + v) (n * unit + w) = (compare m n).then (compare v w) := by
  obtain hlt | rfl | hgt := Nat.lt_trichotomy m n
  · have hunit : (m + 1) * unit ≤ n * unit := Nat.mul_le_mul_right unit hlt
    rw [Nat.succ_mul] at hunit
    rw [Nat.compare_eq_lt.mpr hlt, Nat.compare_eq_lt.mpr (by omega)]
    rfl
  · rw [Std.compare_self, Ordering.eq_then]
    simp only [Nat.compare_eq_ite_lt, Nat.add_lt_add_iff_left]
  · have hunit : (n + 1) * unit ≤ m * unit := Nat.mul_le_mul_right unit hgt
    rw [Nat.succ_mul] at hunit
    rw [Nat.compare_eq_gt.mpr hgt, Nat.compare_eq_gt.mpr (by omega)]
    rfl

theorem compare_digitChar {m n : Nat} (hm : m < 10) (hn : n < 10) :
    compare (Nat.digitChar m) (Nat.digitChar n) = compare m n := by
  have hall : ∀ m < 10, ∀ n < 10, compare (Nat.digitChar m) (Nat.digitChar n) = compare m n := by
    decide
  exact hall m hm n hn

/-- Equally many digits compare as the numbers they write. -/
theorem compare_map_asciiDigit {s t : Text} (h : s.length = t.length) :
    compare (s.map asciiDigit) (t.map asciiDigit) = compare (decimalValue s) (decimalValue t) := by
  induction s generalizing t with
  | nil =>
    rw [List.eq_nil_of_length_eq_zero h.symm]
    rfl
  | cons c s ih =>
    cases t with
    | nil => cases h
    | cons d t =>
      have hlength : s.length = t.length := Nat.succ.inj h
      have hs := decimalValue_lt s
      have ht := decimalValue_lt t
      rw [← hlength] at ht
      rw [List.map_cons, List.map_cons, List.compare_cons_cons, ih hlength, asciiDigit, asciiDigit,
        compare_digitChar (digitValue_lt c) (digitValue_lt d), decimalValue_cons, decimalValue_cons,
        ← hlength, compare_positional hs ht]

/-- Numbers compare by their significant digits: first by how many there are, then by the digits
themselves. -/
theorem compare_decimalValue (s t : Text) :
    (compare (withoutZeros s).length (withoutZeros t).length).then
        (compare ((withoutZeros s).map asciiDigit) ((withoutZeros t).map asciiDigit)) =
      compare (decimalValue s) (decimalValue t) := by
  -- Fewer digits write a smaller number, if the more of them do not start with a zero.
  have hfewer (s t : Text) (h : (withoutZeros s).length < (withoutZeros t).length) :
      decimalValue s < decimalValue t := by
    obtain hnil | ⟨c, rest, hcons, hc⟩ := withoutZeros_cases t
    · rw [hnil] at h
      exact absurd h (Nat.not_lt_zero _)
    · rw [hcons, List.length_cons] at h
      calc decimalValue s
          = decimalValue (withoutZeros s) := (decimalValue_withoutZeros s).symm
        _ < 10 ^ (withoutZeros s).length := decimalValue_lt _
        _ ≤ 10 ^ rest.length := Nat.pow_le_pow_right (by decide) (Nat.le_of_lt_succ h)
        _ ≤ decimalValue (withoutZeros t) := hcons ▸ le_decimalValue_cons hc rest
        _ = decimalValue t := decimalValue_withoutZeros t
  obtain hlt | heq | hgt := Nat.lt_trichotomy (withoutZeros s).length (withoutZeros t).length
  · rw [Nat.compare_eq_lt.mpr hlt, Nat.compare_eq_lt.mpr (hfewer s t hlt)]
    rfl
  · rw [compare_map_asciiDigit heq, heq, Std.compare_self, Ordering.eq_then,
      decimalValue_withoutZeros, decimalValue_withoutZeros]
  · rw [Nat.compare_eq_gt.mpr hgt, Nat.compare_eq_gt.mpr (hfewer t s hgt)]
    rfl

/-! ## Decimal numerals -/

/-- The ASCII digits are decimal digits, with the values that their places tell. -/
theorem digitValue?_of_isDigit {c : Char} (h : c.isDigit) :
    digitValue? c = some (c.toNat - '0'.toNat) := by
  have hbounds : 48 ≤ c.toNat ∧ c.toNat < 58 := by
    simp only [Char.isDigit, Bool.and_eq_true, decide_eq_true_eq] at h
    exact ⟨h.1, Nat.lt_succ_of_le h.2⟩
  rw [digitValue?, decimalZeros, zeroOf?, if_neg (by omega), if_pos (by omega)]
  rfl

theorem isDecimal_of_isDigit {c : Char} (h : c.isDigit) : isDecimal c := by
  rw [isDecimal, digitValue?_of_isDigit h]
  rfl

theorem isDigit_of_mem_ofNat {n : Nat} {c : Char} (h : c ∈ ofNat n) : c.isDigit :=
  Nat.isDigit_of_mem_toDigits (by decide) (by decide) h

theorem ofNat_ne_nil (n : Nat) : ofNat n ≠ [] :=
  Nat.toDigits_ne_nil

theorem decimalValue_ofNat (n : Nat) : decimalValue (ofNat n) = n := by
  have hdigit : ∀ c ∈ ofNat n, digitValue c = c.toNat - '0'.toNat := by
    intro c hc
    rw [digitValue, digitValue?_of_isDigit (isDigit_of_mem_ofNat hc), Option.getD_some]
  calc decimalValue (ofNat n)
      = Nat.ofDigitChars 10 (ofNat n) 0 := List.foldl_ext _ _ _ fun v c hc => by rw [hdigit c hc]
    _ = n := Nat.ofDigitChars_toDigits (by decide) (by decide)

end LinePipe.Text
