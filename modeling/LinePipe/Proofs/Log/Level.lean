import LinePipe.Log.Line
import LinePipe.Proofs.Outcome
import LinePipe.Proofs.Text.CaseTable
import LinePipe.Proofs.Text.Integer

/-!
# Texts that name a level

A level is named by a word, in any case, or by its number in digits of any script, with whitespace
around it. What stands for a digit without being a decimal one, such as a superscript, is taken for
a part of a numeral all the same, but no number can be read from it; nor can one from too many
digits. Every other text is read, as the level that it names or as naming none.

## Main definitions

- `Log.Level.Says`: a text names a level
- `Log.Level.Trap`: a text looks like a numeral that cannot be read
- `Log.Level.IsRead`: a text is read as what it names

## Main statements

- `Log.Level.parse_eq_error_iff`, `Log.Level.parse_eq_some_iff`, `Log.Level.parse_eq_none_iff`:
  which texts are read, and as what
- `Log.Level.isRead_iff`: texts that are read as what they name
-/

namespace LinePipe.Log.Level

variable {t word : Text} {level : Level}

/-- A text names a level. -/
inductive Says (t : Text) : Level → Prop
  /-- By a name, in any case. -/
  | name {word name : Text} {level : Level} (hword : Text.TrimsTo t word)
    (hname : (name, level) ∈ spoken) (hcase : Text.upper word = name) : Says t level
  /-- By its number, in decimal digits. -/
  | number {digits : Text} (hdigits : Text.TrimsTo t digits) (hne : digits ≠ [])
    (hdecimal : ∀ c ∈ digits, Text.isDecimal c) : Says t (Text.decimalValue digits)

/-- A text looks like a numeral that cannot be read: all of it stands for digits, but one is no
decimal digit, or there are too many. -/
structure Unreadable (digits : Text) : Prop where
  nonempty : digits ≠ []
  numeral : ∀ c ∈ digits, Text.isDigitLike c
  flaw : (∃ c ∈ digits, Text.isDecimal c = false) ∨ Text.digitLimit < digits.length

/-- With whitespace around it, a text looks like a numeral that cannot be read. -/
def Trap (t : Text) : Prop :=
  ∃ digits, Text.TrimsTo t digits ∧ Unreadable digits

theorem lookup_spoken_eq_some_iff {name : Text} :
    spoken.lookup name = some level ↔ (name, level) ∈ spoken := by
  constructor
  · intro h
    obtain ⟨before, after, hspoken, -⟩ := List.lookup_eq_some_iff.mp h
    rw [hspoken]
    exact List.mem_append_right before List.mem_cons_self
  · intro h
    have hall : ∀ e ∈ spoken, spoken.lookup e.1 = some e.2 := by decide
    exact hall _ h

/-- What stands for digits is read as a number. -/
theorem parse_of_digits (h : Text.TrimsTo t word) (hne : word ≠ [])
    (hdigits : ∀ c ∈ word, Text.isDigitLike c) : parse t = (Text.readInteger word).map some := by
  have hall : word.all Text.isDigitLike = true := List.all_eq_true.mpr hdigits
  rw [parse, Text.strip_eq_iff.mpr h, Text.isEmpty_upper, Text.all_isDigitLike_upper, hall,
    List.isEmpty_eq_false_iff.mpr hne, Text.upper_of_isDigitLike hall]
  rfl

/-- All else is looked up among the names. -/
theorem parse_of_not_digits (h : Text.TrimsTo t word)
    (hword : ¬ (word ≠ [] ∧ ∀ c ∈ word, Text.isDigitLike c)) :
    parse t = .ok (spoken.lookup (Text.upper word)) := by
  have hnot : (!word.isEmpty && word.all Text.isDigitLike) = false := by
    rw [Bool.eq_false_iff, ne_eq, Bool.and_eq_true_iff, Bool.not_eq_true', List.all_eq_true,
      List.isEmpty_eq_false_iff]
    exact hword
  rw [parse, Text.strip_eq_iff.mpr h, Text.isEmpty_upper, Text.all_isDigitLike_upper, hnot]
  rfl

/-- No name stands for digits. -/
theorem not_isDigitLike_of_spoken {name : Text} (hname : (name, level) ∈ spoken)
    (hcase : Text.upper word = name) : ¬ ∀ c ∈ word, Text.isDigitLike c := by
  have hnames : ∀ e ∈ spoken, e.1.all Text.isDigitLike = false := by decide
  intro hdigits
  have hall := hnames _ hname
  rw [← hcase, Text.all_isDigitLike_upper, List.all_eq_true.mpr hdigits] at hall
  cases hall

/-- Reading fails at the texts that look like numerals that cannot be read. -/
theorem parse_eq_error_iff : (∃ e, parse t = .error e) ↔ Trap t := by
  constructor
  · rintro ⟨e, he⟩
    have hword := Text.trimsTo_strip t
    by_cases hnumeral : Text.strip t ≠ [] ∧ ∀ c ∈ Text.strip t, Text.isDigitLike c
    · obtain ⟨hne, hdigits⟩ := hnumeral
      refine ⟨_, hword, hne, hdigits, ?_⟩
      by_contra hflaw
      obtain ⟨hdecimal, hlength⟩ := not_or.mp hflaw
      have hread := (Text.readInteger_eq_ok_iff hdigits hne).mpr
        ⟨by simpa using hdecimal, Nat.le_of_not_lt hlength, rfl⟩
      rw [parse_of_digits hword hne hdigits, hread] at he
      cases he
    · rw [parse_of_not_digits hword hnumeral] at he
      cases he
  · rintro ⟨digits, hword, hne, hdigits, hflaw⟩
    rw [parse_of_digits hword hne hdigits]
    cases hread : Text.readInteger digits with
    | error e => exact ⟨e, rfl⟩
    | ok n =>
      obtain ⟨hdecimal, hlength, -⟩ := (Text.readInteger_eq_ok_iff hdigits hne).mp hread
      obtain ⟨c, hc, hspecial⟩ | hlong := hflaw
      · rw [hdecimal c hc] at hspecial
        cases hspecial
      · exact absurd hlength (Nat.not_le_of_lt hlong)

/-- A text is read as the level that it names. -/
theorem parse_eq_some_iff : parse t = .ok (some level) ↔ Says t level ∧ ¬ Trap t := by
  constructor
  · intro h
    refine ⟨?_, fun htrap => ?_⟩
    · have hword := Text.trimsTo_strip t
      by_cases hnumeral : Text.strip t ≠ [] ∧ ∀ c ∈ Text.strip t, Text.isDigitLike c
      · obtain ⟨hne, hdigits⟩ := hnumeral
        rw [parse_of_digits hword hne hdigits] at h
        obtain ⟨n, hread, hlevel⟩ := except_map_eq_ok_iff.mp h
        obtain ⟨hdecimal, -, rfl⟩ := (Text.readInteger_eq_ok_iff hdigits hne).mp hread
        cases hlevel
        exact .number hword hne hdecimal
      · rw [parse_of_not_digits hword hnumeral] at h
        exact .name hword (lookup_spoken_eq_some_iff.mp (Except.ok.inj h)) rfl
    · obtain ⟨e, he⟩ := parse_eq_error_iff.mpr htrap
      rw [h] at he
      cases he
  · rintro ⟨hnamed, htrap⟩
    cases hnamed with
    | name hword hname hcase =>
      have hdigits := not_isDigitLike_of_spoken hname hcase
      rw [parse_of_not_digits hword fun h => hdigits h.2, hcase,
        lookup_spoken_eq_some_iff.mpr hname]
    | @number digits hword hne hdecimal =>
      have hdigits : ∀ c ∈ digits, Text.isDigitLike c := fun c hc =>
        Text.isDigitLike_of_isDecimal (hdecimal c hc)
      have hlength : digits.length ≤ Text.digitLimit := by
        by_contra hlong
        exact htrap ⟨digits, hword, hne, hdigits, .inr (Nat.lt_of_not_le hlong)⟩
      rw [parse_of_digits hword hne hdigits,
        (Text.readInteger_eq_ok_iff hdigits hne).mpr ⟨hdecimal, hlength, rfl⟩]
      rfl

/-- A text that names no level is read as naming none, unless reading it fails. -/
theorem parse_eq_none_iff : parse t = .ok none ↔ (∀ level, ¬ Says t level) ∧ ¬ Trap t := by
  cases hparse : parse t with
  | error e =>
    have htrap := parse_eq_error_iff.mp ⟨e, hparse⟩
    exact ⟨nofun, fun h => absurd htrap h.2⟩
  | ok said =>
    have htrap : ¬ Trap t := by
      rw [← parse_eq_error_iff, hparse]
      rintro ⟨e, he⟩
      cases he
    cases said with
    | none =>
      refine iff_of_true rfl ⟨fun level hnamed => ?_, htrap⟩
      have hsome := parse_eq_some_iff.mpr ⟨hnamed, htrap⟩
      rw [hparse] at hsome
      cases hsome
    | some level =>
      have hnamed := (parse_eq_some_iff.mp hparse).1
      exact ⟨nofun, fun h => absurd hnamed (h.1 level)⟩

/-- A numeral with too many digits names a level all the same. -/
theorem says_and_trap_of_long {digits : Text} (h : ∀ c ∈ digits, Text.isDecimal c)
    (hlong : Text.digitLimit < digits.length) :
    Says digits (Text.decimalValue digits) ∧ Trap digits := by
  have hne : digits ≠ [] := List.ne_nil_of_length_pos (Nat.zero_lt_of_lt hlong)
  have hword := Text.trimsTo_of_isDecimal h
  exact ⟨.number hword hne h, digits, hword, hne,
    fun c hc => Text.isDigitLike_of_isDecimal (h c hc), .inr hlong⟩

/-- A text is read as the level that it names, and as naming none if it names none. -/
structure IsRead (t : Text) : Prop where
  said : ∀ level, Says t level → parse t = .ok (some level)
  unsaid : (∀ level, ¬ Says t level) → parse t = .ok none

theorem isRead_iff : IsRead t ↔ ¬ Trap t := by
  constructor
  · intro h htrap
    by_cases hnamed : ∃ level, Says t level
    · obtain ⟨level, hlevel⟩ := hnamed
      exact (parse_eq_some_iff.mp (h.said level hlevel)).2 htrap
    · exact (parse_eq_none_iff.mp (h.unsaid (not_exists.mp hnamed))).2 htrap
  · intro htrap
    exact
      { said := fun level hlevel => parse_eq_some_iff.mpr ⟨hlevel, htrap⟩
        unsaid := fun hnone => parse_eq_none_iff.mpr ⟨hnone, htrap⟩ }

end LinePipe.Log.Level
