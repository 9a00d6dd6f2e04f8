import LinePipe.Buffer.Region
import LinePipe.Proofs.Outcome
import LinePipe.Proofs.Text.Integer

/-!
# Numerals in line ranges

The digits of a line range stand before a colon and behind it, with whitespace around them, and may
belong to any script. They always write a number, but one with too many digits is not read, and that
is the only way in which reading a line range breaks down.

## Main definitions

- `LineRegion.takeNumeral`: the digits in front of a text and what follows them
- `LineRegion.Parted`: where the digits of a line range stand
- `LineRegion.number?`: the number that digits write
- `LineRegion.HasLongNumeral`: a line range has a numeral with too many digits

## Main statements

- `LineRegion.scan_eq_some_iff`: a line range is cut into its digits
- `LineRegion.parse_eq_numeral_iff`: when reading a line range breaks down
-/

namespace LinePipe

namespace LineRegion

/-! ## Finding the digits -/

/-- Digits, or none, with whitespace around them. -/
def Padded (digits t : Text) : Prop :=
  (∀ c ∈ digits, Text.isDecimal c) ∧ ∃ gap gap', (∀ c ∈ gap, Text.isBlank c) ∧
    (∀ c ∈ gap', Text.isBlank c) ∧ t = gap ++ digits ++ gap'

theorem padded_of_isDecimal {digits : Text} (h : ∀ c ∈ digits, Text.isDecimal c) :
    Padded digits digits :=
  ⟨h, [], [], List.forall_mem_nil _, List.forall_mem_nil _, (List.append_nil digits).symm⟩

theorem Padded.isInfix {digits t : Text} (h : Padded digits t) : digits <:+: t := by
  obtain ⟨-, gap, gap', -, -, rfl⟩ := h
  exact ⟨gap, gap', rfl⟩

/-- The digits that stand at the start of a text behind whitespace, and what follows them behind
more whitespace. -/
def takeNumeral (t : Text) : Text × Text :=
  let t := t.dropWhile Text.isBlank
  (t.takeWhile Text.isDecimal, (t.dropWhile Text.isDecimal).dropWhile Text.isBlank)

/-- No digit and no whitespace comes first where the text ends or a colon stands. -/
theorem colon_stops {rest : Text} (h : ∀ c ∈ rest.head?, c = ':') :
    (∀ c ∈ rest.head?, Text.isBlank c = false) ∧ ∀ c ∈ rest.head?, Text.isDecimal c = false := by
  refine ⟨fun c hc => ?_, fun c hc => ?_⟩
  · rw [h c hc]
    decide
  · rw [h c hc]
    decide

/-- The digits in front of a text end where something else follows. -/
theorem takeNumeral_append_of_stop {gap digits gap' rest : Text}
    (hgap : ∀ c ∈ gap, Text.isBlank c) (hdigits : ∀ c ∈ digits, Text.isDecimal c)
    (hgap' : ∀ c ∈ gap', Text.isBlank c)
    (hfirst : ∀ c ∈ (digits ++ (gap' ++ rest)).head?, Text.isBlank c = false)
    (hnext : ∀ c ∈ (gap' ++ rest).head?, Text.isDecimal c = false)
    (hrest : ∀ c ∈ rest.head?, Text.isBlank c = false) :
    takeNumeral (gap ++ digits ++ gap' ++ rest) = (digits, rest) := by
  rw [List.append_assoc, List.append_assoc, takeNumeral, Text.dropWhile_append_of_stop hgap hfirst,
    Text.takeWhile_append_of_stop hdigits hnext, Text.dropWhile_append_of_stop hdigits hnext,
    Text.dropWhile_append_of_stop hgap' hrest]

theorem Padded.takeNumeral_append {digits front rest : Text} (h : Padded digits front)
    (hrest : ∀ c ∈ rest.head?, c = ':') : takeNumeral (front ++ rest) = (digits, rest) := by
  obtain ⟨hdigits, gap, gap', hgap, hgap', rfl⟩ := h
  obtain ⟨hblank, hdecimal⟩ := colon_stops hrest
  by_cases hnone : digits = []
  · -- All of the whitespace stands in front of no digits.
    subst hnone
    have hgaps : ∀ c ∈ gap ++ gap', Text.isBlank c := List.forall_mem_append.mpr ⟨hgap, hgap'⟩
    have htake := takeNumeral_append_of_stop hgaps hdigits (List.forall_mem_nil _) hblank hdecimal
      hblank
    rwa [List.append_nil, List.append_nil, ← List.append_nil gap] at htake
  · refine takeNumeral_append_of_stop hgap hdigits hgap' ?_ ?_ hblank
    · rw [List.head?_append_of_ne_nil _ hnone]
      exact fun c hc => Text.not_isBlank_of_isDecimal (hdigits c (List.mem_of_head? hc))
    · cases gap' with
      | nil => exact hdecimal
      | cons d gap' =>
        intro c hc
        cases hc
        exact Text.not_isDecimal_of_isBlank (hgap' d List.mem_cons_self)

/-- The digits before a colon, or before the end of the text, are those that stand there with
whitespace around them. -/
theorem takeNumeral_eq_iff {t digits rest : Text} (hrest : ∀ c ∈ rest.head?, c = ':') :
    takeNumeral t = (digits, rest) ↔ ∃ front, Padded digits front ∧ t = front ++ rest := by
  have hall (p : Char → Bool) (t : Text) : ∀ c ∈ t.takeWhile p, p c :=
    List.all_eq_true.mp List.all_takeWhile
  constructor
  · intro h
    obtain ⟨hdigits, hrest⟩ := Prod.mk.inj h
    refine ⟨t.takeWhile Text.isBlank ++ digits ++
      ((t.dropWhile Text.isBlank).dropWhile Text.isDecimal).takeWhile Text.isBlank,
      ⟨hdigits ▸ hall _ _, _, _, hall _ _, hall _ _, rfl⟩, ?_⟩
    rw [← hdigits, ← hrest, List.append_assoc, List.append_assoc, List.takeWhile_append_dropWhile,
      List.takeWhile_append_dropWhile, List.takeWhile_append_dropWhile]
  · rintro ⟨front, hpadded, rfl⟩
    exact hpadded.takeNumeral_append hrest

/-- A line range is scanned numeral by numeral. -/
theorem scan_eq (t : Text) :
    scan t =
      match takeNumeral t with
      | (before, []) => some (before, none)
      | (before, ':' :: rest) =>
        if (takeNumeral rest).2 = [] then some (before, some (takeNumeral rest).1) else none
      | (_, _ :: _) => none := by
  rw [scan, takeNumeral]
  dsimp only
  split
  · rename_i h
    rw [h]
  · rename_i h
    rw [h]
    dsimp only [takeNumeral]
    simp only [List.dropWhile_eq_nil_iff, List.all_eq_true]
  · rename_i hcolon h
    rw [h]
    split
    · rename_i heq
      cases heq
    · rename_i heq
      exact absurd (List.cons.inj (Prod.mk.inj heq).2).1 hcolon
    · rfl

/-- A text in which digits stand before a colon and behind it, or in which there are digits and no
colon. Either digits may be missing, and whitespace may stand around them. -/
inductive Parted : Text → Text → Option Text → Prop where
  | alone {t before : Text} (h : Padded before t) : Parted t before none
  | colon {t u before after : Text} (h : Padded before t) (h' : Padded after u) :
      Parted (t ++ ':' :: u) before (some after)

theorem scan_eq_some_iff {text before : Text} {after : Option Text} :
    scan text = some (before, after) ↔ Parted text before after := by
  have hend : ∀ c ∈ ([] : Text).head?, c = ':' := fun c hc => nomatch hc
  have hcolon (rest : Text) : ∀ c ∈ (':' :: rest).head?, c = ':' := by
    intro c hc
    cases hc
    rfl
  rw [scan_eq]
  constructor
  · intro h
    split at h
    · rename_i before' htake
      cases h
      obtain ⟨front, hpadded, rfl⟩ := (takeNumeral_eq_iff hend).mp htake
      rw [List.append_nil]
      exact .alone hpadded
    · rename_i before' rest htake
      split at h
      · rename_i hlast
        cases h
        obtain ⟨front, hpadded, rfl⟩ := (takeNumeral_eq_iff (hcolon rest)).mp htake
        obtain ⟨back, hpadded', hback⟩ := (takeNumeral_eq_iff hend).mp (Prod.ext rfl hlast)
        rw [List.append_nil] at hback
        subst hback
        exact .colon hpadded hpadded'
      · cases h
    · cases h
  · intro h
    cases h with
    | alone h =>
      rw [(takeNumeral_eq_iff hend).mpr ⟨text, h, (List.append_nil text).symm⟩]
    | @colon t u before after h h' =>
      have hlast := (takeNumeral_eq_iff hend).mpr ⟨u, h', (List.append_nil u).symm⟩
      rw [(takeNumeral_eq_iff (hcolon u)).mpr ⟨t, h, rfl⟩]
      simp only [hlast, if_true]

variable {text before : Text} {after : Option Text}

theorem isDecimal_of_scan (h : scan text = some (before, after)) :
    (∀ c ∈ before, Text.isDecimal c) ∧ ∀ digits ∈ after, ∀ c ∈ digits, Text.isDecimal c := by
  cases scan_eq_some_iff.mp h with
  | alone hpadded => exact ⟨hpadded.1, fun digits hdigits => nomatch hdigits⟩
  | colon hpadded hpadded' => exact ⟨hpadded.1, by simpa using hpadded'.1⟩

/-- Digits alone are a line range with one numeral. -/
theorem scan_of_isDecimal {digits : Text} (h : ∀ c ∈ digits, Text.isDecimal c) :
    scan digits = some (digits, none) :=
  scan_eq_some_iff.mpr (.alone (padded_of_isDecimal h))

/-! ## Reading the numbers -/

/-- The number that digits write, if there are any. -/
def number? (digits : Text) : Option Nat :=
  if digits = [] then none else some (Text.decimalValue digits)

theorem number?_eq_none_iff {digits : Text} : number? digits = none ↔ digits = [] := by
  rw [number?]
  split <;> simp [*]

/-- Digits are read as the number that they write, unless they are too many. -/
theorem lineNumber_of_isDecimal {digits : Text} (h : ∀ c ∈ digits, Text.isDecimal c)
    (fallback : Option Int) :
    lineNumber fallback digits =
      if Text.digitLimit < digits.length then .error (.numeral (.tooLong digits.length))
      else .ok (((number? digits).map (↑)).or fallback) := by
  rw [lineNumber, number?]
  by_cases hnone : digits = []
  · subst hnone
    rfl
  · have hisEmpty : digits.isEmpty = false := by simpa using hnone
    rw [hisEmpty, Text.readInteger_of_isDecimal h hnone, if_neg hnone, if_neg Bool.false_ne_true]
    by_cases hlong : Text.digitLimit < digits.length
    · rw [if_pos hlong, if_pos hlong]
    · rw [if_neg hlong, if_neg hlong]
      rfl

theorem lineNumber_eq_error_iff {fallback : Option Int} {digits : Text} {e : RangeFailure}
    (h : ∀ c ∈ digits, Text.isDecimal c) :
    lineNumber fallback digits = .error e ↔
      Text.digitLimit < digits.length ∧ e = .numeral (.tooLong digits.length) := by
  rw [lineNumber_of_isDecimal h]
  split <;> simp [*, eq_comm]

/-- A line range has a numeral with too many digits. -/
def HasLongNumeral (text : Text) : Prop :=
  ∃ before after, scan text = some (before, after) ∧
    (Text.digitLimit < before.length ∨ ∃ digits ∈ after, Text.digitLimit < digits.length)

/-- The region that the numbers of a line range give. -/
def bounded (text : Text) (first : Int) (last : Option Int) : Except RangeFailure LineRegion :=
  if first < 1 || last.any (· < 1) then .error (.region (.belowFirstLine text))
  else (ofBounds (first - 1) (last.map (· - 1))).mapError .region

theorem bounded_ne_numeral (text : Text) (first : Int) (last : Option Int)
    (e : Text.IntegerError) : bounded text first last ≠ .error (.numeral e) := by
  rw [bounded]
  split
  · simp
  · cases ofBounds (first - 1) (last.map (· - 1)) <;> simp

/-- The last line number of a line range: without a colon it is the first. -/
def lastNumber (first : Int) (after : Option Text) : Except RangeFailure (Option Int) :=
  match after with
  | none => .ok (some first)
  | some digits => lineNumber none digits

theorem parse_of_scan (hscan : scan text = some (before, after)) :
    parse text =
      if before.isEmpty && (after.getD []).isEmpty then .error (.region (.malformed text))
      else
        lineNumber (some 1) before >>= fun first =>
          lastNumber (first.getD 1) after >>= bounded text (first.getD 1) := by
  simp only [parse, hscan, bind, Except.bind, pure, Except.pure]
  split
  · rfl
  · cases lineNumber (some 1) before with
    | error e => rfl
    | ok first =>
      cases after with
      | none =>
        simp only [lastNumber, bounded]
        split
        · rfl
        · cases ofBounds (first.getD 1 - 1) ((some (first.getD 1)).map (· - 1)) <;> rfl
      | some digits =>
        simp only [lastNumber]
        cases lineNumber none digits with
        | error e => rfl
        | ok last =>
          simp only [bounded]
          split
          · rfl
          · cases ofBounds (first.getD 1 - 1) (last.map (· - 1)) <;> rfl

/-- Reading a line range breaks down if one of its numerals is too long, and else never. -/
theorem parse_eq_numeral_iff :
    (∃ e, parse text = .error (.numeral e)) ↔ HasLongNumeral text := by
  cases hscan : scan text with
  | none => simp [HasLongNumeral, hscan, parse]
  | some found =>
    obtain ⟨before, after⟩ := found
    obtain ⟨hbefore, hafter⟩ := isDecimal_of_scan hscan
    rw [parse_of_scan hscan]
    constructor
    · rintro ⟨e, h⟩
      refine ⟨before, after, hscan, ?_⟩
      split at h
      · cases h
      · cases hfirst : lineNumber (some 1) before with
        | error failure => exact .inl ((lineNumber_eq_error_iff hbefore).mp hfirst).1
        | ok first =>
          rw [hfirst] at h
          cases hlast : lastNumber (first.getD 1) after with
          | error failure =>
            cases after with
            | none => cases hlast
            | some digits =>
              exact .inr ⟨digits, rfl, ((lineNumber_eq_error_iff (hafter digits rfl)).mp hlast).1⟩
          | ok last =>
            simp only [bind, Except.bind, hlast] at h
            exact absurd h (bounded_ne_numeral text _ last e)
    · rintro ⟨before', after', hscan', hlong⟩
      rw [hscan, Option.some.injEq, Prod.mk.injEq] at hscan'
      obtain ⟨rfl, rfl⟩ := hscan'
      -- The first numeral is read first, so the second counts only if the first is not too long.
      by_cases hfirst : Text.digitLimit < before.length
      · have hne : before ≠ [] := by
          rintro rfl
          exact Nat.not_lt_zero _ hfirst
        have herror : lineNumber (some 1) before = .error (.numeral (.tooLong before.length)) :=
          (lineNumber_eq_error_iff hbefore).mpr ⟨hfirst, rfl⟩
        exact ⟨.tooLong before.length, by simp [hne, herror, bind, Except.bind]⟩
      · obtain ⟨digits, hdigits, hlast⟩ := hlong.resolve_left hfirst
        have hne : digits ≠ [] := by
          rintro rfl
          exact Nat.not_lt_zero _ hlast
        have herror : lineNumber none digits = .error (.numeral (.tooLong digits.length)) :=
          (lineNumber_eq_error_iff (hafter digits hdigits)).mpr ⟨hlast, rfl⟩
        cases hdigits
        refine ⟨.tooLong digits.length, ?_⟩
        cases hnumber : lineNumber (some 1) before with
        | error failure => exact absurd ((lineNumber_eq_error_iff hbefore).mp hnumber).1 hfirst
        | ok first => simp [hne, lastNumber, herror, bind, Except.bind]

end LineRegion

end LinePipe
