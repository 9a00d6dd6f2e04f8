import LinePipe.Proofs.Buffer.Region
import LinePipe.Proofs.Text.Digit

/-!
# The grammar of line ranges

A line range is one line number, or two with a colon between them, of which one may be left out.
Whitespace may stand around each. The line numbers count from 1, the second is not below the first,
and their digits may belong to any script. A text of this form is read as the region that it names,
and every other text is refused as a range.

## Main definitions

- `LineRegion.Part`: whitespace with a number in it, or without
- `LineRegion.Written`: a text that names a first and a last line
- `LineRegion.toText`: the text that a region is written as
- `LineRegion.ReadByGrammar`: a text is read if it has the form of a range

## Main statements

- `LineRegion.written_of_scan`: a text with digits names lines if its numbers count from 1
- `LineRegion.parse_eq_ok_iff`: the region that a text without long numerals is read as
- `LineRegion.readByGrammar`: texts without long numerals are read by the grammar
-/

namespace LinePipe.LineRegion

/-! ## The form of a line range -/

/-- A part of a line range: whitespace with a number in it, or without. -/
inductive Part : Text → Option Nat → Prop where
  | blank {gap : Text} (hgap : ∀ c ∈ gap, Text.isBlank c) : Part gap none
  | number {gap digits gap' : Text} (hgap : ∀ c ∈ gap, Text.isBlank c) (hne : digits ≠ [])
      (hdigits : ∀ c ∈ digits, Text.isDecimal c) (hgap' : ∀ c ∈ gap', Text.isBlank c) :
      Part (gap ++ digits ++ gap') (some (Text.decimalValue digits))

/-- A text that names lines counted from 1, the first and the last of them, where `none` stands for
the end of the lines. -/
inductive Written : Text → Nat → Option Nat → Prop where
  | line {text : Text} {n : Nat} (hpart : Part text (some n)) (hn : 1 ≤ n) :
      Written text n (some n)
  | onward {before after : Text} {n : Nat} (hbefore : Part before (some n))
      (hafter : Part after none) (hn : 1 ≤ n) : Written (before ++ ':' :: after) n none
  | upTo {before after : Text} {m : Nat} (hbefore : Part before none)
      (hafter : Part after (some m)) (hm : 1 ≤ m) : Written (before ++ ':' :: after) 1 (some m)
  | between {before after : Text} {n m : Nat} (hbefore : Part before (some n))
      (hafter : Part after (some m)) (hn : 1 ≤ n) (hnm : n ≤ m) :
      Written (before ++ ':' :: after) n (some m)

/-! ## The numbers -/

theorem part_iff {t : Text} {number : Option Nat} :
    Part t number ↔ ∃ digits, Padded digits t ∧ number? digits = number := by
  constructor
  · intro h
    cases h with
    | blank hgap =>
      exact ⟨[], ⟨List.forall_mem_nil _, t, [], hgap, List.forall_mem_nil _, by simp⟩, rfl⟩
    | @number gap digits gap' hgap hne hdigits hgap' =>
      exact ⟨digits, ⟨hdigits, gap, gap', hgap, hgap', rfl⟩, if_neg hne⟩
  · rintro ⟨digits, ⟨hdigits, gap, gap', hgap, hgap', rfl⟩, rfl⟩
    rw [number?]
    split
    · rename_i hnone
      subst hnone
      rw [List.append_nil]
      exact .blank (List.forall_mem_append.mpr ⟨hgap, hgap'⟩)
    · rename_i hne
      exact .number hgap hne hdigits hgap'

/-- The first line that a line range names, by the digits before the colon. -/
def namedFirst (before : Text) : Nat :=
  (number? before).getD 1

/-- The last line that a line range names. Without a colon it is the first. -/
def namedLast (before : Text) : Option Text → Option Nat
  | none => some (namedFirst before)
  | some after => number? after

/-- Two parts with a colon between them name some lines if there is a number in one of them, and if
the numbers count from 1 and do not go down. -/
theorem written_of_parts {t u : Text} {n m : Option Nat} (h : Part t n) (h' : Part u m)
    (hsome : ¬ (n = none ∧ m = none)) (hfirst : 1 ≤ n.getD 1) (hlast : ∀ l ∈ m, n.getD 1 ≤ l) :
    Written (t ++ ':' :: u) (n.getD 1) m := by
  cases n with
  | none =>
    cases m with
    | none => exact absurd ⟨rfl, rfl⟩ hsome
    | some m => exact .upTo h h' (hlast m rfl)
  | some n =>
    cases m with
    | none => exact .onward h h' hfirst
    | some m => exact .between h h' hfirst (hlast m rfl)

/-- Whatever names some lines counts from 1 and does not go down. -/
theorem le_of_written {text : Text} {first : Nat} {last : Option Nat}
    (h : Written text first last) : 1 ≤ first ∧ ∀ m ∈ last, first ≤ m := by
  cases h with
  | line hpart hn => exact ⟨hn, by simp⟩
  | onward hbefore hafter hn => exact ⟨hn, by simp⟩
  | upTo hbefore hafter hm => exact ⟨Nat.le_refl 1, by simpa using hm⟩
  | between hbefore hafter hn hnm => exact ⟨hn, by simpa using hnm⟩

/-- A text names some lines by the digits that stand in it. -/
theorem exists_scan_of_written {text : Text} {first : Nat} {last : Option Nat}
    (h : Written text first last) :
    ∃ before after, scan text = some (before, after) ∧ ¬ (before = [] ∧ after.getD [] = []) ∧
      first = namedFirst before ∧ last = namedLast before after := by
  have hparts {t u : Text} {n m : Option Nat} (ht : Part t n) (hu : Part u m)
      (hsome : ¬ (n = none ∧ m = none)) :
      ∃ before after, scan (t ++ ':' :: u) = some (before, after) ∧
        ¬ (before = [] ∧ after.getD [] = []) ∧ n.getD 1 = namedFirst before ∧
          m = namedLast before after := by
    obtain ⟨before, hpadded, rfl⟩ := part_iff.mp ht
    obtain ⟨after, hpadded', rfl⟩ := part_iff.mp hu
    rw [number?_eq_none_iff, number?_eq_none_iff] at hsome
    exact ⟨before, some after, scan_eq_some_iff.mpr (.colon hpadded hpadded'), hsome, rfl, rfl⟩
  cases h with
  | line hpart hn =>
    obtain ⟨digits, hpadded, hnumber⟩ := part_iff.mp hpart
    refine ⟨digits, none, scan_eq_some_iff.mpr (.alone hpadded), ?_, ?_⟩
    · rintro ⟨rfl, -⟩
      cases hnumber
    · rw [namedLast, namedFirst, hnumber]
      exact ⟨rfl, rfl⟩
  | onward hbefore hafter hn => exact hparts hbefore hafter (by simp)
  | upTo hbefore hafter hm => exact hparts hbefore hafter (by simp)
  | between hbefore hafter hn hnm => exact hparts hbefore hafter (by simp)

/-- A text names some lines if there are digits in it, and if its numbers count from 1 and do not go
down. -/
theorem written_of_scan {text before : Text} {after : Option Text}
    (hscan : scan text = some (before, after)) (hsome : ¬ (before = [] ∧ after.getD [] = []))
    (hfirst : 1 ≤ namedFirst before) (hlast : ∀ m ∈ namedLast before after, namedFirst before ≤ m) :
    Written text (namedFirst before) (namedLast before after) := by
  cases scan_eq_some_iff.mp hscan with
  | alone hpadded =>
    cases hnumber : number? before with
    | none => exact absurd ⟨number?_eq_none_iff.mp hnumber, rfl⟩ hsome
    | some n =>
      have hnamed : namedFirst before = n := by
        rw [namedFirst, hnumber]
        rfl
      rw [namedLast, hnamed]
      exact .line (part_iff.mpr ⟨before, hpadded, hnumber⟩) (hnamed ▸ hfirst)
  | @colon t u before after hpadded hpadded' =>
    refine written_of_parts (part_iff.mpr ⟨before, hpadded, rfl⟩)
      (part_iff.mpr ⟨after, hpadded', rfl⟩) ?_ hfirst hlast
    rintro ⟨hbefore, hafter⟩
    exact hsome ⟨number?_eq_none_iff.mp hbefore, number?_eq_none_iff.mp hafter⟩

/-! ## Reading -/

theorem ofBounds_eq_ok_iff {first : Nat} {last : Option Nat} {r : LineRegion} :
    ofBounds first (last.map (↑)) = .ok r ↔ r.first = first ∧ r.last = last := by
  obtain ⟨start, stop, hordered⟩ := r
  have hfirst : ¬ (first : Int) < 0 := by omega
  cases last with
  | none =>
    rw [Option.map_none, ofBounds, if_neg hfirst]
    simp [eq_comm]
  | some l =>
    rw [Option.map_some, ofBounds, if_neg hfirst]
    by_cases hbefore : (l : Int) < first
    · have hnot : ¬ (start = first ∧ stop = some l) := by
        rintro ⟨rfl, rfl⟩
        have hle : start ≤ l := hordered l rfl
        omega
      simp only [dif_pos hbefore, hnot, reduceCtorEq]
    · simp [hbefore, eq_comm]

/-- Numbers give the region that they name. -/
theorem bounded_eq_ok_iff {text : Text} {first : Nat} {last : Option Nat} {r : LineRegion} :
    bounded text first (last.map (↑)) = .ok r ↔
      r.first + 1 = first ∧ r.last.map (· + 1) = last := by
  have hone (n : Nat) : (n : Int) < 1 ↔ n < 1 := by omega
  have hbelow : ((first : Int) < 1 || (last.map ((↑) : Nat → Int)).any (· < 1)) = true ↔
      first < 1 ∨ ∃ m ∈ last, m < 1 := by
    simp only [Bool.or_eq_true, decide_eq_true_eq, Option.any_eq_true, Option.any_map,
      Option.mem_def, hone]
  rw [bounded]
  by_cases hcounts : first < 1 ∨ ∃ m ∈ last, m < 1
  · rw [if_pos (hbelow.mpr hcounts)]
    constructor
    · intro h
      cases h
    · rintro ⟨rfl, rfl⟩
      obtain hfirst | ⟨m, hm, hlast⟩ := hcounts
      · omega
      · obtain ⟨l, -, rfl⟩ := Option.map_eq_some_iff.mp hm
        omega
  · rw [if_neg (hbelow.not.mpr hcounts)]
    obtain ⟨hfirst, hlast⟩ := not_or.mp hcounts
    have hpred {n : Nat} (h : ¬ n < 1) : (n : Int) - 1 = (n - 1 : Nat) := by omega
    have hlast' : (last.map ((↑) : Nat → Int)).map (· - 1) = (last.map (· - 1)).map (↑) := by
      cases last with
      | none => rfl
      | some m => exact congrArg some (hpred fun hm => hlast ⟨m, rfl, hm⟩)
    rw [hpred hfirst, hlast', except_mapError_eq_ok_iff, ofBounds_eq_ok_iff]
    refine and_congr (by omega) ?_
    cases last with
    | none => simp
    | some m =>
      have hm : ¬ m < 1 := fun hm => hlast ⟨m, rfl, hm⟩
      cases r.last with
      | none => simp
      | some l =>
        simp only [Option.map_some, Option.some.injEq]
        omega

/-- The numerals of a text are short enough to be read: it has no long run of digits. -/
def ShortNumerals (text : Text) : Prop :=
  ∀ run, run <:+: text → (∀ c ∈ run, Text.isDecimal c) → run.length ≤ Text.digitLimit

/-- There are no long numerals in a short text. -/
theorem shortNumerals_of_length_le {text : Text} (h : text.length ≤ Text.digitLimit) :
    ShortNumerals text :=
  fun _ hrun _ => hrun.length_le.trans h

/-- The digits of a line range stand in it. -/
theorem Parted.short {text before : Text} {after : Option Text} (h : Parted text before after)
    (hshort : ShortNumerals text) : before.length ≤ Text.digitLimit ∧
      ∀ digits ∈ after, digits.length ≤ Text.digitLimit := by
  cases h with
  | alone h => exact ⟨hshort _ h.isInfix h.1, by simp⟩
  | @colon t u before after h h' =>
    have hfront : t <:+: t ++ ':' :: u := List.infix_append' [] t _
    have hback : u <:+: t ++ ':' :: u := ((List.suffix_cons ':' u).trans
      (List.suffix_append t _)).isInfix
    refine ⟨hshort _ (h.isInfix.trans hfront) h.1, ?_⟩
    simpa using hshort _ (h'.isInfix.trans hback) h'.1

section

variable {text : Text} (hshort : ShortNumerals text)
include hshort

/-- A line range without long numerals is read by its numbers. -/
theorem parse_of_short {before : Text} {after : Option Text}
    (hscan : scan text = some (before, after)) :
    parse text =
      if before = [] ∧ after.getD [] = [] then .error (.region (.malformed text))
      else bounded text (namedFirst before) ((namedLast before after).map (↑)) := by
  obtain ⟨hbefore, hafter⟩ := isDecimal_of_scan hscan
  obtain ⟨hlength, hlength'⟩ := (scan_eq_some_iff.mp hscan).short hshort
  have hfirst : (((number? before).map ((↑) : Nat → Int)).or (some 1)).getD 1 =
      (namedFirst before : Int) := by
    rw [namedFirst]
    cases number? before <;> rfl
  have hlast : lastNumber (namedFirst before) after = .ok ((namedLast before after).map (↑)) := by
    cases after with
    | none => rfl
    | some digits =>
      rw [lastNumber, lineNumber_of_isDecimal (hafter digits rfl),
        if_neg (Nat.not_lt.mpr (hlength' digits rfl)), Option.or_none]
      rfl
  rw [parse_of_scan hscan, lineNumber_of_isDecimal hbefore, if_neg (Nat.not_lt.mpr hlength)]
  simp only [bind, Except.bind, hfirst, hlast, Bool.and_eq_true, List.isEmpty_iff]

theorem parse_eq_ok_iff {r : LineRegion} :
    parse text = .ok r ↔ Written text (r.first + 1) (r.last.map (· + 1)) := by
  constructor
  · intro h
    cases hscan : scan text with
    | none => simp [parse, hscan] at h
    | some found =>
      obtain ⟨before, after⟩ := found
      rw [parse_of_short hshort hscan] at h
      split at h
      · cases h
      · rename_i hsome
        obtain ⟨hfirst, hlast⟩ := bounded_eq_ok_iff.mp h
        rw [hfirst, hlast]
        refine written_of_scan hscan hsome (by omega) ?_
        rw [← hfirst, ← hlast]
        intro m hm
        obtain ⟨l, hl, rfl⟩ := Option.map_eq_some_iff.mp hm
        exact Nat.succ_le_succ (r.ordered l hl)
  · intro h
    obtain ⟨before, after, hscan, hsome, hfirst, hlast⟩ := exists_scan_of_written h
    rw [parse_of_short hshort hscan, if_neg hsome]
    exact bounded_eq_ok_iff.mpr ⟨hfirst, hlast⟩

/-- Such a text is never refused because of a numeral. -/
theorem region_of_parse_eq_error {failure : RangeFailure} (h : parse text = .error failure) :
    ∃ e, failure = .region e := by
  cases failure with
  | region e => exact ⟨e, rfl⟩
  | numeral e =>
    obtain ⟨before, after, hscan, hlong⟩ := parse_eq_numeral_iff.mp ⟨e, h⟩
    obtain ⟨hlength, hlength'⟩ := (scan_eq_some_iff.mp hscan).short hshort
    obtain hlong | ⟨digits, hdigits, hlong⟩ := hlong
    · omega
    · have := hlength' digits hdigits
      omega

end

/-! ## Writing a region -/

/-- The region in the form of a line range, counted from 1. -/
def toText (r : LineRegion) : Text :=
  Text.ofNat (r.first + 1) ++ ':' :: r.last.elim [] fun l => Text.ofNat (l + 1)

theorem part_ofNat (n : Nat) : Part (Text.ofNat n) (some n) := by
  have hdigits : ∀ c ∈ Text.ofNat n, Text.isDecimal c :=
    fun c hc => Text.isDecimal_of_isDigit (Text.isDigit_of_mem_ofNat hc)
  refine part_iff.mpr ⟨_, padded_of_isDecimal hdigits, ?_⟩
  rw [number?, if_neg (Text.ofNat_ne_nil n), Text.decimalValue_ofNat]

theorem written_toText (r : LineRegion) :
    Written r.toText (r.first + 1) (r.last.map (· + 1)) := by
  have hordered := r.ordered
  rw [toText]
  cases hlast : r.last with
  | none => exact .onward (part_ofNat _) (.blank (List.forall_mem_nil _)) (Nat.le_add_left 1 _)
  | some l =>
    exact .between (part_ofNat _) (part_ofNat _) (Nat.le_add_left 1 _)
      (Nat.succ_le_succ (hordered l hlast))

/-- There is a region for lines that are named. -/
theorem exists_of_written {text : Text} {first : Nat} {last : Option Nat}
    (h : Written text first last) :
    ∃ r : LineRegion, r.first + 1 = first ∧ r.last.map (· + 1) = last := by
  obtain ⟨hfirst, hlast⟩ := le_of_written h
  cases last with
  | none => exact ⟨{ first := first - 1 }, Nat.sub_add_cancel hfirst, rfl⟩
  | some m =>
    have hm : first ≤ m := hlast m rfl
    refine ⟨{ first := first - 1, last := some (m - 1), ordered := ?_ },
      Nat.sub_add_cancel hfirst, ?_⟩
    · simp only [Option.mem_some_iff, forall_eq']
      omega
    · rw [Option.map_some, Nat.sub_add_cancel (hfirst.trans hm)]

/-- How a text is read as a range of lines: if it names a first and a last line, as the region of
these lines, and else not. What a region is written as is read as that region. -/
structure ReadByGrammar (text : Text) : Prop where
  accepts : ∀ first last, Written text first last →
    ∃ r, parse text = .ok r ∧ r.first + 1 = first ∧ r.last.map (· + 1) = last
  names : ∀ r, parse text = .ok r → Written text (r.first + 1) (r.last.map (· + 1))
  rejects : (∀ first last, ¬ Written text first last) → ∃ e, parse text = .error (.region e)
  returns : ∀ r : LineRegion, text = r.toText → parse text = .ok r

theorem readByGrammar {text : Text} (h : ShortNumerals text) : ReadByGrammar text where
  accepts first last hwritten := by
    obtain ⟨r, rfl, rfl⟩ := exists_of_written hwritten
    exact ⟨r, (parse_eq_ok_iff h).mpr hwritten, rfl, rfl⟩
  names _ := (parse_eq_ok_iff h).mp
  rejects hnone := by
    cases hparse : parse text with
    | ok r => exact absurd ((parse_eq_ok_iff h).mp hparse) (hnone _ _)
    | error failure =>
      obtain ⟨e, rfl⟩ := region_of_parse_eq_error h hparse
      exact ⟨e, rfl⟩
  returns r htext := (parse_eq_ok_iff h).mpr (htext ▸ r.written_toText)

/-- An Arabic three, and a seven behind a zero. -/
theorem readByGrammar_three_seven :
    ShortNumerals " \u0663 :07\n".toList ∧ ReadByGrammar " \u0663 :07\n".toList ∧
      parse " \u0663 :07\n".toList = .ok { first := 2, last := some 6 } :=
  have hshort : ShortNumerals " \u0663 :07\n".toList := shortNumerals_of_length_le (by decide)
  ⟨hshort, readByGrammar hshort, by decide⟩

end LinePipe.LineRegion
