import LinePipe.Proofs.Text.Case
import LinePipe.Proofs.Text.CharClass
import Mathlib.Data.List.Range

/-!
# What the tables of case mappings list

Facts about all entries of the tables. Digits have no case: no mapping lists one or gives one, so
case folding leaves the digits of a text where they are. Mapping to lower case relates cased letters
only. What a mapping gives for a character as a single one it does not map again.

Each fact is checked in one pass through two tables, as a sweep.

## Main definitions

- `CaseRun.images`: the code points that a run gives, as a run
- `CaseMap.Avoids`: a mapping that has nothing to do with a class of characters
- `CaseMap.Wordy`: a mapping that has nothing to do with digits
- `CaseMap.Settles`: a mapping that leaves alone what it gives

## Main statements

- `Text.foldChar_of_isDecimal`, `Text.isDecimal_of_mem_foldChar`: folding and digits
- `Text.cased_of_lowerChar`: a letter and its lower case form are cased
- `Text.lowerChar_of_lowerChar`, `Text.upperChar_of_upperChar`: mapping a second time
- `Text.all_isDigitLike_upper`, `Text.upper_of_isDigitLike`: digits in upper case
-/

namespace LinePipe.Text

/-! ## Runs and their images -/

/-- The code points that a run takes its own to. -/
def CaseRun.images (run : CaseRun) : CaseRun :=
  ⟨run.shift run.first, run.shift run.last, run.step, 0⟩

theorem CaseRun.le_of_has {run : CaseRun} {n : Nat} (h : run.has n) :
    run.first ≤ n ∧ n ≤ run.last := by
  simp only [has, Bool.and_eq_true, decide_eq_true_eq] at h
  exact h.1

theorem CaseRun.Weighs.has_images {run : CaseRun} (h : run.Weighs) {n : Nat} (hhas : run.has n) :
    run.images.has (run.shift n) := by
  obtain ⟨hshift, -, hlast⟩ := h.shift_eq hhas
  simp only [CaseRun.has, Bool.and_eq_true, decide_eq_true_eq, beq_iff_eq] at hhas
  obtain ⟨-, hstep⟩ := hhas
  have hfirst : run.shift run.first ≤ run.shift n := by omega
  have hdistance : run.shift n - run.shift run.first = n - run.first := by omega
  rw [CaseRun.has, CaseRun.images, hdistance, hstep, decide_eq_true hfirst, decide_eq_true hlast]
  rfl

/-- Whether the runs keep out of a class of characters, those in the gaps between their members
included. -/
def CaseRun.keepOut (runs : List CaseRun) (ranges : CharClass) : Bool :=
  let stretches := runs.map fun run => (run.first, run.last)
  CharClass.avoidance.passes ranges (CharClass.avoidance.ordered stretches)

theorem CaseRun.not_covers_of_keepOut {runs : List CaseRun} {ranges : CharClass}
    (h : CaseRun.keepOut runs ranges) {run : CaseRun} (hrun : run ∈ runs) {n : Nat}
    (hhas : run.has n) : ranges.covers n = false := by
  have havoids := Sweep.test_of_passes h _ (List.mem_map_of_mem hrun)
  obtain ⟨hfirst, hlast⟩ := CaseRun.le_of_has hhas
  exact CharClass.not_covers_of_avoids havoids hfirst hlast

/-! ## Classes without case -/

/-- A mapping avoids a class of characters if it lists none of them and gives none. -/
def CaseMap.Avoids (m : CaseMap) (ranges : CharClass) : Prop :=
  (∀ e ∈ m.expansions, ranges.covers e.1 = false ∧
    ∀ code ∈ e.2, ranges.holds (Char.ofNat code) = false) ∧
  CaseRun.keepOut m.runs ranges ∧ CaseRun.keepOut (m.runs.map CaseRun.images) ranges

instance (m : CaseMap) (ranges : CharClass) : Decidable (m.Avoids ranges) :=
  inferInstanceAs (Decidable (_ ∧ _))

theorem CaseMap.Avoids.not_holds {m : CaseMap} {ranges : CharClass} (h : m.Avoids ranges)
    (hweighs : m.Weighs) {c : Char} {image : List Char} (himage : m.image? c = some image) :
    ranges.holds c = false ∧ ∀ d ∈ image, ranges.holds d = false := by
  obtain ⟨hexpansions, hlisted, hgiven⟩ := h
  obtain ⟨e, he, hcode, rfl⟩ | ⟨run, hrun, hhas, rfl⟩ := CaseMap.of_image?_eq_some himage
  · obtain ⟨hkey, hcodes⟩ := hexpansions e he
    constructor
    · rw [CharClass.holds, ← hcode]
      exact hkey
    · intro d hd
      obtain ⟨code, hcode, rfl⟩ := List.mem_map.mp hd
      exact hcodes code hcode
  · have hweight := hweighs.2 run hrun
    constructor
    · exact CaseRun.not_covers_of_keepOut hlisted hrun hhas
    · intro d hd
      rw [List.mem_singleton.mp hd, CharClass.holds, hweight.toNat_image hhas]
      exact CaseRun.not_covers_of_keepOut hgiven (List.mem_map_of_mem hrun)
        (hweight.has_images hhas)

/-! ## Digits have no case -/

/-- A mapping is wordy if it lists no digit and gives none. -/
def CaseMap.Wordy (m : CaseMap) : Prop :=
  (∀ e ∈ m.expansions, decimals.covers e.1 = false ∧
    ∀ code ∈ e.2, isDecimal (Char.ofNat code) = false) ∧
  CaseRun.keepOut m.runs decimals ∧ CaseRun.keepOut (m.runs.map CaseRun.images) decimals

instance (m : CaseMap) : Decidable m.Wordy :=
  inferInstanceAs (Decidable (_ ∧ _))

theorem wordy_lowerMap : lowerMap.Wordy := by
  decide +kernel

theorem wordy_foldMap : foldMap.Wordy := by
  decide +kernel

theorem CaseMap.Wordy.avoids {m : CaseMap} (h : m.Wordy) : m.Avoids decimals := by
  simp only [Wordy, isDecimal_eq_holds] at h
  exact h

theorem CaseMap.Wordy.not_isDecimal {m : CaseMap} (h : m.Wordy) (hweighs : m.Weighs) {c : Char}
    {image : List Char} (himage : m.image? c = some image) :
    isDecimal c = false ∧ ∀ d ∈ image, isDecimal d = false := by
  simp only [isDecimal_eq_holds]
  exact h.avoids.not_holds hweighs himage

/-- What a character is folded to: itself, or an image of one of the two mappings. -/
theorem foldChar_cases (c : Char) :
    (∃ image, (foldMap.image? c = some image ∨ lowerMap.image? c = some image) ∧
      foldChar c = image) ∨ foldChar c = [c] := by
  rw [foldChar, lowerChar]
  cases hfold : foldMap.image? c with
  | some image => exact .inl ⟨image, .inl rfl, rfl⟩
  | none =>
    cases hlower : lowerMap.image? c with
    | some image => exact .inl ⟨image, .inr rfl, rfl⟩
    | none => exact .inr rfl

/-- A digit is folded to itself. -/
theorem foldChar_of_isDecimal {c : Char} (h : isDecimal c) : foldChar c = [c] := by
  obtain ⟨image, himage, -⟩ | hself := foldChar_cases c
  · have hnot : isDecimal c = false := by
      obtain hfold | hlower := himage
      · exact (wordy_foldMap.not_isDecimal weighs_foldMap hfold).1
      · exact (wordy_lowerMap.not_isDecimal weighs_lowerMap hlower).1
    rw [hnot] at h
    cases h
  · exact hself

/-- Folding keeps digits apart from all else. -/
theorem isDecimal_of_mem_foldChar {c d : Char} (h : d ∈ foldChar c) : isDecimal d = isDecimal c := by
  obtain ⟨image, himage, hfold⟩ | hself := foldChar_cases c
  · rw [hfold] at h
    have hnot : isDecimal c = false ∧ ∀ d ∈ image, isDecimal d = false := by
      obtain hfold | hlower := himage
      · exact wordy_foldMap.not_isDecimal weighs_foldMap hfold
      · exact wordy_lowerMap.not_isDecimal weighs_lowerMap hlower
    rw [hnot.1, hnot.2 d h]
  · rw [hself] at h
    rw [List.mem_singleton.mp h]

theorem foldChar_ne_nil (c : Char) : foldChar c ≠ [] := by
  by_cases hnull : c = '\x00'
  · subst hnull
    decide
  · obtain ⟨d, hd, -⟩ := exists_mem_foldChar hnull
    exact List.ne_nil_of_mem hd

/-! ## Cased letters -/

/-- The code points of a run, from low to high. -/
def CaseRun.members (run : CaseRun) : List Nat :=
  List.range' run.first ((run.last - run.first) / run.step + 1) run.step

theorem CaseRun.mem_members_of_has {run : CaseRun} {n : Nat} (h : run.has n) :
    n ∈ run.members := by
  simp only [has, Bool.and_eq_true, decide_eq_true_eq, beq_iff_eq] at h
  obtain ⟨⟨hfirst, hlast⟩, hstep⟩ := h
  rw [members, List.mem_range']
  refine ⟨(n - run.first) / run.step, ?_, ?_⟩
  · exact Nat.lt_succ_of_le (Nat.div_le_div_right (by omega))
  · rw [Nat.mul_div_cancel' (Nat.dvd_of_mod_eq_zero hstep)]
    omega

theorem CaseRun.first_le_of_mem_members {run : CaseRun} {n : Nat} (h : n ∈ run.members) :
    run.first ≤ n := by
  obtain ⟨i, -, rfl⟩ := List.mem_range'.mp h
  exact Nat.le_add_right _ _

/-- Whether the members of a run are in a class of characters. Most runs lie in one of its ranges;
the members of others are looked up one by one. -/
def CaseRun.liesIn (run : CaseRun) (ranges : CharClass) : Bool :=
  ranges.includes run.first run.last || run.members.all ranges.covers

theorem CaseRun.covers_of_liesIn {run : CaseRun} {ranges : CharClass} (h : run.liesIn ranges)
    {n : Nat} (hhas : run.has n) : ranges.covers n := by
  obtain hspan | hmembers := Bool.or_eq_true_iff.mp h
  · obtain ⟨hfirst, hlast⟩ := CaseRun.le_of_has hhas
    exact CharClass.covers_of_includes hspan hfirst hlast
  · exact List.all_eq_true.mp hmembers n (CaseRun.mem_members_of_has hhas)

theorem CaseRun.liesIn_cons {run : CaseRun} {first last : Nat} {ranges : CharClass}
    (hfirst : first ≤ run.first) (hlast : last < run.first) (h : run.liesIn ranges) :
    run.liesIn ((first, last) :: ranges) := by
  obtain hspan | hmembers := Bool.or_eq_true_iff.mp h
  · refine Bool.or_eq_true_iff.mpr (.inl ?_)
    have hbehind : last.blt run.first = true := Nat.blt_eq.mpr hlast
    rw [CharClass.includes, Nat.ble_eq_true_of_le hfirst, hbehind, hspan]
    exact Bool.or_true _
  · refine Bool.or_eq_true_iff.mpr (.inr (List.all_eq_true.mpr ?_))
    intro n hn
    have hle := CaseRun.first_le_of_mem_members hn
    rw [CharClass.covers, if_neg (by omega), if_neg (by omega)]
    exact List.all_eq_true.mp hmembers n hn

/-- Runs in a class of characters. -/
def CaseRun.inclusion : Sweep CaseRun (Nat × Nat) where
  low run := run.first
  behind range n := range.1.ble n && range.2.blt n
  test run ranges := run.liesIn ranges
  behind_of_le range n m hle h := by
    simp only [Bool.and_eq_true, Nat.ble_eq, Nat.blt_eq] at h ⊢
    omega
  test_cons run range ranges hbehind h := by
    simp only [Bool.and_eq_true, Nat.ble_eq, Nat.blt_eq] at hbehind
    exact CaseRun.liesIn_cons hbehind.1 hbehind.2 h

/-- Whether runs take cased letters to cased letters. -/
def CaseRun.relateLetters (runs : List CaseRun) : Bool :=
  inclusion.passes casedLetters (inclusion.ordered runs) &&
    inclusion.passes casedLetters (inclusion.ordered (runs.map images))

theorem relateLetters_lowerMap : CaseRun.relateLetters lowerMap.runs := by
  decide +kernel

/-- A letter that has a single other one as its lower case form is listed in a run. -/
theorem exists_run_of_lowerChar {u l : Char} (h : lowerChar u = [l]) (hne : u ≠ l) :
    ∃ run ∈ lowerMap.runs, run.has u.toNat ∧ l = run.image u.toNat := by
  have hsingle : ∀ e ∈ lowerMap.expansions, e.2.length ≠ 1 := by decide
  rw [lowerChar] at h
  cases himage : lowerMap.image? u with
  | none =>
    rw [himage] at h
    exact absurd (List.singleton_inj.mp h) hne
  | some image =>
    rw [himage, Option.getD_some] at h
    subst h
    obtain ⟨e, he, -, hexpansion⟩ | ⟨run, hrun, hhas, hshift⟩ := CaseMap.of_image?_eq_some himage
    · have hlength := congrArg List.length hexpansion
      rw [List.length_map] at hlength
      exact absurd hlength.symm (hsingle e he)
    · exact ⟨run, hrun, hhas, List.singleton_inj.mp hshift⟩

/-- A letter and its lower case form are cased. -/
theorem cased_of_lowerChar {u l : Char} (h : lowerChar u = [l]) (hne : u ≠ l) :
    casedLetters.holds u ∧ casedLetters.holds l := by
  obtain ⟨run, hrun, hhas, rfl⟩ := exists_run_of_lowerChar h hne
  obtain ⟨hlisted, hgiven⟩ := Bool.and_eq_true_iff.mp relateLetters_lowerMap
  have hweighs := weighs_lowerMap.2 run hrun
  constructor
  · exact CaseRun.covers_of_liesIn (Sweep.test_of_passes hlisted run hrun) hhas
  · rw [CharClass.holds, hweighs.toNat_image hhas]
    exact CaseRun.covers_of_liesIn
      (Sweep.test_of_passes hgiven run.images (List.mem_map_of_mem hrun)) (hweighs.has_images hhas)

/-- No range of cased letters meets one of characters that are passed over. -/
theorem cased_apart_from_ignorables :
    CharClass.avoidance.passes caseIgnorables (CharClass.avoidance.ordered casedLetters) := by
  decide +kernel

/-- Cased letters are not passed over. -/
theorem not_caseIgnorables_of_cased {c : Char} (h : casedLetters.holds c) :
    caseIgnorables.holds c = false := by
  obtain ⟨range, hrange, hfirst, hlast⟩ := CharClass.of_covers h
  have havoids := Sweep.test_of_passes cased_apart_from_ignorables range hrange
  exact CharClass.not_covers_of_avoids havoids hfirst hlast

/-! ## Mapping a second time -/

/-- Whether the code points of one run fall between those of another. -/
def CaseRun.interleaves (run other : CaseRun) : Bool :=
  other.step.beq 2 && (run.step.beq 2 || run.first.beq run.last) &&
    ((run.first + other.first) % 2).beq 1

/-- Whether a run has no code point in common with others, which stand from low to high. -/
def CaseRun.misses (run : CaseRun) : List CaseRun → Bool
  | [] => true
  | other :: rest =>
    run.last.blt other.first ||
      ((other.last.blt run.first || run.interleaves other) && run.misses rest)

theorem CaseRun.not_has_of_interleaves {run other : CaseRun} (h : run.interleaves other)
    {n : Nat} (hhas : run.has n) : other.has n = false := by
  simp only [interleaves, Bool.and_eq_true, Bool.or_eq_true, Nat.beq_eq] at h
  obtain ⟨⟨hother, hstep⟩, hparity⟩ := h
  simp only [has, Bool.and_eq_true, decide_eq_true_eq, beq_iff_eq] at hhas
  rw [Bool.eq_false_iff]
  intro hcontra
  simp only [has, Bool.and_eq_true, decide_eq_true_eq, beq_iff_eq, hother] at hcontra
  obtain hstep | hsingle := hstep
  · rw [hstep] at hhas
    omega
  · omega

theorem CaseRun.lookup_of_misses {run : CaseRun} {runs : List CaseRun} (h : run.misses runs)
    {n : Nat} (hhas : run.has n) : CaseRun.lookup runs n = none := by
  induction runs with
  | nil => rfl
  | cons other rest ih =>
    obtain ⟨hfirst, hlast⟩ := CaseRun.le_of_has hhas
    simp only [misses, Bool.and_eq_true, Bool.or_eq_true, Nat.blt_eq] at h
    rw [lookup]
    obtain hahead | ⟨hother, hrest⟩ := h
    · rw [if_pos (by omega)]
    · have hnot : other.has n = false := by
        obtain hbehind | hbetween := hother
        · rw [Bool.eq_false_iff]
          intro hcontra
          have hle := CaseRun.le_of_has hcontra
          omega
        · exact CaseRun.not_has_of_interleaves hbetween hhas
      rw [hnot, ih hrest]
      exact ite_self _

/-- Runs that have no code point in common with those of a list. -/
def CaseRun.separation : Sweep CaseRun CaseRun where
  low run := run.first
  behind other n := other.last.blt n
  test run others := run.misses others
  behind_of_le other n m hle h := by
    rw [Nat.blt_eq] at h ⊢
    omega
  test_cons run other others hbehind h := by
    rw [misses, hbehind, h, Bool.true_or, Bool.true_and, Bool.or_true]

/-- The code points that a mapping expands. -/
def CaseMap.expanded (m : CaseMap) : CharClass :=
  m.expansions.map fun e => (e.1, e.1)

theorem CaseMap.expand?_eq_none {m : CaseMap} {n : Nat} (h : m.expanded.covers n = false) :
    CaseMap.expand? m.expansions n = none := by
  rw [expanded] at h
  generalize m.expansions = expansions at h
  induction expansions with
  | nil => rfl
  | cons e rest ih =>
    obtain ⟨code, image⟩ := e
    rw [List.map_cons, CharClass.covers] at h
    rw [expand?]
    by_cases hlow : n < code
    · rw [if_pos hlow]
    · rw [if_neg hlow] at h ⊢
      by_cases hcode : n ≤ code
      · rw [if_pos hcode] at h
        cases h
      · rw [if_neg hcode] at h
        rw [if_neg (by simp; omega), ih h]

/-- A mapping settles if no single character that it gives is mapped again. -/
def CaseMap.Settles (m : CaseMap) : Prop :=
  (∀ e ∈ m.expansions, e.2.length ≠ 1) ∧
    CaseRun.keepOut (m.runs.map CaseRun.images) m.expanded ∧
      CaseRun.separation.passes m.runs
        (CaseRun.separation.ordered (m.runs.map CaseRun.images))

instance (m : CaseMap) : Decidable m.Settles :=
  inferInstanceAs (Decidable (_ ∧ _))

theorem settles_lowerMap : lowerMap.Settles := by
  decide +kernel

theorem settles_upperMap : upperMap.Settles := by
  decide +kernel

theorem weighs_upperMap : upperMap.Weighs := by
  decide +kernel

theorem CaseMap.Settles.image?_eq_none {m : CaseMap} (h : m.Settles) (hweighs : m.Weighs)
    {c d : Char} (himage : m.image? c = some [d]) : m.image? d = none := by
  obtain ⟨hexpansions, hexpanded, hruns⟩ := h
  obtain ⟨e, he, -, hexpansion⟩ | ⟨run, hrun, hhas, hshift⟩ := CaseMap.of_image?_eq_some himage
  · have hlength := congrArg List.length hexpansion
    rw [List.length_map] at hlength
    exact absurd hlength.symm (hexpansions e he)
  · have hmem : run.images ∈ m.runs.map CaseRun.images := List.mem_map_of_mem hrun
    have hweight := hweighs.2 run hrun
    have himages := hweight.has_images hhas
    have hmisses : run.images.misses m.runs := Sweep.test_of_passes hruns run.images hmem
    rw [List.singleton_inj] at hshift
    rw [CaseMap.image?, hshift, hweight.toNat_image hhas,
      CaseMap.expand?_eq_none (CaseRun.not_covers_of_keepOut hexpanded hmem himages),
      CaseRun.lookup_of_misses hmisses himages]
    rfl

/-- The image of a character, or the character itself where there is none, is not mapped again if it
is a single one. -/
theorem CaseMap.Settles.getD_image? {m : CaseMap} (h : m.Settles) (hweighs : m.Weighs) {c d : Char}
    (himage : (m.image? c).getD [c] = [d]) : (m.image? d).getD [d] = [d] := by
  cases hc : m.image? c with
  | none =>
    rw [hc, Option.getD_none, List.singleton_inj] at himage
    rw [← himage, hc]
    rfl
  | some image =>
    rw [hc, Option.getD_some] at himage
    subst himage
    rw [h.image?_eq_none hweighs hc]
    rfl

theorem lowerChar_of_lowerChar {c d : Char} (h : lowerChar c = [d]) : lowerChar d = [d] :=
  settles_lowerMap.getD_image? weighs_lowerMap h

theorem upperChar_of_upperChar {c d : Char} (h : upperChar c = [d]) : upperChar d = [d] :=
  settles_upperMap.getD_image? weighs_upperMap h

/-! ## Digits in upper case -/

theorem upperMap_avoids_decimals : upperMap.Avoids decimals := by
  decide +kernel

theorem upperMap_avoids_specialDigits : upperMap.Avoids specialDigits := by
  decide +kernel

/-- Characters that have an upper case form do not stand for digits, and neither does that form. -/
theorem not_isDigitLike_of_image? {c : Char} {image : List Char}
    (himage : upperMap.image? c = some image) :
    isDigitLike c = false ∧ ∀ d ∈ image, isDigitLike d = false := by
  obtain ⟨hdecimal, hdecimals⟩ := upperMap_avoids_decimals.not_holds weighs_upperMap himage
  obtain ⟨hspecial, hspecials⟩ := upperMap_avoids_specialDigits.not_holds weighs_upperMap himage
  constructor
  · rw [isDigitLike, isDecimal_eq_holds, hdecimal, hspecial, Bool.or_false]
  · intro d hd
    rw [isDigitLike, isDecimal_eq_holds, hdecimals d hd, hspecials d hd, Bool.or_false]

/-- What stands for a digit is its own upper case form. -/
theorem upperChar_of_isDigitLike {c : Char} (h : isDigitLike c) : upperChar c = [c] := by
  rw [upperChar]
  cases himage : upperMap.image? c with
  | none => rfl
  | some image =>
    rw [(not_isDigitLike_of_image? himage).1] at h
    cases h

theorem isDigitLike_of_mem_upperChar {c d : Char} (h : d ∈ upperChar c) :
    isDigitLike d = isDigitLike c := by
  rw [upperChar] at h
  cases himage : upperMap.image? c with
  | none =>
    rw [himage, Option.getD_none] at h
    rw [List.mem_singleton.mp h]
  | some image =>
    rw [himage, Option.getD_some] at h
    obtain ⟨hc, hd⟩ := not_isDigitLike_of_image? himage
    rw [hc, hd d h]

theorem upperChar_ne_nil (c : Char) : upperChar c ≠ [] := by
  rw [upperChar]
  cases himage : upperMap.image? c with
  | none => exact List.cons_ne_nil c []
  | some image =>
    obtain ⟨d, hd, -⟩ := weighs_upperMap.exists_mem_image himage
    exact List.ne_nil_of_mem hd

/-- In upper case a text is made of digits only if it is so already. -/
theorem all_isDigitLike_upper (t : Text) : (upper t).all isDigitLike = t.all isDigitLike := by
  induction t with
  | nil => rfl
  | cons c t ih =>
    have hfirst : (upperChar c).all isDigitLike = isDigitLike c := by
      cases hc : isDigitLike c with
      | true => rw [upperChar_of_isDigitLike hc, List.all_cons, hc, List.all_nil, Bool.and_true]
      | false =>
        obtain ⟨d, hd⟩ := List.exists_mem_of_ne_nil _ (upperChar_ne_nil c)
        rw [List.all_eq_false]
        exact ⟨d, hd, by rw [isDigitLike_of_mem_upperChar hd, hc]; exact Bool.false_ne_true⟩
    rw [upper, List.flatMap_cons, List.all_append, hfirst, List.all_cons]
    exact congrArg _ ih

theorem upper_of_isDigitLike {t : Text} (h : t.all isDigitLike) : upper t = t := by
  induction t with
  | nil => rfl
  | cons c t ih =>
    obtain ⟨hc, ht⟩ := Bool.and_eq_true_iff.mp h
    rw [upper, List.flatMap_cons, upperChar_of_isDigitLike hc, List.singleton_append]
    exact congrArg _ (ih ht)

theorem isEmpty_upper (t : Text) : (upper t).isEmpty = t.isEmpty := by
  cases t with
  | nil => rfl
  | cons c t =>
    have hne : upper (c :: t) ≠ [] := by
      rw [upper, List.flatMap_cons]
      exact List.append_ne_nil_of_left_ne_nil (upperChar_ne_nil c) _
    rw [List.isEmpty_eq_false_iff.mpr hne, List.isEmpty_cons]

end LinePipe.Text
