import LinePipe.Outcome

/-!
# Computations in a row

What a sequence of computations did is what each of them did, in order, up to the first that failed.

## Main statements

- `Outcome.bind_of_ok`, `Outcome.bind_of_error`: a second computation after a first that ended with
  a value, or with an error
- `Outcome.bind_assoc`: sequences of computations can be grouped in either way
- `Outcome.result_bind_eq_ok_iff`: two computations in a row that end with a value
- `Outcome.shown_bind_of_ok`: the documents shown by two computations in a row
- `Outcome.forM_of_failed`: checks in a row end with the first that fails
-/

namespace LinePipe

/-- Two computations in a row that can only fail end with a value if both do. -/
theorem except_bind_eq_ok_iff {ε α β : Type} {x : Except ε α} {f : α → Except ε β} {b : β} :
    (x >>= f) = .ok b ↔ ∃ a, x = .ok a ∧ f a = .ok b := by
  cases x with
  | error e => simp only [bind, Except.bind, reduceCtorEq, false_and, exists_false]
  | ok a => simp only [bind, Except.bind, Except.ok.injEq, exists_eq_left']

theorem except_bind_eq_error_iff {ε α β : Type} {x : Except ε α} {f : α → Except ε β} {e : ε} :
    (x >>= f) = .error e ↔ x = .error e ∨ ∃ a, x = .ok a ∧ f a = .error e := by
  cases x with
  | error e' => simp [bind, Except.bind]
  | ok a => simp [bind, Except.bind]

theorem except_map_eq_ok_iff {ε α β : Type} {f : α → β} {x : Except ε α} {b : β} :
    x.map f = .ok b ↔ ∃ a, x = .ok a ∧ f a = b := by
  cases x with
  | error e => simp only [Except.map, reduceCtorEq, false_and, exists_false]
  | ok a => simp only [Except.map, Except.ok.injEq, exists_eq_left']

theorem except_map_eq_error_iff {ε α β : Type} {f : α → β} {x : Except ε α} {e : ε} :
    x.map f = .error e ↔ x = .error e := by
  cases x with
  | error e' => simp only [Except.map, Except.error.injEq]
  | ok a => simp only [Except.map, reduceCtorEq]

theorem except_toOption_eq_some_iff {ε α : Type} {x : Except ε α} {a : α} :
    x.toOption = some a ↔ x = .ok a := by
  cases x <;> simp [Except.toOption]

@[simp] theorem except_mapError_ok {ε ε' α : Type} (f : ε → ε') (a : α) :
    (Except.ok a).mapError f = .ok a := rfl

@[simp] theorem except_mapError_error {ε ε' α : Type} (f : ε → ε') (e : ε) :
    (Except.error e : Except ε α).mapError f = .error (f e) := rfl

theorem except_mapError_eq_ok_iff {ε ε' α : Type} {f : ε → ε'} {x : Except ε α} {a : α} :
    x.mapError f = .ok a ↔ x = .ok a := by
  cases x <;> simp only [except_mapError_ok, except_mapError_error, Except.ok.injEq, reduceCtorEq]

theorem except_mapError_eq_error_iff {ε ε' α : Type} {f : ε → ε'} {x : Except ε α} {e' : ε'} :
    x.mapError f = .error e' ↔ ∃ e, x = .error e ∧ f e = e' := by
  cases x with
  | error e => simp only [except_mapError_error, Except.error.injEq, exists_eq_left']
  | ok a => simp only [except_mapError_ok, reduceCtorEq, false_and, exists_false]

theorem except_mapError_mapError {ε ε' ε'' α : Type} (g : ε' → ε'') (f : ε → ε')
    (x : Except ε α) : (x.mapError f).mapError g = x.mapError fun e => g (f e) := by
  cases x <;> rfl

namespace Outcome

variable {ε ε' α β γ : Type}

/-- After a value the second computation goes on from it. -/
theorem bind_of_ok {x : Outcome ε α} {a : α} (h : x.result = .ok a) (f : α → Outcome ε β) :
    x >>= f = ⟨x.events ++ (f a).events, (f a).result⟩ := by
  change andThen x f = _
  simp only [andThen, h]

/-- After an error nothing more is done. -/
theorem bind_of_error {x : Outcome ε α} {e : ε} (h : x.result = .error e) (f : α → Outcome ε β) :
    x >>= f = ⟨x.events, .error e⟩ := by
  change andThen x f = _
  simp only [andThen, h]

@[simp] theorem value_bind (a : α) (f : α → Outcome ε β) : (pure a : Outcome ε α) >>= f = f a := by
  rw [bind_of_ok rfl]
  rfl

theorem bind_assoc (x : Outcome ε α) (f : α → Outcome ε β) (g : β → Outcome ε γ) :
    x >>= f >>= g = x >>= fun a => f a >>= g := by
  cases hx : x.result with
  | error e => rw [bind_of_error hx, bind_of_error hx, bind_of_error rfl]
  | ok a =>
    rw [bind_of_ok hx, bind_of_ok hx]
    cases hf : (f a).result with
    | error e => rw [bind_of_error hf, bind_of_error rfl]
    | ok b =>
      rw [bind_of_ok hf, bind_of_ok rfl]
      simp only [List.append_assoc]

/-- Only what the second computation does after the value of the first counts. -/
theorem bind_congr {x : Outcome ε α} {f g : α → Outcome ε β}
    (h : ∀ a, x.result = .ok a → f a = g a) : x >>= f = x >>= g := by
  cases hx : x.result with
  | error e => rw [bind_of_error hx, bind_of_error hx]
  | ok a => rw [bind_of_ok hx, bind_of_ok hx, h a hx]

theorem result_bind_of_ok {x : Outcome ε α} {a : α} (h : x.result = .ok a)
    (f : α → Outcome ε β) : (x >>= f).result = (f a).result := by
  rw [bind_of_ok h]

theorem result_bind_of_error {x : Outcome ε α} {e : ε} (h : x.result = .error e)
    (f : α → Outcome ε β) : (x >>= f).result = .error e := by
  rw [bind_of_error h]

/-- Two computations in a row end with a value if both do. -/
theorem result_bind_eq_ok_iff {x : Outcome ε α} {f : α → Outcome ε β} {b : β} :
    (x >>= f).result = .ok b ↔ ∃ a, x.result = .ok a ∧ (f a).result = .ok b := by
  rw [result_bind]
  exact except_bind_eq_ok_iff

/-- Two computations in a row fail if either does, the second one only after a value. -/
theorem result_bind_eq_error_iff {x : Outcome ε α} {f : α → Outcome ε β} {e : ε} :
    (x >>= f).result = .error e ↔
      x.result = .error e ∨ ∃ a, x.result = .ok a ∧ (f a).result = .error e := by
  rw [result_bind]
  exact except_bind_eq_error_iff

/-- A value is not touched when errors are put in other terms. -/
theorem result_mapError_eq_ok_iff {f : ε → ε'} {x : Outcome ε α} {a : α} :
    (x.mapError f).result = .ok a ↔ x.result = .ok a :=
  except_mapError_eq_ok_iff

theorem mapError_bind (g : ε → ε') (x : Outcome ε α) (f : α → Outcome ε β) :
    (x >>= f).mapError g = x.mapError g >>= fun a => (f a).mapError g := by
  cases hx : x.result with
  | error e =>
    have hmapped : (x.mapError g).result = .error (g e) := by rw [mapError, hx]; rfl
    rw [bind_of_error hx, bind_of_error hmapped]
    rfl
  | ok a =>
    have hmapped : (x.mapError g).result = .ok a := by rw [mapError, hx]; rfl
    rw [bind_of_ok hx, bind_of_ok hmapped]
    rfl

theorem mapError_mapError {ε'' : Type} (g : ε' → ε'') (f : ε → ε') (x : Outcome ε α) :
    (x.mapError f).mapError g = x.mapError fun e => g (f e) := by
  simp only [mapError, except_mapError_mapError]

theorem mapError_ofExcept (f : ε → ε') (r : Except ε α) :
    (ofExcept r).mapError f = ofExcept (r.mapError f) := rfl

@[simp] theorem result_fail (e : ε) : (fail e : Outcome ε α).result = .error e := rfl

@[simp] theorem result_ofExcept (r : Except ε α) : (ofExcept r).result = r := rfl

@[simp] theorem result_mapError (f : ε → ε') (x : Outcome ε α) :
    (x.mapError f).result = x.result.mapError f := rfl

@[simp] theorem shown_pure (a : α) : (pure a : Outcome ε α).shown = [] := rfl

/-- The documents of two computations in a row are those of the first, then those of the second. -/
theorem shown_bind_of_ok {x : Outcome ε α} {a : α} (h : x.result = .ok a)
    (f : α → Outcome ε β) : (x >>= f).shown = x.shown ++ (f a).shown := by
  rw [bind_of_ok h]
  exact List.filterMap_append

theorem shown_bind_of_error {x : Outcome ε α} {e : ε} (h : x.result = .error e)
    (f : α → Outcome ε β) : (x >>= f).shown = x.shown := by
  rw [bind_of_error h]
  rfl

/-! ## Checks in a row -/

/-- A computation of which it only matters whether it fails. -/
def asCheck (x : Outcome ε α) : Outcome ε Unit :=
  x >>= fun _ => pure ()

theorem result_asCheck_eq_error_iff {x : Outcome ε α} {e : ε} :
    x.asCheck.result = .error e ↔ x.result = .error e := by
  rw [asCheck, result_bind]
  cases x.result with
  | error e' => simp only [Except.bind, Except.error.injEq]
  | ok a => simp only [Except.bind, result_pure, reduceCtorEq]

theorem result_asCheck_of_ok {x : Outcome ε α} {a : α} (h : x.result = .ok a) :
    x.asCheck.result = .ok () := by
  rw [asCheck, bind_of_ok h]
  rfl

theorem events_asCheck (x : Outcome ε α) : x.asCheck.events = x.events := by
  cases hx : x.result with
  | error e => rw [asCheck, bind_of_error hx]
  | ok a =>
    rw [asCheck, bind_of_ok hx]
    exact List.append_nil _

/-- A computation whose value decides nothing is a check before what follows. -/
theorem bind_eq_asCheck_bind {x : Outcome ε α} {f : α → Outcome ε β} {y : Outcome ε β}
    (h : ∀ a, x.result = .ok a → f a = y) : x >>= f = x.asCheck >>= fun _ => y := by
  rw [asCheck, bind_assoc]
  refine bind_congr fun a ha => ?_
  rw [value_bind, h a ha]

theorem forM_cons (a : α) (l : List α) (check : α → Outcome ε Unit) :
    (a :: l).forM check = check a >>= fun _ => l.forM check := rfl

theorem forM_of_passed {l : List α} {check : α → Outcome ε Unit}
    (h : ∀ a ∈ l, (check a).result = .ok ()) :
    l.forM check = ⟨l.flatMap fun a => (check a).events, .ok ()⟩ := by
  induction l with
  | nil => rfl
  | cons a l ih =>
    rw [forM_cons, bind_of_ok (h a List.mem_cons_self),
      ih fun b hb => h b (List.mem_cons_of_mem a hb)]
    rfl

/-- Of checks in a row the first that fails is the last that is made. -/
theorem forM_of_failed {before after : List α} {a : α} {check : α → Outcome ε Unit} {e : ε}
    (hpassed : ∀ b ∈ before, (check b).result = .ok ()) (hfailed : (check a).result = .error e) :
    (before ++ a :: after).forM check =
      ⟨(before ++ [a]).flatMap fun b => (check b).events, .error e⟩ := by
  induction before with
  | nil =>
    rw [List.nil_append, forM_cons, bind_of_error hfailed, List.nil_append, List.flatMap_singleton]
  | cons b before ih =>
    rw [List.cons_append, forM_cons, bind_of_ok (hpassed b List.mem_cons_self),
      ih fun c hc => hpassed c (List.mem_cons_of_mem b hc)]
    rfl

/-- Checks in a row fail with the first that does. -/
theorem of_forM_eq_error {l : List α} {check : α → Outcome ε Unit} {e : ε}
    (h : (l.forM check).result = .error e) :
    ∃ before a after, l = before ++ a :: after ∧ (∀ b ∈ before, (check b).result = .ok ()) ∧
      (check a).result = .error e := by
  induction l with
  | nil => cases h
  | cons a l ih =>
    rw [forM_cons] at h
    obtain h | ⟨u, hpassed, h⟩ := result_bind_eq_error_iff.mp h
    · exact ⟨[], a, l, rfl, List.forall_mem_nil _, h⟩
    · obtain ⟨before, b, after, rfl, hbefore, hfailed⟩ := ih h
      exact ⟨a :: before, b, after, rfl, List.forall_mem_cons.mpr ⟨hpassed, hbefore⟩, hfailed⟩

end Outcome

end LinePipe
