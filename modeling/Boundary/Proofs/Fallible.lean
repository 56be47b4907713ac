/-!
# Computations that change a state and may fail

Laws of `ExceptT ε (StateM σ)`, the shape of readers and of the bodies of entry points.

* `run_pure_eq_ok_iff`, `run_throw_ne_ok`: how the two simplest computations end.
* `run_bind`: a failure of the first of two parts keeps the state that it was reached with.
* `run_bind_eq_ok_iff`: a computation in two parts succeeds exactly if both parts do, the second
  one from the state that the first one leaves.
* `run_tryCatch_eq_ok_iff`: a computation with a handler succeeds if one of them does.
* `run_liftM_eq_ok_iff`: a computation that cannot fail succeeds.
* `run_bind_eq_error_iff`, `run_tryCatch_eq_error_iff`, `run_adapt_eq_error_iff`: how a computation
  fails.
* `Keeps`: what a computation does to the state, whether it fails or not.
* `bind_eq_ok_iff`, `bind_eq_error_iff`, `map_eq_ok_iff`, `toOption_eq_some_iff`: the same for
  computations without a state.
-/

namespace Boundary.Fallible

variable {ε σ α β : Type}

theorem run_pure_eq_ok_iff {a b : α} {s t : σ} :
    (pure a : ExceptT ε (StateM σ) α).run s = (.ok b, t) ↔ a = b ∧ s = t := by
  constructor
  · intro h
    cases h
    exact ⟨rfl, rfl⟩
  · rintro ⟨rfl, rfl⟩
    rfl

theorem run_throw_ne_ok {e : ε} {b : α} {s t : σ} :
    (throw e : ExceptT ε (StateM σ) α).run s ≠ (.ok b, t) := by
  intro h
  cases h

theorem run_bind (x : ExceptT ε (StateM σ) α) (f : α → ExceptT ε (StateM σ) β) (s : σ) :
    (x >>= f).run s =
      match x.run s with
      | (.ok a, m) => (f a).run m
      | (.error e, m) => (.error e, m) := by
  show (match x.run s with
    | (r, m) => ExceptT.bindCont f r m) = _
  obtain ⟨r, m⟩ : Except ε α × σ := x.run s
  cases r <;> rfl

/-- What goes on where a computation has succeeded succeeds if both do. -/
theorem outcome_bind_eq_ok_iff (outcome : Except ε α × σ) (f : α → σ → Except ε β × σ) {b : β}
    {t : σ} :
    (match outcome with
      | (.ok a, m) => f a m
      | (.error e, m) => (.error e, m)) = (.ok b, t) ↔
      ∃ a m, outcome = (.ok a, m) ∧ f a m = (.ok b, t) := by
  obtain ⟨r, m⟩ := outcome
  cases r with
  | ok a =>
    refine ⟨fun h => ⟨a, m, rfl, h⟩, ?_⟩
    rintro ⟨_, _, h, h'⟩
    cases h
    exact h'
  | error e =>
    constructor
    · intro h
      cases h
    · rintro ⟨_, _, h, -⟩
      cases h

theorem run_bind_eq_ok_iff {x : ExceptT ε (StateM σ) α} {f : α → ExceptT ε (StateM σ) β} {b : β}
    {s t : σ} :
    (x >>= f).run s = (.ok b, t) ↔ ∃ a m, x.run s = (.ok a, m) ∧ (f a).run m = (.ok b, t) := by
  rw [run_bind]
  exact outcome_bind_eq_ok_iff (x.run s) fun a m => (f a).run m

theorem run_tryCatch (x : ExceptT ε (StateM σ) α) (f : ε → ExceptT ε (StateM σ) α) (s : σ) :
    (tryCatch x f).run s =
      match x.run s with
      | (.ok a, m) => (.ok a, m)
      | (.error e, m) => (f e).run m := by
  show StateT.run (tryCatch x f).run s =
    match StateT.run x.run s with
    | (.ok a, m) => (.ok a, m)
    | (.error e, m) => (f e).run m
  rw [ExceptT.run_tryCatch, StateT.run_bind]
  obtain ⟨r, m⟩ : Except ε α × σ := StateT.run x.run s
  cases r <;> rfl

theorem run_tryCatch_eq_ok_iff {x : ExceptT ε (StateM σ) α} {f : ε → ExceptT ε (StateM σ) α} {b : α}
    {s t : σ} :
    (tryCatch x f).run s = (.ok b, t) ↔
      x.run s = (.ok b, t) ∨ ∃ e m, x.run s = (.error e, m) ∧ (f e).run m = (.ok b, t) := by
  rw [run_tryCatch]
  obtain ⟨r, m⟩ : Except ε α × σ := x.run s
  cases r with
  | ok a =>
    refine ⟨fun h => .inl h, ?_⟩
    rintro (h | ⟨_, _, h, -⟩)
    · exact h
    · cases h
  | error e =>
    refine ⟨fun h => .inr ⟨e, m, rfl, h⟩, ?_⟩
    rintro (h | ⟨_, _, h, h'⟩)
    · cases h
    · cases h
      exact h'

theorem run_liftM_eq_ok_iff {x : StateM σ α} {b : α} {s t : σ} :
    (liftM x : ExceptT ε (StateM σ) α).run s = (.ok b, t) ↔ x.run s = (b, t) := by
  have hrun : (liftM x : ExceptT ε (StateM σ) α).run s = (.ok (x.run s).1, (x.run s).2) := rfl
  rw [hrun]
  constructor
  · intro h
    cases h
    rfl
  · intro h
    rw [h]

/-! ## Failures -/

section Failures

variable {e e' : ε} {s t : σ}

theorem run_pure_ne_error {a : α} :
    (pure a : ExceptT ε (StateM σ) α).run s ≠ (.error e, t) := by
  intro h
  cases h

theorem run_throw_eq_error_iff :
    (throw e : ExceptT ε (StateM σ) α).run s = (.error e', t) ↔ e = e' ∧ s = t := by
  constructor
  · intro h
    cases h
    exact ⟨rfl, rfl⟩
  · rintro ⟨rfl, rfl⟩
    rfl

/-- What goes on where a computation has succeeded fails if one of them does. -/
theorem outcome_bind_eq_error_iff (outcome : Except ε α × σ) (f : α → σ → Except ε β × σ) :
    (match outcome with
      | (.ok a, m) => f a m
      | (.error e, m) => (.error e, m)) = (.error e, t) ↔
      outcome = (.error e, t) ∨ ∃ a m, outcome = (.ok a, m) ∧ f a m = (.error e, t) := by
  obtain ⟨r, m⟩ := outcome
  cases r with
  | ok a =>
    refine ⟨fun h => .inr ⟨a, m, rfl, h⟩, ?_⟩
    rintro (h | ⟨_, _, h, h'⟩)
    · cases h
    · cases h
      exact h'
  | error e₁ =>
    constructor
    · intro h
      cases h
      exact .inl rfl
    · rintro (h | ⟨_, _, h, -⟩)
      · cases h
        rfl
      · cases h

theorem run_bind_eq_error_iff {x : ExceptT ε (StateM σ) α} {f : α → ExceptT ε (StateM σ) β} :
    (x >>= f).run s = (.error e, t) ↔
      x.run s = (.error e, t) ∨ ∃ a m, x.run s = (.ok a, m) ∧ (f a).run m = (.error e, t) := by
  rw [run_bind]
  exact outcome_bind_eq_error_iff (x.run s) fun a m => (f a).run m

theorem run_liftM_bind_eq_error_iff {x : StateM σ α} {f : α → ExceptT ε (StateM σ) β} :
    ((liftM x : ExceptT ε (StateM σ) α) >>= f).run s = (.error e, t) ↔
      (f (x.run s).1).run (x.run s).2 = (.error e, t) := by
  rw [run_bind]
  exact Iff.rfl

/-- A computation with a handler fails if the handler does. -/
theorem run_tryCatch_eq_error_iff {x : ExceptT ε (StateM σ) α}
    {f : ε → ExceptT ε (StateM σ) α} :
    (tryCatch x f).run s = (.error e, t) ↔
      ∃ e' m, x.run s = (.error e', m) ∧ (f e').run m = (.error e, t) := by
  rw [run_tryCatch]
  obtain ⟨r, m⟩ : Except ε α × σ := x.run s
  cases r with
  | ok a =>
    constructor
    · intro h
      cases h
    · rintro ⟨_, _, h, -⟩
      cases h
  | error e₁ =>
    refine ⟨fun h => ⟨e₁, m, rfl, h⟩, ?_⟩
    rintro ⟨_, _, h, h'⟩
    cases h
    exact h'

theorem run_adapt {ε' : Type} (x : ExceptT ε (StateM σ) α) (f : ε → ε') (s : σ) :
    (x.adapt f).run s =
      match x.run s with
      | (.ok a, m) => (.ok a, m)
      | (.error e, m) => (.error (f e), m) := by
  show (match x.run s with
    | (r, m) => (r.mapError f, m)) = _
  obtain ⟨r, m⟩ : Except ε α × σ := x.run s
  cases r <;> rfl

theorem run_adapt_of_ok {ε' : Type} {x : ExceptT ε (StateM σ) α} {a : α}
    (h : x.run s = (.ok a, t)) (f : ε → ε') : (x.adapt f).run s = (.ok a, t) := by
  rw [run_adapt, h]

theorem run_adapt_eq_error_iff {ε' : Type} {x : ExceptT ε (StateM σ) α} {f : ε → ε'} {e : ε'} :
    (x.adapt f).run s = (.error e, t) ↔ ∃ e₁, x.run s = (.error e₁, t) ∧ f e₁ = e := by
  rw [run_adapt]
  obtain ⟨r, m⟩ : Except ε α × σ := x.run s
  cases r with
  | ok a =>
    constructor
    · intro h
      cases h
    · rintro ⟨_, h, -⟩
      cases h
  | error e₁ =>
    constructor
    · intro h
      cases h
      exact ⟨e₁, rfl, rfl⟩
    · rintro ⟨_, h, rfl⟩
      cases h
      rfl

end Failures

/-! ## What a computation does to the state -/

/-- The state that a computation leaves, whether it fails or not, is related to the one that it
starts from. -/
def Keeps (R : σ → σ → Prop) (x : ExceptT ε (StateM σ) α) : Prop := ∀ s, R s (x.run s).2

section Keeps

variable {R : σ → σ → Prop}

theorem keeps_of_eq {x : ExceptT ε (StateM σ) α} (hrefl : ∀ s, R s s)
    (h : ∀ s, (x.run s).2 = s) : Keeps R x := by
  intro s
  rw [h s]
  exact hrefl s

theorem keeps_bind {x : ExceptT ε (StateM σ) α} {f : α → ExceptT ε (StateM σ) β}
    (htrans : ∀ {s t u}, R s t → R t u → R s u) (hx : Keeps R x) (hf : ∀ a, Keeps R (f a)) :
    Keeps R (x >>= f) := by
  intro s
  have hfirst := hx s
  rw [run_bind]
  generalize x.run s = outcome at hfirst ⊢
  obtain ⟨r, m⟩ : Except ε α × σ := outcome
  cases r with
  | ok a => exact htrans hfirst (hf a m)
  | error e => exact hfirst

theorem keeps_tryCatch {x : ExceptT ε (StateM σ) α} {f : ε → ExceptT ε (StateM σ) α}
    (htrans : ∀ {s t u}, R s t → R t u → R s u) (hx : Keeps R x) (hf : ∀ e, Keeps R (f e)) :
    Keeps R (tryCatch x f) := by
  intro s
  have hfirst := hx s
  rw [run_tryCatch]
  generalize x.run s = outcome at hfirst ⊢
  obtain ⟨r, m⟩ : Except ε α × σ := outcome
  cases r with
  | ok a => exact hfirst
  | error e => exact htrans hfirst (hf e m)

end Keeps

theorem bind_eq_ok_iff {x : Except ε α} {f : α → Except ε β} {b : β} :
    (x >>= f) = .ok b ↔ ∃ a, x = .ok a ∧ f a = .ok b := by
  cases x with
  | ok a => simp [bind, Except.bind]
  | error e => simp [bind, Except.bind]

theorem bind_eq_error_iff {x : Except ε α} {f : α → Except ε β} {e : ε} :
    (x >>= f) = .error e ↔ x = .error e ∨ ∃ a, x = .ok a ∧ f a = .error e := by
  cases x with
  | ok a => simp [bind, Except.bind]
  | error e => simp [bind, Except.bind]

theorem map_eq_ok_iff {x : Except ε α} {f : α → β} {b : β} :
    x.map f = .ok b ↔ ∃ a, x = .ok a ∧ f a = b := by
  cases x with
  | ok a => simp [Except.map]
  | error e => simp [Except.map]

theorem toOption_eq_some_iff {x : Except ε α} {a : α} : x.toOption = some a ↔ x = .ok a := by
  cases x <;> simp [Except.toOption]

end Boundary.Fallible
