import Boundary.Proofs.Fallible
import Boundary.Wire.Reader

/-!
# Readers and their cursors

A reader looks at no byte before the position of its cursor, moves the cursor on by no more bytes
than are left, and is not aborted. What it does at a position is therefore what it does at the
beginning of the bytes that are left, as if these were a list that it takes from.

* `Wire.Sound`: this about a reader. `sound_take` and `sound_finish` are the two steps that look at
  the cursor; readers that are put together of sound ones are sound.
* `Wire.ReaderOf.resume_eq`: what a sound reader does at a position.
* `Wire.ReaderOf.run_bind`: two readers in a row, by the bytes that the first one leaves.
* `Wire.ReaderOf.run_bind_eq_ok_iff`, `Wire.ReaderOf.run_bind_eq_error_iff` and their siblings: how
  readers succeed and fail.
-/

namespace Boundary.Wire

variable {ε α β : Type}

/-! ## Sound readers -/

/-- A reader that goes by the bytes behind its position: these tell its result, and by how many of
them `pos` moves on. It is not aborted. -/
class Sound (x : ReaderOf ε α) : Prop where
  exists_resume : ∀ rest : List UInt8, ∃ result, ∃ n ≤ rest.length, ∀ front,
    x.resume ⟨front ++ rest, front.length⟩ = some (result, ⟨front ++ rest, front.length + n⟩)

theorem ReaderOf.resume_bind (x : ReaderOf ε α) (f : α → ReaderOf ε β) (c : Cursor) :
    (x >>= f).resume c = (x.resume c).bind fun
      | (.ok a, c) => (f a).resume c
      | (.error e, c) => some (.error e, c) := by
  show ((ExceptT.run (x >>= f)).run c : Option (Except ε β × Cursor)) = _
  rw [ExceptT.run_bind, StateT.run_bind]
  show (x.resume c).bind _ = _
  cases x.resume c with
  | none => rfl
  | some outcome =>
    obtain ⟨result, c⟩ := outcome
    cases result <;> rfl

instance sound_pure (a : α) : Sound (pure a : ReaderOf ε α) :=
  ⟨fun _ => ⟨.ok a, 0, Nat.zero_le _, fun _ => rfl⟩⟩

instance sound_throw (e : ε) : Sound (throw e : ReaderOf ε α) :=
  ⟨fun _ => ⟨.error e, 0, Nat.zero_le _, fun _ => rfl⟩⟩

/-- The reader `f a` goes on where `x` stops. -/
instance sound_bind (x : ReaderOf ε α) (f : α → ReaderOf ε β) [hx : Sound x]
    [hf : ∀ a, Sound (f a)] : Sound (x >>= f) := by
  refine ⟨fun rest => ?_⟩
  obtain ⟨result, n, hn, hfirst⟩ := hx.exists_resume rest
  cases result with
  | error e =>
    refine ⟨.error e, n, hn, fun front => ?_⟩
    rw [ReaderOf.resume_bind, hfirst front]
    rfl
  | ok a =>
    obtain ⟨result', n', hn', hsecond⟩ := (hf a).exists_resume (rest.drop n)
    rw [List.length_drop] at hn'
    refine ⟨result', n + n', by omega, fun front => ?_⟩
    have hsplit : front ++ rest = (front ++ rest.take n) ++ rest.drop n := by
      rw [List.append_assoc, List.take_append_drop]
    have hlength : (front ++ rest.take n).length = front.length + n := by
      rw [List.length_append, List.length_take, Nat.min_eq_left hn]
    have hnext := hsecond (front ++ rest.take n)
    rw [← hsplit, hlength, Nat.add_assoc] at hnext
    rw [ReaderOf.resume_bind, hfirst front]
    exact hnext

instance sound_ite (p : Prop) [Decidable p] (x y : ReaderOf ε α) [hx : Sound x] [hy : Sound y] :
    Sound (if p then x else y) := by
  split
  · exact hx
  · exact hy

theorem ReaderOf.resume_adapt {ε' : Type} (x : ReaderOf ε α) (f : ε → ε') (c : Cursor) :
    ReaderOf.resume (x.adapt f : ReaderOf ε' α) c =
      (x.resume c).map fun (result, c) => (result.mapError f, c) := by
  show ((ExceptT.run (x.adapt f)).run c : Option (Except ε' α × Cursor)) = _
  rw [ExceptT.run_adapt, StateT.run_map]
  rfl

instance sound_adapt {ε' : Type} (x : ReaderOf ε α) (f : ε → ε') [hx : Sound x] :
    Sound (x.adapt f : ReaderOf ε' α) := by
  refine ⟨fun rest => ?_⟩
  obtain ⟨result, n, hn, hresume⟩ := hx.exists_resume rest
  refine ⟨result.mapError f, n, hn, fun front => ?_⟩
  rw [ReaderOf.resume_adapt, hresume front]
  rfl

/-! ## The steps -/

theorem remaining?_append (front rest : List UInt8) :
    Cursor.remaining? ⟨front ++ rest, front.length⟩ = some rest.length := by
  rw [Cursor.remaining?, List.length_append, if_pos (Nat.le_add_right _ _), Nat.add_sub_cancel_left]

private theorem slice?_append {front rest : List UInt8} {needed : Nat} (h : needed ≤ rest.length) :
    Cursor.slice? ⟨front ++ rest, front.length⟩ front.length (front.length + needed) =
      some (rest.take needed) := by
  rw [Cursor.slice?, if_pos ⟨Nat.le_add_right _ _, by simpa using h⟩, List.drop_left,
    Nat.add_sub_cancel_left]

private theorem resume_get_bind (f : Cursor → ReaderOf ε β) (c : Cursor) :
    ((get : ReaderOf ε Cursor) >>= f).resume c = (f c).resume c := rfl

private theorem resume_lift_bind {o : Option α} {a : α} (h : o = some a) (f : α → ReaderOf ε β)
    (c : Cursor) : ((liftM o : ReaderOf ε α) >>= f).resume c = (f a).resume c := by
  subst h
  rfl

/-- **What `take` does**: neither does the subtraction underflow nor is the slice out of bounds. -/
theorem resume_take (needed : Nat) (front rest : List UInt8) :
    (take needed).resume ⟨front ++ rest, front.length⟩ =
      if needed ≤ rest.length then
        some (.ok (rest.take needed), ⟨front ++ rest, front.length + needed⟩)
      else some (.error (.unexpectedEnd needed rest.length), ⟨front ++ rest, front.length⟩) := by
  rw [take, resume_get_bind, resume_lift_bind (remaining?_append front rest)]
  by_cases hle : needed ≤ rest.length
  · rw [if_pos hle, if_neg (Nat.not_lt.mpr hle), resume_lift_bind (slice?_append hle)]
    rfl
  · rw [if_neg hle, if_pos (Nat.not_le.mp hle)]
    rfl

/-- What `finish` does. -/
theorem resume_finish (front rest : List UInt8) :
    finish.resume ⟨front ++ rest, front.length⟩ =
      some (if rest.length = 0 then .ok () else .error (.trailingBytes rest.length),
        ⟨front ++ rest, front.length⟩) := by
  rw [finish, resume_get_bind, resume_lift_bind (remaining?_append front rest)]
  split <;> rfl

instance sound_take (needed : Nat) : Sound (take needed) := by
  refine ⟨fun rest => ?_⟩
  by_cases hle : needed ≤ rest.length
  · exact ⟨_, needed, hle, fun front => by rw [resume_take, if_pos hle]⟩
  · exact ⟨_, 0, Nat.zero_le _, fun front => by rw [resume_take, if_neg hle]; rfl⟩

instance sound_finish : Sound finish :=
  ⟨fun rest => ⟨_, 0, Nat.zero_le _, fun front => resume_finish front rest⟩⟩

/-! ## Readers of items -/

instance sound_readWord (size : Nat) : Sound (readWord size) := sound_bind _ _

instance sound_flagOf (fault : UInt8 → WireError) (w : Nat) : Sound (flagOf fault w) := by
  unfold flagOf
  split <;> infer_instance

instance sound_readFlag (fault : UInt8 → WireError) : Sound (readFlag fault) := sound_bind _ _

instance sound_readPrimitive (p : Primitive) : Sound (readPrimitive p) := by
  cases p <;> exact sound_bind _ _

instance sound_readPresence : Sound readPresence := sound_readFlag _

instance sound_readHandle : Sound readHandle := sound_bind _ _

instance sound_textOf (bytes : List UInt8) : Sound (textOf bytes) := by
  unfold textOf
  split <;> infer_instance

instance sound_readText : Sound readText := sound_bind _ _

instance sound_read (kind : ItemKind) : Sound (read kind) := by
  cases kind <;> exact sound_bind _ _

/-! ## Reading bytes from their beginning -/

namespace ReaderOf

variable [Inhabited ε] {x : ReaderOf ε α} {bytes rest : List UInt8}

theorem run_of_resume {result : Except ε α} {c : Cursor}
    (h : x.resume { bytes } = some (result, c)) : x.run bytes = (result, c.bytes.drop c.pos) := by
  rw [run, h]

/-- **What a `Sound` reader does at a position** is what `run` does with the bytes behind it. -/
theorem resume_eq (x : ReaderOf ε α) [hx : Sound x] (rest : List UInt8) :
    ∃ n ≤ rest.length, (x.run rest).2 = rest.drop n ∧ ∀ front,
      x.resume ⟨front ++ rest, front.length⟩ =
        some ((x.run rest).1, ⟨front ++ rest, front.length + n⟩) := by
  obtain ⟨result, n, hn, hresume⟩ := hx.exists_resume rest
  have hrun : x.run rest = (result, rest.drop n) := by
    have hstart := hresume []
    rw [List.nil_append, List.length_nil, Nat.zero_add] at hstart
    exact run_of_resume hstart
  exact ⟨n, hn, by rw [hrun], fun front => by rw [hrun]; exact hresume front⟩

theorem run_take (needed : Nat) (bytes : List UInt8) :
    (take needed).run bytes =
      if needed ≤ bytes.length then (.ok (bytes.take needed), bytes.drop needed)
      else (.error (.unexpectedEnd needed bytes.length), bytes) := by
  have hresume := resume_take needed [] bytes
  rw [List.nil_append, List.length_nil, Nat.zero_add] at hresume
  by_cases hle : needed ≤ bytes.length
  · rw [if_pos hle] at hresume ⊢
    exact run_of_resume hresume
  · rw [if_neg hle] at hresume ⊢
    exact run_of_resume hresume

theorem run_finish (bytes : List UInt8) : finish.run bytes =
    (if bytes.length = 0 then .ok () else .error (.trailingBytes bytes.length), bytes) :=
  run_of_resume (resume_finish [] bytes)

theorem run_adapt {ε' : Type} [Inhabited ε'] (x : ReaderOf ε α) (f : ε → ε') [Sound x]
    (bytes : List UInt8) : ReaderOf.run (x.adapt f : ReaderOf ε' α) bytes =
      ((x.run bytes).1.mapError f, (x.run bytes).2) := by
  obtain ⟨n, -, hrest, hresume⟩ := resume_eq x bytes
  have hstart := hresume []
  have hadapt := resume_adapt x f ⟨[] ++ bytes, 0⟩
  rw [List.length_nil, Nat.zero_add] at hstart
  rw [hstart] at hadapt
  rw [hrest]
  exact run_of_resume hadapt

/-- Of two readers in a row the second one goes on with the bytes that `run` leaves of the first
one. -/
theorem run_bind (x : ReaderOf ε α) (f : α → ReaderOf ε β) [Sound x] [hf : ∀ a, Sound (f a)]
    (bytes : List UInt8) :
    (x >>= f).run bytes =
      match x.run bytes with
      | (.ok a, rest) => (f a).run rest
      | (.error e, rest) => (.error e, rest) := by
  obtain ⟨n, hn, hrest, hfirst⟩ := resume_eq x bytes
  have hstart := hfirst []
  rw [List.nil_append, List.length_nil, Nat.zero_add] at hstart
  have hbind := resume_bind x f { bytes }
  rw [hstart] at hbind
  generalize x.run bytes = outcome at hrest hbind ⊢
  obtain ⟨result, rest⟩ := outcome
  obtain rfl : rest = bytes.drop n := hrest
  cases result with
  | error e => exact run_of_resume hbind
  | ok a =>
    obtain ⟨n', -, hleft, hsecond⟩ := resume_eq (f a) (bytes.drop n)
    have hnext := hsecond (bytes.take n)
    rw [List.take_append_drop, List.length_take, Nat.min_eq_left hn] at hnext
    refine (run_of_resume (hbind.trans hnext)).trans (Prod.ext rfl ?_)
    rw [hleft, List.drop_drop]

/-! ## How readers succeed and fail -/

theorem run_pure_eq_ok_iff {a b : α} :
    (pure a : ReaderOf ε α).run bytes = (.ok b, rest) ↔ a = b ∧ bytes = rest := by
  constructor
  · intro h
    cases h
    exact ⟨rfl, rfl⟩
  · rintro ⟨rfl, rfl⟩
    rfl

theorem run_throw_ne_ok {e : ε} {b : α} :
    (throw e : ReaderOf ε α).run bytes ≠ (.ok b, rest) := by
  intro h
  cases h

theorem run_pure_ne_error {a : α} {e : ε} :
    (pure a : ReaderOf ε α).run bytes ≠ (.error e, rest) := by
  intro h
  cases h

theorem run_throw_eq_error_iff {e e' : ε} :
    (throw e : ReaderOf ε α).run bytes = (.error e', rest) ↔ e = e' ∧ bytes = rest := by
  constructor
  · intro h
    cases h
    exact ⟨rfl, rfl⟩
  · rintro ⟨rfl, rfl⟩
    rfl

/-- Two readers in a row succeed exactly if both do. -/
theorem run_bind_eq_ok_iff {f : α → ReaderOf ε β} [Sound x] [∀ a, Sound (f a)] {b : β} :
    (x >>= f).run bytes = (.ok b, rest) ↔
      ∃ a m, x.run bytes = (.ok a, m) ∧ (f a).run m = (.ok b, rest) := by
  rw [run_bind]
  have h := Fallible.outcome_bind_eq_ok_iff (x.run bytes) (fun a m => (f a).run m)
    (b := b) (t := rest)
  generalize x.run bytes = outcome at h ⊢
  obtain ⟨r, m⟩ := outcome
  cases r <;> exact h

theorem run_bind_eq_error_iff {f : α → ReaderOf ε β} [Sound x] [∀ a, Sound (f a)] {e : ε} :
    (x >>= f).run bytes = (.error e, rest) ↔
      x.run bytes = (.error e, rest) ∨
        ∃ a m, x.run bytes = (.ok a, m) ∧ (f a).run m = (.error e, rest) := by
  rw [run_bind]
  have h := Fallible.outcome_bind_eq_error_iff (x.run bytes) (fun a m => (f a).run m) (e := e)
    (t := rest)
  generalize x.run bytes = outcome at h ⊢
  obtain ⟨r, m⟩ := outcome
  cases r <;> exact h

end ReaderOf

end Boundary.Wire
