import Boundary.Proofs.Handle.Run

/-!
# Accessors of a handle table

A value is looked up in two ways: `get` reads it in its slot, and `take` and `remove` detach it from
the slot. Both ways lead to the same value or to none. The errors are not the same, though:
detaching does not say why it found nothing, and so `take` calls the null handle a stale one.

* `HandleTable.get_eq_ok_iff_find?`: when `get` gives a value, in tables in any state.
* `HandleTable.take_of_get_eq_ok`, `HandleTable.take_of_get_eq_error`: `take` succeeds with `get`.
* `HandleTable.remove_of_get_eq_ok`, `HandleTable.remove_of_get_eq_error`: so does `remove`.
* `HandleTable.Shares`: the accessors have one outcome for a handle.
* `HandleTable.shares_iff`: they have one for every handle but the null handle.
-/

namespace Boundary

/-- The error that fits a handle `h` without a value. -/
def Handle.refusal (h : Handle) : HandleError := if h = 0 then .null else .stale h

namespace HandleTable

variable {α : Type} {t : HandleTable α} {h : Handle}

/-! ## Values that are found and detached -/

/-- `get` gives what `find?` finds, unless `h` is the null handle. -/
theorem get_eq_ok_iff_find? {a : α} : t.get h = .ok a ↔ h ≠ 0 ∧ t.find? h = some a := by
  unfold get
  split
  · simp [*]
  · cases t.find? h <;> simp [*]

private theorem eq_refusal_of_get_eq_error {e : HandleError} (he : t.get h = .error e) :
    e = h.refusal := by
  unfold get at he
  unfold Handle.refusal
  grind

/-- `take` gives what `get` gives, and the table that `remove` leaves. -/
theorem take_of_get_eq_ok {a : α} (ha : t.get h = .ok a) : t.take h = .ok (a, (t.remove h).2) := by
  obtain ⟨hne, hfind⟩ := get_eq_ok_iff_find?.mp ha
  simp [take, remove, detach_eq_map_find?, hne, hfind]

theorem take_of_get_eq_error {e : HandleError} (he : t.get h = .error e) :
    t.take h = .error (.stale h) := by
  unfold get at he
  rw [take, detach_eq_map_find?]
  split at he
  · simp [*]
  · split at he
    · cases he
    · simp [*]

theorem remove_of_get_eq_ok {a : α} (ha : t.get h = .ok a) : t.remove h = (true, t.vacate h) := by
  obtain ⟨hne, hfind⟩ := get_eq_ok_iff_find?.mp ha
  simp [remove, detach_eq_map_find?, vacate, hne, hfind]

/-- `remove` is in vain where `get` fails. -/
theorem remove_of_get_eq_error {e : HandleError} (he : t.get h = .error e) :
    t.remove h = (false, t) := by
  have htake := take_of_get_eq_error he
  unfold take at htake
  unfold remove
  cases hd : t.detach h with
  | none => rfl
  | some r =>
    rw [hd] at htake
    cases htake

/-! ## One outcome for all accessors -/

/-- The accessors have one `outcome` for the handle `h`: `get`, `getCloned` and `take` give the same
value, and `remove` finds something, or each of them fails with the `refusal` of the handle, and
there is nothing to remove. -/
structure Shares (t : HandleTable α) (h : Handle) (outcome : Except HandleError α) : Prop where
  get : (t.call (.get h)).1 = .value outcome
  getCloned : (t.call (.getCloned h)).1 = .value outcome
  take : (t.call (.take h)).1 = .value outcome
  remove : (t.call (.remove h)).1 = .removed outcome.isOk
  eq_refusal : ∀ e, outcome = .error e → e = h.refusal

theorem shares_get (hne : h ≠ 0) : t.Shares h (t.get h) := by
  cases hget : t.get h with
  | ok a =>
    refine ⟨?_, ?_, ?_, ?_, ?_⟩
    · rw [call, hget]
    · rw [call, hget]
    · rw [call_take_fst, take_of_get_eq_ok hget]
      rfl
    · rw [call, remove_of_get_eq_ok hget]
      rfl
    · intro e he
      cases he
  | error e =>
    obtain rfl : e = .stale h := by
      rw [eq_refusal_of_get_eq_error hget, Handle.refusal, if_neg hne]
    refine ⟨?_, ?_, ?_, ?_, ?_⟩
    · rw [call, hget]
    · rw [call, hget]
    · rw [call_take_fst, take_of_get_eq_error hget]
      rfl
    · rw [call, remove_of_get_eq_error hget]
      rfl
    · intro e he
      cases he
      exact eq_refusal_of_get_eq_error hget

/-- The null handle is refused as the null handle by `get`, and as a stale one by `take`. -/
theorem not_shares_zero (outcome : Except HandleError α) : ¬ t.Shares 0 outcome := by
  intro hshares
  have hget : HandleReply.value (.error .null) = HandleReply.value outcome := hshares.get
  have htake : HandleReply.value (.error (.stale 0)) = HandleReply.value outcome := hshares.take
  rw [← hget] at htake
  cases htake

/-- **The accessors of a table have one outcome for every handle but the null handle.** In any
state of the table and for any handle, the null handle included, there is something to remove
exactly if there is something to get, and to take; and what is got or fails changes nothing. -/
theorem shares_iff (t : HandleTable α) (h : Handle) :
    ((∃ outcome, t.Shares h outcome) ↔ h ≠ 0) ∧
    ((t.call (.remove h)).1 = .removed true ↔ ∃ a, (t.call (.get h)).1 = .value (.ok a)) ∧
    ((t.call (.remove h)).1 = .removed true ↔ ∃ a, (t.call (.take h)).1 = .value (.ok a)) ∧
    ((t.call (.get h)).2 = t ∧ (t.call (.getCloned h)).2 = t) ∧
    (∀ c, (t.call c).1.Failed → (t.call c).2 = t) := by
  refine ⟨⟨?_, ?_⟩, ?_, ?_, ⟨rfl, rfl⟩, fun c => call_snd_of_failed t⟩
  · rintro ⟨outcome, hshares⟩ rfl
    exact not_shares_zero outcome hshares
  · intro hne
    exact ⟨_, shares_get hne⟩
  · rw [call, call]
    cases hget : t.get h with
    | ok a => simp [remove_of_get_eq_ok hget]
    | error e => simp [remove_of_get_eq_error hget]
  · rw [call_take_fst, call]
    cases hget : t.get h with
    | ok a => simp [remove_of_get_eq_ok hget, take_of_get_eq_ok hget, Except.map]
    | error e => simp [remove_of_get_eq_error hget, take_of_get_eq_error hget, Except.map]

/-- A handle whose slot has been used again, and the one in use now. -/
theorem shares_iff_reused_slot :
    let t := ({} : HandleTable String).after [.insert "a", .remove 0x100000000, .insert "b"]
    (∃ outcome, t.Shares 0x100000000 outcome) ∧ (∃ outcome, t.Shares 0x200000000 outcome) ∧
      ((t.call (.take 0x100000000)).1.Failed ∧ (t.call (.take 0x100000000)).2 = t) ∧
      (t.call (.remove 0x200000000)).1 = .removed true ∧
      ∃ a, (t.call (.take 0x200000000)).1 = .value (.ok a) := by
  intro t
  obtain ⟨hstale, -, -, -, hfailed⟩ := shares_iff t 0x100000000
  obtain ⟨hlive, -, htake, -, -⟩ := shares_iff t 0x200000000
  have hfails : (t.call (.take 0x100000000)).1.Failed := by
    rw [show (t.call (.take 0x100000000)).1 = .value (.error (.stale 0x100000000)) by
      decide +kernel]
    trivial
  have hremoved : (t.call (.remove 0x200000000)).1 = .removed true := by decide +kernel
  exact ⟨hstale.mpr (by decide), hlive.mpr (by decide), ⟨hfails, hfailed _ hfails⟩, hremoved,
    htake.mp hremoved⟩

/-- The accessors have no common outcome for the null handle, be the table empty or not. -/
theorem not_shares_null :
    (¬ ∃ outcome, ({} : HandleTable String).Shares 0 outcome) ∧
      ¬ ∃ outcome, (({} : HandleTable String).after [.insert "a"]).Shares 0 outcome :=
  ⟨fun ⟨outcome, hshares⟩ => not_shares_zero outcome hshares,
    fun ⟨outcome, hshares⟩ => not_shares_zero outcome hshares⟩

end HandleTable

end Boundary
