import Mathlib.Data.List.Induction
import Mathlib.Data.List.Perm.Lattice
import Mathlib.Order.Bounds.Basic
import Boundary.Proofs.Handle.Run

/-!
# What a handle table records of itself

A table keeps three things that could come apart: the slots, the indices of the vacant slots and the
number of values. They never do, however long a run is and whatever handles it is given, also when
the generations of a slot come round.

* `HandleTable.occupied`: the number of slots that hold a value.
* `HandleTable.population`: the number of values that a past has put in and not released.
* `HandleTable.Counts`: the records of a table fit its slots and its past.
* `HandleTable.Counts.call`, `HandleTable.Counts.after`: they do so after every call.
* `HandleTable.Counts.length_slots_call`: a slot is added only if all others are occupied.
* `HandleTable.records_of_run`: what holds after every run; the number of slots is the greatest
  population of the run.
-/

namespace Boundary

namespace HandleTable

variable {α : Type} {t : HandleTable α} {past : List (HandleEvent α)} {e : HandleEvent α}

/-! ## Counting -/

/-- The number of `slots` that hold a value. -/
def occupied (t : HandleTable α) : Nat := t.slots.countP (·.value.isSome)

/-- How many values have been put in by the events of `past`. -/
def arrivals (past : List (HandleEvent α)) : Nat := past.countP (·.issued?.isSome)

/-- How many values have been released by the events of `past`. -/
def departures (past : List (HandleEvent α)) : Nat := past.countP (·.released?.isSome)

/-- The number of `arrivals` that are not among the `departures`. -/
def population (past : List (HandleEvent α)) : Nat := arrivals past - departures past

private theorem arrivals_snoc :
    arrivals (past ++ [e]) = arrivals past + e.issued?.isSome.toNat := by
  cases he : e.issued? <;> simp [arrivals, he]

private theorem departures_snoc :
    departures (past ++ [e]) = departures past + e.released?.isSome.toNat := by
  cases he : e.released? <;> simp [departures, he]

/-- Every slot is occupied, or it is one of `free`. -/
theorem WellFormed.length_slots (ht : t.WellFormed) :
    t.slots.length = t.occupied + t.free.length := by
  have hperm : t.free.Perm (t.slots.findIdxs (¬ ·.value.isSome)) := by
    rw [List.perm_ext_iff_of_nodup ht.nodup_free List.nodup_findIdxs]
    intro i
    rw [ht.mem_free_iff, List.mem_findIdxs_iff_exists_getElem_pos]
    constructor
    · rintro ⟨g, hg⟩
      obtain ⟨hi, hslot⟩ := List.getElem?_eq_some_iff.mp hg
      exact ⟨hi, by simp [hslot]⟩
    · rintro ⟨hi, hvalue⟩
      refine ⟨t.slots[i].generation, ?_⟩
      rw [List.getElem?_eq_getElem hi]
      cases hslot : t.slots[i] with
      | mk g value => cases value <;> simp_all
  rw [hperm.length_eq, List.length_findIdxs]
  exact List.length_eq_countP_add_countP _

theorem occupied_set {i : Nat} {slot : Slot α} (hi : t.slots[i]? = some slot) (slot' : Slot α) :
    (t.slots.set i slot').countP (·.value.isSome) + slot.value.isSome.toNat =
      t.occupied + slot'.value.isSome.toNat := by
  obtain ⟨hlt, rfl⟩ := List.getElem?_eq_some_iff.mp hi
  have hpos : t.slots[i].value.isSome = true → 0 < t.occupied := by
    intro h
    exact List.countP_pos_iff.mpr ⟨_, List.getElem_mem hlt, h⟩
  unfold occupied at hpos ⊢
  rw [List.countP_set hlt]
  cases h : t.slots[i].value.isSome <;> cases h' : slot'.value.isSome <;> simp_all

private theorem occupied_insert (ht : t.WellFormed) (a : α) :
    (t.insert a).2.occupied = t.occupied + 1 := by
  cases hfree : t.free with
  | nil => simp [insert, hfree, occupied]
  | cons i free =>
    obtain ⟨g, hg⟩ := (ht.mem_free_iff i).mp (by simp [hfree])
    have hset := occupied_set hg ⟨g, some a⟩
    simpa [insert, hfree, hg, occupied] using hset

theorem occupied_vacate {h : Handle} {a : α} (ha : t.find? h = some a) :
    (t.vacate h).occupied + 1 = t.occupied :=
  occupied_set (find?_eq_some_iff.mp ha) ⟨nextGeneration h.generation, none⟩

/-! ## Records that fit -/

/-- The records `free` and `live` of a table fit its slots and the `past` that has made it. -/
structure Counts (t : HandleTable α) (past : List (HandleEvent α)) : Prop extends t.WellFormed where
  live_eq : t.live = t.occupied
  arrivals_eq : arrivals past = t.live + departures past

theorem Counts.population_eq (ht : t.Counts past) : population past = t.live := by
  rw [population, ht.arrivals_eq]
  omega

theorem Counts.length_slots_eq (ht : t.Counts past) :
    t.slots.length = t.live + t.free.length := by
  rw [ht.live_eq]
  exact ht.length_slots

theorem Counts.empty : Counts ({} : HandleTable α) [] :=
  ⟨WellFormed.empty, rfl, rfl⟩

/-- What a call does to `live`. There is one to be taken away whenever one is. -/
theorem Counts.live_call (ht : t.Counts past) (c : HandleCall α) :
    (t.call c).2.live + (t.event c).released?.isSome.toNat =
      t.live + (t.event c).issued?.isSome.toNat := by
  rcases call_cases ht.toWellFormed c with ⟨a, hi, hr, hc⟩ | ⟨h, a, ha, hi, hr, hc⟩ | ⟨hi, hr, hc⟩
  · simp only [hi, hr, hc, insert]
    cases t.free <;> rfl
  · have hpos := occupied_vacate ha
    have hlive := ht.live_eq
    simp only [hi, hr, hc, vacate, Option.isSome_some, Option.isSome_none, Bool.toNat_true,
      Bool.toNat_false]
    omega
  · rw [hi, hr, hc]
    rfl

/-- **Each call keeps `Counts`.** -/
theorem Counts.call (ht : t.Counts past) (c : HandleCall α) :
    (t.call c).2.Counts (past ++ [t.event c]) := by
  have hlive := ht.live_call c
  refine ⟨ht.toWellFormed.call c, ?_, ?_⟩
  · have heq := ht.live_eq
    rcases call_cases ht.toWellFormed c with ⟨a, hi, hr, hc⟩ | ⟨h, a, ha, hi, hr, hc⟩ | ⟨hi, hr, hc⟩
    · have hocc := occupied_insert ht.toWellFormed a
      simp [hi, hr, hc] at hlive ⊢
      omega
    · have hocc := occupied_vacate ha
      simp [hi, hr, hc] at hlive ⊢
      omega
    · rw [hc, heq]
  · have harr := ht.arrivals_eq
    rw [arrivals_snoc, departures_snoc]
    omega

theorem Counts.after (ht : t.Counts past) (calls : List (HandleCall α)) :
    (t.after calls).Counts (past ++ t.trace calls) := by
  induction calls generalizing t past with
  | nil => simpa [HandleTable.after, trace] using ht
  | cons c calls ih => simpa [HandleTable.after, trace] using ih (ht.call c)

/-- A slot is added only if `live` has become greater than the number of slots. -/
theorem Counts.length_slots_call (ht : t.Counts past) (c : HandleCall α) :
    (t.call c).2.slots.length = max t.slots.length (t.call c).2.live := by
  have hlen := ht.length_slots_eq
  rcases call_cases ht.toWellFormed c with ⟨a, -, -, hc⟩ | ⟨h, a, ha, -, -, hc⟩ | ⟨-, -, hc⟩
  · rw [hc]
    unfold insert
    cases hfree : t.free <;> simp [hfree] at hlen ⊢ <;> omega
  · rw [hc]
    simp only [vacate, List.length_set]
    omega
  · rw [hc]
    omega

/-! ## Runs -/

/-- The number of slots is the greatest `population` of a beginning of the run. -/
theorem isGreatest_length_slots (calls : List (HandleCall α)) :
    IsGreatest {n | ∃ before, before <+: calls ∧ n = population (({} : HandleTable α).trace before)}
      (({} : HandleTable α).after calls).slots.length := by
  have hpop (before : List (HandleCall α)) : population (({} : HandleTable α).trace before) =
      (({} : HandleTable α).after before).live := (Counts.empty.after before).population_eq
  simp only [hpop]
  induction calls using List.reverseRecOn with
  | nil =>
    refine ⟨⟨[], List.prefix_refl _, rfl⟩, ?_⟩
    rintro n ⟨before, hbefore, rfl⟩
    rw [List.prefix_nil.mp hbefore]
    exact Nat.le_refl _
  | append_singleton calls c ih =>
    have hcall := (Counts.empty.after calls).length_slots_call c
    have hafter : ({} : HandleTable α).after (calls ++ [c]) =
        ((({} : HandleTable α).after calls).call c).2 := after_append {} calls [c]
    obtain ⟨⟨peak, hpeak, hlen⟩, hbound⟩ := ih
    rw [← hafter] at hcall
    constructor
    · rcases Nat.le_total (({} : HandleTable α).after (calls ++ [c])).live
        (({} : HandleTable α).after calls).slots.length with hle | hle
      · exact ⟨peak, hpeak.trans (List.prefix_append _ _), by omega⟩
      · exact ⟨calls ++ [c], List.prefix_refl _, by omega⟩
    · rintro n ⟨before, hbefore, rfl⟩
      rcases List.prefix_concat_iff.mp hbefore with rfl | hbefore
      · omega
      · have := hbound ⟨before, hbefore, rfl⟩
        omega

/-- **The records of a table are right after every run.** The vacant slots are kept for use again,
each once; the number of values is that of the occupied slots, and of the values put in and not
released since, so that there is one to be counted off whenever one is released; no slot is in
generation zero, and the null handle leads to nothing; and there are as many slots as there have
been values at the same time. -/
theorem records_of_run (calls : List (HandleCall α)) :
    let t := ({} : HandleTable α).after calls
    t.free.Nodup ∧
    (∀ i, i ∈ t.free ↔ ∃ slot, t.slots[i]? = some slot ∧ slot.value = none) ∧
    (∀ i ∈ t.free, i < t.slots.length) ∧
    t.live = t.occupied ∧
    t.occupied = population (({} : HandleTable α).trace calls) ∧
    (∀ h a t', t.detach h = some (a, t') → t'.live + 1 = t.live) ∧
    (∀ slot ∈ t.slots, slot.generation ≠ 0) ∧
    t.find? 0 = none ∧
    IsGreatest {n | ∃ before, before <+: calls ∧ n = population (({} : HandleTable α).trace before)}
      t.slots.length := by
  intro t
  have ht : t.Counts (trace {} calls) := Counts.empty.after calls
  refine ⟨ht.nodup_free, ?_, ?_, ht.live_eq, ?_, ?_, ?_, ?_, isGreatest_length_slots calls⟩
  · intro i
    rw [ht.mem_free_iff]
    constructor
    · rintro ⟨g, hg⟩
      exact ⟨_, hg, rfl⟩
    · rintro ⟨⟨g, v⟩, hslot, rfl⟩
      exact ⟨g, hslot⟩
  · intro i hi
    obtain ⟨g, hg⟩ := (ht.mem_free_iff i).mp hi
    exact (List.getElem?_eq_some_iff.mp hg).1
  · rw [ht.population_eq, ht.live_eq]
  · intro h a t' hd
    obtain ⟨ha, rfl⟩ := (detach_eq_some_iff ht.toWellFormed).mp hd
    have hocc := occupied_vacate ha
    have hlive := ht.live_eq
    simp only [vacate]
    omega
  · intro slot hslot
    obtain ⟨i, hi, rfl⟩ := List.getElem_of_mem hslot
    exact ht.generation_ne_zero i _ (List.getElem?_eq_getElem hi)
  · rw [Option.eq_none_iff_forall_ne_some]
    intro a ha
    exact ht.ne_zero_of_find? ha rfl

/-- Three values, but no more than two at a time. -/
example : (({} : HandleTable String).after
    [.insert "a", .insert "b", .remove 0x100000000, .insert "c"]).slots.length = 2 := by
  decide +kernel

end HandleTable

end Boundary
