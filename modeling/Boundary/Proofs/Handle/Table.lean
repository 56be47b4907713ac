import Boundary.Handle
import Boundary.Proofs.Fallible

/-!
# Well-formed handle tables

What holds of every table that has been made by the operations, whatever handles they were given.

* `HandleTable.WellFormed`: the vacant slots are exactly those that are kept for use again, and no
  slot has generation zero.
* `HandleTable.find?_eq_some_iff`: a handle finds the value of the slot that it names, in the
  generation that it names.
* `HandleTable.get_eq_ok_iff`, `HandleTable.take_eq_ok_iff`, `HandleTable.remove_fst_iff`: the
  operations succeed for the same handles.
* `HandleTable.insert_fst`, `HandleTable.slots_insert`: a value goes to a slot that is vacant or
  new, in the generation of the slot.
* `HandleTable.WellFormed.insert`, `HandleTable.WellFormed.vacate`: well-formedness is kept.
* `HandleTable.find?_insert`, `HandleTable.find?_vacate`: no other handle is affected.
-/

namespace Boundary

open Fallible

theorem Handle.generation_zero : Handle.generation 0 = 0 := rfl

/-- Handles with the same `generation` and the same `index` are the same. -/
theorem Handle.ext_parts {h k : Handle} (hg : h.generation = k.generation)
    (hi : h.index = k.index) : h = k := by
  rw [← h.ofParts_parts, ← k.ofParts_parts, hg, hi]

namespace HandleTable

variable {α : Type} {t : HandleTable α}

/-! ## The value behind a handle -/

theorem find?_eq_some_iff {h : Handle} {a : α} :
    t.find? h = some a ↔ t.slots[h.index]? = some ⟨h.generation, some a⟩ := by
  unfold find?
  cases hslot : t.slots[h.index]? with
  | none => simp
  | some slot =>
    obtain ⟨g, v⟩ := slot
    by_cases hg : g = h.generation
    · simp [hg]
    · simp [hg]

private theorem getElem?_append_singleton {β : Type} (l : List β) (b : β) (i : Nat) :
    (l ++ [b])[i]? = if i = l.length then some b else l[i]? := by
  rw [List.getElem?_append]
  grind

/-- The list `free` has the vacant slots, each once, and no generation is zero. -/
structure WellFormed (t : HandleTable α) : Prop where
  nodup_free : t.free.Nodup
  mem_free_iff : ∀ i : Nat, i ∈ t.free ↔ ∃ g, t.slots[i]? = some ⟨g, none⟩
  generation_ne_zero : ∀ (i : Nat) (slot : Slot α), t.slots[i]? = some slot → slot.generation ≠ 0

theorem WellFormed.empty : WellFormed ({} : HandleTable α) :=
  ⟨List.nodup_nil, by simp, by simp⟩

/-- The null handle finds nothing, as no slot is in generation zero. -/
theorem WellFormed.ne_zero_of_find? (ht : t.WellFormed) {h : Handle} {a : α}
    (ha : t.find? h = some a) : h ≠ 0 := by
  rintro rfl
  exact ht.generation_ne_zero _ _ (find?_eq_some_iff.mp ha) Handle.generation_zero

/-! ## Operations on a handle -/

theorem get_eq_ok_iff (ht : t.WellFormed) {h : Handle} {a : α} :
    t.get h = .ok a ↔ t.find? h = some a := by
  unfold get
  split
  · rename_i hz
    constructor
    · intro hok
      cases hok
    · intro ha
      exact absurd hz (ht.ne_zero_of_find? ha)
  · cases t.find? h <;> simp

/-- The table without the value behind `h`. -/
def vacate (t : HandleTable α) (h : Handle) : HandleTable α :=
  ⟨t.slots.set h.index ⟨nextGeneration h.generation, none⟩, h.index :: t.free, t.live - 1⟩

theorem detach_eq_some_iff (ht : t.WellFormed) {h : Handle} {a : α} {t' : HandleTable α} :
    t.detach h = some (a, t') ↔ t.find? h = some a ∧ t' = t.vacate h := by
  rw [detach_eq_map_find?]
  split
  · rename_i hz
    constructor
    · intro hsome
      cases hsome
    · rintro ⟨ha, -⟩
      exact absurd hz (ht.ne_zero_of_find? ha)
  · cases t.find? h with
    | none => simp
    | some b =>
      simp only [Option.map_some, Option.some.injEq, Prod.mk.injEq]
      exact and_congr_right fun _ => eq_comm

private theorem detach_eq_none_iff (ht : t.WellFormed) {h : Handle} :
    t.detach h = none ↔ t.find? h = none := by
  cases hd : t.detach h with
  | none =>
    cases hf : t.find? h with
    | none => simp
    | some a =>
      have := (detach_eq_some_iff ht).mpr ⟨hf, rfl⟩
      rw [hd] at this
      cases this
  | some r =>
    obtain ⟨a, t'⟩ := r
    simp [((detach_eq_some_iff ht).mp hd).1]

theorem take_eq_ok_iff (ht : t.WellFormed) {h : Handle} {a : α} {t' : HandleTable α} :
    t.take h = .ok (a, t') ↔ t.find? h = some a ∧ t' = t.vacate h := by
  rw [← detach_eq_some_iff ht]
  unfold take
  cases t.detach h <;> simp

theorem map_fst_take_eq_ok_iff (ht : t.WellFormed) {h : Handle} {a : α} :
    (t.take h).map (·.1) = .ok a ↔ t.find? h = some a := by
  rw [map_eq_ok_iff]
  constructor
  · rintro ⟨⟨b, t'⟩, hr, rfl⟩
    exact ((take_eq_ok_iff ht).mp hr).1
  · intro ha
    exact ⟨_, (take_eq_ok_iff ht).mpr ⟨ha, rfl⟩, rfl⟩

theorem remove_fst_iff (ht : t.WellFormed) {h : Handle} :
    (t.remove h).1 = true ↔ ∃ a, t.find? h = some a := by
  unfold remove
  split
  · rename_i a t' hd
    simp [((detach_eq_some_iff ht).mp hd).1]
  · rename_i hd
    simp [(detach_eq_none_iff ht).mp hd]

/-! ## Generations -/

theorem nextGeneration_toNat {g : Generation} (hg : g.toNat + 1 < 0x100000000) :
    (nextGeneration g).toNat = g.toNat + 1 := by
  have hadd : (g + 1).toNat = g.toNat + 1 := by
    rw [UInt32.toNat_add, UInt32.toNat_one]
    omega
  have hne : g + 1 ≠ 0 := by
    intro hzero
    rw [hzero] at hadd
    cases hadd
  rw [nextGeneration, if_neg hne, hadd]

/-- The generation of the slot `i`. A slot that there is not yet will start with generation one. -/
def generationAt (t : HandleTable α) (i : Nat) : Generation :=
  ((t.slots[i]?).map (·.generation)).getD 1

theorem generationAt_eq {i : Nat} {slot : Slot α} (hi : t.slots[i]? = some slot) :
    t.generationAt i = slot.generation := by
  simp [generationAt, hi]

/-! ## Putting values in -/

/-- The slot that the next value goes to: the first of `free`, or else a new one. -/
def nextSlot (t : HandleTable α) : Nat := t.free.head?.getD t.slots.length

theorem nextSlot_of_free_nil (hfree : t.free = []) : t.nextSlot = t.slots.length := by
  simp [nextSlot, hfree]

theorem nextSlot_of_free_cons {i : Nat} {free : List Nat} (hfree : t.free = i :: free) :
    t.nextSlot = i := by
  simp [nextSlot, hfree]

/-- The slot at `nextSlot` holds no value. -/
theorem WellFormed.value_nextSlot (ht : t.WellFormed) {slot : Slot α}
    (hslot : t.slots[t.nextSlot]? = some slot) : slot.value = none := by
  cases hfree : t.free with
  | nil =>
    rw [nextSlot_of_free_nil hfree, List.getElem?_eq_none (Nat.le_refl _)] at hslot
    cases hslot
  | cons i free =>
    obtain ⟨g, hg⟩ := (ht.mem_free_iff i).mp (by simp [hfree])
    rw [nextSlot_of_free_cons hfree, hg] at hslot
    cases hslot
    rfl

/-- The handle that `insert` gives is made of `nextSlot` and its generation. -/
theorem insert_fst (t : HandleTable α) (a : α) :
    (t.insert a).1 = .ofParts (t.generationAt t.nextSlot) t.nextSlot := by
  unfold insert nextSlot generationAt
  cases t.free <;> simp

private theorem free_insert (t : HandleTable α) (a : α) : (t.insert a).2.free = t.free.tail := by
  unfold insert
  cases t.free <;> rfl

/-- Only the slot at `nextSlot` is changed by `insert`, and not in its generation. -/
theorem slots_insert (ht : t.WellFormed) (a : α) (i : Nat) :
    (t.insert a).2.slots[i]? =
      if i = t.nextSlot then some ⟨t.generationAt t.nextSlot, some a⟩ else t.slots[i]? := by
  cases hfree : t.free with
  | nil =>
    have hone : t.generationAt t.slots.length = 1 := by simp [generationAt]
    rw [nextSlot_of_free_nil hfree, hone]
    simp only [insert, hfree]
    exact getElem?_append_singleton _ _ _
  | cons j free =>
    obtain ⟨g, hg⟩ := (ht.mem_free_iff j).mp (by simp [hfree])
    obtain ⟨hlt, -⟩ := List.getElem?_eq_some_iff.mp hg
    rw [nextSlot_of_free_cons hfree]
    simp only [insert, hfree]
    rw [List.getElem?_set, if_pos hlt]
    simp only [generationAt, eq_comm]

theorem nextSlot_lt_length_insert (ht : t.WellFormed) (a : α) :
    t.nextSlot < (t.insert a).2.slots.length := by
  have hslot := slots_insert ht a t.nextSlot
  rw [if_pos rfl] at hslot
  exact (List.getElem?_eq_some_iff.mp hslot).1

theorem WellFormed.mem_tail_free_iff (ht : t.WellFormed) {i : Nat} :
    i ∈ t.free.tail ↔ i ≠ t.nextSlot ∧ i ∈ t.free := by
  have hnodup := ht.nodup_free
  cases hfree : t.free with
  | nil => simp
  | cons j free =>
    rw [hfree, List.nodup_cons] at hnodup
    rw [nextSlot_of_free_cons hfree, List.tail_cons, List.mem_cons]
    constructor
    · intro hi
      exact ⟨fun h => hnodup.1 (h ▸ hi), .inr hi⟩
    · rintro ⟨hne, hi⟩
      exact hi.resolve_left hne

theorem WellFormed.generationAt_ne_zero (ht : t.WellFormed) (i : Nat) : t.generationAt i ≠ 0 := by
  cases hi : t.slots[i]? with
  | none =>
    have hone : t.generationAt i = 1 := by simp [generationAt, hi]
    rw [hone]
    decide
  | some slot =>
    rw [generationAt_eq hi]
    exact ht.generation_ne_zero i slot hi

/-- `insert` gives no value the null handle. -/
theorem insert_fst_ne_zero (ht : t.WellFormed) (a : α) : (t.insert a).1 ≠ 0 := by
  intro hzero
  have hgen := congrArg Handle.generation hzero
  rw [insert_fst, Handle.generation_ofParts, Handle.generation_zero] at hgen
  exact ht.generationAt_ne_zero _ hgen

theorem length_slots_le_insert (t : HandleTable α) (a : α) :
    t.slots.length ≤ (t.insert a).2.slots.length := by
  unfold insert
  cases t.free <;> simp

theorem length_slots_insert_le (t : HandleTable α) (a : α) :
    (t.insert a).2.slots.length ≤ t.slots.length + 1 := by
  unfold insert
  cases t.free <;> simp

theorem WellFormed.insert (ht : t.WellFormed) (a : α) : (t.insert a).2.WellFormed := by
  refine ⟨?_, ?_, ?_⟩
  · rw [free_insert]
    exact ht.nodup_free.tail
  · intro i
    rw [free_insert, ht.mem_tail_free_iff, slots_insert ht, ht.mem_free_iff]
    split
    · rename_i hi
      simp [hi]
    · rename_i hi
      simp [hi]
  · intro i slot hi
    rw [slots_insert ht] at hi
    split at hi
    · cases hi
      exact ht.generationAt_ne_zero _
    · exact ht.generation_ne_zero i slot hi

theorem generationAt_insert (ht : t.WellFormed) (a : α) (i : Nat) :
    (t.insert a).2.generationAt i = t.generationAt i := by
  unfold generationAt
  rw [slots_insert ht]
  split
  · rename_i hi
    rw [hi]
    rfl
  · rfl

/-- After `insert` the value is found behind its handle. Any other handle finds what it found
before. -/
theorem find?_insert (ht : t.WellFormed) (a : α)
    (hlen : (t.insert a).2.slots.length ≤ 0x100000000) (h : Handle) :
    (t.insert a).2.find? h = if h = (t.insert a).1 then some a else t.find? h := by
  have hlt := Nat.lt_of_lt_of_le (nextSlot_lt_length_insert ht a) hlen
  ext b
  rw [find?_eq_some_iff, slots_insert ht, insert_fst]
  by_cases hh : h = .ofParts (t.generationAt t.nextSlot) t.nextSlot
  · rw [if_pos hh, hh, Handle.index_ofParts hlt, Handle.generation_ofParts, if_pos rfl]
    simp
  · rw [if_neg hh, find?_eq_some_iff]
    split
    · rename_i hindex
      have hgen : t.generationAt t.nextSlot ≠ h.generation := by
        intro hgen
        refine hh (Handle.ext_parts ?_ ?_)
        · rw [Handle.generation_ofParts, hgen]
        · rw [Handle.index_ofParts hlt, hindex]
      constructor
      · intro hsome
        exact absurd (congrArg Slot.generation (Option.some.inj hsome)) hgen
      · intro hsome
        rw [hindex] at hsome
        cases ht.value_nextSlot hsome
    · exact Iff.rfl

/-- The handle that `insert` gives finds nothing before. -/
theorem find?_insert_fst (ht : t.WellFormed) (a : α)
    (hlen : (t.insert a).2.slots.length ≤ 0x100000000) : t.find? (t.insert a).1 = none := by
  have hlt := Nat.lt_of_lt_of_le (nextSlot_lt_length_insert ht a) hlen
  rw [Option.eq_none_iff_forall_ne_some]
  intro b hb
  rw [find?_eq_some_iff, insert_fst, Handle.index_ofParts hlt] at hb
  cases ht.value_nextSlot hb

/-! ## Taking values out -/

/-- The slot of `h` is vacant after `vacate`, and in its `nextGeneration`. -/
theorem slots_vacate {h : Handle} {a : α} (ha : t.find? h = some a) (i : Nat) :
    (t.vacate h).slots[i]? =
      if i = h.index then some ⟨nextGeneration h.generation, none⟩ else t.slots[i]? := by
  have hlt : h.index < t.slots.length :=
    List.getElem?_eq_some_iff.mp (find?_eq_some_iff.mp ha) |>.1
  simp only [vacate, List.getElem?_set, hlt, if_true]
  split
  · rename_i hi
    rw [if_pos hi.symm]
  · rename_i hi
    rw [if_neg (Ne.symm hi)]

theorem WellFormed.vacate (ht : t.WellFormed) {h : Handle} {a : α} (ha : t.find? h = some a) :
    (t.vacate h).WellFormed := by
  have hslot := find?_eq_some_iff.mp ha
  refine ⟨?_, ?_, ?_⟩
  · refine List.nodup_cons.mpr ⟨?_, ht.nodup_free⟩
    intro hmem
    obtain ⟨g, hg⟩ := (ht.mem_free_iff _).mp hmem
    rw [hslot] at hg
    cases hg
  · intro i
    rw [slots_vacate ha, show (t.vacate h).free = h.index :: t.free from rfl, List.mem_cons,
      ht.mem_free_iff]
    split
    · rename_i hi
      simp [hi]
    · rename_i hi
      simp [hi]
  · intro i slot hi
    rw [slots_vacate ha] at hi
    split at hi
    · cases hi
      exact nextGeneration_ne_zero _
    · exact ht.generation_ne_zero i slot hi

theorem generationAt_vacate {h : Handle} {a : α} (ha : t.find? h = some a) (i : Nat) :
    (t.vacate h).generationAt i =
      if i = h.index then nextGeneration h.generation else t.generationAt i := by
  unfold generationAt
  rw [slots_vacate ha]
  split <;> rfl

/-- After `vacate` nothing is found behind `h`. Any other handle finds what it found before. -/
theorem find?_vacate {h : Handle} {a : α} (ha : t.find? h = some a) (k : Handle) :
    (t.vacate h).find? k = if k = h then none else t.find? k := by
  ext b
  rw [find?_eq_some_iff, slots_vacate ha]
  by_cases hk : k = h
  · simp [hk]
  · rw [if_neg hk, find?_eq_some_iff]
    split
    · rename_i hindex
      constructor
      · intro hsome
        cases congrArg Slot.value (Option.some.inj hsome)
      · intro hsome
        rw [hindex, find?_eq_some_iff.mp ha] at hsome
        have hgen := congrArg Slot.generation (Option.some.inj hsome)
        exact absurd (Handle.ext_parts hgen.symm hindex) hk
    · exact Iff.rfl

end HandleTable

end Boundary
