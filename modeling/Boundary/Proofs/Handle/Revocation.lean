import Mathlib.Logic.Function.Iterate
import Boundary.Proofs.Handle.Run

/-!
# Revoked handles

A handle is revoked when its value is taken or removed. The generation of its slot advances then,
and it takes `2 ^ 32 - 1` steps to come round: zero is left out. Until then the handle leads to
nothing, and no value is given it.

* `iterate_nextGeneration_eq_self_iff`: how long generations take to come round.
* `HandleTable.WellFormed.generationAt_after`: the generation of a slot after a run.
* `HandleTable.find?_after_eq_none`: a handle that finds nothing does not find anything until it is
  issued.
* `HandleTable.not_honours_of_released`: a revoked handle stays revoked as long as its generation
  does not come round.
* `HandleTable.honours_churn`: a run in which it does.
-/

namespace Boundary

namespace HandleTable

/-! ## Generations come round -/

private theorem toNat_nextGeneration {g : Generation} (hg : g ≠ 0) :
    (nextGeneration g).toNat = g.toNat % 0xFFFFFFFF + 1 := by
  have hlt := g.toNat_lt
  have hpos : g.toNat ≠ 0 := fun hzero => hg (UInt32.toNat_inj.1 hzero)
  by_cases hlast : g.toNat = 0xFFFFFFFF
  · obtain rfl : g = 0xFFFFFFFF := UInt32.toNat_inj.1 hlast
    rfl
  · rw [nextGeneration_toNat (by omega), Nat.mod_eq_of_lt (by omega)]

private theorem toNat_iterate_nextGeneration {g : Generation} (hg : g ≠ 0) (k : Nat) :
    (nextGeneration^[k] g).toNat = (g.toNat - 1 + k) % 0xFFFFFFFF + 1 := by
  have hlt := g.toNat_lt
  have hpos : g.toNat ≠ 0 := fun hzero => hg (UInt32.toNat_inj.1 hzero)
  induction k with
  | zero =>
    rw [Function.iterate_zero_apply, Nat.add_zero, Nat.mod_eq_of_lt (by omega)]
    omega
  | succ k ih =>
    have hne : nextGeneration^[k] g ≠ 0 := by
      intro hzero
      rw [hzero] at ih
      cases ih
    rw [Function.iterate_succ_apply', toNat_nextGeneration hne, ih]
    omega

/-- Generations come round after `2 ^ 32 - 1` steps, and not before. -/
theorem iterate_nextGeneration_eq_self_iff {g : Generation} (hg : g ≠ 0) (k : Nat) :
    nextGeneration^[k] g = g ↔ 0xFFFFFFFF ∣ k := by
  have hlt := g.toNat_lt
  have hpos : g.toNat ≠ 0 := fun hzero => hg (UInt32.toNat_inj.1 hzero)
  rw [← UInt32.toNat_inj, toNat_iterate_nextGeneration hg]
  omega

variable {α : Type} {t : HandleTable α}

/-! ## Generations in a run -/

theorem WellFormed.generationAt_call (ht : t.WellFormed) (c : HandleCall α) (i : Nat) :
    (t.call c).2.generationAt i = nextGeneration^[vacations [t.event c] i] (t.generationAt i) := by
  have hnone (hreleased : (t.event c).released? = none) : vacations [t.event c] i = 0 := by
    simp [vacations, hreleased]
  obtain ⟨a, -, hreleased, hcall⟩ | ⟨h, a, ha, -, hreleased, hcall⟩ | ⟨-, hreleased, hcall⟩ :=
    call_cases ht c
  · rw [hcall, generationAt_insert ht, hnone hreleased, Function.iterate_zero_apply]
  · rw [hcall, generationAt_vacate ha]
    by_cases hi : i = h.index
    · have hgen : t.generationAt h.index = h.generation :=
        generationAt_eq (find?_eq_some_iff.mp ha)
      simp [vacations, hreleased, hi, hgen]
    · simp [vacations, hreleased, hi, Ne.symm hi]
  · rw [hcall, hnone hreleased, Function.iterate_zero_apply]

/-- A slot advances by one `nextGeneration` whenever it is vacated. -/
theorem WellFormed.generationAt_after (ht : t.WellFormed) (calls : List (HandleCall α)) (i : Nat) :
    (t.after calls).generationAt i =
      nextGeneration^[vacations (t.trace calls) i] (t.generationAt i) := by
  induction calls generalizing t with
  | nil => rfl
  | cons c calls ih =>
    have hsum : vacations (t.trace (c :: calls)) i =
        vacations ((t.call c).2.trace calls) i + vacations [t.event c] i := by
      rw [Nat.add_comm, ← vacations_append]
      rfl
    rw [hsum, Function.iterate_add_apply, ← ht.generationAt_call c]
    exact ih (ht.call c)

theorem mem_issuedHandles_cons {c : HandleCall α} {calls : List (HandleCall α)} {h : Handle} :
    h ∈ issuedHandles (t.trace (c :: calls)) ↔
      (∃ a, (t.event c).issued? = some (h, a)) ∨ h ∈ issuedHandles ((t.call c).2.trace calls) := by
  cases he : (t.event c).issued? with
  | none => simp [issuedHandles, trace, he]
  | some issued => simp [issuedHandles, trace, he, Prod.ext_iff, eq_comm]

/-! ## Handles that find nothing -/

private theorem find?_call_eq_none (ht : t.WellFormed) {c : HandleCall α}
    (hlen : (t.call c).2.slots.length ≤ 0x100000000) {h : Handle} (hfind : t.find? h = none)
    (hissued : ∀ a, (t.event c).issued? ≠ some (h, a)) : (t.call c).2.find? h = none := by
  obtain ⟨a, hfirst, -, hcall⟩ | ⟨k, a, ha, -, -, hcall⟩ | ⟨-, -, hcall⟩ := call_cases ht c
  · rw [hcall] at hlen ⊢
    rw [find?_insert ht a hlen, if_neg, hfind]
    rintro rfl
    exact hissued a hfirst
  · rw [hcall, find?_vacate ha]
    split
    · rfl
    · exact hfind
  · rw [hcall, hfind]

/-- A handle `h` that finds nothing does not find anything until it is one of `issuedHandles`. -/
theorem find?_after_eq_none (ht : t.WellFormed) {calls : List (HandleCall α)}
    (hlen : (t.after calls).slots.length ≤ 0x100000000) {h : Handle} (hfind : t.find? h = none)
    (hissued : h ∉ issuedHandles (t.trace calls)) : (t.after calls).find? h = none := by
  induction calls generalizing t with
  | nil => exact hfind
  | cons c calls ih =>
    rw [mem_issuedHandles_cons, not_or] at hissued
    have hfirst : (t.call c).2.slots.length ≤ 0x100000000 :=
      Nat.le_trans ((ht.call c).length_slots_le_after calls) hlen
    refine ih (ht.call c) hlen (find?_call_eq_none ht hfirst hfind ?_) hissued.2
    intro a ha
    exact hissued.1 ⟨a, ha⟩

/-! ## Handles that are issued again -/

/-- A handle that the call `c` issues names its slot in the generation that the slot is in. -/
theorem generationAt_of_issued (ht : t.WellFormed) {c : HandleCall α}
    (hlen : (t.call c).2.slots.length ≤ 0x100000000) {h : Handle} {a : α}
    (hissued : (t.event c).issued? = some (h, a)) : t.generationAt h.index = h.generation := by
  obtain ⟨b, hfirst, -, hcall⟩ | ⟨k, b, -, hnone, -, -⟩ | ⟨hnone, -, -⟩ := call_cases ht c
  · rw [hcall] at hlen
    have hlt := Nat.lt_of_lt_of_le (nextSlot_lt_length_insert ht b) hlen
    rw [hfirst] at hissued
    cases hissued
    rw [insert_fst, Handle.index_ofParts hlt, Handle.generation_ofParts]
  · rw [hnone] at hissued
    cases hissued
  · rw [hnone] at hissued
    cases hissued

/-- When a handle is issued again, its slot has been vacated a multiple of 2 ^ 32 - 1 times, as
`nextGeneration` comes round then. -/
theorem dvd_vacations_of_issued (ht : t.WellFormed) {calls : List (HandleCall α)}
    {c : HandleCall α} (hlen : ((t.after calls).call c).2.slots.length ≤ 0x100000000) {h : Handle}
    {a : α} (hgen : t.generationAt h.index = h.generation)
    (hissued : ((t.after calls).event c).issued? = some (h, a)) :
    0xFFFFFFFF ∣ vacations (t.trace calls) h.index := by
  have hround := generationAt_of_issued (ht.after calls) hlen hissued
  rw [ht.generationAt_after, ← hgen] at hround
  exact (iterate_nextGeneration_eq_self_iff (ht.generationAt_ne_zero _) _).mp hround

private theorem exists_of_mem_issuedHandles {calls : List (HandleCall α)} {h : Handle}
    (hmem : h ∈ issuedHandles (t.trace calls)) :
    ∃ front c back a, calls = front ++ c :: back ∧
      ((t.after front).event c).issued? = some (h, a) := by
  induction calls generalizing t with
  | nil => cases hmem
  | cons c calls ih =>
    obtain ⟨a, ha⟩ | hmem := mem_issuedHandles_cons.mp hmem
    · exact ⟨[], c, calls, a, rfl, ha⟩
    · obtain ⟨front, d, back, a, rfl, ha⟩ := ih hmem
      exact ⟨c :: front, d, back, a, rfl, ha⟩

end HandleTable

/-! ## Revoked handles -/

/-- The event honours `h`: it issues the handle, or a call with the handle succeeds. -/
def HandleEvent.Honours {α : Type} (h : Handle) : HandleEvent α → Prop
  | ⟨.insert _, .issued k⟩ => k = h
  | ⟨.get k, .value (.ok _)⟩ | ⟨.getCloned k, .value (.ok _)⟩ | ⟨.take k, .value (.ok _)⟩ => k = h
  | ⟨.remove k, .removed found⟩ => k = h ∧ found = true
  | _ => False

namespace HandleTable

variable {α : Type} {t : HandleTable α}

/-- A call that `Honours` a handle issues it, or the handle finds a value. -/
theorem issued_or_found_of_honours (ht : t.WellFormed) {c : HandleCall α} {h : Handle}
    (hc : (t.event c).Honours h) :
    (∃ a, (t.event c).issued? = some (h, a)) ∨ ∃ a, t.find? h = some a := by
  unfold event at hc ⊢
  cases c with
  | insert a =>
    obtain rfl : (t.insert a).1 = h := hc
    exact .inl ⟨a, rfl⟩
  | get k | getCloned k =>
    cases hget : t.get k with
    | error e => simp [call, hget, HandleEvent.Honours] at hc
    | ok a =>
      obtain rfl : k = h := by simpa [call, hget, HandleEvent.Honours] using hc
      exact .inr ⟨a, (get_eq_ok_iff ht).mp hget⟩
  | take k =>
    cases htake : t.take k with
    | error e => simp [call, htake, HandleEvent.Honours] at hc
    | ok r =>
      obtain rfl : k = h := by simpa [call, htake, HandleEvent.Honours] using hc
      exact .inr ⟨r.1, ((take_eq_ok_iff ht).mp htake).1⟩
  | remove k =>
    obtain ⟨rfl, hfound⟩ : k = h ∧ (t.remove k).1 = true := hc
    exact .inr ((remove_fst_iff ht).mp hfound)

/-- A handle that a call releases found its value before, and does not after it. -/
theorem find?_of_released (ht : t.WellFormed) {c : HandleCall α} {h : Handle}
    (hc : (t.event c).released? = some h) :
    t.generationAt h.index = h.generation ∧ (t.call c).2.find? h = none := by
  obtain ⟨a, -, hnone, -⟩ | ⟨k, a, ha, -, hreleased, hcall⟩ | ⟨-, hnone, -⟩ := call_cases ht c
  · rw [hnone] at hc
    cases hc
  · rw [hreleased] at hc
    cases hc
    rw [hcall, find?_vacate ha, if_pos rfl]
    exact ⟨generationAt_eq (find?_eq_some_iff.mp ha), rfl⟩
  · rw [hnone] at hc
    cases hc

/-- **A revoked handle stays revoked, as long as the generation of its slot does not come round.**
Once a call of a run has taken or removed the value of a handle, no later call issues the handle or
succeeds with it, if its slot has been vacated less than `2 ^ 32 - 1` times since, this call
included. -/
theorem not_honours_of_released {before mid rest : List (HandleCall α)} {c d : HandleCall α}
    {h : Handle}
    (hslots : (({} : HandleTable α).after (before ++ c :: (mid ++ d :: rest))).slots.length ≤
      0x100000000)
    (hreleased : ((({} : HandleTable α).after before).event c).released? = some h)
    (hvac : vacations ((({} : HandleTable α).after before).trace (c :: mid)) h.index < 0xFFFFFFFF) :
    ¬ ((({} : HandleTable α).after (before ++ c :: mid)).event d).Honours h := by
  have ht : (({} : HandleTable α).after before).WellFormed := WellFormed.empty.after before
  rw [after_append] at hslots ⊢
  generalize ({} : HandleTable α).after before = t at hslots hreleased hvac ht ⊢
  obtain ⟨hgen, hgone⟩ := find?_of_released ht hreleased
  -- No more slots are in use on the way than at the end of the run.
  have hbound (front : List (HandleCall α)) (e : HandleCall α) (back : List (HandleCall α))
      (hrun : mid ++ d :: rest = front ++ e :: back) :
      ((t.after (c :: front)).call e).2.slots.length ≤ 0x100000000 := by
    rw [hrun, ← List.cons_append, after_append] at hslots
    exact Nat.le_trans (((ht.after (c :: front)).call e).length_slots_le_after back) hslots
  -- A call that issued the handle would find its generation come round.
  have hnot (front : List (HandleCall α)) (e : HandleCall α) (back : List (HandleCall α))
      (hrun : mid ++ d :: rest = front ++ e :: back) (hfront : front <+: mid) (a : α) :
      ((t.after (c :: front)).event e).issued? ≠ some (h, a) := by
    intro hissued
    have hdvd := dvd_vacations_of_issued ht (hbound front e back hrun) hgen hissued
    have hpos : 0 < vacations (t.trace (c :: front)) h.index := by
      have hfirst : vacations (t.trace (c :: front)) h.index =
          vacations [t.event c] h.index + vacations ((t.call c).2.trace front) h.index :=
        vacations_append [t.event c] _ _
      have hone : vacations [t.event c] h.index = 1 := by simp [vacations, hreleased]
      omega
    have hle : vacations (t.trace (c :: front)) h.index ≤
        vacations (t.trace (c :: mid)) h.index := by
      obtain ⟨back, rfl⟩ := hfront
      rw [← List.cons_append, trace_append, vacations_append]
      exact Nat.le_add_right _ _
    exact Nat.not_lt.mpr (Nat.le_trans (Nat.le_of_dvd hpos hdvd) hle) hvac
  intro hd
  obtain ⟨a, hissued⟩ | ⟨a, hfound⟩ := issued_or_found_of_honours (ht.after (c :: mid)) hd
  · exact hnot mid d rest rfl (List.prefix_refl _) a hissued
  · have hnone : (t.after (c :: mid)).find? h = none := by
      have hlen : (t.after (c :: mid)).slots.length ≤ 0x100000000 :=
        Nat.le_trans ((ht.after (c :: mid)).length_slots_le_call d) (hbound mid d rest rfl)
      refine find?_after_eq_none (ht.call c) hlen hgone ?_
      intro hmem
      obtain ⟨front, e, back, b, hmid, hissued⟩ := exists_of_mem_issuedHandles hmem
      refine hnot front e (back ++ d :: rest) (by rw [hmid]; simp) ?_ b hissued
      exact hmid ▸ List.prefix_append _ _
    rw [hnone] at hfound
    cases hfound

/-- The slot is used again after a `remove`, and the removed handle is no good. -/
theorem not_honours_reused_slot :
    let before : List (HandleCall String) := [.insert "a"]
    let mid : List (HandleCall String) := [.insert "b"]
    (({} : HandleTable String).after
        (before ++ .remove 0x100000000 :: (mid ++ .take 0x100000000 :: []))).slots.length ≤
          0x100000000 ∧
      ((({} : HandleTable String).after before).event (.remove 0x100000000)).released? =
        some 0x100000000 ∧
      vacations ((({} : HandleTable String).after before).trace (.remove 0x100000000 :: mid))
        (Handle.index 0x100000000) < 0xFFFFFFFF ∧
      ¬ ((({} : HandleTable String).after (before ++ .remove 0x100000000 :: mid)).event
        (.take 0x100000000)).Honours 0x100000000 := by
  intro before mid
  have hslots : (({} : HandleTable String).after
      (before ++ .remove 0x100000000 :: (mid ++ .take 0x100000000 :: []))).slots.length ≤
        0x100000000 := by decide +kernel
  have hreleased : ((({} : HandleTable String).after before).event
      (.remove 0x100000000)).released? = some 0x100000000 := by decide +kernel
  have hvac : vacations ((({} : HandleTable String).after before).trace
      (.remove 0x100000000 :: mid)) (Handle.index 0x100000000) < 0xFFFFFFFF := by decide +kernel
  exact ⟨hslots, hreleased, hvac, not_honours_of_released hslots hreleased hvac⟩

/-! ### A run in which generations come round -/

/-- The table of one value in the first slot, which is in the generation `g`. -/
def single (g : Generation) : HandleTable Unit := ⟨[⟨g, some ()⟩], [], 1⟩

/-- `remove` for the value of the first slot, which is in the given generation, and `insert` for
another one, again and again. -/
def churn : Generation → Nat → List (HandleCall Unit)
  | _, 0 => []
  | g, k + 1 => .remove (.ofParts g 0) :: .insert () :: churn (nextGeneration g) k

theorem index_first (g : Generation) : (Handle.ofParts g 0).index = 0 :=
  Handle.index_ofParts (by decide)

theorem find?_single (g : Generation) : (single g).find? (.ofParts g 0) = some () := by
  rw [find?_eq_some_iff, index_first, Handle.generation_ofParts]
  rfl

theorem wellFormed_single {g : Generation} (hg : g ≠ 0) : (single g).WellFormed := by
  refine ⟨List.nodup_nil, ?_, ?_⟩
  · intro i
    cases i <;> simp [single]
  · intro i slot hi
    cases i with
    | zero =>
      obtain rfl : ⟨g, some ()⟩ = slot := by simpa [single] using hi
      exact hg
    | succ i => simp [single] at hi

private theorem event_remove_single {g : Generation} (hg : g ≠ 0) :
    ((single g).event (.remove (.ofParts g 0))).released? = some (.ofParts g 0) := by
  have hfound := (remove_fst_iff (wellFormed_single hg)).mpr ⟨(), find?_single g⟩
  simp only [event, call, hfound]
  rfl

private theorem vacate_single (g : Generation) :
    (single g).vacate (.ofParts g 0) = ⟨[⟨nextGeneration g, none⟩], [0], 0⟩ := by
  rw [vacate, index_first, Handle.generation_ofParts]
  rfl

private theorem call_remove_snd (ht : t.WellFormed) {h : Handle} {a : α} (ha : t.find? h = some a) :
    (t.call (.remove h)).2 = t.vacate h := by
  have hdetach := (detach_eq_some_iff ht).mpr ⟨ha, rfl⟩
  simp only [call, remove, hdetach]

private theorem call_insert_vacant (g : Generation) :
    ((⟨[⟨g, none⟩], [0], 0⟩ : HandleTable Unit).call (.insert ())).2 = single g := rfl

/-- A round of `remove` and `insert` advances the slot of `single` by one generation. -/
theorem after_round {g : Generation} (hg : g ≠ 0) :
    (single g).after [.remove (.ofParts g 0), .insert ()] = single (nextGeneration g) := by
  rw [after, List.foldl_cons, call_remove_snd (wellFormed_single hg) (find?_single g),
    vacate_single, List.foldl_cons, call_insert_vacant, List.foldl_nil]

theorem after_churn {g : Generation} (hg : g ≠ 0) (k : Nat) :
    (single g).after (churn g k) = single (nextGeneration^[k] g) := by
  induction k generalizing g with
  | zero => rfl
  | succ k ih =>
    have hround : (single g).after (churn g (k + 1)) =
        ((single g).after [.remove (.ofParts g 0), .insert ()]).after
          (churn (nextGeneration g) k) :=
      after_append _ [.remove (.ofParts g 0), .insert ()] _
    rw [hround, after_round hg, ih (nextGeneration_ne_zero g), Function.iterate_succ_apply]

/-- Calls that lead back to the same table have issued the handle that the first of them
revokes. -/
theorem honours_of_after_eq (ht : t.WellFormed) {calls : List (HandleCall α)} {c : HandleCall α}
    {h : Handle} {a : α} (hlen : t.slots.length ≤ 0x100000000) (hfound : t.find? h = some a)
    (hreleased : (t.event c).released? = some h) (hround : t.after (c :: calls) = t) :
    h ∈ issuedHandles (t.trace (c :: calls)) ∧
      ((t.after (c :: calls)).event (.get h)).Honours h := by
  constructor
  · by_contra hnot
    have hlater : h ∉ issuedHandles ((t.call c).2.trace calls) := by
      intro hmem
      exact hnot (mem_issuedHandles_cons.mpr (.inr hmem))
    have hend : (t.call c).2.after calls = t := hround
    have hnone := find?_after_eq_none (ht.call c) (by rw [hend]; exact hlen)
      (find?_of_released ht hreleased).2 hlater
    rw [hend, hfound] at hnone
    cases hnone
  · rw [hround]
    have hget := (get_eq_ok_iff ht).mpr hfound
    simp [event, call, hget, HandleEvent.Honours]

/-- **A revoked handle does not stay revoked for ever.** When the only value of a table has been
removed and replaced often enough, the handle that was removed first is issued again, and leads to
the last value. -/
theorem honours_churn :
    let t := ({} : HandleTable Unit).after [.insert ()]
    let since := .remove 0x100000000 :: .insert () :: churn 2 0xFFFFFFFE
    (t.event (.remove 0x100000000)).released? = some 0x100000000 ∧
      (t.after since).slots.length = 1 ∧ 0x100000000 ∈ issuedHandles (t.trace since) ∧
      ((t.after since).event (.get 0x100000000)).Honours 0x100000000 := by
  have hne : (1 : Generation) ≠ 0 := by decide
  have hround : nextGeneration^[0xFFFFFFFE + 1] 1 = 1 :=
    (iterate_nextGeneration_eq_self_iff hne _).mpr (Nat.dvd_refl _)
  have hhandle : Handle.ofParts 1 0 = 0x100000000 := by decide
  have hnext : nextGeneration 1 = 2 := by decide
  have hstart : ({} : HandleTable Unit).after [.insert ()] = single 1 := rfl
  -- The number of rounds is only a number in what follows.
  generalize (0xFFFFFFFE : Nat) = k at hround ⊢
  intro t since
  have ht : t = single 1 := hstart
  have hfound : t.find? 0x100000000 = some () := by
    rw [ht, ← hhandle]
    exact find?_single 1
  have hreleased : (t.event (.remove 0x100000000)).released? = some 0x100000000 := by
    rw [ht, ← hhandle]
    exact event_remove_single hne
  have hwf : t.WellFormed := ht ▸ wellFormed_single hne
  have hend : t.after since = t := by
    have hafter := after_churn hne (k + 1)
    rw [hround, churn, hhandle, hnext] at hafter
    rw [ht]
    exact hafter
  have hone : t.slots.length = 1 := by rw [ht]; rfl
  obtain ⟨hissued, hhonours⟩ :=
    honours_of_after_eq hwf (by rw [hone]; decide) hfound hreleased hend
  exact ⟨hreleased, by rw [hend, hone], hissued, hhonours⟩

end HandleTable

end Boundary
