import Mathlib.Data.List.Basic
import Boundary.Proofs.Handle.Table

/-!
# Runs of calls on a handle table

A run starts with the empty table and calls the operations in any order, with any handles. What
the table answers is compared with what its callers know: the calls so far and their replies.

* `HandleTable.call`, `HandleTable.after`, `HandleTable.trace`: a call, the table after a run, and
  the events of the run.
* `HandleTable.Holds`: a value has been put behind a handle, and has not been taken or removed
  since.
* `HandleTable.Answers`: the reply that a map from tokens gives, when no token is used twice.
* `HandleTable.Tracks`: what a table knows of the events that have made it.
* `HandleTable.call_cases`: the three things that a call can do.
* `HandleTable.Tracks.after`: a table tracks the events of its run, as long as no index and no
  generation overflows.
* `HandleTable.answers_of_run`: the replies to the calls of such a run.
-/

namespace Boundary

/-! ## Calls and events -/

/-- A call of an operation on a `HandleTable`. A value that is got as a copy is the value itself. -/
inductive HandleCall (α : Type)
  | insert (a : α)
  | get (h : Handle)
  | getCloned (h : Handle)
  | take (h : Handle)
  | remove (h : Handle)
deriving DecidableEq

/-- The reply to a `HandleCall`. -/
inductive HandleReply (α : Type)
  | issued (h : Handle)
  | value (outcome : Except HandleError α)
  | removed (found : Bool)
deriving DecidableEq

/-- The reply is that of a call that has failed: an `error`, or `removed false`. -/
def HandleReply.Failed {α : Type} : HandleReply α → Prop
  | .value (.error _) | .removed false => True
  | _ => False

/-- A `call` and its `reply`. -/
structure HandleEvent (α : Type) where
  call : HandleCall α
  reply : HandleReply α
deriving DecidableEq

variable {α : Type}

/-- The handle that an `insert` has issued, and the value behind it. -/
def HandleEvent.issued? : HandleEvent α → Option (Handle × α)
  | ⟨.insert a, .issued h⟩ => some (h, a)
  | _ => none

/-- The handle whose value a `take` or a `remove` has released. -/
def HandleEvent.released? : HandleEvent α → Option Handle
  | ⟨.take h, .value (.ok _)⟩ | ⟨.remove h, .removed true⟩ => some h
  | _ => none

namespace HandleTable

/-- The reply of the table `t` to a call, and the table after it. -/
def call (t : HandleTable α) : HandleCall α → HandleReply α × HandleTable α
  | .insert a => (.issued (t.insert a).1, (t.insert a).2)
  | .get h | .getCloned h => (.value (t.get h), t)
  | .take h =>
    match t.take h with
    | .ok (a, t) => (.value (.ok a), t)
    | .error e => (.value (.error e), t)
  | .remove h => (.removed (t.remove h).1, (t.remove h).2)

theorem call_take_fst (t : HandleTable α) (h : Handle) :
    (t.call (.take h)).1 = .value ((t.take h).map (·.1)) := by
  cases hr : t.take h with
  | ok r =>
    simp only [call, hr]
    rfl
  | error e =>
    simp only [call, hr]
    rfl

/-- The event of the call `c` on the table `t`. -/
def event (t : HandleTable α) (c : HandleCall α) : HandleEvent α := ⟨c, (t.call c).1⟩

/-- The table after `calls`. -/
def after (t : HandleTable α) (calls : List (HandleCall α)) : HandleTable α :=
  calls.foldl (fun t c => (t.call c).2) t

/-- The events of a run that starts with the table `t`. -/
def trace (t : HandleTable α) : List (HandleCall α) → List (HandleEvent α)
  | [] => []
  | c :: calls => t.event c :: (t.call c).2.trace calls

theorem after_append (t : HandleTable α) (calls calls' : List (HandleCall α)) :
    t.after (calls ++ calls') = (t.after calls).after calls' :=
  List.foldl_append

theorem trace_append (t : HandleTable α) (calls calls' : List (HandleCall α)) :
    t.trace (calls ++ calls') = t.trace calls ++ (t.after calls).trace calls' := by
  induction calls generalizing t with
  | nil => rfl
  | cons c calls ih => exact congrArg (t.event c :: ·) (ih _)

@[simp] theorem length_trace (t : HandleTable α) (calls : List (HandleCall α)) :
    (t.trace calls).length = calls.length := by
  induction calls generalizing t with
  | nil => rfl
  | cons c calls ih => exact congrArg Nat.succ (ih _)

/-! ## What the events say -/

section Past

variable {past : List (HandleEvent α)} {e : HandleEvent α}

/-- The handles that the events of `past` have issued. -/
def issuedHandles (past : List (HandleEvent α)) : List Handle :=
  past.filterMap fun e => e.issued?.map (·.1)

/-- How often the slot `i` has been vacated in `past`. -/
def vacations (past : List (HandleEvent α)) (i : Nat) : Nat :=
  past.countP fun e => e.released?.any (·.index == i)

/-- The value `a` has been put behind the handle `h`, and has not been released since. -/
def Holds (past : List (HandleEvent α)) (h : Handle) (a : α) : Prop :=
  ∃ older e newer, past = older ++ e :: newer ∧ e.issued? = some (h, a) ∧
    ∀ e' ∈ newer, e'.released? ≠ some h

/-- The reply to a call that fits `past`, if the table is a map from handles to values in which no
handle is used twice. -/
def Answers (past : List (HandleEvent α)) : HandleCall α → HandleReply α → Prop
  | .insert _, .issued h => h ≠ 0 ∧ h ∉ issuedHandles past
  | .get h, .value outcome | .getCloned h, .value outcome | .take h, .value outcome =>
    ∀ a, outcome = .ok a ↔ Holds past h a
  | .remove h, .removed found => found = true ↔ ∃ a, Holds past h a
  | _, _ => False

theorem mem_issuedHandles_snoc {h : Handle} :
    h ∈ issuedHandles (past ++ [e]) ↔ h ∈ issuedHandles past ∨ ∃ a, e.issued? = some (h, a) := by
  simp [issuedHandles, List.filterMap_append]

theorem vacations_append (past newer : List (HandleEvent α)) (i : Nat) :
    vacations (past ++ newer) i = vacations past i + vacations newer i :=
  List.countP_append

theorem vacations_snoc_of_none (he : e.released? = none) (i : Nat) :
    vacations (past ++ [e]) i = vacations past i := by
  rw [vacations_append]
  simp [vacations, he]

theorem vacations_snoc_of_some {h : Handle} (he : e.released? = some h) (i : Nat) :
    vacations (past ++ [e]) i = vacations past i + if i = h.index then 1 else 0 := by
  rw [vacations_append]
  by_cases hi : i = h.index
  · simp [vacations, he, hi]
  · simp [vacations, he, hi, Ne.symm hi]

theorem holds_nil {h : Handle} {a : α} : ¬ Holds ([] : List (HandleEvent α)) h a := by
  rintro ⟨older, e, newer, hpast, -⟩
  simp at hpast

theorem holds_snoc {h : Handle} {a : α} :
    Holds (past ++ [e]) h a ↔
      e.issued? = some (h, a) ∨ Holds past h a ∧ e.released? ≠ some h := by
  constructor
  · rintro ⟨older, e', newer, hpast, hissued, hnewer⟩
    obtain rfl | ⟨newer, e'', rfl⟩ := newer.eq_nil_or_concat
    · obtain ⟨rfl, he⟩ := List.append_inj' hpast rfl
      cases he
      exact .inl hissued
    · rw [List.concat_eq_append, ← List.cons_append, ← List.append_assoc] at hpast
      obtain ⟨rfl, he⟩ := List.append_inj' hpast rfl
      cases he
      refine .inr ⟨⟨older, e', newer, rfl, hissued, ?_⟩, hnewer e (by simp)⟩
      intro e'' he''
      exact hnewer e'' (by simp [he''])
  · rintro (hissued | ⟨⟨older, e', newer, rfl, hissued, hnewer⟩, hreleased⟩)
    · exact ⟨past, e, [], rfl, hissued, by simp⟩
    · refine ⟨older, e', newer ++ [e], by simp, hissued, ?_⟩
      intro e'' he''
      rw [List.mem_append, List.mem_singleton] at he''
      obtain he'' | rfl := he''
      · exact hnewer e'' he''
      · exact hreleased

end Past

/-! ## A table tracks the events that have made it -/

/-- What the table `t` knows of the events `past` that have made it: a slot counts how often it has
been vacated, an issued handle is spent when its slot has left the generation that it names, and a
handle finds the value that it holds. -/
structure Tracks (t : HandleTable α) (past : List (HandleEvent α)) : Prop where
  wellFormed : t.WellFormed
  toNat_generationAt : ∀ i, (t.generationAt i).toNat = vacations past i + 1
  spent_or_found : ∀ h ∈ issuedHandles past,
    h.generation < t.generationAt h.index ∨ ∃ a, t.find? h = some a
  find?_iff : ∀ h a, t.find? h = some a ↔ Holds past h a

section Tracks

variable {t : HandleTable α} {past : List (HandleEvent α)} {e : HandleEvent α}

theorem Tracks.empty : Tracks ({} : HandleTable α) [] := by
  refine ⟨WellFormed.empty, fun _ => rfl, ?_, ?_⟩
  · intro h hh
    cases hh
  · intro h a
    simp [find?, holds_nil]

/-- The handle that `insert` gives next is none of `issuedHandles`. -/
theorem Tracks.insert_fst_notMem (ht : t.Tracks past) (a : α)
    (hlen : (t.insert a).2.slots.length ≤ 0x100000000) :
    (t.insert a).1 ∉ issuedHandles past := by
  have hlt := Nat.lt_of_lt_of_le (nextSlot_lt_length_insert ht.wellFormed a) hlen
  intro hmem
  obtain hspent | ⟨b, hfound⟩ := ht.spent_or_found _ hmem
  · rw [insert_fst, Handle.generation_ofParts, Handle.index_ofParts hlt] at hspent
    exact absurd hspent (UInt32.lt_irrefl _)
  · rw [find?_insert_fst ht.wellFormed a hlen] at hfound
    cases hfound

theorem Tracks.insert (ht : t.Tracks past) (a : α)
    (hlen : (t.insert a).2.slots.length ≤ 0x100000000)
    (hissued : e.issued? = some ((t.insert a).1, a)) (hreleased : e.released? = none) :
    (t.insert a).2.Tracks (past ++ [e]) := by
  have hfind := find?_insert ht.wellFormed a hlen
  have hfresh := find?_insert_fst ht.wellFormed a hlen
  refine ⟨ht.wellFormed.insert a, ?_, ?_, ?_⟩
  · intro i
    rw [generationAt_insert ht.wellFormed, ht.toNat_generationAt, vacations_snoc_of_none hreleased]
  · intro h hh
    rw [generationAt_insert ht.wellFormed, hfind]
    split
    · exact .inr ⟨a, rfl⟩
    · rename_i hne
      obtain hold | ⟨b, hb⟩ := mem_issuedHandles_snoc.mp hh
      · exact ht.spent_or_found h hold
      · rw [hissued] at hb
        cases hb
        exact absurd rfl hne
  · intro h b
    rw [hfind, holds_snoc, ← ht.find?_iff, hissued, hreleased]
    split
    · rename_i hh
      simp [hh, hfresh]
    · rename_i hne
      simp [Ne.symm hne]

theorem Tracks.vacate (ht : t.Tracks past) {h : Handle} {a : α} (ha : t.find? h = some a)
    (hissued : e.issued? = none) (hreleased : e.released? = some h)
    (hvac : vacations (past ++ [e]) h.index < 0xFFFFFFFF) :
    (t.vacate h).Tracks (past ++ [e]) := by
  have hgen : t.generationAt h.index = h.generation := generationAt_eq (find?_eq_some_iff.mp ha)
  have hcount := ht.toNat_generationAt h.index
  rw [vacations_snoc_of_some hreleased, if_pos rfl] at hvac
  have hnext : (nextGeneration h.generation).toNat = h.generation.toNat + 1 := by
    rw [← hgen]
    exact nextGeneration_toNat (by omega)
  have hlt : h.generation < nextGeneration h.generation := by
    rw [UInt32.lt_iff_toNat_lt, hnext]
    exact Nat.lt_succ_self _
  refine ⟨ht.wellFormed.vacate ha, ?_, ?_, ?_⟩
  · intro i
    rw [generationAt_vacate ha, vacations_snoc_of_some hreleased]
    split
    · rename_i hi
      rw [hnext, hi, ← hcount, hgen]
    · exact ht.toNat_generationAt i
  · intro k hk
    rw [generationAt_vacate ha, find?_vacate ha]
    obtain hold | ⟨b, hb⟩ := mem_issuedHandles_snoc.mp hk
    · obtain hspent | ⟨b, hb⟩ := ht.spent_or_found k hold
      · left
        split
        · rename_i hindex
          rw [hindex, hgen] at hspent
          exact UInt32.lt_trans hspent hlt
        · exact hspent
      · by_cases hkh : k = h
        · left
          rw [hkh, if_pos rfl]
          exact hlt
        · right
          rw [if_neg hkh]
          exact ⟨b, hb⟩
    · rw [hissued] at hb
      cases hb
  · intro k b
    rw [find?_vacate ha, holds_snoc, ← ht.find?_iff, hissued, hreleased]
    split
    · rename_i hk
      simp [hk]
    · rename_i hne
      simp [Ne.symm hne]

theorem Tracks.skip (ht : t.Tracks past) (hissued : e.issued? = none)
    (hreleased : e.released? = none) : t.Tracks (past ++ [e]) := by
  refine ⟨ht.wellFormed, ?_, ?_, ?_⟩
  · intro i
    rw [vacations_snoc_of_none hreleased]
    exact ht.toNat_generationAt i
  · intro h hh
    obtain hold | ⟨b, hb⟩ := mem_issuedHandles_snoc.mp hh
    · exact ht.spent_or_found h hold
    · rw [hissued] at hb
      cases hb
  · intro h a
    rw [holds_snoc, ← ht.find?_iff, hissued, hreleased]
    simp

end Tracks

/-! ## What a call can do -/

section Calls

variable {t : HandleTable α} {past : List (HandleEvent α)}

/-- What `call` can do: to `insert` a value, to `vacate` the slot of a value, or to change nothing.
-/
theorem call_cases (ht : t.WellFormed) (c : HandleCall α) :
    (∃ a, (t.event c).issued? = some ((t.insert a).1, a) ∧ (t.event c).released? = none ∧
      (t.call c).2 = (t.insert a).2) ∨
    (∃ h a, t.find? h = some a ∧ (t.event c).issued? = none ∧
      (t.event c).released? = some h ∧ (t.call c).2 = t.vacate h) ∨
    ((t.event c).issued? = none ∧ (t.event c).released? = none ∧ (t.call c).2 = t) := by
  unfold event
  cases c with
  | insert a => exact .inl ⟨a, rfl, rfl, rfl⟩
  | get h => exact .inr (.inr ⟨rfl, rfl, rfl⟩)
  | getCloned h => exact .inr (.inr ⟨rfl, rfl, rfl⟩)
  | take h =>
    cases hr : t.take h with
    | error e =>
      simp only [call, hr]
      exact .inr (.inr ⟨rfl, rfl, trivial⟩)
    | ok r =>
      obtain ⟨a, t'⟩ := r
      obtain ⟨ha, rfl⟩ := (take_eq_ok_iff ht).mp hr
      simp only [call, hr]
      exact .inr (.inl ⟨h, a, ha, rfl, rfl, rfl⟩)
  | remove h =>
    cases hd : t.detach h with
    | none =>
      simp only [call, remove, hd]
      exact .inr (.inr ⟨rfl, rfl, trivial⟩)
    | some r =>
      obtain ⟨a, t'⟩ := r
      obtain ⟨ha, rfl⟩ := (detach_eq_some_iff ht).mp hd
      simp only [call, remove, hd]
      exact .inr (.inl ⟨h, a, ha, rfl, rfl, rfl⟩)

/-- A call whose reply is `Failed` changes nothing. -/
theorem call_snd_of_failed (t : HandleTable α) {c : HandleCall α} (hf : (t.call c).1.Failed) :
    (t.call c).2 = t := by
  cases c with
  | insert a => cases hf
  | get h => rfl
  | getCloned h => rfl
  | take h =>
    cases hr : t.take h with
    | error e => simp only [call, hr]
    | ok r =>
      simp only [call, hr] at hf
      cases hf
  | remove h =>
    cases hd : t.detach h with
    | none => simp only [call, remove, hd]
    | some r =>
      simp only [call, remove, hd] at hf
      cases hf

theorem WellFormed.call (ht : t.WellFormed) (c : HandleCall α) : (t.call c).2.WellFormed := by
  obtain ⟨a, -, -, hcall⟩ | ⟨h, a, ha, -, -, hcall⟩ | ⟨-, -, hcall⟩ := call_cases ht c
  · rw [hcall]
    exact ht.insert a
  · rw [hcall]
    exact ht.vacate ha
  · rw [hcall]
    exact ht

/-- The `slots` of a table never become fewer. -/
theorem WellFormed.length_slots_le_call (ht : t.WellFormed) (c : HandleCall α) :
    t.slots.length ≤ (t.call c).2.slots.length := by
  obtain ⟨a, -, -, hcall⟩ | ⟨h, a, -, -, -, hcall⟩ | ⟨-, -, hcall⟩ := call_cases ht c
  · rw [hcall]
    exact length_slots_le_insert t a
  · rw [hcall]
    exact Nat.le_of_eq List.length_set.symm
  · exact Nat.le_of_eq (by rw [hcall])

theorem WellFormed.after (ht : t.WellFormed) (calls : List (HandleCall α)) :
    (t.after calls).WellFormed := by
  induction calls generalizing t with
  | nil => exact ht
  | cons c calls ih => exact ih (ht.call c)

theorem WellFormed.length_slots_le_after (ht : t.WellFormed) (calls : List (HandleCall α)) :
    t.slots.length ≤ (t.after calls).slots.length := by
  induction calls generalizing t with
  | nil => exact Nat.le_refl _
  | cons c calls ih => exact Nat.le_trans (ht.length_slots_le_call c) (ih (ht.call c))

theorem Tracks.call (ht : t.Tracks past) (c : HandleCall α)
    (hlen : (t.call c).2.slots.length ≤ 0x100000000)
    (hvac : ∀ i, vacations (past ++ [t.event c]) i < 0xFFFFFFFF) :
    (t.call c).2.Tracks (past ++ [t.event c]) := by
  obtain ⟨a, hissued, hreleased, hcall⟩ | ⟨h, a, ha, hissued, hreleased, hcall⟩ |
    ⟨hissued, hreleased, hcall⟩ := call_cases ht.wellFormed c
  · rw [hcall] at hlen ⊢
    exact ht.insert a hlen hissued hreleased
  · rw [hcall]
    exact ht.vacate ha hissued hreleased (hvac _)
  · rw [hcall]
    exact ht.skip hissued hreleased

/-- A table that `Tracks` its past `Answers` a call as that past demands. -/
theorem Tracks.answers (ht : t.Tracks past) (c : HandleCall α)
    (hlen : (t.call c).2.slots.length ≤ 0x100000000) : Answers past c (t.call c).1 := by
  cases c with
  | insert a => exact ⟨insert_fst_ne_zero ht.wellFormed a, ht.insert_fst_notMem a hlen⟩
  | get h => exact fun a => (get_eq_ok_iff ht.wellFormed).trans (ht.find?_iff h a)
  | getCloned h => exact fun a => (get_eq_ok_iff ht.wellFormed).trans (ht.find?_iff h a)
  | take h =>
    rw [call_take_fst]
    exact fun a => (map_fst_take_eq_ok_iff ht.wellFormed).trans (ht.find?_iff h a)
  | remove h =>
    refine (remove_fst_iff ht.wellFormed).trans (exists_congr ?_)
    exact ht.find?_iff h

/-! ## Runs -/

/-- A table goes on to `Tracks` its events, as long as no index and no generation overflows. -/
theorem Tracks.after (ht : t.Tracks past) (calls : List (HandleCall α))
    (hlen : (t.after calls).slots.length ≤ 0x100000000)
    (hvac : ∀ i, vacations (past ++ t.trace calls) i < 0xFFFFFFFF) :
    (t.after calls).Tracks (past ++ t.trace calls) := by
  induction calls generalizing t past with
  | nil =>
    rw [trace, List.append_nil]
    exact ht
  | cons c calls ih =>
    have hpast : past ++ t.trace (c :: calls) =
        past ++ [t.event c] ++ (t.call c).2.trace calls := by
      simp [trace]
    have hfirst : (t.call c).2.Tracks (past ++ [t.event c]) := by
      refine ht.call c ?_ ?_
      · exact Nat.le_trans ((ht.wellFormed.call c).length_slots_le_after calls) hlen
      · intro i
        have hi := hvac i
        rw [hpast, vacations_append] at hi
        omega
    rw [hpast]
    refine ih hfirst hlen ?_
    rw [← hpast]
    exact hvac

end Calls

/-- **The handles of a table are tokens that are never used twice.** In a run from the empty table
that makes no more than 2 ^ 32 slots and vacates none of them 2 ^ 32 - 1 times, every value put
in is given a new handle; a handle leads to the value that it was issued for until that value is
taken or removed; and a call that fails changes nothing. -/
theorem answers_of_run (calls : List (HandleCall α))
    (hslots : (({} : HandleTable α).after calls).slots.length ≤ 0x100000000)
    (hvac : ∀ i, vacations (({} : HandleTable α).trace calls) i < 0xFFFFFFFF) :
    ∀ before c rest, calls = before ++ c :: rest →
      let t := ({} : HandleTable α).after before
      Answers (({} : HandleTable α).trace before) c (t.call c).1 ∧
        ((t.call c).1.Failed → (t.call c).2 = t) := by
  rintro before c rest rfl
  intro t
  refine ⟨?_, call_snd_of_failed t⟩
  have ht : t.WellFormed := WellFormed.empty.after before
  rw [after_append] at hslots
  have hbefore : t.Tracks (trace {} before) := by
    refine Tracks.empty.after before ?_ ?_
    · exact Nat.le_trans (ht.length_slots_le_after _) hslots
    · intro i
      have hi := hvac i
      rw [trace_append, vacations_append] at hi
      rw [List.nil_append]
      omega
  have hcall : (t.call c).2.slots.length ≤ 0x100000000 :=
    Nat.le_trans ((hbefore.wellFormed.call c).length_slots_le_after rest) hslots
  exact hbefore.answers c hcall

/-- A slot is used again after a removal, and the removed handle does not lead to the new value. -/
theorem answers_of_run_reused_slot :
    let before : List (HandleCall String) := [.insert "a", .remove 0x100000000, .insert "b"]
    let calls := before ++ [.get 0x100000000, .take 0x200000000]
    (({} : HandleTable String).after calls).slots.length ≤ 0x100000000 ∧
      (∀ i, vacations (({} : HandleTable String).trace calls) i < 0xFFFFFFFF) ∧
      Answers (({} : HandleTable String).trace before) (.get 0x100000000)
        (.value (.error (.stale 0x100000000))) ∧
      Answers (({} : HandleTable String).trace (before ++ [.get 0x100000000]))
        (.take 0x200000000) (.value (.ok "b")) := by
  intro before calls
  have hslots : (({} : HandleTable String).after calls).slots.length ≤ 0x100000000 := by
    decide +kernel
  have hvac : ∀ i, vacations (({} : HandleTable String).trace calls) i < 0xFFFFFFFF := by
    intro i
    refine Nat.lt_of_le_of_lt List.countP_le_length ?_
    rw [length_trace]
    decide
  have hget := answers_of_run calls hslots hvac before (.get 0x100000000)
    [.take 0x200000000] rfl
  have htake := answers_of_run calls hslots hvac (before ++ [.get 0x100000000])
    (.take 0x200000000) [] rfl
  exact ⟨hslots, hvac, hget.1, htake.1⟩

end HandleTable

end Boundary
