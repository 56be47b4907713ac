import Boundary.Native.Machine
import Boundary.Proofs.Handle.Accessors

/-!
# Live handles

What removing handles from the tables does to other handles, for tables in any state.

* `HandleTable.get_remove_of_ne`: a removed handle takes no other one with it.
* `Tables.Live`, `Tables.remove`, `Tables.removeAll`: live handles, and tables without handles.
* `Tables.live_removeAll_iff`, `Tables.get_remove_of_ne`: no other handle is affected.
* `HandleTable.Vacated`: a removed handle stays without a value when its slot is used again.
* `Tables.takable_iff`: handles can be taken one after the other if they are live and different.
* `Tables.Stored`: at most one value has been put in.
-/

namespace Boundary

namespace HandleTable

variable {α : Type} {t : HandleTable α} {h k : Handle}

theorem get_congr {t' : HandleTable α} (hfind : t'.find? h = t.find? h) : t'.get h = t.get h := by
  simp only [get, hfind]

/-- A removed handle gives access to nothing, and no other handle is affected. -/
theorem get_remove_of_ne (hne : k ≠ h) : (t.remove h).2.get k = t.get k := by
  cases hget : t.get h with
  | error e => rw [remove_of_get_eq_error hget]
  | ok a =>
    rw [remove_of_get_eq_ok hget]
    refine get_congr ?_
    rw [find?_vacate (get_eq_ok_iff_find?.mp hget).2, if_neg hne]

private theorem get_remove_self_ne_ok (a : α) : (t.remove h).2.get h ≠ .ok a := by
  cases hget : t.get h with
  | error e =>
    rw [remove_of_get_eq_error hget, hget]
    simp
  | ok b =>
    rw [remove_of_get_eq_ok hget]
    intro ha
    have hfind := (get_eq_ok_iff_find?.mp ha).2
    rw [find?_vacate (get_eq_ok_iff_find?.mp hget).2, if_pos rfl] at hfind
    cases hfind

/-- The slot that the handle names is vacant, and has left the generation that the handle names. -/
def Vacated (t : HandleTable α) (h : Handle) : Prop :=
  ∃ g, t.slots[h.index]? = some ⟨g, none⟩ ∧ g ≠ h.generation

private theorem nextGeneration_ne (g : Generation) : nextGeneration g ≠ g := by
  unfold nextGeneration
  split <;> grind

private theorem vacated_remove_self {a : α} (ha : t.get h = .ok a) : (t.remove h).2.Vacated h := by
  rw [remove_of_get_eq_ok ha]
  refine ⟨nextGeneration h.generation, ?_, nextGeneration_ne _⟩
  rw [slots_vacate (get_eq_ok_iff_find?.mp ha).2, if_pos rfl]

theorem Vacated.remove (ht : t.Vacated h) (k : Handle) : (t.remove k).2.Vacated h := by
  obtain ⟨g, hslot, hg⟩ := ht
  cases hget : t.get k with
  | error e =>
    rw [remove_of_get_eq_error hget]
    exact ⟨g, hslot, hg⟩
  | ok a =>
    have hfind := (get_eq_ok_iff_find?.mp hget).2
    rw [remove_of_get_eq_ok hget]
    refine ⟨g, ?_, hg⟩
    rw [slots_vacate hfind, if_neg, hslot]
    -- The slot of a live handle is not vacant.
    intro hindex
    rw [hindex, find?_eq_some_iff.mp hfind] at hslot
    cases hslot

theorem Vacated.get_ne_ok (ht : t.Vacated h) (a : α) : t.get h ≠ .ok a := by
  obtain ⟨g, hslot, -⟩ := ht
  intro ha
  have hfind := find?_eq_some_iff.mp (get_eq_ok_iff_find?.mp ha).2
  rw [hslot] at hfind
  cases hfind

/-- A vacated handle stays without a value when its slot is used again. -/
theorem Vacated.get_insert_ne_ok (ht : t.Vacated h) (a b : α) : (t.insert a).2.get h ≠ .ok b := by
  obtain ⟨g, hslot, hg⟩ := ht
  have hlt := (List.getElem?_eq_some_iff.mp hslot).1
  intro hb
  have hfind := find?_eq_some_iff.mp (get_eq_ok_iff_find?.mp hb).2
  unfold insert at hfind
  split at hfind
  · rename_i i free hfree
    by_cases hi : i = h.index
    · rw [hi, List.getElem?_set_self hlt, hslot] at hfind
      exact hg (congrArg Slot.generation (Option.some.inj hfind))
    · rw [List.getElem?_set_ne hi, hslot] at hfind
      cases hfind
  · rw [List.getElem?_append_left hlt, hslot] at hfind
    cases hfind

end HandleTable

/-! ## Tables -/

namespace Native.Tables

variable {ts : Tables} {c d : TypeId × Handle}

/-- The handle gives access to a value in the table of the type. -/
def Live (ts : Tables) (c : TypeId × Handle) : Prop := ∃ v, (ts c.1).get c.2 = .ok v

instance (ts : Tables) (c : TypeId × Handle) : Decidable (ts.Live c) :=
  match h : (ts c.1).get c.2 with
  | .ok v => .isTrue ⟨v, h⟩
  | .error _ => .isFalse fun ⟨_, hv⟩ => nomatch h.symm.trans hv

/-- The tables without a handle, if it is live. -/
def remove (ts : Tables) (c : TypeId × Handle) : Tables := ts.put c.1 ((ts c.1).remove c.2).2

/-- The tables without some handles. -/
def removeAll (ts : Tables) (cs : List (TypeId × Handle)) : Tables := cs.foldl remove ts

/-- Each of the handles is live when those before it have been removed. -/
def Takable : Tables → List (TypeId × Handle) → Prop
  | _, [] => True
  | ts, c :: rest => ts.Live c ∧ (ts.remove c).Takable rest

theorem put_self (ts : Tables) (id : TypeId) (t : HandleTable NativeValue) : ts.put id t id = t :=
  if_pos rfl

theorem put_of_ne {id i : TypeId} (t : HandleTable NativeValue) (h : i ≠ id) :
    ts.put id t i = ts i :=
  if_neg h

private theorem put_eq_self (ts : Tables) (id : TypeId) : ts.put id (ts id) = ts := by
  funext i
  by_cases hi : i = id
  · rw [hi, put_self]
  · exact put_of_ne _ hi

theorem remove_of_not_live (h : ¬ ts.Live c) : ts.remove c = ts := by
  cases hget : (ts c.1).get c.2 with
  | ok v => exact absurd ⟨v, hget⟩ h
  | error e => rw [remove, HandleTable.remove_of_get_eq_error hget, put_eq_self]

theorem get_remove_of_ne (h : d ≠ c) :
    (ts.remove c d.1).get d.2 = (ts d.1).get d.2 := by
  by_cases hid : d.1 = c.1
  · rw [remove, hid, put_self]
    exact HandleTable.get_remove_of_ne fun hh => h (Prod.ext hid hh)
  · rw [remove, put_of_ne _ hid]

theorem live_remove_iff : (ts.remove c).Live d ↔ d ≠ c ∧ ts.Live d := by
  by_cases h : d = c
  · subst h
    simp only [Live, remove, put_self, ne_eq, not_true_eq_false, false_and, iff_false]
    rintro ⟨v, hv⟩
    exact HandleTable.get_remove_self_ne_ok v hv
  · simp only [Live, get_remove_of_ne h]
    exact ⟨fun hlive => ⟨h, hlive⟩, And.right⟩

theorem removeAll_append (ts : Tables) (cs ds : List (TypeId × Handle)) :
    ts.removeAll (cs ++ ds) = (ts.removeAll cs).removeAll ds :=
  List.foldl_append

theorem live_removeAll_iff {cs : List (TypeId × Handle)} :
    (ts.removeAll cs).Live d ↔ d ∉ cs ∧ ts.Live d := by
  induction cs generalizing ts with
  | nil => simp [removeAll]
  | cons c rest ih =>
    have hcons : ts.removeAll (c :: rest) = (ts.remove c).removeAll rest := rfl
    rw [hcons, ih, live_remove_iff, List.mem_cons, not_or]
    exact ⟨fun ⟨hrest, hc, hlive⟩ => ⟨⟨hc, hrest⟩, hlive⟩, fun ⟨⟨hc, hrest⟩, hlive⟩ =>
      ⟨hrest, hc, hlive⟩⟩

/-- Handles can be taken one after the other if they are live and all different. -/
theorem takable_iff {cs : List (TypeId × Handle)} :
    ts.Takable cs ↔ cs.Nodup ∧ ∀ c ∈ cs, ts.Live c := by
  induction cs generalizing ts with
  | nil => simp [Takable]
  | cons c rest ih =>
    simp only [Takable, ih, List.nodup_cons, List.forall_mem_cons, live_remove_iff]
    constructor
    · rintro ⟨hc, hnodup, hrest⟩
      exact ⟨⟨fun hmem => (hrest c hmem).1 rfl, hnodup⟩, hc, fun d hd => (hrest d hd).2⟩
    · rintro ⟨⟨hmem, hnodup⟩, hc, hrest⟩
      exact ⟨hc, hnodup, fun d hd => ⟨ne_of_mem_of_not_mem hd hmem, hrest d hd⟩⟩

theorem takable_append {cs ds : List (TypeId × Handle)} :
    ts.Takable (cs ++ ds) ↔ ts.Takable cs ∧ (ts.removeAll cs).Takable ds := by
  induction cs generalizing ts with
  | nil => simp [Takable, removeAll]
  | cons c rest ih =>
    have hcons : ts.removeAll (c :: rest) = (ts.remove c).removeAll rest := rfl
    simp only [List.cons_append, Takable, ih, hcons, and_assoc]

/-- The tables after at most one value has been put in, behind the handle that is given. -/
inductive Stored (ts : Tables) : Option (TypeId × Handle) → Tables → Prop
  | nothing : Stored ts none ts
  | value (id : TypeId) (v : NativeValue) :
    Stored ts (some (id, ((ts id).insert v).1)) (ts.put id ((ts id).insert v).2)

private theorem vacated_removeAll {cs : List (TypeId × Handle)} (hc : c ∈ cs) (hlive : ts.Live c) :
    (ts.removeAll cs c.1).Vacated c.2 := by
  have hremove {ts : Tables} (h : (ts c.1).Vacated c.2) (d : TypeId × Handle) :
      (ts.remove d c.1).Vacated c.2 := by
    by_cases hid : c.1 = d.1
    · rw [remove, hid, put_self, ← hid]
      exact h.remove d.2
    · rw [remove, put_of_ne _ hid]
      exact h
  have hremoveAll {ts : Tables} (h : (ts c.1).Vacated c.2) (cs : List (TypeId × Handle)) :
      (ts.removeAll cs c.1).Vacated c.2 := by
    induction cs generalizing ts with
    | nil => exact h
    | cons d rest ih => exact ih (hremove h d)
  induction cs generalizing ts with
  | nil => cases hc
  | cons d rest ih =>
    by_cases hcd : c = d
    · subst hcd
      obtain ⟨v, hv⟩ := hlive
      refine hremoveAll ?_ rest
      rw [remove, put_self]
      exact HandleTable.vacated_remove_self hv
    · exact ih ((List.mem_cons.mp hc).resolve_left hcd) (live_remove_iff.mpr ⟨hcd, hlive⟩)

/-- What has been removed is not live again when a value is put in. -/
theorem Stored.not_live_of_mem {cs : List (TypeId × Handle)} {e : Option (TypeId × Handle)}
    {ts' : Tables} (h : (ts.removeAll cs).Stored e ts') (hc : c ∈ cs) (hlive : ts.Live c) :
    ¬ ts'.Live c := by
  have hvacated := vacated_removeAll hc hlive
  rintro ⟨v, hv⟩
  cases h with
  | nothing => exact hvacated.get_ne_ok v hv
  | value id w =>
    by_cases hid : c.1 = id
    · rw [← hid, put_self] at hv
      exact hvacated.get_insert_ne_ok w v hv
    · rw [put_of_ne _ hid] at hv
      exact hvacated.get_ne_ok v hv

end Native.Tables

end Boundary
