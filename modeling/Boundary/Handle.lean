/-!
# Handle tables

Values that stay in native code are known to managed code by handles. A handle names a slot of a
table and the generation of the slot; whenever a slot is vacated its generation advances, so that
every handle given out for it before is stale. Generations start at one, and no live handle is
zero.

* `Handle`: a handle as a word, and its parts.
* `HandleTable`: the slots, and the indices of the vacant ones.
* `HandleTable.insert`, `HandleTable.get`, `HandleTable.detach`, `HandleTable.take`,
  `HandleTable.remove`: the operations.
* `Handle.generation_ofParts`, `Handle.index_ofParts`: a handle has the parts it is made of.
* `HandleTable.detach_eq_map_find?`: detaching finds what looking up finds.
-/

namespace Boundary

/-! ## Handles -/

/-- A token for a value of a `HandleTable`. -/
abbrev Handle := UInt64

/-- The generation of a `Slot`. -/
abbrev Generation := UInt32

/-- The handle of the slot at `index` in `generation`: the upper and the lower half of a word. -/
def Handle.ofParts (generation : Generation) (index : Nat) : Handle :=
  UInt64.ofNat (generation.toNat * 0x100000000 + index % 0x100000000)

/-- The generation that `h` names, in its upper half. -/
def Handle.generation (h : Handle) : Generation := UInt32.ofNat (h.toNat / 0x100000000)

/-- The index of the slot that `h` names, in its lower half. -/
def Handle.index (h : Handle) : Nat := h.toNat % 0x100000000

theorem Handle.generation_ofParts (g : Generation) (i : Nat) : (ofParts g i).generation = g := by
  have hg := g.toNat_lt
  apply UInt32.toNat_inj.1
  simp only [generation, ofParts, UInt64.toNat_ofNat', UInt32.toNat_ofNat']
  omega

theorem Handle.index_ofParts {g : Generation} {i : Nat} (h : i < 0x100000000) :
    (ofParts g i).index = i := by
  have hg := g.toNat_lt
  simp only [index, ofParts, UInt64.toNat_ofNat']
  omega

/-- A handle is `ofParts` of its own parts. -/
theorem Handle.ofParts_parts (h : Handle) : ofParts h.generation h.index = h := by
  have hh := h.toNat_lt
  apply UInt64.toNat_inj.1
  simp only [generation, index, ofParts, UInt64.toNat_ofNat', UInt32.toNat_ofNat']
  omega

/-- Why `HandleTable.get` and `HandleTable.take` fail. -/
inductive HandleError
  | null
  | stale (handle : Handle)
deriving Repr, DecidableEq

/-- Sixteen lower-case hexadecimal digits of `w`. -/
def hexWord (w : UInt64) : String :=
  let digits := Nat.toDigits 16 w.toNat
  String.ofList (List.replicate (16 - digits.length) '0' ++ digits)

/-- The wording of a `HandleError`. -/
def HandleError.message : HandleError → String
  | .null => "null handle"
  | .stale handle => s!"stale or foreign handle 0x{hexWord handle}"

/-! ## Tables -/

/-- A slot of a `HandleTable`. -/
structure Slot (α : Type) where
  generation : Generation
  value : Option α
deriving Repr, DecidableEq

/-- A table of values of type `α`, which are reached by handles. -/
structure HandleTable (α : Type) where
  slots : List (Slot α) := []
  /-- The indices of the vacant `slots`; the one vacated last comes first. -/
  free : List Nat := []
  /-- The number of values in `slots`. -/
  live : Nat := 0
deriving Repr, DecidableEq

namespace HandleTable

variable {α : Type}

/-- The table with one more value `a`, and the handle of `a`. The slot that is first in `free` is
used again, if there is one. -/
def insert (t : HandleTable α) (a : α) : Handle × HandleTable α :=
  match t.free with
  | index :: free =>
    let generation := ((t.slots[index]?).map (·.generation)).getD 1
    (.ofParts generation index, ⟨t.slots.set index ⟨generation, some a⟩, free, t.live + 1⟩)
  | [] => (.ofParts 1 t.slots.length, ⟨t.slots ++ [⟨1, some a⟩], [], t.live + 1⟩)

/-- The value behind `h`, where the slot is in the generation that `h` names. The null handle is not
looked at. -/
def find? (t : HandleTable α) (h : Handle) : Option α :=
  match t.slots[h.index]? with
  | some slot => if slot.generation = h.generation then slot.value else none
  | none => none

/-- The value behind `h`: `find?` with an error. -/
def get (t : HandleTable α) (h : Handle) : Except HandleError α :=
  if h = 0 then .error .null
  else
    match t.find? h with
    | some a => .ok a
    | none => .error (.stale h)

/-- The generation that follows `g`; it is never zero. -/
def nextGeneration (g : Generation) : Generation := if g + 1 = 0 then 1 else g + 1

/-- The value behind `h`, and the table without it: the slot goes to its `nextGeneration` and to the
front of `free`. -/
def detach (t : HandleTable α) (h : Handle) : Option (α × HandleTable α) :=
  if h = 0 then none
  else
    match t.slots[h.index]? with
    | none => none
    | some slot =>
      if slot.generation ≠ h.generation then none
      else
        match slot.value with
        | none => none
        | some a => some (a, ⟨t.slots.set h.index ⟨nextGeneration slot.generation, none⟩,
            h.index :: t.free, t.live - 1⟩)

/-- `detach` finds what `find?` finds, but nothing for the null handle. -/
theorem detach_eq_map_find? (t : HandleTable α) (h : Handle) :
    t.detach h = if h = 0 then none
      else (t.find? h).map fun a =>
        (a, ⟨t.slots.set h.index ⟨nextGeneration h.generation, none⟩, h.index :: t.free,
          t.live - 1⟩) := by
  unfold detach find?
  cases t.slots[h.index]? with
  | none => rfl
  | some slot =>
    by_cases hgen : slot.generation = h.generation
    · cases hvalue : slot.value <;> simp [hgen, hvalue]
    · simp [hgen]

/-- Moves the value behind `h` out of the table. -/
def take (t : HandleTable α) (h : Handle) : Except HandleError (α × HandleTable α) :=
  match t.detach h with
  | some r => .ok r
  | none => .error (.stale h)

/-- Releases the value behind `h`, and says whether there was one. -/
def remove (t : HandleTable α) (h : Handle) : Bool × HandleTable α :=
  match t.detach h with
  | some (_, t) => (true, t)
  | none => (false, t)

theorem nextGeneration_ne_zero (g : Generation) : nextGeneration g ≠ 0 := by
  unfold nextGeneration
  split
  · decide
  · assumption

end HandleTable

end Boundary
