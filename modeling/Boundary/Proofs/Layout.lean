import Mathlib.Algebra.Group.Nat.Defs
import Mathlib.Order.Bounds.Basic
import Boundary.FlatType

/-!
# Layouts are those of C

Native code declares what crosses by value as structs in the layout of C, and managed code declares
them once more. The sizes and alignments that are computed for flat types are the ones that both
declarations have on a target with words of 64 bits.

* `isLeast_roundUp`: rounding up as the least element of a set.
* `Placed`, `Layout.IsStruct`: members one behind the other, and the struct of them.
* `Layout.ofMembers`, `isStruct_iff`: there is exactly one layout of a struct.
* `FlatType.HasLayout`: the declarations of flat types.
* `Layout.IsSound`, `FlatType.isSound_layout`: alignments are powers of two that divide the size.
* `FlatType.layout_isDeclared`: computed layouts are the declared ones, however deep options are
  nested.
-/

namespace Boundary

/-! ## Rounding up -/

theorem dvd_roundUp (value align : Nat) : align ∣ roundUp value align := Nat.dvd_mul_left _ _

/-- `roundUp` gives the least multiple of `align` that is large enough. -/
theorem isLeast_roundUp {align : Nat} (h : 0 < align) (value : Nat) :
    IsLeast {n | align ∣ n ∧ value ≤ n} (roundUp value align) := by
  obtain ⟨k, hk⟩ := dvd_roundUp value align
  have hvalue : value ≤ align * k := (roundUp_le_iff h).mp hk.le
  refine ⟨⟨dvd_roundUp value align, hk ▸ hvalue⟩, ?_⟩
  rintro n ⟨⟨m, rfl⟩, hm⟩
  exact (roundUp_le_iff h).mpr hm

/-! ## Structs -/

/-- The `Layout`s of members from a position on, with their offsets, and where the last one ends.
Each member is at the first multiple of its alignment behind the one before it. -/
inductive Placed : Nat → List Layout → List Nat → Nat → Prop
  | nil (position : Nat) : Placed position [] [] position
  | cons {position offset last : Nat} {m : Layout} {ms : List Layout} {offsets : List Nat}
    (hoffset : IsLeast {n | m.align ∣ n ∧ position ≤ n} offset)
    (hrest : Placed (offset + m.size) ms offsets last) :
    Placed position (m :: ms) (offset :: offsets) last

/-- `l` is the layout of the struct of `members` in C, where they have the `offsets`. It is aligned
like the member that is aligned most, and padded to a multiple of its alignment. -/
structure Layout.IsStruct (members : List Layout) (offsets : List Nat) (l : Layout) : Prop where
  align_eq : l.align = (members.map Layout.align).foldr max 1
  placed : ∃ last, Placed 0 members offsets last ∧ IsLeast {n | l.align ∣ n ∧ last ≤ n} l.size

/-- Where members are that are placed from a position on, and where the last one ends. -/
def place : Nat → List Layout → List Nat × Nat
  | position, [] => ([], position)
  | position, m :: ms =>
    let offset := roundUp position m.align
    let rest := place (offset + m.size) ms
    (offset :: rest.1, rest.2)

/-- The layout of the struct of some members. -/
def Layout.ofMembers (members : List Layout) : Layout :=
  let align := (members.map Layout.align).foldr max 1
  ⟨roundUp (place 0 members).2 align, align⟩

private theorem placed_iff {members : List Layout} (h : ∀ m ∈ members, 0 < m.align)
    {position last : Nat} {offsets : List Nat} :
    Placed position members offsets last ↔ place position members = (offsets, last) := by
  induction members generalizing position offsets with
  | nil =>
    constructor
    · rintro ⟨⟩
      rfl
    · rintro ⟨⟩
      exact .nil _
  | cons m ms ih =>
    rw [List.forall_mem_cons] at h
    have hleast := isLeast_roundUp h.1 position
    constructor
    · rintro (_ | ⟨hoffset, hrest⟩)
      obtain rfl := hoffset.unique hleast
      rw [place, (ih h.2).mp hrest]
    · rintro ⟨⟩
      exact .cons hleast ((ih h.2).mpr rfl)

private theorem le_foldr_max (n : Nat) (ns : List Nat) : n ≤ ns.foldr max n := by
  induction ns with
  | nil => exact le_rfl
  | cons m ms ih => exact ih.trans (le_max_right _ _)

/-- **A struct has one layout.** -/
theorem Layout.isStruct_iff {members : List Layout} (h : ∀ m ∈ members, 0 < m.align)
    {offsets : List Nat} {l : Layout} :
    l.IsStruct members offsets ↔ offsets = (place 0 members).1 ∧ l = .ofMembers members := by
  have hleast := isLeast_roundUp (le_foldr_max 1 (members.map Layout.align))
  constructor
  · rintro ⟨halign, last, hplaced, hsize⟩
    have hplace := (placed_iff h).mp hplaced
    rw [halign] at hsize
    obtain ⟨size, align⟩ := l
    obtain rfl : align = _ := halign
    obtain rfl : size = _ := hsize.unique (hleast last)
    rw [ofMembers, hplace]
    exact ⟨rfl, rfl⟩
  · rintro ⟨rfl, rfl⟩
    exact ⟨rfl, _, (placed_iff h).mpr rfl, hleast _⟩

/-! ## Declarations -/

/-- A number or pointer of `bytes` bytes, which is aligned to its size. -/
def Layout.word (bytes : Nat) : Layout := ⟨bytes, bytes⟩

/-- The layouts that flat types are declared with. Nothing is a struct without members, a view of
text has a pointer and a length, bytes have a capacity besides, and an option has a byte before its
payload. -/
inductive FlatType.HasLayout : FlatType → Layout → Prop
  | void {l : Layout} (h : l.IsStruct [] []) : HasLayout .void l
  | scalar (p : Primitive) : HasLayout (.scalar p) (.word p.size)
  | handle : HasLayout .handle (.word 8)
  | strView {l : Layout} (h : l.IsStruct [.word 8, .word 8] [0, 8]) : HasLayout .strView l
  | buffer {l : Layout} (h : l.IsStruct [.word 8, .word 8, .word 8] [0, 8, 16]) :
    HasLayout .buffer l
  | option {inner : FlatType} {payload l : Layout} {offset : Nat} (hinner : inner.HasLayout payload)
    (h : l.IsStruct [.word 1, payload] [0, offset]) : HasLayout (.option inner) l

/-! ## Alignments -/

/-- A layout with an alignment that is a power of two and divides the size. -/
structure Layout.IsSound (l : Layout) : Prop where
  align_pow : ∃ k, l.align = 2 ^ k
  align_dvd : l.align ∣ l.size

theorem Layout.IsSound.align_pos {l : Layout} (h : l.IsSound) : 0 < l.align := by
  obtain ⟨k, hk⟩ := h.align_pow
  exact hk ▸ Nat.two_pow_pos k

theorem Layout.IsSound.option {inner : Layout} (h : inner.IsSound) : inner.option.IsSound := by
  have halign : inner.option.align = inner.align := max_eq_left h.align_pos
  exact ⟨halign ▸ h.align_pow, dvd_roundUp _ _⟩

/-- Every alignment is a power of two, so that nothing is rounded up to multiples of nothing. -/
theorem FlatType.isSound_layout (t : FlatType) : t.layout.IsSound := by
  induction t with
  | void => exact ⟨⟨0, rfl⟩, Nat.one_dvd _⟩
  | scalar p =>
    have hsize : ∃ k, p.size = 2 ^ k := by
      cases p with
      | bool | i8 | u8 => exact ⟨0, rfl⟩
      | i16 | u16 => exact ⟨1, rfl⟩
      | i32 | u32 | f32 => exact ⟨2, rfl⟩
      | i64 | u64 | f64 => exact ⟨3, rfl⟩
    exact ⟨hsize, Nat.dvd_refl _⟩
  | handle => exact ⟨⟨3, rfl⟩, Nat.dvd_refl _⟩
  | strView => exact ⟨⟨3, rfl⟩, ⟨2, rfl⟩⟩
  | buffer => exact ⟨⟨3, rfl⟩, ⟨3, rfl⟩⟩
  | option inner ih => exact ih.option

/-! ## Layouts of flat types -/

/-- The offset of the `payload` in an option. -/
def Layout.payloadOffset (payload : Layout) : Nat := roundUp 1 payload.align

/-- The layout `payload.option` is that of the struct of a byte and its payload. -/
theorem Layout.option_eq_ofMembers (payload : Layout) :
    payload.option = .ofMembers [.word 1, payload] := by
  have halign : ([word 1, payload].map Layout.align).foldr max 1 = max payload.align 1 := by
    simp [word]
  rw [ofMembers, halign]
  rfl

theorem Layout.align_pos_words (n : Nat) : ∀ m ∈ List.replicate n (word 8), 0 < m.align := by
  intro m hm
  rw [List.eq_of_mem_replicate hm]
  decide

theorem FlatType.align_pos_members (inner : FlatType) :
    ∀ m ∈ [Layout.word 1, inner.layout], 0 < m.align := by
  simpa using ⟨by decide, inner.isSound_layout.align_pos⟩

/-- A flat type is declared with its `layout`. -/
theorem FlatType.hasLayout_layout (t : FlatType) : t.HasLayout t.layout := by
  induction t with
  | void => exact .void ((Layout.isStruct_iff (by simp)).mpr ⟨rfl, rfl⟩)
  | scalar p => exact .scalar p
  | handle => exact .handle
  | strView => exact .strView ((Layout.isStruct_iff (Layout.align_pos_words 2)).mpr ⟨rfl, rfl⟩)
  | buffer => exact .buffer ((Layout.isStruct_iff (Layout.align_pos_words 3)).mpr ⟨rfl, rfl⟩)
  | option inner ih =>
    refine .option ih ((Layout.isStruct_iff inner.align_pos_members).mpr ⟨rfl, ?_⟩)
    exact inner.layout.option_eq_ofMembers

/-- A flat type is declared with no other layout. -/
theorem FlatType.HasLayout.eq_layout {t : FlatType} {l : Layout} (h : t.HasLayout l) :
    l = t.layout := by
  induction h with
  | void h => exact ((Layout.isStruct_iff (by simp)).mp h).2
  | scalar p => rfl
  | handle => rfl
  | strView h => exact ((Layout.isStruct_iff (Layout.align_pos_words 2)).mp h).2
  | buffer h => exact ((Layout.isStruct_iff (Layout.align_pos_words 3)).mp h).2
  | @option inner payload l offset hinner h ih =>
    subst ih
    rw [((Layout.isStruct_iff inner.align_pos_members).mp h).2]
    exact inner.layout.option_eq_ofMembers.symm

/-- The layout of an option next to that of its payload. -/
structure FlatType.OptionFits (inner : FlatType) : Prop where
  align_eq : (FlatType.option inner).layout.align = inner.layout.align
  offset : IsLeast {n | inner.layout.align ∣ n ∧ 1 ≤ n} inner.layout.payloadOffset
  size : IsLeast {n | (FlatType.option inner).layout.align ∣ n ∧
    inner.layout.payloadOffset + inner.layout.size ≤ n} (FlatType.option inner).layout.size

theorem FlatType.optionFits (inner : FlatType) : inner.OptionFits where
  align_eq := max_eq_left inner.isSound_layout.align_pos
  offset := isLeast_roundUp inner.isSound_layout.align_pos 1
  size := isLeast_roundUp (FlatType.option inner).isSound_layout.align_pos _

/-- **Computed layouts are those of C.** They have alignments that are powers of two and divide the
size; they are the layouts that the types are declared with; and in an option the payload is at the
first place behind the byte that suits it, in the least space that suits both. -/
theorem FlatType.layout_isDeclared (t : FlatType) :
    t.layout.IsSound ∧ (∀ l, t.HasLayout l ↔ l = t.layout) ∧
      ∀ inner, t = .option inner → inner.OptionFits :=
  ⟨t.isSound_layout, fun _ => ⟨HasLayout.eq_layout, fun h => h ▸ t.hasLayout_layout⟩,
    fun inner _ => inner.optionFits⟩

/-- An option of an option of a number of two bytes. -/
example : (FlatType.option (.option (.scalar .i16))).layout = ⟨6, 2⟩ := by decide

end Boundary
