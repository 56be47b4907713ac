import Boundary.Demo.Declarations
import Boundary.Proofs.EntryPoint
import Boundary.Proofs.Resolution.Grammar

/-!
# The boundary is flat

What may stand at a position of a declaration limits what crosses at the entry points that are made
from it. Nothing crosses but numbers, handles and text, or options of these: text enters as a view
and leaves as bytes.

* `TypeRef.IsPlain`, `TypeRef.IsValue`, `TypeRef.IsReturned`: types by what may stand where.
* `TypeExpr.Means.isValue`, `TypeExpr.Means.isReturned`: the positions of fields and parameters, and
  the position of what a function returns.
* `Accepted.isValue_field`, `Accepted.isReturned_returns` and so on: the types in a schema.
* `FlatType.IsPlain`, `FlatType.Crosses`: what crosses in either direction.
* `FlatType.crosses_of`: values cross.
* `EntryPoint.IsFlat`, `isFlat_of_mem_entryPoints`: the entry points of a schema.
-/

namespace Boundary

/-! ## Types by position -/

/-- A type of values that an option may hold. -/
inductive TypeRef.IsPlain : TypeRef → Prop
  | primitive (p : Primitive) : IsPlain (.primitive p)
  | str : IsPlain .str
  | handle (id : TypeId) : IsPlain (.handle id)

/-- A type of values: a plain one, or an option of one. -/
inductive TypeRef.IsValue : TypeRef → Prop
  | plain {t : TypeRef} (h : t.IsPlain) : IsValue t
  | option {inner : TypeRef} (h : inner.IsPlain) : IsValue (.option inner)

/-- The type of a side of a result: nothing, or values. -/
inductive TypeRef.IsSide : TypeRef → Prop
  | nothing : IsSide .unit
  | value {t : TypeRef} (h : t.IsValue) : IsSide t

/-- A type that a function may return. -/
inductive TypeRef.IsReturned : TypeRef → Prop
  | side {t : TypeRef} (h : t.IsSide) : IsReturned t
  | result {ok err : TypeRef} (hok : ok.IsSide) (herr : err.IsSide) : IsReturned (.result ok err)

namespace TypeExpr

variable {table : TypeTable} {e : TypeExpr} {t : TypeRef}

theorem Names.isPlain (h : Names table e t) : t.IsPlain := by
  cases h with
  | primitive => exact .primitive _
  | text => exact .str
  | exported => exact .handle _

theorem Holds.isValue (h : Holds table e t) : t.IsValue := by
  cases h with
  | value h => exact .plain h.isPlain
  | option _ h => exact .option h.isPlain

theorem IsSide.isSide (h : IsSide table e t) : t.IsSide := by
  cases h with
  | nothing => exact .nothing
  | value h => exact .value h.isValue

/-- Fields and parameters have types of values. -/
theorem Means.isValue {position : TypePosition} (h : Means table position e t)
    (hposition : position = .field ∨ position = .param) : t.IsValue := by
  cases h with
  | value h => exact h.isValue
  | lentText => exact .plain .str
  | lent => exact .plain (.handle _)
  | nothing h => obtain rfl | rfl := hposition <;> simp at h
  | result => simp at hposition

theorem Means.isReturned (h : Means table .return_ e t) : t.IsReturned := by
  cases h with
  | value h => exact .side (.value h.isValue)
  | nothing => exact .side .nothing
  | result _ hok herr => exact .result hok.isSide herr.isSide

end TypeExpr

/-! ## Types in schemas -/

section Table

variable {table : TypeTable} (hnames : ∀ entry ∈ table, isBuiltinTypeName entry.1 = false)
include hnames

theorem TypeExpr.means_of_admissible {position : TypePosition} {e : TypeExpr}
    (h : (e.resolve table position).Admissible table) :
    Means table position e (e.resolve table position) := by
  refine (TypeExpr.refused_or_means hnames position e).resolve_left fun hrefused => ?_
  have hsupported := hrefused.isSupported
  rw [h.isSupported] at hsupported
  cases hsupported

theorem FieldDecl.isValue_of_mem {fields : List FieldDecl} (h : ∀ f ∈ fields, f.IsSound table)
    {f : Field} (hf : f ∈ exportedFields table fields) : f.type.IsValue := by
  rw [exportedFields_eq_map h] at hf
  obtain ⟨d, hd, rfl⟩ := List.mem_map.mp hf
  exact (TypeExpr.means_of_admissible hnames (h d hd).2).isValue (.inl rfl)

theorem PayloadDecl.isValue_of_mem {p : PayloadDecl} (h : p.IsSound table) {f : PayloadField}
    (hf : f ∈ (p.exported table).fields) : f.type.IsValue := by
  cases p with
  | unit => cases hf
  | tuple elems =>
    obtain ⟨⟨t, i⟩, ht, rfl⟩ := List.mem_map.mp hf
    obtain ⟨e, he, rfl⟩ := List.mem_map.mp (List.fst_mem_of_mem_zipIdx ht)
    exact (TypeExpr.means_of_admissible hnames (h e he)).isValue (.inl rfl)
  | struct fields =>
    obtain ⟨g, hg, rfl⟩ := List.mem_map.mp hf
    exact FieldDecl.isValue_of_mem hnames h hg

end Table

namespace Accepted

variable {facade : String} {ds : List Declaration} {s : Schema}

/-- No exported type has a name of a fixed meaning. -/
theorem isBuiltinTypeName_of_mem (h : Accepted facade ds s) :
    ∀ entry ∈ declaredTable ds, isBuiltinTypeName entry.1 = false := by
  rintro ⟨name, id⟩ hentry
  obtain ⟨⟨t, i⟩, hi, heq⟩ := List.mem_map.mp hentry
  cases heq
  exact (h.type_of_mem (List.fst_mem_of_mem_zipIdx hi)).2

theorem isValue_field (h : Accepted facade ds s) {x : ExportedStruct} (hx : x ∈ s.structs)
    {f : Field} (hf : f ∈ x.fields) : f.type.IsValue := by
  rw [h.structs_eq] at hx
  obtain ⟨⟨id, d⟩, hd, rfl⟩ := List.mem_map.mp hx
  exact FieldDecl.isValue_of_mem h.isBuiltinTypeName_of_mem (h.struct_isSound hd) hf

private theorem isValue_payloadField (h : Accepted facade ds s) {x : ExportedEnum}
    (hx : x ∈ s.enums) {v : Variant} (hv : v ∈ x.variants) {f : PayloadField}
    (hf : f ∈ v.payload.fields) :
    f.type.IsValue := by
  rw [h.enums_eq] at hx
  obtain ⟨⟨id, d⟩, hd, rfl⟩ := List.mem_map.mp hx
  obtain ⟨⟨decl, i⟩, hdecl, rfl⟩ := List.mem_map.mp hv
  have hmem := List.fst_mem_of_mem_zipIdx (List.mem_filter.mp hdecl).1
  exact PayloadDecl.isValue_of_mem h.isBuiltinTypeName_of_mem ((h.enum_isSound hd).2 decl hmem).2 hf

private theorem isValue_param (h : Accepted facade ds s) {f : ExportedFunction}
    (hf : f ∈ s.functions) {p : Param} (hp : p ∈ f.params) : p.type.IsValue := by
  rw [h.functions_eq] at hf
  obtain ⟨⟨id, d⟩, hd, rfl⟩ := List.mem_map.mp hf
  obtain ⟨decl, hdecl, rfl⟩ := List.mem_map.mp hp
  have hadmissible := (h.function_params (function_mem hd) decl (List.mem_filter.mp hdecl).1).2.1
  exact (TypeExpr.means_of_admissible h.isBuiltinTypeName_of_mem hadmissible).isValue (.inr rfl)

theorem isReturned_returns (h : Accepted facade ds s) {f : ExportedFunction}
    (hf : f ∈ s.functions) : f.returns.IsReturned := by
  rw [h.functions_eq] at hf
  obtain ⟨⟨id, d⟩, hd, rfl⟩ := List.mem_map.mp hf
  exact (TypeExpr.means_of_admissible h.isBuiltinTypeName_of_mem
    (h.function_returns (function_mem hd))).isReturned

end Accepted

/-! ## Flat types -/

/-- A representation that crosses in `direction` and that an option may hold. -/
inductive FlatType.IsPlain : Direction → FlatType → Prop
  | scalar {direction : Direction} {p : Primitive} (h : p ≠ .bool) : IsPlain direction (.scalar p)
  | handle {direction : Direction} : IsPlain direction .handle
  | strView : IsPlain .in_ .strView
  | buffer : IsPlain .out .buffer

/-- A representation that crosses in `direction`: a plain one, or one option of it. -/
inductive FlatType.Crosses (direction : Direction) : FlatType → Prop
  | plain {t : FlatType} (h : t.IsPlain direction) : Crosses direction t
  | option {inner : FlatType} (h : inner.IsPlain direction) : Crosses direction (.option inner)

variable {direction : Direction}

/-- The representations that occur in a representation. -/
def FlatType.parts : FlatType → List FlatType
  | .option inner => .option inner :: inner.parts
  | t => [t]

theorem FlatType.IsPlain.parts_eq {t : FlatType} (h : t.IsPlain direction) : t.parts = [t] := by
  cases h <;> rfl

/-- What `Crosses` is a plain representation in every part, but for one option at most. -/
theorem FlatType.Crosses.exists_of_mem_parts {t part : FlatType} (h : t.Crosses direction)
    (hpart : part ∈ t.parts) :
    ∃ inner : FlatType, inner.IsPlain direction ∧ (part = inner ∨ part = .option inner) := by
  cases h with
  | plain h =>
    rw [h.parts_eq, List.mem_singleton] at hpart
    exact ⟨t, h, .inl hpart⟩
  | @option inner h =>
    rw [FlatType.parts, h.parts_eq, List.mem_cons, List.mem_singleton] at hpart
    exact ⟨inner, h, hpart.symm⟩

theorem FlatType.Crosses.notMem_parts {t part : FlatType} (h : t.Crosses direction)
    (hplain : ¬ part.IsPlain direction)
    (hoption : ∀ inner, part = .option inner → ¬ inner.IsPlain direction) : part ∉ t.parts := by
  intro hpart
  obtain ⟨inner, hinner, rfl | rfl⟩ := h.exists_of_mem_parts hpart
  · exact hplain hinner
  · exact hoption inner rfl hinner

/-- Neither nothing nor a truth value nor an option of an option is part of what crosses. -/
theorem FlatType.Crosses.spares {t : FlatType} (h : t.Crosses direction) :
    .void ∉ t.parts ∧ .scalar .bool ∉ t.parts ∧ ∀ inner, .option (.option inner) ∉ t.parts := by
  refine ⟨h.notMem_parts nofun nofun, h.notMem_parts ?_ nofun, fun inner => h.notMem_parts nofun ?_⟩
  · rintro ⟨hbool⟩
    exact hbool rfl
  · rintro _ ⟨⟩ ⟨⟩

theorem TypeRef.IsPlain.of_direction {t : TypeRef} (h : t.IsPlain) (direction : Direction) :
    (FlatType.of direction t).IsPlain direction := by
  cases h with
  | primitive p => cases p <;> exact .scalar (by decide)
  | str =>
    cases direction with
    | in_ => exact .strView
    | out => exact .buffer
  | handle id => exact .handle

/-- Values cross in either `direction`: `FlatType.of` represents them flatly. -/
theorem FlatType.crosses_of {t : TypeRef} (h : t.IsValue) (direction : Direction) :
    (FlatType.of direction t).Crosses direction := by
  cases h with
  | plain h => exact .plain (h.of_direction direction)
  | option h => exact .option (h.of_direction direction)

/-- What a function returns crosses on its way out, or nothing does. -/
theorem FlatType.void_or_crosses_of {t : TypeRef} (h : t.IsReturned) :
    FlatType.of .out t = .void ∨ (FlatType.of .out t).Crosses .out := by
  have hside {t : TypeRef} (h : t.IsSide) :
      FlatType.of .out t = .void ∨ (FlatType.of .out t).Crosses .out := by
    cases h with
    | nothing => exact .inl rfl
    | value h => exact .inr (FlatType.crosses_of h .out)
  cases h with
  | side h => exact hside h
  | result hok =>
    rw [FlatType.of]
    exact hside hok

/-! ## Entry points -/

/-- An entry point `e` at which plain values and options of them cross. -/
structure EntryPoint.IsFlat (e : EntryPoint) : Prop where
  params : ∀ p ∈ e.params, p.type.Crosses .in_
  ret : e.ret = .void ∨ e.ret.Crosses .out

private theorem crosses_handleParam : ∀ p ∈ [handleParam], p.type.Crosses .in_ := by
  intro p hp
  obtain rfl := List.mem_singleton.mp hp
  exact .plain .handle

/-- An entry point other than `rustbuffer_free` is flat. -/
theorem Accepted.isFlat {facade start : String} {ds : List Declaration} {s : Schema}
    (h : Accepted facade ds s) {e : EntryPoint} (he : e ∈ s.entryPoints start)
    (hpurpose : e.purpose ≠ .bufferFree) : e.IsFlat := by
  -- Free functions and methods differ in the receiver only.
  have hfunction {f : ExportedFunction} (hf : f ∈ s.functions) :
      (s.functionEntry start f).IsFlat := by
    refine ⟨?_, FlatType.void_or_crosses_of (h.isReturned_returns hf)⟩
    have hreceiver : ∀ p ∈ if f.receiver = .none then [] else [handleParam],
        p.type.Crosses .in_ := by
      split
      · simp
      · exact crosses_handleParam
    refine List.forall_mem_append.mpr ⟨hreceiver, List.forall_mem_map.mpr fun p hp => ?_⟩
    exact FlatType.crosses_of (h.isValue_param hf hp) .in_
  obtain ⟨kind, entry, hentry, rfl⟩ := Schema.exists_entry_of_mem he
  cases hentry with
  | bufferFree => exact absurd rfl hpurpose
  | ctor hx =>
    refine ⟨List.forall_mem_map.mpr fun f hf => ?_, .inr (.plain .handle)⟩
    exact FlatType.crosses_of (h.isValue_field hx hf) .in_
  | getter hx hf =>
    have htype := h.isValue_field hx (List.mem_of_getElem? hf)
    exact ⟨crosses_handleParam, .inr (FlatType.crosses_of htype .out)⟩
  | variantCtor hx hv =>
    refine ⟨List.forall_mem_map.mpr fun f hf => ?_, .inr (.plain .handle)⟩
    exact FlatType.crosses_of (h.isValue_payloadField hx (List.mem_of_getElem? hv) hf) .in_
  | tag => exact ⟨crosses_handleParam, .inr (.plain (.scalar (by decide)))⟩
  | variantGetter hx hv hf =>
    have htype := h.isValue_payloadField hx (List.mem_of_getElem? hv) (List.mem_of_getElem? hf)
    exact ⟨crosses_handleParam, .inr (FlatType.crosses_of htype .out)⟩
  | free => exact ⟨crosses_handleParam, .inl rfl⟩
  | function hf | method hf => exact hfunction hf

/-- What does not cross anywhere: nothing and bytes do not enter, views of text do not leave, and
neither truth values nor options of options are represented as such. -/
structure EntryPoint.Spares (e : EntryPoint) : Prop where
  entering : ∀ p ∈ e.params, .void ∉ p.type.parts ∧ .buffer ∉ p.type.parts
  leaving : .strView ∉ e.ret.parts
  everywhere : ∀ t ∈ e.types, .scalar .bool ∉ t.parts ∧ ∀ inner, .option (.option inner) ∉ t.parts

theorem EntryPoint.IsFlat.spares {e : EntryPoint} (h : e.IsFlat) : e.Spares := by
  refine ⟨fun p hp => ?_, ?_, ?_⟩
  · have hcrosses := h.params p hp
    exact ⟨hcrosses.spares.1, hcrosses.notMem_parts nofun nofun⟩
  · obtain hvoid | hcrosses := h.ret
    · simp [hvoid, FlatType.parts]
    · exact hcrosses.notMem_parts nofun nofun
  · refine List.forall_mem_append.mpr ⟨List.forall_mem_map.mpr fun p hp => ?_, ?_⟩
    · exact (h.params p hp).spares.2
    · rw [List.forall_mem_singleton]
      obtain hvoid | hcrosses := h.ret
      · simp [hvoid, FlatType.parts]
      · exact hcrosses.spares.2

/-- **The boundary is flat.** Wherever bytes are not released, numbers, handles and views of text
enter, numbers, handles and bytes leave, and options of these do: nothing else crosses, inside an
option or outside. -/
theorem isFlat_of_mem_entryPoints {facade start : String} {ds : List Declaration} {s : Schema}
    (h : Schema.build facade ds = .ok s) {e : EntryPoint} (he : e ∈ s.entryPoints start)
    (hpurpose : e.purpose ≠ .bufferFree) : e.IsFlat ∧ e.Spares := by
  have hflat := (Schema.build_eq_ok_iff_accepted.mp h).isFlat he hpurpose
  exact ⟨hflat, hflat.spares⟩

/-- The entry point that looks for a nickname, of which there may be none. -/
theorem isFlat_find_nickname :
    ∃ e ∈ Demo.schema.entryPoints Demo.symbols,
      e.params.map (·.type) = [.strView] ∧ e.ret = .option .buffer ∧
        e.purpose ≠ .bufferFree ∧ e.IsFlat ∧ e.Spares := by
  have hfound : ∃ e ∈ Demo.schema.entryPoints Demo.symbols,
      e.params.map (·.type) = [.strView] ∧ e.ret = .option .buffer ∧ e.purpose ≠ .bufferFree := by
    decide +kernel
  obtain ⟨e, he, hparams, hret, hpurpose⟩ := hfound
  exact ⟨e, he, hparams, hret, hpurpose,
    isFlat_of_mem_entryPoints Demo.build_declarations he hpurpose⟩

end Boundary
