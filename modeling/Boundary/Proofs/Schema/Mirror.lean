import Mathlib.Data.List.Forall2
import Boundary.Datum
import Boundary.Demo.Declarations
import Boundary.Proofs.Schema.Accepted

/-!
# Schemas mirror the declarations

The schema of an accepted list of declarations holds every declaration and every part of one, once,
under its name and in its place, and refers to nothing outside itself.

* `declaredTypes`, `declaredStructs`, `declaredEnums`, `declaredFunctions`: declarations with their
  numbers.
* `ExportedStruct.Mirrors`, `ExportedEnum.Mirrors`, `ExportedFunction.Mirrors`: an exported item
  has all the parts of its declaration.
* `Param.HandedOver`: a parameter hands over its argument as its declaration says.
* `Schema.Mirrors`: a schema that is complete and closed.
* `Schema.mirrors_of_build`: that is what declarations are built into.
-/

namespace Boundary

/-! ## Declarations with their numbers -/

/-- The struct that a declared type is. -/
def TypeDecl.struct? : TypeDecl → Option StructDecl
  | .struct d => some d
  | .enum _ => none

/-- The enum that a declared type is. -/
def TypeDecl.enum? : TypeDecl → Option EnumDecl
  | .struct _ => none
  | .enum d => some d

/-- The declared types of one kind. The number of a type is its place among all declared types. -/
def declaredTypes {α : Type} (kind? : TypeDecl → Option α) (ds : List Declaration) :
    List (TypeId × α) :=
  (ds.filterMap Declaration.type?).zipIdx.filterMap fun (t, k) => (kind? t).map fun d => (⟨k⟩, d)

/-- The declared structs. -/
def declaredStructs (ds : List Declaration) : List (TypeId × StructDecl) :=
  declaredTypes TypeDecl.struct? ds

/-- The declared enums. -/
def declaredEnums (ds : List Declaration) : List (TypeId × EnumDecl) :=
  declaredTypes TypeDecl.enum? ds

/-- The declared functions. The number of a function is its place among them. -/
def declaredFunctions (ds : List Declaration) : List (FunctionId × FunctionDecl) :=
  (ds.filterMap Declaration.function?).zipIdx.map fun (f, k) => (⟨k⟩, f)

/-- The declared types by name. -/
def declaredTable (ds : List Declaration) : TypeTable :=
  (ds.filterMap Declaration.type?).zipIdx.map fun (t, k) => (t.name, ⟨k⟩)

/-! ## Mirrored items -/

/-- A field as it is declared. -/
structure Field.Mirrors (table : TypeTable) (x : Field) (d : FieldDecl) : Prop where
  name_eq : x.name = d.name
  type_eq : x.type = d.type.resolve table .field

/-- A struct with all the fields that are declared, in their order. -/
structure ExportedStruct.Mirrors (table : TypeTable) (x : ExportedStruct) (id : TypeId)
    (d : StructDecl) : Prop where
  id_eq : x.id = id
  name_eq : x.name = d.name
  location_eq : x.location = d.location
  fields : List.Forall₂ (Field.Mirrors table) x.fields d.fields

/-- A payload with all the parts that are declared, in their order. -/
inductive Payload.Mirrors (table : TypeTable) : Payload → PayloadDecl → Prop
  | unit : Mirrors table .unit .unit
  | tuple {types : List TypeRef} {elems : List TypeExpr}
    (h : List.Forall₂ (fun t e => t = TypeExpr.resolve table .field e) types elems) :
    Mirrors table (.tuple types) (.tuple elems)
  | struct {fields : List Field} {decls : List FieldDecl}
    (h : List.Forall₂ (Field.Mirrors table) fields decls) :
    Mirrors table (.struct fields) (.struct decls)

/-- A variant as it is declared. -/
structure Variant.Mirrors (table : TypeTable) (x : Variant) (d : VariantDecl) : Prop where
  name_eq : x.name = d.name
  payload : x.payload.Mirrors table d.payload

/-- An enum with all the variants that are declared, in their order. -/
structure ExportedEnum.Mirrors (table : TypeTable) (x : ExportedEnum) (id : TypeId)
    (d : EnumDecl) : Prop where
  id_eq : x.id = id
  name_eq : x.name = d.name
  location_eq : x.location = d.location
  variants : List.Forall₂ (Variant.Mirrors table) x.variants d.variants

/-- A receiver of the type and in the mode that are declared. -/
inductive Receiver.Mirrors (table : TypeTable) : Receiver → Option ReceiverDecl → Prop
  | none : Mirrors table .none .none
  | byRef {r : ReceiverDecl} {id : TypeId} (hmode : r.mode = .ref)
    (hid : table.lookup (Naming.lastSegment r.typeName) = some id) :
    Mirrors table (.byRef id) (some r)
  | byValue {r : ReceiverDecl} {id : TypeId} (hmode : r.mode = .value)
    (hid : table.lookup (Naming.lastSegment r.typeName) = some id) :
    Mirrors table (.byValue id) (some r)

/-- A parameter as it is declared. -/
structure Param.Mirrors (table : TypeTable) (x : Param) (d : ParamDecl) : Prop where
  name_eq : x.name = d.name
  type_eq : x.type = d.type.resolve table .param

/-- A function with its receiver and all the parameters that are declared, in their order. -/
structure ExportedFunction.Mirrors (table : TypeTable) (x : ExportedFunction) (id : FunctionId)
    (d : FunctionDecl) : Prop where
  id_eq : x.id = id
  name_eq : x.name = d.name
  location_eq : x.location = d.location
  receiver : x.receiver.Mirrors table d.receiver
  params : List.Forall₂ (Param.Mirrors table) x.params d.params
  returns_eq : x.returns = d.returns.resolve table .return_

/-- A parameter that hands over its argument as its declaration says. -/
structure Param.HandedOver (s : Schema) (x : Param) (d : ParamDecl) : Prop where
  transfer_iff : x.mode = .transfer ↔ d.transfer = true
  /-- Only structs are given away. -/
  transfer_type : x.mode = .transfer → ∃ e ∈ s.structs, x.type = .handle e.id
  borrowed_iff : x.mode = .borrowed ↔ ∃ isMutable inner, d.type = .ref isMutable inner
  /-- Only text and exported types are lent. -/
  borrowed_type : x.mode = .borrowed → x.type = .str ∨ ∃ id, x.type = .handle id

/-! ## Complete and closed schemas -/

/-- The numbers of the exported types. -/
def Schema.typeIds (s : Schema) : List TypeId := s.structs.map (·.id) ++ s.enums.map (·.id)

/-- The types that occur in a schema. -/
def Schema.types (s : Schema) : List TypeRef :=
  s.structs.flatMap (fun x => x.fields.map (·.type)) ++
    s.enums.flatMap (fun x => x.variants.flatMap Variant.types) ++
    s.functions.flatMap (fun x => x.params.map (·.type) ++ [x.returns])

/-- A schema that holds all of the declarations and refers to nothing else. -/
structure Schema.Mirrors (s : Schema) (ds : List Declaration) : Prop where
  structs : List.Forall₂ (fun x d => x.Mirrors (declaredTable ds) d.1 d.2) s.structs
    (declaredStructs ds)
  enums : List.Forall₂ (fun x d => x.Mirrors (declaredTable ds) d.1 d.2) s.enums
    (declaredEnums ds)
  functions : List.Forall₂ (fun x d => x.Mirrors (declaredTable ds) d.1 d.2) s.functions
    (declaredFunctions ds)
  nodup_typeIds : s.typeIds.Nodup
  isSupported : ∀ t ∈ s.types, t.isSupported = true
  handles_mem : ∀ t ∈ s.types, ∀ id ∈ t.handles, id ∈ s.typeIds
  receiver_mem : ∀ x ∈ s.functions, ∀ id, x.receiver.typeId? = some id → id ∈ s.typeIds
  variants_ne_nil : ∀ x ∈ s.enums, x.variants ≠ []
  /-- The discriminant of a variant is its place. -/
  discriminant_eq : ∀ x ∈ s.enums, ∀ i (v : Variant), x.variants[i]? = some v →
    v.discriminant = i
  handedOver : List.Forall₂ (fun x d => List.Forall₂ (Param.HandedOver s) x.params d.2.params)
    s.functions (declaredFunctions ds)

/-! ## Parts of exported items -/

variable {table : TypeTable}

private theorem forall₂_map_self {α β : Type} {r : β → α → Prop} {f : α → β} {as : List α}
    (h : ∀ a ∈ as, r (f a) a) : List.Forall₂ r (as.map f) as := by
  rw [List.forall₂_map_left_iff, List.forall₂_same]
  exact h

theorem exportedFields_eq_map {fields : List FieldDecl} (h : ∀ f ∈ fields, f.IsSound table) :
    exportedFields table fields = fields.map (·.exported table) := by
  rw [exportedFields, List.filter_eq_self.mpr fun f hf => (h f hf).1]

theorem mirrors_exportedFields {fields : List FieldDecl} (h : ∀ f ∈ fields, f.IsSound table) :
    List.Forall₂ (Field.Mirrors table) (exportedFields table fields) fields := by
  rw [exportedFields_eq_map h]
  exact forall₂_map_self fun f _ => ⟨rfl, rfl⟩

theorem PayloadDecl.mirrors_exported {p : PayloadDecl} (h : p.IsSound table) :
    (p.exported table).Mirrors table p := by
  cases p with
  | unit => exact .unit
  | tuple elems => exact .tuple (forall₂_map_self fun _ _ => rfl)
  | struct fields => exact .struct (mirrors_exportedFields h)

/-- The variants of an enum, if none of them has an unusable name. -/
theorem EnumDecl.variants_exported {id : TypeId} {d : EnumDecl}
    (h : ∀ v ∈ d.variants, isUsableName v.name = true) :
    (d.exported table id).variants = d.variants.zipIdx.map fun (v, i) =>
      ⟨v.name, i, v.payload.exported table⟩ := by
  simp only [EnumDecl.exported]
  rw [List.filter_eq_self.mpr]
  rintro ⟨v, i⟩ hv
  exact h v (List.fst_mem_of_mem_zipIdx hv)

theorem EnumDecl.mirrors_variants {id : TypeId} {d : EnumDecl}
    (h : ∀ v ∈ d.variants, isUsableName v.name = true ∧ v.payload.IsSound table) :
    List.Forall₂ (Variant.Mirrors table) (d.exported table id).variants d.variants := by
  rw [EnumDecl.variants_exported fun v hv => (h v hv).1]
  conv => arg 3; rw [← List.zipIdx_map_fst 0 d.variants]
  rw [List.forall₂_map_left_iff, List.forall₂_map_right_iff, List.forall₂_same]
  rintro ⟨v, i⟩ hv
  exact ⟨rfl, PayloadDecl.mirrors_exported (h v (List.fst_mem_of_mem_zipIdx hv)).2⟩

theorem EnumDecl.discriminant_exported {id : TypeId} {d : EnumDecl}
    (h : ∀ v ∈ d.variants, isUsableName v.name = true) {i : Nat} {v : Variant}
    (hv : (d.exported table id).variants[i]? = some v) : v.discriminant = i := by
  rw [EnumDecl.variants_exported h, List.getElem?_map, List.getElem?_zipIdx] at hv
  obtain ⟨x, -, rfl⟩ : ∃ x, d.variants[i]? = some x ∧ _ = v := by simpa using hv
  simp

theorem ReceiverDecl.mirrors_exported {r : ReceiverDecl} {id : TypeId}
    (hid : table.lookup (Naming.lastSegment r.typeName) = some id) :
    (r.exported table).Mirrors table (some r) := by
  unfold ReceiverDecl.exported
  cases hmode : r.mode with
  | ref =>
    rw [hid]
    exact .byRef hmode hid
  | value =>
    rw [hid]
    exact .byValue hmode hid

theorem Receiver.Mirrors.exists_lookup {x : Receiver} {d : Option ReceiverDecl}
    (h : x.Mirrors table d) {id : TypeId} (hid : x.typeId? = some id) :
    ∃ name, table.lookup name = some id := by
  cases h with
  | none => cases hid
  | byRef _ hlookup | byValue _ hlookup =>
    cases hid
    exact ⟨_, hlookup⟩

theorem FunctionDecl.params_exported {id : FunctionId} {f : FunctionDecl}
    (h : ∀ p ∈ f.params, isUsableName p.name = true) :
    (f.exported table id).params = f.params.map (·.exported table) := by
  simp only [FunctionDecl.exported]
  rw [List.filter_eq_self.mpr h]

/-! ## Types in exported items -/

theorem Payload.map_type_fields (p : Payload) :
    p.fields.map (·.type) =
      match p with
      | .unit => []
      | .tuple elems => elems
      | .struct fields => fields.map (·.type) := by
  cases p with
  | unit => rfl
  | tuple elems => simp [Payload.fields, Function.comp_def]
  | struct fields => simp [Payload.fields, Function.comp_def]

theorem admissible_of_mem_exportedFields {fields : List FieldDecl}
    (h : ∀ f ∈ fields, f.IsSound table) {t : TypeRef}
    (ht : t ∈ (exportedFields table fields).map (·.type)) : t.Admissible table := by
  rw [exportedFields_eq_map h, List.map_map] at ht
  obtain ⟨f, hf, rfl⟩ := List.mem_map.mp ht
  exact (h f hf).2

theorem PayloadDecl.admissible_of_mem {p : PayloadDecl} (h : p.IsSound table) {t : TypeRef}
    (ht : t ∈ (p.exported table).fields.map (·.type)) : t.Admissible table := by
  rw [Payload.map_type_fields] at ht
  cases p with
  | unit => cases ht
  | tuple elems =>
    obtain ⟨e, he, rfl⟩ := List.mem_map.mp ht
    exact h e he
  | struct fields => exact admissible_of_mem_exportedFields h ht

theorem EnumDecl.admissible_of_mem {id : TypeId} {d : EnumDecl}
    (h : ∀ v ∈ d.variants, isUsableName v.name = true ∧ v.payload.IsSound table) {t : TypeRef}
    (ht : t ∈ (d.exported table id).variants.flatMap Variant.types) : t.Admissible table := by
  rw [EnumDecl.variants_exported fun v hv => (h v hv).1] at ht
  obtain ⟨x, hx, ht⟩ := List.mem_flatMap.mp ht
  obtain ⟨⟨v, i⟩, hv, rfl⟩ := List.mem_map.mp hx
  exact PayloadDecl.admissible_of_mem (h v (List.fst_mem_of_mem_zipIdx hv)).2 ht

/-! ## Schemas of accepted lists -/

variable {ds : List Declaration}

theorem mem_declaredTypes_iff {α : Type} {kind? : TypeDecl → Option α} {id : TypeId} {d : α} :
    (id, d) ∈ declaredTypes kind? ds ↔
      ∃ t, (ds.filterMap Declaration.type?)[id.index]? = some t ∧ kind? t = some d := by
  simp only [declaredTypes, List.mem_filterMap, Option.map_eq_some_iff,
    ← List.mk_mem_zipIdx_iff_getElem?]
  constructor
  · rintro ⟨⟨t, k⟩, hk, e, he, heq⟩
    cases heq
    exact ⟨t, hk, he⟩
  · rintro ⟨t, ht, hd⟩
    exact ⟨(t, id.index), ht, d, hd, rfl⟩

theorem mem_declaredStructs_iff {id : TypeId} {d : StructDecl} :
    (id, d) ∈ declaredStructs ds ↔
      (ds.filterMap Declaration.type?)[id.index]? = some (.struct d) := by
  rw [declaredStructs, mem_declaredTypes_iff]
  constructor
  · rintro ⟨t, ht, hd⟩
    cases t with
    | struct e =>
      cases hd
      exact ht
    | enum e => cases hd
  · intro h
    exact ⟨_, h, rfl⟩

theorem mem_declaredEnums_iff {id : TypeId} {d : EnumDecl} :
    (id, d) ∈ declaredEnums ds ↔
      (ds.filterMap Declaration.type?)[id.index]? = some (.enum d) := by
  rw [declaredEnums, mem_declaredTypes_iff]
  constructor
  · rintro ⟨t, ht, hd⟩
    cases t with
    | struct e => cases hd
    | enum e =>
      cases hd
      exact ht
  · intro h
    exact ⟨_, h, rfl⟩

/-- Picking some of the items of a list in their order picks some of their keys. -/
private theorem map_filterMap_sublist {α β γ : Type} {f : α → Option β} {g : β → γ} {k : α → γ}
    (h : ∀ a b, f a = some b → g b = k a) (as : List α) :
    ((as.filterMap f).map g).Sublist (as.map k) := by
  induction as with
  | nil => exact List.Sublist.refl _
  | cons a as ih =>
    cases hfa : f a with
    | none =>
      rw [List.filterMap_cons_none hfa, List.map_cons]
      exact ih.cons _
    | some b =>
      rw [List.filterMap_cons_some hfa, List.map_cons, List.map_cons, h a b hfa]
      exact ih.cons_cons _

/-- The numbers of declared types tell their places, so they differ. -/
theorem nodup_declaredTypes {α : Type} (kind? : TypeDecl → Option α) (ds : List Declaration) :
    ((declaredTypes kind? ds).map (·.1)).Nodup := by
  have hplaces : (ds.filterMap Declaration.type?).zipIdx.map (fun p => (⟨p.2⟩ : TypeId)) =
      ((ds.filterMap Declaration.type?).zipIdx.map (·.2)).map TypeId.mk := by
    rw [List.map_map]
    rfl
  refine (map_filterMap_sublist (k := fun p => (⟨p.2⟩ : TypeId)) ?_ _).nodup ?_
  · rintro ⟨t, k⟩ q hq
    obtain ⟨d, -, rfl⟩ := Option.map_eq_some_iff.mp hq
    rfl
  · rw [hplaces, List.zipIdx_map_snd]
    refine List.Pairwise.map _ ?_ (List.nodup_range' 1)
    intro i j hij heq
    exact hij (congrArg TypeId.index heq)

/-- A name in the table is that of the declared type of that number. -/
theorem exists_type_of_lookup {name : String} {id : TypeId}
    (h : (declaredTable ds).lookup name = some id) :
    ∃ t, (ds.filterMap Declaration.type?)[id.index]? = some t ∧ t.name = name := by
  obtain ⟨front, back, htable, -⟩ := List.lookup_eq_some_iff.mp h
  have hmem : (name, id) ∈ declaredTable ds := by simp [htable]
  obtain ⟨⟨t, k⟩, hk, heq⟩ := List.mem_map.mp hmem
  cases heq
  exact ⟨t, List.mk_mem_zipIdx_iff_getElem?.mp hk, rfl⟩

theorem structs_schema (names : List (String × NameEntry)) :
    ((Registry.ofRegistered ds).schema names).structs =
      (declaredStructs ds).map fun d => d.2.exported (declaredTable ds) d.1 := by
  rw [declaredStructs, declaredTypes, List.map_filterMap]
  show exportedStructs _ _ = _
  unfold exportedStructs
  congr
  funext ⟨t, k⟩
  cases t <;> rfl

theorem enums_schema (names : List (String × NameEntry)) :
    ((Registry.ofRegistered ds).schema names).enums =
      (declaredEnums ds).map fun d => d.2.exported (declaredTable ds) d.1 := by
  rw [declaredEnums, declaredTypes, List.map_filterMap]
  show exportedEnums _ _ = _
  unfold exportedEnums
  congr
  funext ⟨t, k⟩
  cases t <;> rfl

theorem functions_schema (names : List (String × NameEntry)) :
    ((Registry.ofRegistered ds).schema names).functions =
      (declaredFunctions ds).map fun d => d.2.exported (declaredTable ds) d.1 := by
  rw [declaredFunctions, List.map_map]
  rfl

/-- No two declared types have the same number: it tells their place. -/
theorem nodup_typeIds_schema (names : List (String × NameEntry)) :
    ((Registry.ofRegistered ds).schema names).typeIds.Nodup := by
  have hids : ((Registry.ofRegistered ds).schema names).typeIds =
      (declaredStructs ds).map (·.1) ++ (declaredEnums ds).map (·.1) := by
    rw [Schema.typeIds, structs_schema, enums_schema, List.map_map, List.map_map]
    rfl
  rw [hids, List.nodup_append]
  refine ⟨nodup_declaredTypes _ ds, nodup_declaredTypes _ ds, ?_⟩
  -- A number that is both that of a struct and that of an enum tells one place for both.
  rintro id hstruct id' henum rfl
  obtain ⟨⟨id, d⟩, hd, rfl⟩ := List.mem_map.mp hstruct
  obtain ⟨⟨id', e⟩, he, rfl⟩ := List.mem_map.mp henum
  have hboth := (mem_declaredStructs_iff.mp hd).symm.trans (mem_declaredEnums_iff.mp he)
  simp at hboth

namespace Accepted

variable {facade : String} {s : Schema}

theorem structs_eq (h : Accepted facade ds s) :
    s.structs = (declaredStructs ds).map fun d => d.2.exported (declaredTable ds) d.1 := by
  rw [h.schema_eq, structs_schema]

theorem enums_eq (h : Accepted facade ds s) :
    s.enums = (declaredEnums ds).map fun d => d.2.exported (declaredTable ds) d.1 := by
  rw [h.schema_eq, enums_schema]

theorem functions_eq (h : Accepted facade ds s) :
    s.functions = (declaredFunctions ds).map fun d => d.2.exported (declaredTable ds) d.1 := by
  rw [h.schema_eq, functions_schema]

theorem struct_isSound (h : Accepted facade ds s) {id : TypeId} {d : StructDecl}
    (hd : (id, d) ∈ declaredStructs ds) : ∀ f ∈ d.fields, f.IsSound (declaredTable ds) :=
  h.struct_fields (List.mem_of_getElem? (mem_declaredStructs_iff.mp hd))

theorem enum_isSound (h : Accepted facade ds s) {id : TypeId} {d : EnumDecl}
    (hd : (id, d) ∈ declaredEnums ds) :
    d.variants ≠ [] ∧ ∀ v ∈ d.variants, isUsableName v.name = true ∧
      v.payload.IsSound (declaredTable ds) :=
  h.enum_variants (List.mem_of_getElem? (mem_declaredEnums_iff.mp hd))

theorem function_mem {id : FunctionId} {f : FunctionDecl} (hf : (id, f) ∈ declaredFunctions ds) :
    f ∈ (Registry.ofRegistered ds).functions := by
  obtain ⟨⟨g, k⟩, hg, heq⟩ := List.mem_map.mp hf
  cases heq
  exact List.fst_mem_of_mem_zipIdx hg

theorem function_mirrors (h : Accepted facade ds s) {id : FunctionId} {f : FunctionDecl}
    (hf : (id, f) ∈ declaredFunctions ds) :
    (f.exported (declaredTable ds) id).Mirrors (declaredTable ds) id f := by
  have hparams := h.function_params (function_mem hf)
  refine ⟨rfl, rfl, rfl, ?_, ?_, rfl⟩
  · cases hr : f.receiver with
    | none =>
      simp only [FunctionDecl.exported, hr]
      exact .none
    | some r =>
      obtain ⟨id, hid⟩ := h.function_receiver (function_mem hf) hr
      simp only [FunctionDecl.exported, hr]
      exact ReceiverDecl.mirrors_exported hid
  · rw [FunctionDecl.params_exported fun p hp => (hparams p hp).1]
    exact forall₂_map_self fun p _ => ⟨rfl, rfl⟩

/-! ## Numbers -/

/-- Every number of a declared type is that of an exported one. -/
theorem mem_typeIds (h : Accepted facade ds s) {id : TypeId} {t : TypeDecl}
    (ht : (ds.filterMap Declaration.type?)[id.index]? = some t) : id ∈ s.typeIds := by
  rw [Schema.typeIds, h.structs_eq, h.enums_eq, List.mem_append, List.map_map, List.map_map]
  cases t with
  | struct d => exact .inl (List.mem_map.mpr ⟨(id, d), mem_declaredStructs_iff.mpr ht, rfl⟩)
  | enum d => exact .inr (List.mem_map.mpr ⟨(id, d), mem_declaredEnums_iff.mpr ht, rfl⟩)

theorem mem_typeIds_of_lookup (h : Accepted facade ds s) {name : String} {id : TypeId}
    (hid : (declaredTable ds).lookup name = some id) : id ∈ s.typeIds := by
  obtain ⟨t, ht, -⟩ := exists_type_of_lookup hid
  exact h.mem_typeIds ht

theorem nodup_typeIds (h : Accepted facade ds s) : s.typeIds.Nodup := by
  rw [h.schema_eq]
  exact nodup_typeIds_schema _

/-! ## Types -/

/-- **No type in an accepted schema is refused in any part.** -/
theorem admissible_of_mem_types (h : Accepted facade ds s) {t : TypeRef} (ht : t ∈ s.types) :
    t.Admissible (declaredTable ds) := by
  rw [Schema.types, h.structs_eq, h.enums_eq, h.functions_eq] at ht
  simp only [List.mem_append, List.mem_flatMap, List.mem_map] at ht
  obtain (⟨_, ⟨⟨id, d⟩, hd, rfl⟩, ht⟩ | ⟨_, ⟨⟨id, d⟩, hd, rfl⟩, ht⟩) |
    ⟨_, ⟨⟨id, f⟩, hf, rfl⟩, ht⟩ := ht
  · exact admissible_of_mem_exportedFields (h.struct_isSound hd) (List.mem_map.mpr ht)
  · exact EnumDecl.admissible_of_mem (h.enum_isSound hd).2 (List.mem_flatMap.mpr ht)
  · have hparams := h.function_params (function_mem hf)
    rcases ht with ⟨x, hx, rfl⟩ | ht
    · rw [FunctionDecl.params_exported fun p hp => (hparams p hp).1] at hx
      obtain ⟨p, hp, rfl⟩ := List.mem_map.mp hx
      exact (hparams p hp).2.1
    · obtain rfl := List.mem_singleton.mp ht
      exact h.function_returns (function_mem hf)

/-- A type in an accepted schema mentions exported types only. -/
theorem mem_typeIds_of_mem_handles (h : Accepted facade ds s) {t : TypeRef} (ht : t ∈ s.types)
    {id : TypeId} (hid : id ∈ t.handles) : id ∈ s.typeIds := by
  obtain ⟨name, hname⟩ := (h.admissible_of_mem_types ht).exists_lookup_of_mem_handles hid
  exact h.mem_typeIds_of_lookup hname

/-- A type that an expression of an accepted list refers to has no name of a fixed meaning. -/
theorem isBuiltinTypeName_of_lookup (h : Accepted facade ds s) {name : String} {id : TypeId}
    (hid : (declaredTable ds).lookup name = some id) : isBuiltinTypeName name = false := by
  obtain ⟨t, ht, rfl⟩ := exists_type_of_lookup hid
  exact (h.type_of_mem (List.mem_of_getElem? ht)).2

/-- A type that is the handle of a struct is the handle of one that is exported. -/
theorem exists_struct_of_isStructHandle (h : Accepted facade ds s) {t : TypeRef}
    (ht : (Registry.ofRegistered ds).isStructHandle t = true) :
    ∃ x ∈ s.structs, t = .handle x.id := by
  cases t with
  | handle id =>
    obtain ⟨decl, hdecl, hstruct⟩ : ∃ t, (ds.filterMap Declaration.type?)[id.index]? = some t ∧
        t.isStruct = true := (Option.any_eq_true _ _).mp ht
    cases decl with
    | struct d =>
      refine ⟨d.exported (declaredTable ds) id, ?_, rfl⟩
      rw [h.structs_eq]
      exact List.mem_map.mpr ⟨(id, d), mem_declaredStructs_iff.mpr hdecl, rfl⟩
    | enum d => cases hstruct
  | _ => cases ht

theorem param_handedOver (h : Accepted facade ds s) {id : FunctionId} {f : FunctionDecl}
    (hf : (id, f) ∈ declaredFunctions ds) {p : ParamDecl} (hp : p ∈ f.params) :
    (p.exported (declaredTable ds)).HandedOver s p := by
  obtain ⟨-, htype, htransfer, hborrowed⟩ := h.function_params (function_mem hf) p hp
  refine ⟨?_, ?_, TypeExpr.paramMode_eq_borrowed_iff, ?_⟩
  · constructor
    · intro hmode
      exact (TypeExpr.paramMode_eq_transfer_iff.mp hmode).1
    · intro hp
      refine TypeExpr.paramMode_eq_transfer_iff.mpr ⟨hp, ?_⟩
      intro isMutable inner href
      rw [hborrowed (TypeExpr.paramMode_eq_borrowed_iff.mpr ⟨isMutable, inner, href⟩)] at hp
      cases hp
  · intro hmode
    exact h.exists_struct_of_isStructHandle (htransfer hmode)
  · intro hmode
    obtain ⟨isMutable, inner, href⟩ := TypeExpr.paramMode_eq_borrowed_iff.mp hmode
    simp only [ParamDecl.exported]
    rw [href] at htype ⊢
    exact TypeExpr.resolve_ref_param (fun _ _ => h.isBuiltinTypeName_of_lookup) htype.not_isRefused

end Accepted

/-! ## The mirror -/

/-- **An accepted schema is complete and closed.** -/
theorem Schema.mirrors_of_build {facade : String} {ds : List Declaration} {s : Schema}
    (h : Schema.build facade ds = .ok s) : s.Mirrors ds := by
  have h := Schema.build_eq_ok_iff_accepted.mp h
  refine ⟨?_, ?_, ?_, h.nodup_typeIds, ?_, ?_, ?_, ?_, ?_, ?_⟩
  · rw [h.structs_eq]
    exact forall₂_map_self fun ⟨id, d⟩ hd =>
      ⟨rfl, rfl, rfl, mirrors_exportedFields (h.struct_isSound hd)⟩
  · rw [h.enums_eq]
    exact forall₂_map_self fun ⟨id, d⟩ hd =>
      ⟨rfl, rfl, rfl, EnumDecl.mirrors_variants (h.enum_isSound hd).2⟩
  · rw [h.functions_eq]
    exact forall₂_map_self fun ⟨id, f⟩ hf => h.function_mirrors hf
  · intro t ht
    exact (h.admissible_of_mem_types ht).isSupported
  · intro t ht id hid
    obtain ⟨name, hname⟩ := (h.admissible_of_mem_types ht).exists_lookup_of_mem_handles hid
    exact h.mem_typeIds_of_lookup hname
  · intro x hx id hid
    rw [h.functions_eq] at hx
    obtain ⟨⟨k, f⟩, hf, rfl⟩ := List.mem_map.mp hx
    obtain ⟨name, hname⟩ := (h.function_mirrors hf).receiver.exists_lookup hid
    exact h.mem_typeIds_of_lookup hname
  · intro x hx
    rw [h.enums_eq] at hx
    obtain ⟨⟨id, d⟩, hd, rfl⟩ := List.mem_map.mp hx
    obtain ⟨hne, hvariants⟩ := h.enum_isSound hd
    intro hnil
    rw [EnumDecl.variants_exported fun v hv => (hvariants v hv).1] at hnil
    exact hne (by simpa using hnil)
  · intro x hx i v hv
    rw [h.enums_eq] at hx
    obtain ⟨⟨id, d⟩, hd, rfl⟩ := List.mem_map.mp hx
    exact EnumDecl.discriminant_exported (fun v hv => ((h.enum_isSound hd).2 v hv).1) hv
  · rw [h.functions_eq]
    refine forall₂_map_self fun ⟨id, f⟩ hf => ?_
    have hparams := h.function_params (Accepted.function_mem hf)
    rw [FunctionDecl.params_exported fun p hp => (hparams p hp).1]
    exact forall₂_map_self fun p hp => h.param_handedOver hf hp

/-- The declarations of the small library are accepted. -/
theorem demo_schema_mirrors :
    Schema.build defaultFacade Demo.declarations = .ok Demo.schema ∧
      Demo.schema.Mirrors Demo.declarations :=
  ⟨Demo.build_declarations, Schema.mirrors_of_build Demo.build_declarations⟩

end Boundary
