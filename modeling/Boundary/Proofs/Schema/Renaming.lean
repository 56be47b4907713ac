import Boundary.EntryPoint
import Boundary.Proofs.Schema.Accepted

/-!
# Numbers of types and functions

Types and functions are numbered by the places of their declarations, and nothing else depends on
these places. An item that is exported with other numbers is the same item, with its numbers
changed.

* `TypeRef.rename` and its siblings: a part of a schema with its numbers changed.
* `TypeTable.Renames`: a table that has the names of another one, perhaps with other numbers.
* `TypeExpr.resolve_of_renames`: what is not refused resolves alike in both tables.
* `StructDecl.exported_of_renames`, `EnumDecl.exported_of_renames`,
  `FunctionDecl.exported_of_renames`: so sound declarations are exported alike.
* `TypeDecl.contentReport_of_renames`: and are sound in both tables.
* `ExportedStruct.entryPoints_rename`, `ExportedEnum.entryPoints_rename`: the entry points of an
  item do not depend on numbers, but for their purposes.
-/

namespace Boundary

/-! ## Changed numbers -/

section Rename

variable (σ : TypeId → TypeId) (τ : FunctionId → FunctionId)

/-- The type with its numbers changed by `σ`. -/
def TypeRef.rename : TypeRef → TypeRef
  | .unit => .unit
  | .primitive p => .primitive p
  | .str => .str
  | .handle id => .handle (σ id)
  | .option inner => .option inner.rename
  | .result ok err => .result ok.rename err.rename
  | .unsupported reason => .unsupported reason

/-- The field with its numbers changed. -/
def Field.rename (f : Field) : Field := ⟨f.name, f.type.rename σ⟩

/-- The struct with its numbers changed by `σ`. -/
def ExportedStruct.rename (s : ExportedStruct) : ExportedStruct :=
  ⟨σ s.id, s.name, s.fields.map (·.rename σ), s.location⟩

/-- The payload with its numbers changed by `σ`. -/
def Payload.rename : Payload → Payload
  | .unit => .unit
  | .tuple elems => .tuple (elems.map (·.rename σ))
  | .struct fields => .struct (fields.map (·.rename σ))

/-- The variant with its numbers changed. -/
def Variant.rename (v : Variant) : Variant := ⟨v.name, v.discriminant, v.payload.rename σ⟩

/-- The enum with its numbers changed by `σ`. -/
def ExportedEnum.rename (e : ExportedEnum) : ExportedEnum :=
  ⟨σ e.id, e.name, e.variants.map (·.rename σ), e.location⟩

/-- The receiver with its number changed. -/
def Receiver.rename : Receiver → Receiver
  | .none => .none
  | .byRef id => .byRef (σ id)
  | .byValue id => .byValue (σ id)

/-- The parameter with its numbers changed. -/
def Param.rename (p : Param) : Param := ⟨p.name, p.type.rename σ, p.mode⟩

/-- The function with its numbers changed. -/
def ExportedFunction.rename (f : ExportedFunction) : ExportedFunction :=
  ⟨τ f.id, f.name, f.receiver.rename σ, f.params.map (·.rename σ), f.returns.rename σ, f.location⟩

/-- The purpose with its number changed. -/
def EntryPurpose.rename : EntryPurpose → EntryPurpose
  | .bufferFree => .bufferFree
  | .ctor id => .ctor (σ id)
  | .free id => .free (σ id)
  | .getter id field => .getter (σ id) field
  | .variantCtor id variant => .variantCtor (σ id) variant
  | .tag id => .tag (σ id)
  | .variantGetter id variant field => .variantGetter (σ id) variant field
  | .function id => .function (τ id)

/-- The entry point with the numbers in its purpose changed by `σ` and `τ`. -/
def EntryPoint.rename (e : EntryPoint) : EntryPoint :=
  ⟨e.purpose.rename σ τ, e.symbol, e.params, e.ret⟩

end Rename

variable {σ : TypeId → TypeId} {τ : FunctionId → FunctionId}

theorem TypeRef.isRefused_rename_iff {t : TypeRef} : (t.rename σ).IsRefused ↔ t.IsRefused := by
  cases t <;> simp [TypeRef.rename, TypeRef.IsRefused]

theorem TypeRef.handles_rename (t : TypeRef) : (t.rename σ).handles = t.handles.map σ := by
  induction t with
  | option inner ih => exact ih
  | result ok err hok herr => simp [TypeRef.rename, TypeRef.handles, hok, herr]
  | _ => rfl

theorem FlatType.of_rename (direction : Direction) (t : TypeRef) :
    FlatType.of direction (t.rename σ) = FlatType.of direction t := by
  induction t generalizing direction with
  | primitive p => cases p <;> rfl
  | option inner ih => exact congrArg FlatType.option (ih direction)
  | result ok err hok _ => exact hok .out
  | _ => rfl

theorem Receiver.typeId?_rename (r : Receiver) : (r.rename σ).typeId? = r.typeId?.map σ := by
  cases r <;> rfl

theorem Receiver.rename_eq_none_iff {r : Receiver} : r.rename σ = .none ↔ r = .none := by
  cases r <;> simp [Receiver.rename]

theorem Payload.fields_rename (p : Payload) :
    (p.rename σ).fields = p.fields.map fun f => ⟨f.name, f.type.rename σ⟩ := by
  cases p with
  | unit => rfl
  | tuple elems => simp [Payload.rename, Payload.fields, List.zipIdx_map, Function.comp_def]
  | struct fields => simp [Payload.rename, Payload.fields, Field.rename, Function.comp_def]

/-! ### Numbers that are kept -/

theorem TypeRef.rename_self (t : TypeRef) : t.rename (fun i => i) = t := by
  induction t with
  | option inner ih => exact congrArg TypeRef.option ih
  | result ok err hok herr => rw [TypeRef.rename, hok, herr]
  | _ => rfl

theorem Payload.rename_self (p : Payload) : p.rename (fun i => i) = p := by
  cases p <;> simp [Payload.rename, Field.rename, TypeRef.rename_self]

theorem ExportedStruct.rename_self (x : ExportedStruct) : x.rename (fun i => i) = x := by
  simp [ExportedStruct.rename, Field.rename, TypeRef.rename_self]

theorem ExportedEnum.rename_self (x : ExportedEnum) : x.rename (fun i => i) = x := by
  simp [ExportedEnum.rename, Variant.rename, Payload.rename_self]

theorem ExportedFunction.rename_self (f : ExportedFunction) :
    f.rename (fun i => i) (fun i => i) = f := by
  obtain ⟨id, name, receiver, params, returns, location⟩ := f
  cases receiver <;>
    simp [ExportedFunction.rename, Receiver.rename, Param.rename, TypeRef.rename_self]

/-! ## Entry points -/

theorem ExportedStruct.entryPoints_rename (start : String) (x : ExportedStruct) :
    (x.rename σ).entryPoints start = (x.entryPoints start).map (·.rename σ τ) := by
  simp only [ExportedStruct.entryPoints, ctorEntry, getterEntries, freeEntry, ExportedStruct.rename,
    Field.rename, List.map_append, List.map_cons, List.map_nil, List.map_map, List.zipIdx_map,
    Function.comp_def, FlatType.of_rename, EntryPoint.rename, EntryPurpose.rename, Prod.map]
  rfl

theorem ExportedEnum.entryPoints_rename (start : String) (x : ExportedEnum) :
    (x.rename σ).entryPoints start = (x.entryPoints start).map (·.rename σ τ) := by
  simp only [ExportedEnum.entryPoints, ctorEntries, tagEntry, getterEntries, freeEntry,
    ExportedEnum.rename, Variant.rename, Payload.fields_rename, List.map_append, List.map_cons,
    List.map_nil, List.map_map, List.map_flatMap, List.flatMap_map, List.zipIdx_map,
    Function.comp_def, FlatType.of_rename, EntryPoint.rename, EntryPurpose.rename, Prod.map]
  rfl

/-! ## Tables -/

/-- The table `table'` has the names of `table`, with their numbers changed by `σ`. -/
def TypeTable.Renames (σ : TypeId → TypeId) (table table' : TypeTable) : Prop :=
  ∀ name id, table.lookup name = some id → table'.lookup name = some (σ id)

variable {table table' : TypeTable}

theorem TypeExpr.isExported_of_renames (h : TypeTable.Renames σ table table') {e : TypeExpr}
    (he : e.isExported table = true) : e.isExported table' = true := by
  cases e with
  | path name args =>
    obtain ⟨id, hid⟩ := Option.isSome_iff_exists.mp he
    exact Option.isSome_iff_exists.mpr ⟨_, h _ _ hid⟩
  | _ => cases he

private theorem resolveName_of_renames (h : TypeTable.Renames σ table table') {e : TypeExpr}
    {last : String} (hr : ¬ (resolveName table e last).IsRefused) :
    resolveName table' e last = (resolveName table e last).rename σ := by
  unfold resolveName at hr ⊢
  cases hprimitive : Primitive.ofName? last with
  | some p => rfl
  | none =>
    rw [hprimitive] at hr
    by_cases hfixed : last ∈ fixedTypeNames
    · -- A name of a fixed meaning is not looked up.
      simp only [fixedTypeNames, List.mem_cons, List.not_mem_nil, or_false] at hfixed
      obtain rfl | rfl | rfl | rfl | rfl | rfl | rfl := hfixed <;> rfl
    · simp only [fixedTypeNames, List.mem_cons, List.not_mem_nil, or_false, not_or] at hfixed
      simp only [hfixed, decide_false, Bool.or_self, Bool.false_eq_true, if_false] at hr ⊢
      cases hid : table.lookup last with
      | some id =>
        rw [h last id hid]
        rfl
      | none =>
        rw [hid] at hr
        exact absurd (e.isRefused_refuse _) hr

private theorem resolveOption_of_renames {e : TypeExpr} {inner inner' : TypeRef}
    (hinner : ¬ inner.IsRefused → inner' = inner.rename σ)
    (hr : ¬ (resolveOption e inner).IsRefused) :
    resolveOption e inner' = (resolveOption e inner).rename σ := by
  cases inner with
  | unsupported reason => exact absurd ⟨reason, rfl⟩ hr
  | option t => exact absurd (e.isRefused_refuse _) hr
  | _ =>
    rw [hinner (by simp [TypeRef.IsRefused])]
    rfl

theorem TypeRef.isSupported_rename (t : TypeRef) : (t.rename σ).isSupported = t.isSupported := by
  induction t with
  | option inner ih => exact ih
  | result ok err hok herr => simp [TypeRef.rename, TypeRef.isSupported, hok, herr]
  | _ => rfl

private theorem resolveResult_of_renames {e : TypeExpr} {position : TypePosition}
    {ok ok' err err' : TypeRef}
    (hok : ¬ ok.IsRefused → ok' = ok.rename σ) (herr : ¬ err.IsRefused → err' = err.rename σ)
    (hr : ¬ (resolveResult e position ok err).IsRefused) :
    resolveResult e position ok' err' = (resolveResult e position ok err).rename σ := by
  unfold resolveResult at hr ⊢
  split
  · rename_i hposition
    rw [if_pos hposition] at hr
    exact absurd (e.isRefused_refuse _) hr
  rename_i hoption
  rw [if_neg hoption] at hr
  split
  · rename_i hposition
    rw [if_pos hposition] at hr
    exact absurd (e.isRefused_refuse _) hr
  rename_i hreturn
  rw [if_neg hreturn] at hr
  have hok' : ¬ ok.IsRefused := by
    rintro ⟨reason, rfl⟩
    exact hr ⟨reason, rfl⟩
  rw [hok hok', TypeRef.isSupported_rename]
  split
  · rfl
  rename_i hsupported
  rw [if_neg hsupported] at hr
  have herr' : ¬ err.IsRefused := by
    rintro ⟨reason, rfl⟩
    exact hr ⟨reason, rfl⟩
  rw [herr herr', TypeRef.isSupported_rename]
  split <;> rfl

/-- **What `resolve` does not refuse resolves alike in both tables.** -/
theorem TypeExpr.resolve_of_renames (h : TypeTable.Renames σ table table')
    {position : TypePosition} {e : TypeExpr} (hr : ¬ (e.resolve table position).IsRefused) :
    e.resolve table' position = (e.resolve table position).rename σ := by
  fun_induction TypeExpr.resolve table position e with
  | case1 _ name =>
    rw [TypeExpr.resolve]
    exact resolveName_of_renames h hr
  | case2 _ name arg hoption ih =>
    rw [TypeExpr.resolve, if_pos hoption]
    exact resolveOption_of_renames ih hr
  | case4 position name ok err hresult hok herr =>
    rw [TypeExpr.resolve, if_pos hresult]
    exact resolveResult_of_renames hok herr hr
  | case9 position inner hposition htext =>
    rw [TypeExpr.resolve, if_neg hposition, if_pos htext]
    rfl
  | case10 position inner hposition htext hexported ih =>
    rw [TypeExpr.resolve, if_neg hposition, if_neg htext,
      if_pos (TypeExpr.isExported_of_renames h hexported)]
    exact ih hr
  | case12 position hunit =>
    rw [TypeExpr.resolve, if_pos hunit]
    rfl
  | case3 | case5 | case6 => exact absurd (isRefused_resolveGeneric _ _) hr
  | _ => exact absurd (TypeExpr.isRefused_refuse _ _) hr

/-! ## Exported items -/

theorem FieldDecl.exported_of_renames (h : TypeTable.Renames σ table table') {f : FieldDecl}
    (hf : f.IsSound table) : f.exported table' = (f.exported table).rename σ := by
  rw [FieldDecl.exported, TypeExpr.resolve_of_renames h hf.2.not_isRefused]
  rfl

theorem exportedFields_of_renames (h : TypeTable.Renames σ table table') {fields : List FieldDecl}
    (hfields : ∀ f ∈ fields, f.IsSound table) :
    exportedFields table' fields = (exportedFields table fields).map (·.rename σ) := by
  rw [exportedFields, exportedFields, List.map_map]
  exact List.map_congr_left fun f hf =>
    FieldDecl.exported_of_renames h (hfields f (List.mem_filter.mp hf).1)

/-- A sound struct is exported alike. -/
theorem StructDecl.exported_of_renames (h : TypeTable.Renames σ table table') {d : StructDecl}
    (hd : ∀ f ∈ d.fields, f.IsSound table) (id : TypeId) :
    d.exported table' (σ id) = (d.exported table id).rename σ := by
  rw [StructDecl.exported, exportedFields_of_renames h hd]
  rfl

theorem PayloadDecl.exported_of_renames (h : TypeTable.Renames σ table table') {p : PayloadDecl}
    (hp : p.IsSound table) : p.exported table' = (p.exported table).rename σ := by
  cases p with
  | unit => rfl
  | tuple elems =>
    simp only [PayloadDecl.exported, Payload.rename, List.map_map, Payload.tuple.injEq]
    exact List.map_congr_left fun t ht => TypeExpr.resolve_of_renames h (hp t ht).not_isRefused
  | struct fields =>
    rw [PayloadDecl.exported, exportedFields_of_renames h hp]
    rfl

/-- A sound enum is exported alike. -/
theorem EnumDecl.exported_of_renames (h : TypeTable.Renames σ table table') {d : EnumDecl}
    (hd : ∀ v ∈ d.variants, v.payload.IsSound table) (id : TypeId) :
    d.exported table' (σ id) = (d.exported table id).rename σ := by
  simp only [EnumDecl.exported, ExportedEnum.rename, List.map_map, ExportedEnum.mk.injEq, true_and,
    and_true]
  refine List.map_congr_left fun ⟨v, i⟩ hv => ?_
  have hmem : v ∈ d.variants := List.fst_mem_of_mem_zipIdx (List.mem_filter.mp hv).1
  simp only [Function.comp_apply, Variant.rename, PayloadDecl.exported_of_renames h (hd v hmem)]

/-- A function of which every part can cross the boundary, by `table`. -/
structure FunctionDecl.IsSound (table : TypeTable) (f : FunctionDecl) : Prop where
  receiver : ∀ r, f.receiver = some r →
    ∃ id, table.lookup (Naming.lastSegment r.typeName) = some id
  params : ∀ p ∈ f.params, isUsableName p.name = true ∧
    (p.type.resolve table .param).Admissible table
  returns : (f.returns.resolve table .return_).Admissible table

theorem ReceiverDecl.exported_of_renames (h : TypeTable.Renames σ table table') {r : ReceiverDecl}
    {id : TypeId} (hid : table.lookup (Naming.lastSegment r.typeName) = some id) :
    r.exported table' = (r.exported table).rename σ := by
  unfold ReceiverDecl.exported
  rw [hid, h _ _ hid]
  cases r.mode <;> rfl

/-- A sound function is exported alike. -/
theorem FunctionDecl.exported_of_renames (h : TypeTable.Renames σ table table') {f : FunctionDecl}
    (hf : f.IsSound table) (id : FunctionId) :
    f.exported table' (τ id) = (f.exported table id).rename σ τ := by
  have hreceiver : (f.receiver.map (·.exported table')).getD Receiver.none =
      ((f.receiver.map (·.exported table)).getD Receiver.none).rename σ := by
    cases hr : f.receiver with
    | none => rfl
    | some r =>
      obtain ⟨id, hid⟩ := hf.receiver r hr
      exact ReceiverDecl.exported_of_renames h hid
  have hparams : (f.params.filter fun p => isUsableName p.name).map (·.exported table') =
      ((f.params.filter fun p => isUsableName p.name).map (·.exported table)).map
        (·.rename σ) := by
    rw [List.map_map]
    refine List.map_congr_left fun p hp => ?_
    have hsound := (hf.params p (List.mem_filter.mp hp).1).2
    rw [ParamDecl.exported, TypeExpr.resolve_of_renames h hsound.not_isRefused]
    rfl
  simp only [FunctionDecl.exported, ExportedFunction.rename, hreceiver, hparams,
    TypeExpr.resolve_of_renames h hf.returns.not_isRefused]

namespace Accepted

variable {facade : String} {ds : List Declaration} {s : Schema}

theorem function_isSound (h : Accepted facade ds s) {f : FunctionDecl}
    (hf : f ∈ (Registry.ofRegistered ds).functions) :
    f.IsSound (Registry.ofRegistered ds).table := by
  refine ⟨fun r hr => h.function_receiver hf hr, fun p hp => ?_, h.function_returns hf⟩
  obtain ⟨hname, htype, -⟩ := h.function_params hf p hp
  exact ⟨hname, htype⟩

end Accepted

/-! ## Sound content -/

theorem TypeExpr.not_isRefused_of_renames (h : TypeTable.Renames σ table table')
    {position : TypePosition} {e : TypeExpr} (hr : ¬ (e.resolve table position).IsRefused) :
    ¬ (e.resolve table' position).IsRefused := by
  rwa [TypeExpr.resolve_of_renames h hr, TypeRef.isRefused_rename_iff]

theorem fieldsReport_of_renames (h : TypeTable.Renames σ table table') {scope : Scope}
    {location : Location} {owner : String} {fields : List FieldDecl}
    (hreport : fieldsReport table scope location owner fields = []) :
    fieldsReport table' scope location owner fields = [] := by
  rw [fieldsReport_eq_nil_iff] at hreport ⊢
  intro front f back hfields
  obtain ⟨hname, hconflict, htype⟩ := hreport front f back hfields
  exact ⟨hname, hconflict, TypeExpr.not_isRefused_of_renames h htype⟩

theorem PayloadDecl.report_of_renames (h : TypeTable.Renames σ table table') {location : Location}
    {variant subject : String} {p : PayloadDecl}
    (hreport : p.report table location variant subject = []) :
    p.report table' location variant subject = [] := by
  cases p with
  | unit => rfl
  | tuple elems =>
    rw [PayloadDecl.report_tuple_eq_nil_iff] at hreport ⊢
    exact fun t ht => TypeExpr.not_isRefused_of_renames h (hreport t ht)
  | struct fields => exact fieldsReport_of_renames h hreport

/-- A type that is sound in `table` is sound in `table'`. -/
theorem TypeDecl.contentReport_of_renames (h : TypeTable.Renames σ table table') {t : TypeDecl}
    (hreport : t.contentReport table = []) : t.contentReport table' = [] := by
  cases t with
  | struct d => exact fieldsReport_of_renames h hreport
  | enum d =>
    rw [TypeDecl.contentReport_enum_eq_nil_iff, EnumDecl.variantsReport_eq_nil_iff] at hreport ⊢
    refine ⟨hreport.1, fun front v back hvariants => ?_⟩
    obtain ⟨hname, hconflict, hpayload⟩ := hreport.2 front v back hvariants
    exact ⟨hname, hconflict, PayloadDecl.report_of_renames h hpayload⟩

end Boundary
