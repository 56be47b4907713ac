import Boundary.Proofs.Schema.Distinct

/-!
# Managed names inside accepted types

The members of an accepted type have different managed names, and none of them is the name of the
type or one that its scope reserves. So it is for the functions that are called on nothing, and for
the fields of a variant that has names for them.

* `Scope.Grants`: names that a scope grants one after the other.
* `Scope.grants_append_filterMap`: what is asked for after some names that are granted.
* `ownClaim?`: what a declaration asks for in the class that it belongs to.
* `Accepted.grants_struct`, `Accepted.grants_enum`, `Accepted.grants_freeFunctions`,
  `Accepted.grants_payload`: the members of a schema by scope.
-/

namespace Boundary

/-! ## Granted members -/

section Granted

variable {s : Scope}

theorem Scope.conflict?_eq_none_iff {earlier : List NameClaim} {c : NameClaim} :
    s.conflict? earlier c = none ↔
      c.managed ≠ s.owner ∧ c.managed ∉ s.reserved ∧ ∀ e ∈ earlier, e.managed ≠ c.managed := by
  unfold Scope.conflict?
  split
  · simp_all
  split
  · simp_all
  split
  · rename_i first hfirst
    have hmem := List.mem_of_find?_eq_some hfirst
    have heq : first.managed = c.managed := by simpa using List.find?_some hfirst
    simp only [reduceCtorEq, false_iff, not_and, not_forall]
    exact fun _ _ => ⟨first, hmem, not_not.mpr heq⟩
  · simp_all

/-- Names that a scope grants. -/
structure Scope.Grants (s : Scope) (names : List String) : Prop where
  nodup : names.Nodup
  ne_owner : ∀ name ∈ names, name ≠ s.owner
  notMem_reserved : ∀ name ∈ names, name ∉ s.reserved

theorem Scope.grants_nil : s.Grants [] := ⟨List.nodup_nil, by simp, by simp⟩

/-- One more name that is granted. -/
theorem Scope.Grants.concat {claims : List NameClaim} (h : s.Grants (claims.map (·.managed)))
    {c : NameClaim} (hc : s.conflict? claims c = none) :
    s.Grants ((claims ++ [c]).map (·.managed)) := by
  obtain ⟨howner, hreserved, hfresh⟩ := Scope.conflict?_eq_none_iff.mp hc
  have hall {p : String → Prop} (hclaims : ∀ name ∈ claims.map (·.managed), p name)
      (hlast : p c.managed) : ∀ name ∈ (claims ++ [c]).map (·.managed), p name := by
    intro name hname
    rw [List.map_append, List.mem_append] at hname
    obtain hname | hname := hname
    · exact hclaims name hname
    · exact List.mem_singleton.mp hname ▸ hlast
  refine ⟨?_, hall h.ne_owner howner, hall h.notMem_reserved hreserved⟩
  rw [List.map_append, List.nodup_append]
  refine ⟨h.nodup, List.nodup_singleton _, ?_⟩
  rintro name hname _ hlast rfl
  obtain ⟨e, he, hmanaged⟩ := List.mem_map.mp hname
  exact hfresh e he (hmanaged.trans (List.mem_singleton.mp hlast))

/-- The names that items ask for are granted, if each is where `base` and the items before it have
asked. -/
theorem Scope.grants_append_filterMap {α : Type} (f : α → Option NameClaim)
    {base : List NameClaim} {as : List α} (hbase : s.Grants (base.map (·.managed)))
    (h : ∀ front a back c, as = front ++ a :: back → f a = some c →
      s.conflict? (base ++ front.filterMap f) c = none) :
    s.Grants ((base ++ as.filterMap f).map (·.managed)) := by
  induction as generalizing base with
  | nil => simpa using hbase
  | cons a rest ih =>
    cases hfa : f a with
    | none =>
      rw [List.filterMap_cons_none hfa]
      refine ih hbase ?_
      intro front b back c hrest hfb
      simpa [hfa] using h (a :: front) b back c (by simp [hrest]) hfb
    | some c =>
      have hc : s.conflict? base c = none := by simpa using h [] a rest c rfl hfa
      rw [List.filterMap_cons_some hfa, List.append_cons]
      refine ih (hbase.concat hc) ?_
      intro front b back d hrest hfb
      simpa [hfa] using h (a :: front) b back d (by simp [hrest]) hfb

theorem Scope.grants_filterMap {α : Type} (f : α → Option NameClaim) {as : List α}
    (h : ∀ front a back c, as = front ++ a :: back → f a = some c →
      s.conflict? (front.filterMap f) c = none) : s.Grants ((as.filterMap f).map (·.managed)) := by
  rw [← List.nil_append (as.filterMap f)]
  exact Scope.grants_append_filterMap f Scope.grants_nil h

/-- The members of usable names that a scope grants. -/
theorem Scope.grants_members {α : Type} (name : α → String) {as : List α}
    (h : ∀ front a back, as = front ++ a :: back →
      s.conflict? (front.filterMap fun e => memberClaim? (name e))
        ⟨Naming.pascal (name a), name a⟩ = none) :
    s.Grants ((as.filterMap fun a => memberClaim? (name a)).map (·.managed)) := by
  refine Scope.grants_filterMap _ ?_
  intro front a back c has hc
  unfold memberClaim? at hc
  split at hc
  · cases hc
    exact h front a back has
  · cases hc

/-- Members of usable names ask for their names in capitals. -/
theorem map_managed_memberClaims {α : Type} {name : α → String} {as : List α}
    (h : ∀ a ∈ as, isUsableName (name a) = true) :
    (as.filterMap fun a => memberClaim? (name a)).map (·.managed) =
      as.map fun a => Naming.pascal (name a) := by
  rw [List.map_filterMap, ← List.filterMap_eq_map]
  refine List.filterMap_congr fun a ha => ?_
  rw [memberClaim?_of_isUsableName (h a ha)]
  rfl

/-- The fields or variants of a type are granted. -/
theorem TypeDecl.grants_memberClaims {table : TypeTable} {t : TypeDecl}
    (h : t.contentReport table = []) : t.scope.Grants (t.memberClaims.map (·.managed)) := by
  cases t with
  | struct d =>
    refine Scope.grants_members (fun f : FieldDecl => f.name) ?_
    exact fun front f back hsplit => (fieldsReport_eq_nil_iff.mp h front f back hsplit).2.1
  | enum d =>
    have hvariants := EnumDecl.variantsReport_eq_nil_iff.mp (contentReport_enum_eq_nil_iff.mp h).2
    refine Scope.grants_members (fun v : VariantDecl => v.name) ?_
    exact fun front v back hsplit => (hvariants front v back hsplit).2.1

end Granted

/-! ## Functions in their classes -/

/-- The name that a function asks for in the class of `owner`, or in that of the functions that are
called on nothing. -/
def ownClaim? (owner : Option String) : Declaration → Option NameClaim
  | .function f => if f.owner? = owner then some f.claim else none
  | _ => none

theorem filterMap_ownClaim? (owner : Option String) (ds : List Declaration) :
    ds.filterMap (ownClaim? owner) =
      ((ds.filterMap Declaration.function?).filter fun f => f.owner? = owner).map (·.claim) := by
  induction ds with
  | nil => rfl
  | cons d rest ih =>
    cases d with
    | function f =>
      by_cases h : f.owner? = owner <;> simp [ownClaim?, Declaration.function?, h, ih]
    | struct d | enum d => exact ih

theorem exists_of_ownClaim? {owner : Option String} {d : Declaration} {c : NameClaim}
    (h : ownClaim? owner d = some c) : ∃ f, d = .function f ∧ f.owner? = owner ∧ f.claim = c := by
  cases d with
  | function f =>
    rw [ownClaim?] at h
    split at h
    · cases h
      exact ⟨f, rfl, ‹_›, rfl⟩
    · cases h
  | _ => cases h

theorem FunctionDecl.isNone_receiver_iff (f : FunctionDecl) :
    f.receiver.isNone = true ↔ f.owner? = none := by
  simp [FunctionDecl.owner?]

namespace Accepted

variable {facade : String} {ds : List Declaration} {s : Schema}

/-- Nothing is wrong with a declared function as a member, where the functions before it are. -/
theorem memberReport_eq_nil (h : Accepted facade ds s) {front back : List Declaration}
    {f : FunctionDecl} (hds : ds = front ++ .function f :: back) :
    f.memberReport (.ofAccepted facade ds s) (front.filterMap Declaration.function?) = [] := by
  have hreport := h.registeredReport_eq_nil front (.function f) back hds
  simp only [Declaration.registeredReport, List.append_eq_nil_iff] at hreport
  exact (FunctionDecl.contentReport_eq_nil_iff.mp hreport.2.1).1

/-- The functions that are called on nothing are granted in their class. -/
theorem grants_ownClaims_none (h : Accepted facade ds s) :
    (Scope.type facade).Grants ((ds.filterMap (ownClaim? none)).map (·.managed)) := by
  refine Scope.grants_filterMap _ ?_
  intro front d back c hds hc
  obtain ⟨f, rfl, howner, rfl⟩ := exists_of_ownClaim? hc
  have hreceiver : f.receiver = none := by
    simpa using (FunctionDecl.isNone_receiver_iff f).mpr howner
  have hmember := h.memberReport_eq_nil hds
  unfold FunctionDecl.memberReport at hmember
  rw [hreceiver] at hmember
  have hconflict := conflictReport_eq_nil_iff.mp hmember
  have hbefore : (front.filterMap Declaration.function?).filter (·.receiver.isNone) =
      (front.filterMap Declaration.function?).filter fun g => g.owner? = none :=
    List.filter_congr fun g _ => by
      rw [Bool.eq_iff_iff, FunctionDecl.isNone_receiver_iff, decide_eq_true_eq]
  rw [hbefore, ← filterMap_ownClaim?] at hconflict
  exact hconflict

/-- The fields or variants of a declared type and the functions that are called on it are
granted. -/
theorem grants_ownClaims_some (h : Accepted facade ds s) {t : TypeDecl}
    (ht : t ∈ ds.filterMap Declaration.type?) :
    t.scope.Grants
      ((t.memberClaims ++ ds.filterMap (ownClaim? (some t.name))).map (·.managed)) := by
  refine Scope.grants_append_filterMap _
    (TypeDecl.grants_memberClaims (h.type_of_mem ht).1) ?_
  intro front d back c hds hc
  obtain ⟨f, rfl, howner, rfl⟩ := exists_of_ownClaim? hc
  obtain ⟨r, hreceiver, hname⟩ := Option.map_eq_some_iff.mp howner
  have hmember := h.memberReport_eq_nil hds
  unfold FunctionDecl.memberReport at hmember
  rw [hreceiver] at hmember
  dsimp only at hmember
  split at hmember
  · cases hmember
  · rename_i id hid
    -- The type that the receiver names is this one: no other has its name.
    obtain ⟨u, hu, huname⟩ : ∃ u, (ds.filterMap Declaration.type?)[id.index]? = some u ∧
        u.name = Naming.lastSegment r.typeName := exists_type_of_lookup hid
    obtain rfl : u = t := List.inj_on_of_nodup_map h.nodup_typeNames (List.mem_of_getElem? hu) ht
      (huname.trans hname)
    have htype : (Surroundings.ofAccepted facade ds s).registry.type? id = some u := hu
    rw [htype, howner, ← filterMap_ownClaim?] at hmember
    exact conflictReport_eq_nil_iff.mp hmember

/-! ## Members of schemas -/

theorem isUsableName_of_mem_exportedFields {table : TypeTable} {decls : List FieldDecl} {f : Field}
    (hf : f ∈ exportedFields table decls) : isUsableName f.name = true := by
  obtain ⟨d, hd, rfl⟩ := List.mem_map.mp hf
  exact (List.mem_filter.mp hd).2

theorem isUsableName_field (h : Accepted facade ds s) {x : ExportedStruct} (hx : x ∈ s.structs)
    {f : Field} (hf : f ∈ x.fields) : isUsableName f.name = true := by
  rw [h.structs_eq] at hx
  obtain ⟨d, -, rfl⟩ := List.mem_map.mp hx
  exact isUsableName_of_mem_exportedFields hf

theorem isIdentifier_field (h : Accepted facade ds s) {x : ExportedStruct} (hx : x ∈ s.structs)
    {f : Field} (hf : f ∈ x.fields) : Naming.isIdentifier f.name = true :=
  Naming.isIdentifier_of_isUsableName (h.isUsableName_field hx hf)

theorem isIdentifier_variant (h : Accepted facade ds s) {x : ExportedEnum} (hx : x ∈ s.enums)
    {v : Variant} (hv : v ∈ x.variants) : Naming.isIdentifier v.name = true := by
  rw [h.enums_eq] at hx
  obtain ⟨d, -, rfl⟩ := List.mem_map.mp hx
  obtain ⟨⟨decl, i⟩, hdecl, rfl⟩ := List.mem_map.mp hv
  exact Naming.isIdentifier_of_isUsableName (List.mem_filter.mp hdecl).2

theorem isUsableName_payloadField (h : Accepted facade ds s) {x : ExportedEnum} (hx : x ∈ s.enums)
    {v : Variant} (hv : v ∈ x.variants) {fields : List Field} (hfields : v.payload = .struct fields)
    {f : Field} (hf : f ∈ fields) : isUsableName f.name = true := by
  rw [h.enums_eq] at hx
  obtain ⟨d, -, rfl⟩ := List.mem_map.mp hx
  obtain ⟨⟨decl, i⟩, -, rfl⟩ := List.mem_map.mp hv
  replace hfields : decl.payload.exported (declaredTable ds) = .struct fields := hfields
  cases hdecls : decl.payload with
  | struct decls =>
    rw [hdecls] at hfields
    cases hfields
    exact isUsableName_of_mem_exportedFields hf
  | unit | tuple elems =>
    rw [hdecls] at hfields
    cases hfields

theorem isIdentifier_payloadField (h : Accepted facade ds s) {x : ExportedEnum} (hx : x ∈ s.enums)
    {v : Variant} (hv : v ∈ x.variants) {fields : List Field} (hfields : v.payload = .struct fields)
    {f : Field} (hf : f ∈ fields) : Naming.isIdentifier f.name = true :=
  Naming.isIdentifier_of_isUsableName (h.isUsableName_payloadField hx hv hfields hf)

theorem isIdentifier_function (h : Accepted facade ds s) {f : ExportedFunction}
    (hf : f ∈ s.functions) : Naming.isIdentifier f.name = true := by
  rw [h.functions_eq] at hf
  obtain ⟨⟨id, decl⟩, hdecl, rfl⟩ := List.mem_map.mp hf
  obtain ⟨d, hd, hfunction⟩ := List.mem_filterMap.mp (function_mem hdecl)
  obtain ⟨front, back, hds⟩ := List.append_of_mem hd
  have husable := isUsableName_of_refusal? (h.refusal?_eq_none front d back hds)
  cases d with
  | function f =>
    cases hfunction
    exact Naming.isIdentifier_of_isUsableName husable
  | _ => cases hfunction

/-- The functions of a class by their managed names. -/
theorem map_pascal_functions (h : Accepted facade ds s) (owner : Option String) :
    ((s.functions.filter fun f => s.ownerName f = owner).map fun f => Naming.pascal f.name) =
      (ds.filterMap (ownClaim? owner)).map (·.managed) := by
  have howner : ∀ f ∈ declaredFunctions ds,
      s.ownerName (f.2.exported (declaredTable ds) f.1) = f.2.owner? := by
    rintro ⟨id, f⟩ hf
    exact h.ownerName_exported hf
  have hfunctions : (declaredFunctions ds).map (·.2) = ds.filterMap Declaration.function? := by
    rw [declaredFunctions, List.map_map]
    exact List.zipIdx_map_fst _ _
  rw [filterMap_ownClaim?, ← hfunctions, h.functions_eq, List.filter_map, List.filter_map,
    List.map_map, List.map_map, List.map_map]
  refine congrArg _ (List.filter_congr fun f hf => ?_)
  simp [howner f hf]

theorem mem_typeIds_of_receiver (h : Accepted facade ds s) {f : ExportedFunction}
    (hf : f ∈ s.functions) {id : TypeId} (hid : f.receiver.typeId? = some id) : id ∈ s.typeIds := by
  rw [h.functions_eq] at hf
  obtain ⟨⟨k, d⟩, hd, rfl⟩ := List.mem_map.mp hf
  obtain ⟨name, hname⟩ := (h.function_mirrors hd).receiver.exists_lookup hid
  exact h.mem_typeIds_of_lookup hname

/-- The methods of a type are the functions whose owner has its name. -/
theorem methodsOf_eq (h : Accepted facade ds s) {id : TypeId} (hid : id ∈ s.typeIds) :
    s.methodsOf id = s.functions.filter fun f => s.ownerName f = some (s.typeName id) := by
  refine List.filter_congr fun f hf => ?_
  rw [Bool.eq_iff_iff, decide_eq_true_eq, decide_eq_true_eq, Schema.ownerName,
    Option.map_eq_some_iff]
  constructor
  · exact fun heq => ⟨id, heq, rfl⟩
  · rintro ⟨id', hid', hname⟩
    rw [hid', h.typeName_injective (h.mem_typeIds_of_receiver hf hid') hid hname]

/-- The parts and the methods of the type at a place. -/
theorem grants_type (h : Accepted facade ds s) {id : TypeId} {t : TypeDecl}
    (ht : (ds.filterMap Declaration.type?)[id.index]? = some t) :
    t.scope.Grants (t.memberClaims.map (·.managed) ++
      (s.methodsOf id).map fun f => Naming.pascal f.name) := by
  have hgrants := h.grants_ownClaims_some (List.mem_of_getElem? ht)
  rw [h.methodsOf_eq (h.mem_typeIds ht), h.map_pascal_functions, h.typeName_eq ht,
    ← List.map_append]
  exact hgrants

/-- **The members of a struct**: its fields, then its methods. -/
theorem grants_struct (h : Accepted facade ds s) {x : ExportedStruct} (hx : x ∈ s.structs) :
    (Scope.type (Naming.pascal x.name)).Grants
      (x.fields.map (fun f => Naming.pascal f.name) ++
        (s.methodsOf x.id).map fun f => Naming.pascal f.name) := by
  rw [h.structs_eq] at hx
  obtain ⟨⟨id, d⟩, hd, rfl⟩ := List.mem_map.mp hx
  have hsound := h.struct_isSound hd
  have hgrants := h.grants_type (mem_declaredStructs_iff.mp hd)
  have hclaims : (TypeDecl.struct d).memberClaims.map (·.managed) =
      (d.exported (declaredTable ds) id).fields.map fun f => Naming.pascal f.name := by
    rw [TypeDecl.memberClaims, map_managed_memberClaims fun f hf => (hsound f hf).1,
      StructDecl.exported, exportedFields_eq_map hsound, List.map_map]
    rfl
  rw [hclaims] at hgrants
  exact hgrants

/-- **The members of an enum**: its variants, then its methods. -/
theorem grants_enum (h : Accepted facade ds s) {x : ExportedEnum} (hx : x ∈ s.enums) :
    (Scope.enum (Naming.pascal x.name)).Grants
      (x.variants.map (fun v => Naming.pascal v.name) ++
        (s.methodsOf x.id).map fun f => Naming.pascal f.name) := by
  rw [h.enums_eq] at hx
  obtain ⟨⟨id, d⟩, hd, rfl⟩ := List.mem_map.mp hx
  have husable := fun v hv => ((h.enum_isSound hd).2 v hv).1
  have hgrants := h.grants_type (mem_declaredEnums_iff.mp hd)
  have hclaims : (TypeDecl.enum d).memberClaims.map (·.managed) =
      (d.exported (declaredTable ds) id).variants.map fun v => Naming.pascal v.name := by
    rw [TypeDecl.memberClaims, map_managed_memberClaims husable,
      EnumDecl.variants_exported husable, List.map_map]
    conv_lhs => rw [← List.zipIdx_map_fst 0 d.variants, List.map_map]
    rfl
  rw [hclaims] at hgrants
  exact hgrants

theorem map_pascal_freeFunctions (h : Accepted facade ds s) :
    (s.freeFunctions.map fun f => Naming.pascal f.name) =
      (ds.filterMap (ownClaim? none)).map (·.managed) := by
  have hfree : s.freeFunctions = s.functions.filter fun f => s.ownerName f = none := by
    refine List.filter_congr fun f hf => ?_
    cases hr : f.receiver <;> simp [Schema.ownerName, Receiver.typeId?, hr]
  rw [hfree, h.map_pascal_functions]

/-- **The functions that are called on nothing.** -/
theorem grants_freeFunctions (h : Accepted facade ds s) :
    (Scope.type facade).Grants (s.freeFunctions.map fun f => Naming.pascal f.name) := by
  rw [h.map_pascal_freeFunctions]
  exact h.grants_ownClaims_none

/-- **The fields of a variant** that has names for them. -/
theorem grants_payload (h : Accepted facade ds s) {x : ExportedEnum} (hx : x ∈ s.enums)
    {v : Variant} (hv : v ∈ x.variants) {fields : List Field}
    (hfields : v.payload = .struct fields) :
    (Scope.type (Naming.pascal v.name)).Grants (fields.map fun f => Naming.pascal f.name) := by
  rw [h.enums_eq] at hx
  obtain ⟨⟨id, d⟩, hd, rfl⟩ := List.mem_map.mp hx
  rw [EnumDecl.variants_exported fun v hv => ((h.enum_isSound hd).2 v hv).1] at hv
  obtain ⟨⟨decl, i⟩, hdecl, rfl⟩ := List.mem_map.mp hv
  replace hfields : decl.payload.exported (declaredTable ds) = .struct fields := hfields
  have hreport := (h.type_of_mem (List.mem_of_getElem? (mem_declaredEnums_iff.mp hd))).1
  have hvariants :=
    EnumDecl.variantsReport_eq_nil_iff.mp (TypeDecl.contentReport_enum_eq_nil_iff.mp hreport).2
  obtain ⟨front, back, hsplit⟩ := List.append_of_mem (List.fst_mem_of_mem_zipIdx hdecl)
  have hpayload := (hvariants front decl back hsplit).2.2
  cases hdecls : decl.payload with
  | struct decls =>
    rw [hdecls] at hpayload hfields
    cases hfields
    have hsound : ∀ f ∈ decls, f.IsSound (declaredTable ds) :=
      isSound_of_fieldsReport_eq_nil hpayload
    have hgranted := fieldsReport_eq_nil_iff.mp hpayload
    have hgrants : (Scope.type (Naming.pascal decl.name)).Grants
        ((decls.filterMap fun f => memberClaim? f.name).map (·.managed)) :=
      Scope.grants_members (fun f : FieldDecl => f.name)
        fun front f back hfront => (hgranted front f back hfront).2.1
    rw [map_managed_memberClaims fun f hf => (hsound f hf).1] at hgrants
    rw [exportedFields_eq_map hsound, List.map_map]
    exact hgrants
  | unit | tuple elems =>
    rw [hdecls] at hfields
    cases hfields

end Accepted

end Boundary
