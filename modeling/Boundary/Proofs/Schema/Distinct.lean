import Mathlib.Data.List.Induction
import Mathlib.Data.List.Nodup
import Boundary.Proofs.Naming.Snake
import Boundary.Proofs.Schema.Mirror

/-!
# Names in accepted schemas

In an accepted schema the items of each kind have different names where they share a place, and an
item is found again by its number.

* `nodup_filterMap_of_fresh`, `nodup_pascal_of_granted`: names that are granted one after the other
  are different.
* `Accepted.nodup_typeNames`, `Accepted.nodup_functionKeys`: the names at the top level.
* `Accepted.nodup_fieldNames`, `Accepted.nodup_variantNames`, `Accepted.nodup_payloadNames`: the
  names inside a type.
* `Schema.struct?_of_mem`, `Schema.enum?_of_mem`, `Accepted.function?_of_mem`: items by number.
* `typeName_schema`: a type has its declared name.
* `Accepted.typeName_injective`: an exported type is known by its name.
-/

namespace Boundary

/-! ## Names that are granted one after the other -/

/-- If `f` gives every item what it gives none before it, it gives no two items the same. -/
theorem nodup_filterMap_of_fresh {α β : Type} {f : α → Option β} {as : List α}
    (h : ∀ front a back b, as = front ++ a :: back → f a = some b → b ∉ front.filterMap f) :
    (as.filterMap f).Nodup := by
  induction as using List.reverseRecOn with
  | nil => exact List.nodup_nil
  | append_singleton as a ih =>
    have has : (as.filterMap f).Nodup := by
      refine ih ?_
      rintro front a' back b rfl
      exact h front a' (back ++ [a]) b (by simp)
    cases hfa : f a with
    | none => simpa [List.filterMap_append, hfa] using has
    | some b =>
      have hb := h as a [] b rfl hfa
      rw [List.filterMap_append, List.filterMap_cons_some hfa, List.nodup_append]
      refine ⟨has, List.nodup_singleton b, ?_⟩
      rintro c hc _ hmem rfl
      obtain rfl := List.mem_singleton.mp hmem
      exact hb hc

theorem Scope.managed_ne_of_conflict?_eq_none {s : Scope} {earlier : List NameClaim}
    {c : NameClaim} (h : s.conflict? earlier c = none) :
    ∀ e ∈ earlier, e.managed ≠ c.managed := by
  unfold Scope.conflict? at h
  split at h
  · cases h
  split at h
  · cases h
  split at h
  · cases h
  · rename_i hfind
    intro e he heq
    simpa [heq] using List.find?_eq_none.mp hfind e he

theorem memberClaim?_of_isUsableName {name : String} (h : isUsableName name = true) :
    memberClaim? name = some ⟨Naming.pascal name, name⟩ := by
  rw [memberClaim?, if_pos h]

/-- The members that `scope` grants their names have different ones. -/
theorem nodup_pascal_of_granted {α : Type} (scope : Scope) (name : α → String) {as : List α}
    (h : ∀ front a back, as = front ++ a :: back → isUsableName (name a) = true ∧
      scope.conflict? (front.filterMap fun e => memberClaim? (name e))
        ⟨Naming.pascal (name a), name a⟩ = none) :
    (as.map fun a => Naming.pascal (name a)).Nodup := by
  rw [← List.filterMap_eq_map]
  refine nodup_filterMap_of_fresh ?_
  rintro front a back b has hb hmem
  cases hb
  obtain ⟨e, he, hmanaged⟩ := List.mem_filterMap.mp hmem
  have husable : isUsableName (name e) = true := by
    obtain ⟨first, rest, rfl⟩ := List.append_of_mem he
    exact (h first e (rest ++ a :: back) (by simp [has])).1
  have hclaim : (⟨Naming.pascal (name e), name e⟩ : NameClaim) ∈
      front.filterMap fun e => memberClaim? (name e) :=
    List.mem_filterMap.mpr ⟨e, he, memberClaim?_of_isUsableName husable⟩
  exact Scope.managed_ne_of_conflict?_eq_none (h front a back has).2 _ hclaim
    (Option.some.inj hmanaged)

theorem Naming.isIdentifier_of_isUsableName {name : String} (h : isUsableName name = true) :
    Naming.isIdentifier name = true := by
  rw [isUsableName_iff, identifierProblem?] at h
  split at h
  · cases h
  · simp_all

/-! ## Items by number -/

/-- The `key` of an item tells its place, if no two have the same. -/
theorem place_eq_of_key_eq {α κ : Type} {key : α → κ} {as : List α} (h : (as.map key).Nodup)
    {i j : Nat} {a b : α} (hi : as[i]? = some a) (hj : as[j]? = some b) (heq : key a = key b) :
    i = j := by
  have hlt : i < (as.map key).length := by
    rw [List.length_map]
    exact (List.getElem?_eq_some_iff.mp hi).1
  refine (List.getElem?_inj hlt h).mp ?_
  rw [List.getElem?_map, List.getElem?_map, hi, hj, Option.map_some, Option.map_some, heq]

/-- An item of a list is the one that `find?` finds by its `key`, if no two have the same. -/
theorem find?_key_eq_some {α κ : Type} [DecidableEq κ] {key : α → κ} {as : List α}
    (h : (as.map key).Nodup) {a : α} (ha : a ∈ as) :
    as.find? (fun b => key b = key a) = some a := by
  cases hfind : as.find? (fun b => key b = key a) with
  | none => simpa using List.find?_eq_none.mp hfind a ha
  | some b =>
    have hb : key b = key a := by simpa using List.find?_some hfind
    rw [List.inj_on_of_nodup_map h (List.mem_of_find?_eq_some hfind) ha hb]

namespace Schema

variable {s : Schema} {id : TypeId}

theorem mem_of_struct? {x : ExportedStruct} (hx : s.struct? id = some x) :
    x ∈ s.structs ∧ x.id = id :=
  ⟨List.mem_of_find?_eq_some hx, by simpa using List.find?_some hx⟩

theorem mem_of_enum? {x : ExportedEnum} (hx : s.enum? id = some x) : x ∈ s.enums ∧ x.id = id :=
  ⟨List.mem_of_find?_eq_some hx, by simpa using List.find?_some hx⟩

variable (h : s.typeIds.Nodup)

include h

theorem struct?_of_mem {x : ExportedStruct} (hx : x ∈ s.structs) : s.struct? x.id = some x :=
  find?_key_eq_some (List.nodup_append.mp h).1 hx

theorem enum?_of_mem {x : ExportedEnum} (hx : x ∈ s.enums) : s.enum? x.id = some x :=
  find?_key_eq_some (List.nodup_append.mp h).2.1 hx

/-- No struct has the number of the enum `x`. -/
theorem struct?_of_mem_enums {x : ExportedEnum} (hx : x ∈ s.enums) : s.struct? x.id = none := by
  refine List.find?_eq_none.mpr ?_
  intro y hy
  rw [decide_eq_true_eq]
  exact (List.nodup_append.mp h).2.2 _ (List.mem_map_of_mem hy) _ (List.mem_map_of_mem hx)

theorem struct?_eq_some_iff {x : ExportedStruct} :
    s.struct? id = some x ↔ x ∈ s.structs ∧ x.id = id :=
  ⟨mem_of_struct?, fun hx => hx.2 ▸ struct?_of_mem h hx.1⟩

theorem enum?_eq_some_iff {x : ExportedEnum} : s.enum? id = some x ↔ x ∈ s.enums ∧ x.id = id :=
  ⟨mem_of_enum?, fun hx => hx.2 ▸ enum?_of_mem h hx.1⟩

end Schema

/-- A type that takes part has another name than the types before it. -/
theorem Declaration.name_ne_of_refusal? {front : List Declaration} {d : Declaration}
    (h : d.refusal? front = none) {t u : TypeDecl} (ht : d.type? = some t)
    (hu : u ∈ front.filterMap Declaration.type?) : u.name ≠ t.name := by
  unfold Declaration.refusal? at h
  split at h
  · cases h
  cases d with
  | function f => cases ht
  | struct d | enum d =>
    cases ht
    dsimp only at h
    split at h
    · cases h
    split at h
    · cases h
    · rename_i hfresh
      exact fun heq => hfresh (List.any_eq_true.mpr ⟨u, hu, decide_eq_true heq⟩)

/-- The exported type of the number `id` is made of the declared type `t`. -/
theorem lookup_schema {ds : List Declaration} (names : List (String × NameEntry)) {id : TypeId}
    {t : TypeDecl} (ht : (ds.filterMap Declaration.type?)[id.index]? = some t) :
    match t with
    | .struct d => ((Registry.ofRegistered ds).schema names).struct? id =
        some (d.exported (declaredTable ds) id)
    | .enum d => ((Registry.ofRegistered ds).schema names).struct? id = none ∧
        ((Registry.ofRegistered ds).schema names).enum? id =
          some (d.exported (declaredTable ds) id) := by
  have hnodup := @nodup_typeIds_schema ds names
  cases t with
  | struct d =>
    have hmem : d.exported (declaredTable ds) id ∈
        ((Registry.ofRegistered ds).schema names).structs := by
      rw [structs_schema]
      exact List.mem_map.mpr ⟨(id, d), mem_declaredStructs_iff.mpr ht, rfl⟩
    exact Schema.struct?_of_mem hnodup hmem
  | enum d =>
    have hmem : d.exported (declaredTable ds) id ∈
        ((Registry.ofRegistered ds).schema names).enums := by
      rw [enums_schema]
      exact List.mem_map.mpr ⟨(id, d), mem_declaredEnums_iff.mpr ht, rfl⟩
    exact ⟨Schema.struct?_of_mem_enums hnodup hmem, Schema.enum?_of_mem hnodup hmem⟩

/-- `typeName` of the number `id` is the name of the declared type `t`. -/
theorem typeName_schema {ds : List Declaration} (names : List (String × NameEntry)) {id : TypeId}
    {t : TypeDecl} (ht : (ds.filterMap Declaration.type?)[id.index]? = some t) :
    ((Registry.ofRegistered ds).schema names).typeName id = t.name := by
  have hlookup := lookup_schema names ht
  cases t with
  | struct d =>
    simp only [Schema.typeName, Schema.typeName?, hlookup]
    rfl
  | enum d =>
    simp only [Schema.typeName, Schema.typeName?, hlookup.1, hlookup.2]
    rfl

/-- The numbers of functions tell their places. -/
theorem nodup_functionIds_schema {ds : List Declaration} {names : List (String × NameEntry)} :
    (((Registry.ofRegistered ds).schema names).functions.map (·.id)).Nodup := by
  have hids : ((Registry.ofRegistered ds).schema names).functions.map (·.id) =
      ((ds.filterMap Declaration.function?).zipIdx.map (·.2)).map FunctionId.mk := by
    rw [List.map_map]
    exact List.map_map
  rw [hids, List.zipIdx_map_snd]
  refine List.Pairwise.map _ ?_ (List.nodup_range' 1)
  intro i j hij heq
  exact hij (congrArg FunctionId.index heq)

/-- The exported function of the number `id` is made of the declared function `f`. -/
theorem function?_schema {ds : List Declaration} (names : List (String × NameEntry))
    {id : FunctionId} {f : FunctionDecl}
    (hf : (ds.filterMap Declaration.function?)[id.index]? = some f) :
    ((Registry.ofRegistered ds).schema names).function? id =
      some (f.exported (declaredTable ds) id) :=
  @find?_key_eq_some _ _ _ ExportedFunction.id _ nodup_functionIds_schema _
    (List.mem_map.mpr ⟨(f, id.index), List.mk_mem_zipIdx_iff_getElem?.mpr hf, rfl⟩)

namespace Accepted

variable {facade : String} {ds : List Declaration} {s : Schema}

section Numbers

theorem struct?_of_mem (h : Accepted facade ds s) {x : ExportedStruct} (hx : x ∈ s.structs) :
    s.struct? x.id = some x :=
  Schema.struct?_of_mem h.nodup_typeIds hx

theorem enum?_of_mem (h : Accepted facade ds s) {x : ExportedEnum} (hx : x ∈ s.enums) :
    s.enum? x.id = some x :=
  Schema.enum?_of_mem h.nodup_typeIds hx

theorem struct?_of_mem_enums (h : Accepted facade ds s) {x : ExportedEnum} (hx : x ∈ s.enums) :
    s.struct? x.id = none :=
  Schema.struct?_of_mem_enums h.nodup_typeIds hx

/-- The numbers of functions tell their places. -/
theorem nodup_functionIds (h : Accepted facade ds s) : (s.functions.map (·.id)).Nodup := by
  rw [h.schema_eq]
  exact nodup_functionIds_schema

theorem function?_of_mem (h : Accepted facade ds s) {f : ExportedFunction} (hf : f ∈ s.functions) :
    s.function? f.id = some f :=
  find?_key_eq_some h.nodup_functionIds hf

end Numbers

/-! ## Names at the top level -/

section TopLevel

theorem isUsableName_of_refusal? {front : List Declaration} {d : Declaration}
    (h : d.refusal? front = none) : isUsableName d.name = true := by
  rw [isUsableName_iff]
  unfold Declaration.refusal? at h
  split at h
  · cases h
  · assumption

/-- A declared type has a usable name. -/
theorem isUsableName_type (h : Accepted facade ds s) {t : TypeDecl}
    (ht : t ∈ ds.filterMap Declaration.type?) : isUsableName t.name = true := by
  obtain ⟨d, hd, hdt⟩ := List.mem_filterMap.mp ht
  obtain ⟨front, back, hds⟩ := List.append_of_mem hd
  have husable := isUsableName_of_refusal? (h.refusal?_eq_none front d back hds)
  cases d with
  | function f => cases hdt
  | struct d | enum d =>
    cases hdt
    exact husable

/-- Declared types have different names. -/
theorem nodup_typeNames (h : Accepted facade ds s) :
    ((ds.filterMap Declaration.type?).map TypeDecl.name).Nodup := by
  rw [List.map_filterMap]
  refine nodup_filterMap_of_fresh ?_
  rintro front d back name hds hname hmem
  obtain ⟨t, ht, rfl⟩ := Option.map_eq_some_iff.mp hname
  rw [← List.map_filterMap] at hmem
  obtain ⟨u, hu, heq⟩ := List.mem_map.mp hmem
  exact Declaration.name_ne_of_refusal? (h.refusal?_eq_none front d back hds) ht hu heq

/-- Declared functions have different names or belong to different types. -/
theorem nodup_functionKeys (h : Accepted facade ds s) :
    ((ds.filterMap Declaration.function?).map fun f => (f.owner?, f.name)).Nodup := by
  rw [List.map_filterMap]
  refine nodup_filterMap_of_fresh ?_
  rintro front d back key hds hkey hmem
  obtain ⟨f, hf, rfl⟩ := Option.map_eq_some_iff.mp hkey
  rw [← List.map_filterMap] at hmem
  obtain ⟨g, hg, heq⟩ := List.mem_map.mp hmem
  have hrefusal := h.refusal?_eq_none front d back hds
  unfold Declaration.refusal? at hrefusal
  split at hrefusal
  · cases hrefusal
  cases d with
  | function f' =>
    cases hf
    dsimp only at hrefusal
    split at hrefusal
    · cases hrefusal
    · rename_i hfresh
      refine hfresh (List.any_eq_true.mpr ⟨g, hg, ?_⟩)
      simp only [Prod.mk.injEq] at heq
      simp [FunctionDecl.sameAs, heq.1, heq.2]
  | _ => cases hf

/-- The name of an exported type is the declared one. -/
theorem typeName_eq (h : Accepted facade ds s) {id : TypeId} {t : TypeDecl}
    (ht : (ds.filterMap Declaration.type?)[id.index]? = some t) : s.typeName id = t.name := by
  rw [h.schema_eq]
  exact typeName_schema _ ht

theorem typeName_struct (h : Accepted facade ds s) {x : ExportedStruct} (hx : x ∈ s.structs) :
    s.typeName x.id = x.name := by
  simp [Schema.typeName, Schema.typeName?, h.struct?_of_mem hx]

theorem typeName_enum (h : Accepted facade ds s) {x : ExportedEnum} (hx : x ∈ s.enums) :
    s.typeName x.id = x.name := by
  simp [Schema.typeName, Schema.typeName?, h.struct?_of_mem_enums hx, h.enum?_of_mem hx]

/-- The number of an exported type is that of a declared one. -/
theorem exists_type_of_mem_typeIds (h : Accepted facade ds s) {id : TypeId}
    (hid : id ∈ s.typeIds) : ∃ t, (ds.filterMap Declaration.type?)[id.index]? = some t := by
  rw [Schema.typeIds, h.structs_eq, h.enums_eq, List.map_map, List.map_map, List.mem_append] at hid
  obtain hid | hid := hid
  · obtain ⟨⟨id, d⟩, hd, rfl⟩ := List.mem_map.mp hid
    exact ⟨_, mem_declaredStructs_iff.mp hd⟩
  · obtain ⟨⟨id, d⟩, hd, rfl⟩ := List.mem_map.mp hid
    exact ⟨_, mem_declaredEnums_iff.mp hd⟩

theorem isIdentifier_typeName (h : Accepted facade ds s) {id : TypeId} (hid : id ∈ s.typeIds) :
    Naming.isIdentifier (s.typeName id) = true := by
  obtain ⟨t, ht⟩ := h.exists_type_of_mem_typeIds hid
  rw [h.typeName_eq ht]
  exact Naming.isIdentifier_of_isUsableName (h.isUsableName_type (List.mem_of_getElem? ht))

/-- **An exported type is known by its name.** -/
theorem typeName_injective (h : Accepted facade ds s) {id id' : TypeId} (hid : id ∈ s.typeIds)
    (hid' : id' ∈ s.typeIds) (heq : s.typeName id = s.typeName id') : id = id' := by
  obtain ⟨t, ht⟩ := h.exists_type_of_mem_typeIds hid
  obtain ⟨t', ht'⟩ := h.exists_type_of_mem_typeIds hid'
  rw [h.typeName_eq ht, h.typeName_eq ht'] at heq
  have hindex : id.index = id'.index := place_eq_of_key_eq h.nodup_typeNames ht ht' heq
  cases id
  cases id'
  cases hindex
  rfl

/-- The owner of an exported function is the declared one. -/
theorem ownerName_exported (h : Accepted facade ds s) {id : FunctionId} {f : FunctionDecl}
    (hf : (id, f) ∈ declaredFunctions ds) :
    s.ownerName (f.exported (declaredTable ds) id) = f.owner? := by
  have hreceiver := (h.function_mirrors hf).receiver
  unfold Schema.ownerName FunctionDecl.owner?
  generalize (f.exported (declaredTable ds) id).receiver = r at hreceiver
  generalize f.receiver = d at hreceiver
  cases hreceiver with
  | none => rfl
  | byRef _ hid | byValue _ hid =>
    obtain ⟨t, ht, hname⟩ := exists_type_of_lookup hid
    simp [Receiver.typeId?, h.typeName_eq ht, hname]

/-- **An exported function is known by its name and the type that it belongs to.** -/
theorem function_ext (h : Accepted facade ds s) {f g : ExportedFunction} (hf : f ∈ s.functions)
    (hg : g ∈ s.functions) (howner : s.ownerName f = s.ownerName g) (hname : f.name = g.name) :
    f = g := by
  rw [h.functions_eq] at hf hg
  obtain ⟨⟨i, d⟩, hd, rfl⟩ := List.mem_map.mp hf
  obtain ⟨⟨j, e⟩, he, rfl⟩ := List.mem_map.mp hg
  rw [h.ownerName_exported hd, h.ownerName_exported he] at howner
  obtain ⟨⟨d, i⟩, hi, heq⟩ := List.mem_map.mp hd
  cases heq
  obtain ⟨⟨e, j⟩, hj, heq⟩ := List.mem_map.mp he
  cases heq
  rw [List.mk_mem_zipIdx_iff_getElem?] at hi hj
  have hkey : (d.owner?, d.name) = (e.owner?, e.name) := Prod.ext howner hname
  obtain rfl : i = j := place_eq_of_key_eq h.nodup_functionKeys hi hj hkey
  rw [hi] at hj
  cases hj
  rfl

end TopLevel

/-! ## Names inside a type -/

section Members

/-- The fields of the struct `x` have different managed names. -/
theorem nodup_fieldNames (h : Accepted facade ds s) {x : ExportedStruct} (hx : x ∈ s.structs) :
    (x.fields.map fun f => Naming.pascal f.name).Nodup := by
  rw [h.structs_eq] at hx
  obtain ⟨⟨id, d⟩, hd, rfl⟩ := List.mem_map.mp hx
  have hreport := (h.type_of_mem (List.mem_of_getElem? (mem_declaredStructs_iff.mp hd))).1
  have hgranted := fieldsReport_eq_nil_iff.mp hreport
  have hnames : (d.exported (declaredTable ds) id).fields.map (fun f => Naming.pascal f.name) =
      d.fields.map fun f => Naming.pascal f.name := by
    rw [StructDecl.exported, exportedFields_eq_map (h.struct_isSound hd), List.map_map]
    rfl
  rw [hnames]
  refine nodup_pascal_of_granted (TypeDecl.struct d).scope (fun f : FieldDecl => f.name) ?_
  intro front f back hsplit
  have hf := hgranted front f back hsplit
  exact ⟨hf.1, hf.2.1⟩

/-- The variants of the enum `x` have different managed names. -/
theorem nodup_variantNames (h : Accepted facade ds s) {x : ExportedEnum} (hx : x ∈ s.enums) :
    (x.variants.map fun v => Naming.pascal v.name).Nodup := by
  rw [h.enums_eq] at hx
  obtain ⟨⟨id, d⟩, hd, rfl⟩ := List.mem_map.mp hx
  have hreport := (h.type_of_mem (List.mem_of_getElem? (mem_declaredEnums_iff.mp hd))).1
  have hgranted :=
    EnumDecl.variantsReport_eq_nil_iff.mp (TypeDecl.contentReport_enum_eq_nil_iff.mp hreport).2
  have hnames : (d.exported (declaredTable ds) id).variants.map (fun v => Naming.pascal v.name) =
      d.variants.map fun v => Naming.pascal v.name := by
    rw [EnumDecl.variants_exported fun v hv => ((h.enum_isSound hd).2 v hv).1, List.map_map]
    conv_rhs => rw [← List.zipIdx_map_fst 0 d.variants, List.map_map]
    rfl
  rw [hnames]
  refine nodup_pascal_of_granted (TypeDecl.enum d).scope (fun v : VariantDecl => v.name) ?_
  intro front v back hsplit
  have hv := hgranted front v back hsplit
  exact ⟨hv.1, hv.2.1⟩

/-- The fields of the payload `p` have different names in symbols. -/
theorem nodup_fieldParts {table : TypeTable} {location : Location} {variant subject : String}
    {p : PayloadDecl} (h : p.report table location variant subject = []) :
    ((p.exported table).fields.map fun f => Symbol.fieldPart f.name).Nodup := by
  cases p with
  | unit => exact List.nodup_nil
  | tuple elems =>
    have hparts : ((PayloadDecl.tuple elems).exported table).fields.map
        (fun f => Symbol.fieldPart f.name) =
        ((elems.map (·.resolve table .field)).zipIdx.map (·.2)).map Nat.repr := by
      simp only [PayloadDecl.exported, Payload.fields, List.map_map]
      rfl
    rw [hparts, List.zipIdx_map_snd]
    refine List.Pairwise.map _ ?_ (List.nodup_range' 1)
    intro i j hij heq
    rw [Nat.repr_eq_ofList_toDigits, Nat.repr_eq_ofList_toDigits] at heq
    have hdigits := congrArg (Nat.ofDigitChars 10 · 0) (String.ofList_injective heq)
    rw [Nat.ofDigitChars_ten_toDigits, Nat.ofDigitChars_ten_toDigits] at hdigits
    exact hij hdigits
  | struct fields =>
    have hgranted := fieldsReport_eq_nil_iff.mp h
    have hpascal : (fields.map fun f => Naming.pascal f.name).Nodup := by
      refine nodup_pascal_of_granted (Scope.type (Naming.pascal variant))
        (fun f : FieldDecl => f.name) ?_
      intro front f back hsplit
      have hf := hgranted front f back hsplit
      exact ⟨hf.1, hf.2.1⟩
    have hparts : ((PayloadDecl.struct fields).exported table).fields.map
        (fun f => Symbol.fieldPart f.name) = fields.map fun f => Naming.bare f.name := by
      have hsound := isSound_of_fieldsReport_eq_nil h
      simp only [PayloadDecl.exported, Payload.fields, exportedFields_eq_map hsound, List.map_map]
      rfl
    rw [hparts]
    refine List.Nodup.map_on ?_ (List.Nodup.of_map _ hpascal)
    intro f hf g hg heq
    exact List.inj_on_of_nodup_map hpascal hf hg (Naming.pascal_eq_of_bare_eq heq)

/-- The fields of the variant `v` have different names in symbols. -/
theorem nodup_payloadNames (h : Accepted facade ds s) {x : ExportedEnum} (hx : x ∈ s.enums)
    {v : Variant} (hv : v ∈ x.variants) :
    (v.payload.fields.map fun f => Symbol.fieldPart f.name).Nodup := by
  rw [h.enums_eq] at hx
  obtain ⟨⟨id, d⟩, hd, rfl⟩ := List.mem_map.mp hx
  rw [EnumDecl.variants_exported fun v hv => ((h.enum_isSound hd).2 v hv).1] at hv
  obtain ⟨⟨decl, i⟩, hdecl, rfl⟩ := List.mem_map.mp hv
  have hreport := (h.type_of_mem (List.mem_of_getElem? (mem_declaredEnums_iff.mp hd))).1
  have hvariants :=
    EnumDecl.variantsReport_eq_nil_iff.mp (TypeDecl.contentReport_enum_eq_nil_iff.mp hreport).2
  obtain ⟨front, back, hsplit⟩ := List.append_of_mem (List.fst_mem_of_mem_zipIdx hdecl)
  exact nodup_fieldParts (hvariants front decl back hsplit).2.2

end Members

end Accepted

end Boundary
