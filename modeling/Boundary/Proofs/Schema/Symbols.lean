import Boundary.Demo.Declarations
import Boundary.Proofs.EntryPoint

/-!
# Symbols of accepted schemas

No two entry points of an accepted schema have the same symbol, and no two exported types the same
handle table. The symbols are compared when a schema is built, but two uses of a symbol that are
about the same part of an item pass, so that part has to be told by the symbol in another way.

* `Schema.symbolConflicts_eq_nil_iff`, `Accepted.subject_eq_of_symbol_eq`: what the comparison
  tells.
* `Schema.Entry.purpose_eq`: two entry points of one kind about the same part have one purpose.
* `Schema.nodup_symbols_of_build`: no symbol and no table is used twice.
-/

namespace Boundary

/-! ## The comparison of symbols -/

/-- An item that a list is filtered for has a place in the list. -/
theorem exists_split_of_getElem?_filterMap {α β : Type} {f : α → Option β} {as : List α} {i : Nat}
    {b : β} (h : (as.filterMap f)[i]? = some b) :
    ∃ front a back, as = front ++ a :: back ∧ f a = some b ∧ (front.filterMap f).length = i := by
  induction as generalizing i with
  | nil => cases h
  | cons a rest ih =>
    cases hfa : f a with
    | none =>
      rw [List.filterMap_cons_none hfa] at h
      obtain ⟨front, a', back, rfl, hb, hlength⟩ := ih h
      exact ⟨a :: front, a', back, rfl, hb, by rw [List.filterMap_cons_none hfa, hlength]⟩
    | some b' =>
      rw [List.filterMap_cons_some hfa] at h
      cases i with
      | zero =>
        cases h
        exact ⟨[], a, rest, rfl, hfa, rfl⟩
      | succ i =>
        obtain ⟨front, a', back, rfl, hb, hlength⟩ := ih h
        exact ⟨a :: front, a', back, rfl, hb,
          by rw [List.filterMap_cons_some hfa, List.length_cons, hlength]⟩

/-- A use for which `conflict?` is `none` is about what the first use of its symbol is about. -/
theorem SymbolUse.exists_first_of_conflict?_eq_none {front back : List SymbolUse} {u : SymbolUse}
    (h : u.conflict? front = none) :
    ∃ first, (front ++ u :: back).find? (·.symbol = u.symbol) = some first ∧
      first.subject = u.subject := by
  unfold SymbolUse.conflict? at h
  rw [List.find?_append]
  cases hfind : front.find? (·.symbol = u.symbol) with
  | some first =>
    rw [hfind] at h
    refine ⟨first, rfl, ?_⟩
    by_contra hne
    simp [hne] at h
  | none => exact ⟨u, by simp, rfl⟩

/-- The symbols of a schema are told apart if no two uses of one symbol are about different
parts. -/
theorem Schema.symbolConflicts_eq_nil_iff {s : Schema} : s.symbolConflicts = [] ↔
    ∀ u ∈ s.symbolUses, ∀ v ∈ s.symbolUses, u.symbol = v.symbol → u.subject = v.subject := by
  rw [Schema.symbolConflicts, List.filterMap_eq_nil_iff]
  constructor
  · -- Both uses are about what the first use of the symbol is about.
    intro hnone
    have hfirst (u : SymbolUse) (hu : u ∈ s.symbolUses) : ∃ first,
        s.symbolUses.find? (·.symbol = u.symbol) = some first ∧ first.subject = u.subject := by
      obtain ⟨front, back, huses⟩ := List.append_of_mem hu
      have hconflict := hnone _ (mem_withEarlier_iff.mpr ⟨front, back, huses, rfl⟩)
      rw [huses]
      exact SymbolUse.exists_first_of_conflict?_eq_none (by simpa using hconflict)
    intro u hu v hv hsymbol
    obtain ⟨first, hfind, hsubject⟩ := hfirst u hu
    obtain ⟨first', hfind', hsubject'⟩ := hfirst v hv
    rw [hsymbol, hfind'] at hfind
    cases hfind
    rw [← hsubject, hsubject']
  · rintro hsame ⟨earlier, u⟩ hmem
    obtain ⟨front, back, huses, hearlier⟩ := mem_withEarlier_iff.mp hmem
    rw [List.nil_append] at hearlier
    subst hearlier
    have hnone : u.conflict? earlier = none := by
      unfold SymbolUse.conflict?
      split
      · rename_i first hfind
        have hfirst : first ∈ s.symbolUses := by
          rw [huses]
          exact List.mem_append_left _ (List.mem_of_find?_eq_some hfind)
        have hu : u ∈ s.symbolUses := by simp [huses]
        rw [if_pos (hsame first hfirst u hu (by simpa using List.find?_some hfind))]
      · rfl
    exact Option.map_eq_none_iff.mpr hnone

variable {facade : String} {ds : List Declaration} {s : Schema} {start : String}

/-- `symbolReport` looks at the symbols of every exported item. -/
theorem Accepted.symbolReport_eq_nil (h : Accepted facade ds s) {item : ItemId}
    (hitem : item ∈ s.itemIds) :
    ∃ location, (Surroundings.ofAccepted facade ds s).symbolReport location item = [] := by
  rw [Schema.itemIds, List.mem_append, List.mem_map, List.mem_map] at hitem
  obtain ⟨id, hid, rfl⟩ | ⟨id, hid, rfl⟩ := hitem
  · obtain ⟨t, ht⟩ := h.exists_type_of_mem_typeIds hid
    obtain ⟨front, d, back, hds, hdt, hlength⟩ := exists_split_of_getElem?_filterMap ht
    have hreport := h.registeredReport_eq_nil front d back hds
    have hbefore : (Registry.ofRegistered front).types.length = id.index := hlength
    refine ⟨d.location, ?_⟩
    cases d with
    | function f => cases hdt
    | struct d | enum d =>
      simp only [Declaration.registeredReport, List.append_eq_nil_iff, hbefore] at hreport
      exact hreport.2.2
  · obtain ⟨f, hf, rfl⟩ := List.mem_map.mp hid
    rw [h.functions_eq] at hf
    obtain ⟨_, hdeclared, rfl⟩ := List.mem_map.mp hf
    obtain ⟨⟨f, i⟩, hi, rfl⟩ := List.mem_map.mp hdeclared
    obtain ⟨front, d, back, hds, hdf, hlength⟩ :=
      exists_split_of_getElem?_filterMap (List.mk_mem_zipIdx_iff_getElem?.mp hi)
    have hreport := h.registeredReport_eq_nil front d back hds
    have hbefore : (Registry.ofRegistered front).functions.length = i := hlength
    refine ⟨d.location, ?_⟩
    cases d with
    | function f =>
      simp only [Declaration.registeredReport, List.append_eq_nil_iff, hbefore] at hreport
      exact hreport.2.2
    | _ => cases hdf

/-- No use of a symbol has a conflict. -/
theorem Accepted.symbolConflicts_eq_nil (h : Accepted facade ds s) : s.symbolConflicts = [] := by
  refine List.eq_nil_iff_forall_not_mem.mpr ?_
  rintro ⟨u, problem⟩ hconflict
  have hitem : u.item ∈ s.itemIds := by
    obtain ⟨⟨earlier, u⟩, hu, heq⟩ := List.mem_filterMap.mp hconflict
    obtain ⟨_, -, heq⟩ := Option.map_eq_some_iff.mp heq
    cases heq
    obtain ⟨front, back, huses, -⟩ := mem_withEarlier_iff.mp hu
    have hmem : u ∈ s.symbolUses := by simp [huses]
    obtain ⟨e, he, heq⟩ := List.mem_filterMap.mp hmem
    obtain ⟨item, hitem, rfl⟩ := Option.map_eq_some_iff.mp heq
    exact Schema.mem_itemIds_of_item? he hitem
  obtain ⟨location, hreport⟩ := h.symbolReport_eq_nil hitem
  rw [Surroundings.symbolReport, List.map_eq_nil_iff, List.filter_eq_nil_iff] at hreport
  exact hreport _ hconflict (by simp)

/-- Two entry points `e` and `e'` of the same symbol are about the same part. -/
theorem Accepted.subject_eq_of_symbol_eq (h : Accepted facade ds s) {e e' : EntryPoint}
    (he : e ∈ s.entryPoints anyStart) (he' : e' ∈ s.entryPoints anyStart)
    (hpurpose : e.purpose ≠ .bufferFree) (hpurpose' : e'.purpose ≠ .bufferFree)
    (hsymbol : e.symbol = e'.symbol) : s.entrySubject e.purpose = s.entrySubject e'.purpose := by
  have hsame := Schema.symbolConflicts_eq_nil_iff.mp h.symbolConflicts_eq_nil
  have huse {e : EntryPoint} (he : e ∈ s.entryPoints anyStart)
      (hpurpose : e.purpose ≠ .bufferFree) : ∃ u ∈ s.symbolUses,
        u.symbol = e.symbol ∧ u.subject = s.entrySubject e.purpose := by
    obtain ⟨item, hitem⟩ : ∃ item, e.purpose.item? = some item := by
      cases hp : e.purpose with
      | bufferFree => exact absurd hp hpurpose
      | _ => exact ⟨_, rfl⟩
    refine ⟨⟨e.symbol, item, s.entrySubject e.purpose⟩, ?_, rfl, rfl⟩
    exact List.mem_filterMap.mpr ⟨e, he, by rw [hitem]; rfl⟩
  obtain ⟨u, hu, husymbol, husubject⟩ := huse he hpurpose
  obtain ⟨v, hv, hvsymbol, hvsubject⟩ := huse he' hpurpose'
  rw [← husubject, ← hvsubject]
  exact hsame u hu v hv (by rw [husymbol, hvsymbol, hsymbol])

/-! ## Parts of items in messages -/

theorem toList_dotted (owner part : String) :
    s!"{owner}.{part}".toList = owner.toList ++ '.' :: part.toList := by
  simp [toString, String.toList_append]

private theorem toList_qualified (owner name : String) :
    (qualified (some owner) name).toList = owner.toList ++ ':' :: ':' :: name.toList := by
  simp [qualified, toString, String.toList_append]

theorem Naming.not_mem_of_isIdentifier {name : String} (h : isIdentifier name = true) :
    '.' ∉ name.toList ∧ ':' ∉ name.toList := by
  constructor
  · intro hmem
    exact absurd (mem_toList_cases h hmem) (by decide)
  · intro hmem
    exact absurd (mem_toList_cases h hmem) (by decide)

/-- An identifier `a` is no dotted name, and `a` in front of a dotted name is told by it. -/
theorem dotted_inj {a b part part₂ : String} (ha : Naming.isIdentifier a = true)
    (hb : Naming.isIdentifier b = true) (heq : s!"{a}.{part}" = s!"{b}.{part₂}") :
    a = b ∧ part = part₂ := by
  have htext := congrArg String.toList heq
  rw [toList_dotted, toList_dotted] at htext
  exact (append_cons_inj_of_not_mem (Naming.not_mem_of_isIdentifier ha).1
    (Naming.not_mem_of_isIdentifier hb).1 htext).imp String.toList_injective String.toList_injective

private theorem ne_dotted {name owner part : String} (h : Naming.isIdentifier name = true) :
    name ≠ s!"{owner}.{part}" := by
  intro heq
  refine (Naming.not_mem_of_isIdentifier h).1 ?_
  rw [heq, toList_dotted]
  simp

private theorem qualified_inj {owner owner' name name' : String}
    (h : Naming.isIdentifier owner = true) (h' : Naming.isIdentifier owner' = true)
    (heq : qualified (some owner) name = qualified (some owner') name') :
    owner = owner' ∧ name = name' := by
  have htext := congrArg String.toList heq
  rw [toList_qualified, toList_qualified] at htext
  refine (append_cons_inj_of_not_mem (Naming.not_mem_of_isIdentifier h).2
    (Naming.not_mem_of_isIdentifier h').2 htext).imp String.toList_injective ?_
  intro htail
  exact String.toList_injective (List.tail_eq_of_cons_eq htail)

namespace Accepted

theorem typeName_of_mem (h : Accepted facade ds s) {id : TypeId} {name : String}
    (hname : (id, name) ∈ s.typeNames) : id ∈ s.typeIds ∧ s.typeName id = name := by
  rw [Schema.typeIds, List.mem_append]
  obtain ⟨x, hx, rfl, rfl⟩ | ⟨x, hx, rfl, rfl⟩ := Schema.mem_typeNames_iff.mp hname
  · exact ⟨.inl (List.mem_map_of_mem hx), h.typeName_struct hx⟩
  · exact ⟨.inr (List.mem_map_of_mem hx), h.typeName_enum hx⟩

theorem mem_typeIds_struct {x : ExportedStruct} (hx : x ∈ s.structs) : x.id ∈ s.typeIds :=
  List.mem_append_left _ (List.mem_map_of_mem hx)

theorem mem_typeIds_enum {x : ExportedEnum} (hx : x ∈ s.enums) : x.id ∈ s.typeIds :=
  List.mem_append_right _ (List.mem_map_of_mem hx)

theorem isIdentifier_struct (h : Accepted facade ds s) {x : ExportedStruct} (hx : x ∈ s.structs) :
    Naming.isIdentifier x.name = true :=
  h.typeName_struct hx ▸ h.isIdentifier_typeName (mem_typeIds_struct hx)

theorem isIdentifier_enum (h : Accepted facade ds s) {x : ExportedEnum} (hx : x ∈ s.enums) :
    Naming.isIdentifier x.name = true :=
  h.typeName_enum hx ▸ h.isIdentifier_typeName (mem_typeIds_enum hx)

theorem isIdentifier_ownerName (h : Accepted facade ds s) {f : ExportedFunction}
    (hf : f ∈ s.functions) {owner : String} (howner : s.ownerName f = some owner) :
    Naming.isIdentifier owner = true := by
  rw [h.functions_eq] at hf
  obtain ⟨⟨id, f⟩, hdeclared, rfl⟩ := List.mem_map.mp hf
  obtain ⟨id, hid, rfl⟩ := Option.map_eq_some_iff.mp howner
  obtain ⟨_, hlookup⟩ := (h.function_mirrors hdeclared).receiver.exists_lookup hid
  exact h.isIdentifier_typeName (h.mem_typeIds_of_lookup hlookup)

private theorem struct_ext (h : Accepted facade ds s) {x y : ExportedStruct} (hx : x ∈ s.structs)
    (hy : y ∈ s.structs) (hname : x.name = y.name) : x = y := by
  have hid : x.id = y.id := h.typeName_injective (mem_typeIds_struct hx) (mem_typeIds_struct hy)
    (by rw [h.typeName_struct hx, h.typeName_struct hy, hname])
  have hstruct := h.struct?_of_mem hx
  rw [hid, h.struct?_of_mem hy] at hstruct
  exact (Option.some.inj hstruct).symm

private theorem enum_ext (h : Accepted facade ds s) {x y : ExportedEnum} (hx : x ∈ s.enums)
    (hy : y ∈ s.enums) (hname : x.name = y.name) : x = y := by
  have hid : x.id = y.id := h.typeName_injective (mem_typeIds_enum hx) (mem_typeIds_enum hy)
    (by rw [h.typeName_enum hx, h.typeName_enum hy, hname])
  have henum := h.enum?_of_mem hx
  rw [hid, h.enum?_of_mem hy] at henum
  exact (Option.some.inj henum).symm

/-- The struct `x` and the enum `y` have different names. -/
theorem struct_name_ne_enum_name (h : Accepted facade ds s) {x : ExportedStruct}
    (hx : x ∈ s.structs) {y : ExportedEnum} (hy : y ∈ s.enums) : x.name ≠ y.name := by
  intro hname
  have hid : x.id = y.id := h.typeName_injective (mem_typeIds_struct hx) (mem_typeIds_enum hy)
    (by rw [h.typeName_struct hx, h.typeName_enum hy, hname])
  have hstruct := h.struct?_of_mem hx
  rw [hid, h.struct?_of_mem_enums hy] at hstruct
  cases hstruct

private theorem mem_typeNames (h : Accepted facade ds s) {id : TypeId} (hid : id ∈ s.typeIds) :
    (id, s.typeName id) ∈ s.typeNames := by
  rw [Schema.mem_typeNames_iff]
  obtain hid | hid := List.mem_append.mp hid
  · obtain ⟨x, hx, rfl⟩ := List.mem_map.mp hid
    exact .inl ⟨x, hx, rfl, (h.typeName_struct hx).symm⟩
  · obtain ⟨x, hx, rfl⟩ := List.mem_map.mp hid
    exact .inr ⟨x, hx, rfl, (h.typeName_enum hx).symm⟩

private theorem entrySubject_getter (h : Accepted facade ds s) {x : ExportedStruct}
    (hx : x ∈ s.structs) {i : Nat} {f : Field} (hf : x.fields[i]? = some f) :
    s.entrySubject (.getter x.id i) = s!"{x.name}.{f.name}" := by
  simp [Schema.entrySubject, h.struct?_of_mem hx, hf, h.typeName_struct hx]

private theorem entrySubject_variant (h : Accepted facade ds s) {x : ExportedEnum}
    (hx : x ∈ s.enums) {i : Nat} {v : Variant} (hv : x.variants[i]? = some v) :
    s.entrySubject (.variantCtor x.id i) = s!"{x.name}.{v.name}" ∧
      ∀ j, s.entrySubject (.variantGetter x.id i j) = s!"{x.name}.{v.name}" := by
  simp [Schema.entrySubject, h.enum?_of_mem hx, hv, h.typeName_enum hx]

private theorem entrySubject_function (h : Accepted facade ds s) {f : ExportedFunction}
    (hf : f ∈ s.functions) :
    s.entrySubject (.function f.id) = qualified (s.ownerName f) f.name := by
  simp [Schema.entrySubject, h.function?_of_mem hf]

end Accepted

/-- Only `rustbuffer_free` is of the kind `.rustbuffer`. -/
theorem Schema.Entry.purpose_ne_bufferFree {kind : Symbol.Kind} {entry : String → EntryPoint}
    (he : s.Entry kind entry) (hkind : kind ≠ .rustbuffer) :
    (entry start).purpose ≠ .bufferFree := by
  cases he with
  | bufferFree => exact absurd rfl hkind
  | _ => exact fun h => EntryPurpose.noConfusion h

/-- **Two entry points of one kind about the same part have one purpose.** Only the fields of a
variant are told by their symbols alone. -/
theorem Schema.Entry.purpose_eq (h : Accepted facade ds s) {kind : Symbol.Kind}
    {entry entry' : String → EntryPoint} (he : s.Entry kind entry) (he' : s.Entry kind entry')
    (hsubject : s.entrySubject (entry start).purpose = s.entrySubject (entry' start).purpose)
    (hsymbol : (entry start).symbol = (entry' start).symbol) :
    (entry start).purpose = (entry' start).purpose := by
  cases he with
  | bufferFree =>
    cases he'
    rfl
  | ctor hx =>
    cases he' with
    | ctor hy =>
      exact congrArg EntryPurpose.ctor
        (h.typeName_injective (Accepted.mem_typeIds_struct hx)
          (Accepted.mem_typeIds_struct hy) hsubject)
    | variantCtor hy hv =>
      rw [ExportedEnum.ctorEntry, (h.entrySubject_variant hy hv).1] at hsubject
      exact absurd hsubject (ne_dotted (h.isIdentifier_typeName (Accepted.mem_typeIds_struct hx)))
  | getter hx hf =>
    cases he' with
    | getter hy hg =>
      rw [ExportedStruct.getterEntry, ExportedStruct.getterEntry, h.entrySubject_getter hx hf,
        h.entrySubject_getter hy hg] at hsubject
      obtain ⟨hname, hfield⟩ :=
        dotted_inj (h.isIdentifier_struct hx) (h.isIdentifier_struct hy) hsubject
      obtain rfl := h.struct_ext hx hy hname
      obtain rfl := place_eq_of_key_eq (h.nodup_fieldNames hx) hf hg (congrArg Naming.pascal hfield)
      rfl
    | variantGetter hy hv hg =>
      rw [ExportedStruct.getterEntry, ExportedEnum.getterEntry, h.entrySubject_getter hx hf,
        (h.entrySubject_variant hy hv).2] at hsubject
      have hname := dotted_inj (h.isIdentifier_struct hx) (h.isIdentifier_enum hy) hsubject
      exact absurd hname.1 (h.struct_name_ne_enum_name hx hy)
  | variantCtor hx hv =>
    cases he' with
    | ctor hy =>
      rw [ExportedEnum.ctorEntry, (h.entrySubject_variant hx hv).1] at hsubject
      exact absurd hsubject.symm
        (ne_dotted (h.isIdentifier_typeName (Accepted.mem_typeIds_struct hy)))
    | variantCtor hy hw =>
      rw [ExportedEnum.ctorEntry, ExportedEnum.ctorEntry, (h.entrySubject_variant hx hv).1,
        (h.entrySubject_variant hy hw).1] at hsubject
      obtain ⟨hname, hvariant⟩ :=
        dotted_inj (h.isIdentifier_enum hx) (h.isIdentifier_enum hy) hsubject
      obtain rfl := h.enum_ext hx hy hname
      obtain rfl :=
        place_eq_of_key_eq (h.nodup_variantNames hx) hv hw (congrArg Naming.pascal hvariant)
      rfl
  | tag hx =>
    cases he' with
    | tag hy =>
      exact congrArg EntryPurpose.tag
        (h.typeName_injective (Accepted.mem_typeIds_enum hx)
          (Accepted.mem_typeIds_enum hy) hsubject)
  | variantGetter hx hv hf =>
    cases he' with
    | getter hy hg =>
      rw [ExportedStruct.getterEntry, ExportedEnum.getterEntry, h.entrySubject_getter hy hg,
        (h.entrySubject_variant hx hv).2] at hsubject
      have hname := dotted_inj (h.isIdentifier_enum hx) (h.isIdentifier_struct hy) hsubject
      exact absurd hname.1.symm (h.struct_name_ne_enum_name hy hx)
    | variantGetter hy hw hg =>
      rw [ExportedEnum.getterEntry, ExportedEnum.getterEntry, (h.entrySubject_variant hx hv).2,
        (h.entrySubject_variant hy hw).2] at hsubject
      obtain ⟨hname, hvariant⟩ :=
        dotted_inj (h.isIdentifier_enum hx) (h.isIdentifier_enum hy) hsubject
      obtain rfl := h.enum_ext hx hy hname
      obtain rfl :=
        place_eq_of_key_eq (h.nodup_variantNames hx) hv hw (congrArg Naming.pascal hvariant)
      rw [hv] at hw
      cases hw
      have hpart := Symbol.fieldPart_eq_of_variantGetter_eq hsymbol
      obtain rfl :=
        place_eq_of_key_eq (h.nodup_payloadNames hx (List.mem_of_getElem? hv)) hf hg hpart
      rfl
  | free hname =>
    cases he' with
    | free hname' =>
      exact congrArg EntryPurpose.free
        (h.typeName_injective (h.typeName_of_mem hname).1 (h.typeName_of_mem hname').1 hsubject)
  | function hf howner =>
    cases he' with
    | function hg howner' =>
      have hname := (h.entrySubject_function hf).symm.trans
        (hsubject.trans (h.entrySubject_function hg))
      rw [howner, howner'] at hname
      obtain rfl := h.function_ext hf hg (howner.trans howner'.symm) hname
      rfl
  | method hf howner =>
    cases he' with
    | method hg howner' =>
      have hqualified := (h.entrySubject_function hf).symm.trans
        (hsubject.trans (h.entrySubject_function hg))
      rw [howner, howner'] at hqualified
      obtain ⟨rfl, hname⟩ := qualified_inj (h.isIdentifier_ownerName hf howner)
        (h.isIdentifier_ownerName hg howner') hqualified
      obtain rfl := h.function_ext hf hg (howner.trans howner'.symm) hname
      rfl

/-- The purpose of an entry point of an accepted schema is told by its symbol. -/
theorem Accepted.purpose_eq_of_symbol_eq (h : Accepted facade ds s) {kind kind' : Symbol.Kind}
    {entry entry' : String → EntryPoint} (he : s.Entry kind entry) (he' : s.Entry kind' entry')
    (hsymbol : (entry start).symbol = (entry' start).symbol) :
    (entry start).purpose = (entry' start).purpose := by
  obtain ⟨rfl, hsymbols⟩ := he.kind_eq_of_symbol_eq he' hsymbol
  by_cases hkind : kind = .rustbuffer
  · subst hkind
    cases he
    cases he'
    rfl
  · have hsubject := h.subject_eq_of_symbol_eq he.mem_entryPoints he'.mem_entryPoints
      (he.purpose_ne_bufferFree hkind) (he'.purpose_ne_bufferFree hkind) (hsymbols anyStart)
    rw [he.purpose_start start anyStart, he'.purpose_start start anyStart]
    exact he.purpose_eq h he' hsubject (hsymbols anyStart)

/-- The handle tables of two exported types have different names. -/
theorem Accepted.nodup_tables (h : Accepted facade ds s) (c : Config) :
    (s.typeIds.map (s.spelling c).table).Nodup := by
  refine h.nodup_typeIds.map_on ?_
  intro id hid id' hid' htable
  -- Tables of the same name would belong to types with the same symbol for their release.
  have hsnake := snake_eq_of_tableName_eq (h.isIdentifier_typeName hid)
    (h.isIdentifier_typeName hid') htable
  have hsymbol :
      Symbol.free anyStart (s.typeName id) = Symbol.free anyStart (s.typeName id') := by
    rw [Symbol.free, Symbol.free, hsnake]
  have hpurpose : EntryPurpose.free id = .free id' :=
    h.purpose_eq_of_symbol_eq (.free (h.mem_typeNames hid)) (.free (h.mem_typeNames hid')) hsymbol
  exact EntryPurpose.free.inj hpurpose

/-- **No symbol and no table is used twice.** Two entry points of a schema that declarations are
built into have different symbols, whatever these start with, and the handle tables of two exported
types have different names. -/
theorem Schema.nodup_symbols_of_build (h : Schema.build facade ds = .ok s) :
    (∀ start, ((s.entryPoints start).map (·.symbol)).Nodup) ∧
      ∀ c : Config, (s.typeIds.map (s.spelling c).table).Nodup := by
  have h := Schema.build_eq_ok_iff_accepted.mp h
  refine ⟨?_, h.nodup_tables⟩
  intro start
  refine (List.Nodup.of_map _ (h.nodup_purposes start)).map_on ?_
  intro e he e' he' hsymbol
  refine List.inj_on_of_nodup_map (h.nodup_purposes start) he he' ?_
  obtain ⟨kind, entry, hentry, rfl⟩ := Schema.exists_entry_of_mem he
  obtain ⟨kind', entry', hentry', rfl⟩ := Schema.exists_entry_of_mem he'
  exact h.purpose_eq_of_symbol_eq hentry hentry' hsymbol

theorem demo_schema_nodup_symbols :
    Schema.build defaultFacade Demo.declarations = .ok Demo.schema ∧
      (∀ start, ((Demo.schema.entryPoints start).map (·.symbol)).Nodup) ∧
        ∀ c : Config, (Demo.schema.typeIds.map (Demo.schema.spelling c).table).Nodup :=
  ⟨Demo.build_declarations, Schema.nodup_symbols_of_build Demo.build_declarations⟩

end Boundary
