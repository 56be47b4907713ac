import Boundary.Proofs.Managed.Bodies
import Boundary.Proofs.Schema.Words

/-!
# Types in managed files have different members

The members of a type that come from declarations are different from each other, from the type, and
from the members that it has anyway. The one exception are records of variants that hold a tuple:
their members are named by places, and these names are not looked at when the variant is named.

* `Config.isPlain_surface`, `bodiesOf_managedFile`: the file of a schema can be read.
* `Body.Distinct`: different members.
* `Accepted.distinct_wrapper`, `Accepted.distinct_enumClass`, `Accepted.distinct_facade`,
  `Accepted.distinct_record_iff`: the kinds of types.
* `distinct_bodies_iff`: all types of a file; `not_distinct_bodies_item`: the exception.
-/

namespace Boundary

open Managed

/-! ## Names that can be read -/

section Plain

variable {c : Config} {ds : List Declaration} {s : Schema} {facade : String}

theorem isPlain_pascal {name : String} (h : Naming.isIdentifier name = true) :
    Managed.IsPlain (Naming.pascal name) := isPlain_of_isWord (Naming.isWord_pascal h)

private theorem pascal_notMem_noTypes {name : String} (h : Naming.isIdentifier name = true) :
    Naming.pascal name ∉ noTypes := by
  have hheads : ∀ w ∈ noTypes, ∃ d ∈ w.toList.head?,
      d.isLower = true ∨ Naming.isWordChar d = false := by decide
  intro hmem
  obtain ⟨d, hd, hlower | hsign⟩ := hheads _ hmem
  · rw [Naming.isLower_head?_pascal h d hd] at hlower
    cases hlower
  · exact (Naming.isWord_pascal h).notMem hsign (List.mem_of_mem_head? hd)

theorem Config.isPlain_surface (h : c.schema ds = .ok s) : (s.surface c).IsPlain := by
  obtain ⟨hfault, hbuild⟩ := Config.schema_eq_ok_iff.mp h
  have haccepted := Schema.build_eq_ok_iff_accepted.mp hbuild
  refine Surface.isPlain_of_names ?_ ?_
  · have hsigns : ∀ e ∈ [' ', ',', ')'] ++ headEnds, e ≠ '.' ∧ Naming.isWordChar e = false := by
      decide
    exact fun d hd hmem => Config.notMem_space hfault (hsigns d hmem).1 (hsigns d hmem).2 hd
  · intro id
    show Managed.IsPlain (Naming.pascal (s.typeName id))
    obtain hid | hunknown := s.typeName_cases id
    · exact isPlain_pascal (haccepted.isIdentifier_typeName hid)
    · rw [hunknown]
      decide +kernel

/-- Fields of records have names that can be read, if those that have names do. -/
theorem isPlain_recordField {payload : Payload} {p : PayloadField}
    (h : ∀ fields, payload = .struct fields → ∀ f ∈ fields, Naming.isIdentifier f.name = true)
    (hp : p ∈ payload.fields) : Managed.IsPlain (recordField p.name) := by
  cases payload with
  | unit => cases hp
  | tuple elems =>
    obtain ⟨⟨t, i⟩, -, rfl⟩ := List.mem_map.mp hp
    exact isPlain_of_isWord (.append (by decide) (Naming.isWord_toString i))
  | struct fields =>
    obtain ⟨f, hf, rfl⟩ := List.mem_map.mp hp
    exact isPlain_pascal (h fields rfl f hf)

/-- The bodies of the managed file of a schema are those in its code. -/
theorem bodiesOf_managedFile (h : c.schema ds = .ok s) :
    List.Forall₂ Body.ReadAs (s.managedFile c).bodies
      (bodiesOf ((s.managedFile c).classes (s.surface c))) := by
  obtain ⟨hfault, hbuild⟩ := Config.schema_eq_ok_iff.mp h
  have haccepted := Schema.build_eq_ok_iff_accepted.mp hbuild
  have hs := Config.isPlain_surface h
  have hmethods : ∀ f ∈ s.functions, Managed.IsPlain (Naming.pascal f.name) :=
    fun f hf => isPlain_pascal (haccepted.isIdentifier_function hf)
  refine (holds_classes ?_ ?_ ?_).bodiesOf_eq
  · intro w hw
    obtain ⟨x, hx, rfl⟩ := List.mem_map.mp hw
    have hname := haccepted.isIdentifier_struct hx
    refine holds_wrapper hs (Naming.isWord_pascal hname) (pascal_notMem_noTypes hname) ?_ ?_
    · intro p hp
      obtain ⟨f, hf, rfl⟩ := List.mem_map.mp hp
      exact isPlain_pascal (haccepted.isIdentifier_field hx hf)
    · intro m hm
      obtain ⟨f, hf, rfl⟩ := List.mem_map.mp hm
      exact hmethods f (List.mem_of_mem_filter hf)
  · intro e he
    obtain ⟨x, hx, rfl⟩ := List.mem_map.mp he
    refine holds_enumClass hs (Naming.isWord_pascal (haccepted.isIdentifier_enum hx)) ?_ ?_
    · intro r hr
      obtain ⟨v, hv, rfl⟩ := List.mem_map.mp hr
      refine ⟨isPlain_pascal (haccepted.isIdentifier_variant hx hv), ?_⟩
      intro f hf
      obtain ⟨p, hp, rfl⟩ := List.mem_map.mp hf
      exact isPlain_recordField
        (fun _ hfields _ hf => haccepted.isIdentifier_payloadField hx hv hfields hf) hp
    · intro m hm
      obtain ⟨f, hf, rfl⟩ := List.mem_map.mp hm
      exact hmethods f (List.mem_of_mem_filter hf)
  · refine holds_facade hs _ (Naming.isWord_of_isIdentifier (Config.isIdentifier_facade hfault)) ?_
    intro m hm
    obtain ⟨f, hf, rfl⟩ := List.mem_map.mp hm
    exact hmethods f (List.mem_of_mem_filter hf)

end Plain

/-! ## Different members -/

section Different

/-- The members that every class or record has without a declaration. -/
def Managed.inheritedMembers : List String := [
  "Equals", "GetHashCode", "ToString", "GetType", "Finalize", "MemberwiseClone",
  "EqualityContract", "Deconstruct", "PrintMembers"]

/-- The declared members of a type are different from each other, from the type, and from the
members that it has anyway. -/
structure Managed.Body.Distinct (b : Body) : Prop where
  nodup : b.declared.Nodup
  notMem_name : b.name ∉ b.declared
  notMem_fixed : ∀ name ∈ b.declared, name ∉ b.fixed ++ inheritedMembers

variable {c : Config} {ds : List Declaration} {s : Schema} {facade : String}

/-- What a scope grants is different. -/
theorem Scope.Grants.distinct {b : Body} (reserved : List String)
    (h : Scope.Grants ⟨b.name, reserved⟩ b.declared)
    (hfixed : ∀ name ∈ b.fixed ++ inheritedMembers, name ∈ reserved ∨ name ∉ b.declared) :
    b.Distinct := by
  refine ⟨h.nodup, fun hname => h.ne_owner b.name hname rfl, ?_⟩
  intro name hname hmem
  obtain hreserved | hfree := hfixed name hmem
  · exact h.notMem_reserved name hname hreserved
  · exact hfree hname

private theorem pascal_ne_handle {name : String} (h : Naming.isIdentifier name = true) :
    Naming.pascal name ≠ "_handle" := by
  intro heq
  have hchars : Naming.pascalChars name.toList = "_handle".toList := by
    rw [← heq, Naming.pascal, String.toList_ofList]
  obtain ⟨letters, hletters, ⟨hpascal, -⟩ | ⟨hpascal, hdigit⟩⟩ := Naming.pascalChars_cases h
  · rw [hpascal] at hchars
    rw [hchars] at hletters
    exact absurd (hletters '_' (by decide)) (by decide)
  · rw [hpascal] at hchars
    obtain rfl : letters = "handle".toList := by simpa using hchars
    exact absurd hdigit (by decide)

/-- The fixed members of classes are reserved as names of members, but for one that no managed name
is like. -/
theorem Accepted.distinct_wrapper (h : Accepted facade ds s) {x : ExportedStruct}
    (hx : x ∈ s.structs) (start : String) (surface : Surface) :
    ((⟨s, start, surface⟩ : Context).wrapper x).body.Distinct := by
  have hdeclared : ((⟨s, start, surface⟩ : Context).wrapper x).body.declared =
      x.fields.map (fun f => Naming.pascal f.name) ++
        (s.methodsOf x.id).map fun f => Naming.pascal f.name := by
    simp [Wrapper.body, Context.wrapper, property, Context.method, Function.comp_def]
  refine Scope.Grants.distinct (reservedMemberNames ++ reservedTypeNames)
    (hdeclared ▸ h.grants_struct hx) ?_
  intro name hname
  by_cases hhandle : name = "_handle"
  · right
    rw [hdeclared, hhandle]
    intro hmem
    obtain hmem | hmem := List.mem_append.mp hmem
    · obtain ⟨f, hf, heq⟩ := List.mem_map.mp hmem
      exact pascal_ne_handle (h.isIdentifier_field hx hf) heq
    · obtain ⟨f, hf, heq⟩ := List.mem_map.mp hmem
      exact pascal_ne_handle (h.isIdentifier_function (List.mem_of_mem_filter hf)) heq
  · left
    have hreserved : ∀ name ∈ ["FromHandle", "RawHandle", "Forget", "Dispose", "Free"] ++
        inheritedMembers, name ∈ reservedMemberNames ++ reservedTypeNames := by decide
    exact hreserved name ((List.mem_cons.mp hname).resolve_left hhandle)

theorem Accepted.distinct_enumClass (h : Accepted facade ds s) {x : ExportedEnum}
    (hx : x ∈ s.enums) (start : String) (surface : Surface) :
    ((⟨s, start, surface⟩ : Context).enumClass x).body.Distinct := by
  have hdeclared : ((⟨s, start, surface⟩ : Context).enumClass x).body.declared =
      x.variants.map (fun v => Naming.pascal v.name) ++
        (s.methodsOf x.id).map fun f => Naming.pascal f.name := by
    simp [EnumClass.body, Context.enumClass, Context.record, Context.method, Function.comp_def]
  have hreserved : ∀ name ∈ ["Decode", "Lower", "Free"] ++ inheritedMembers,
      name ∈ reservedMemberNames ++ reservedTypeNames ++ enumHelperNames := by decide
  exact Scope.Grants.distinct (reservedMemberNames ++ reservedTypeNames ++ enumHelperNames)
    (hdeclared ▸ h.grants_enum hx) fun name hname => .inl (hreserved name hname)

theorem Accepted.distinct_facade (h : Accepted facade ds s) (start : String) (surface : Surface) :
    ((⟨s, start, surface⟩ : Context).facade facade).body.Distinct := by
  have hdeclared : ((⟨s, start, surface⟩ : Context).facade facade).body.declared =
      s.freeFunctions.map fun f => Naming.pascal f.name := by
    simp [Facade.body, Context.facade, Context.method, Function.comp_def]
  have hreserved : ∀ name ∈ inheritedMembers,
      name ∈ reservedMemberNames ++ reservedTypeNames := by decide
  exact Scope.Grants.distinct (reservedMemberNames ++ reservedTypeNames)
    (hdeclared ▸ h.grants_freeFunctions) fun name hname => .inl (hreserved name hname)

/-- The fields of a tuple are named by their places. -/
def Managed.itemNames (count : Nat) : List String :=
  (List.range' 0 count).map fun i => s!"Item{i}"

private theorem nodup_itemNames (count : Nat) : (itemNames count).Nodup := by
  refine List.Pairwise.map _ ?_ (List.nodup_range' 1)
  intro i j hij heq
  exact hij (Naming.toString_nat_injective (String.append_right_inj _ |>.mp heq))

private theorem notMem_inheritedMembers_of_mem_itemNames {count : Nat} {name : String}
    (h : name ∈ itemNames count) : name ∉ inheritedMembers := by
  have hstarts : ∀ w ∈ inheritedMembers, ¬ "Item".toList <+: w.toList := by decide
  obtain ⟨i, -, rfl⟩ := List.mem_map.mp h
  intro hmem
  refine hstarts _ hmem ?_
  simp [toString, String.toList_append]

/-- The names of the places in the tuple that a variant holds. -/
def Variant.places (v : Variant) : List String :=
  match v.payload with
  | .tuple elems => itemNames elems.length
  | .unit | .struct _ => []

/-- **The record of a variant** has different members unless it is named like one of the places of
its tuple: the names of places are not looked at. -/
theorem Accepted.distinct_record_iff (h : Accepted facade ds s) {x : ExportedEnum}
    (hx : x ∈ s.enums) {v : Variant} (hv : v ∈ x.variants) (start : String) (surface : Surface) :
    ((⟨s, start, surface⟩ : Context).record x v).body.Distinct ↔
      Naming.pascal v.name ∉ v.places := by
  have hdeclared : ((⟨s, start, surface⟩ : Context).record x v).body.declared =
      v.payload.fields.map fun f => recordField f.name := by
    simp [VariantRecord.body, Context.record, Context.recordField, Function.comp_def]
  cases hpayload : v.payload with
  | unit =>
    rw [hpayload] at hdeclared
    have hnil : ((⟨s, start, surface⟩ : Context).record x v).body.declared = [] := hdeclared
    rw [Variant.places, hpayload]
    exact iff_of_true ⟨by simp [hnil], by simp [hnil], by simp [hnil]⟩ List.not_mem_nil
  | struct fields =>
    have hpascal : ((⟨s, start, surface⟩ : Context).record x v).body.declared =
        fields.map fun f => Naming.pascal f.name := by
      rw [hdeclared, hpayload, Payload.fields, List.map_map]
      rfl
    have hreserved : ∀ name ∈ inheritedMembers,
        name ∈ reservedMemberNames ++ reservedTypeNames := by decide
    rw [Variant.places, hpayload]
    refine iff_of_true (Scope.Grants.distinct (reservedMemberNames ++ reservedTypeNames) ?_ ?_)
      List.not_mem_nil
    · exact hpascal ▸ h.grants_payload hx hv hpayload
    · exact fun name hname => .inl (hreserved name hname)
  | tuple elems =>
    have hitems : ((⟨s, start, surface⟩ : Context).record x v).body.declared =
        itemNames elems.length := by
      rw [hdeclared, hpayload, Payload.fields, List.map_map, itemNames,
        ← List.zipIdx_map_snd 0 elems, List.map_map]
      rfl
    have hplaces : v.places = itemNames elems.length := by rw [Variant.places, hpayload]
    rw [hplaces]
    constructor
    · intro hdistinct
      exact hitems ▸ hdistinct.notMem_name
    · intro hname
      refine ⟨hitems ▸ nodup_itemNames _, hitems ▸ hname, ?_⟩
      rw [hitems]
      exact fun name => notMem_inheritedMembers_of_mem_itemNames

/-- **The declared members of each type in a managed file are different**, from each other, from the
type, and from its other members, exactly if no variant that holds a tuple is named like one of its
places. -/
theorem distinct_bodies_iff (h : c.schema ds = .ok s) :
    List.Forall₂ Body.ReadAs (s.managedFile c).bodies
        (bodiesOf ((s.managedFile c).classes (s.surface c))) ∧
      ((∀ b ∈ (s.managedFile c).bodies, b.Distinct) ↔
        ∀ x ∈ s.enums, ∀ v ∈ x.variants, Naming.pascal v.name ∉ v.places) := by
  have haccepted := Schema.build_eq_ok_iff_accepted.mp (Config.schema_eq_ok_iff.mp h).2
  refine ⟨bodiesOf_managedFile h, ?_⟩
  constructor
  · intro hall x hx v hv
    refine (haccepted.distinct_record_iff hx hv c.symbols (s.surface c)).mp (hall _ ?_)
    refine List.mem_append_left _ (List.mem_append_right _ (List.mem_flatMap.mpr
      ⟨_, List.mem_map_of_mem hx, ?_⟩))
    exact List.mem_cons_of_mem _ (List.mem_cons_of_mem _ (List.mem_map_of_mem
      (List.mem_map_of_mem hv)))
  · intro hrecords b hb
    obtain hb | hb := List.mem_append.mp hb
    · obtain hb | hb := List.mem_append.mp hb
      · obtain ⟨w, hw, rfl⟩ := List.mem_map.mp hb
        obtain ⟨x, hx, rfl⟩ := List.mem_map.mp hw
        exact haccepted.distinct_wrapper hx _ _
      · obtain ⟨e, he, hb⟩ := List.mem_flatMap.mp hb
        obtain ⟨x, hx, rfl⟩ := List.mem_map.mp he
        obtain rfl | hb := List.mem_cons.mp hb
        · exact ⟨List.nodup_nil, by simp, by simp⟩
        obtain rfl | hb := List.mem_cons.mp hb
        · exact haccepted.distinct_enumClass hx _ _
        · obtain ⟨r, hr, rfl⟩ := List.mem_map.mp hb
          obtain ⟨v, hv, rfl⟩ := List.mem_map.mp hr
          exact (haccepted.distinct_record_iff hx hv _ _).mpr (hrecords x hx v hv)
    · obtain rfl := List.mem_singleton.mp hb
      exact haccepted.distinct_facade _ _

/-- No variant of the demo library is named like a place. -/
theorem distinct_bodies_iff_demo :
    ({ libraryName := "demo" } : Config).schema Demo.declarations = .ok Demo.schema ∧
      ∀ b ∈ (Demo.schema.managedFile { libraryName := "demo" }).bodies, b.Distinct :=
  ⟨Demo.schema_eq_ok, (distinct_bodies_iff Demo.schema_eq_ok).2.mpr (by decide +kernel)⟩

/-- An enum whose variant holds a tuple and is named like its first place. -/
def itemDeclarations : List Declaration :=
  [.enum ⟨"E", [⟨"Item0", .tuple [Demo.named "bool"]⟩], Demo.at_ 1⟩]

/-- Such an enum is accepted, and its record declares a member of its own name. -/
theorem not_distinct_bodies_item :
    ∃ s, ({} : Config).schema itemDeclarations = .ok s ∧
      ¬ ∀ b ∈ (s.managedFile {}).bodies, b.Distinct := by
  obtain ⟨hfault, hbuild⟩ : ({} : Config).fault? = none ∧
      Schema.build defaultFacade itemDeclarations = .ok
        (Surroundings.ofDeclarations defaultFacade itemDeclarations).schema :=
    ⟨by decide +kernel, Schema.build_eq_ok_iff.mpr ⟨by decide +kernel, rfl⟩⟩
  refine ⟨_, Config.schema_eq_ok_iff.mpr ⟨hfault, hbuild⟩, ?_⟩
  have hbody : (⟨"Item0", [], ["Item0"]⟩ : Body) ∈
      ((Surroundings.ofDeclarations defaultFacade itemDeclarations).schema.managedFile
        {}).bodies := by
    decide +kernel
  intro hall
  exact (hall _ hbody).notMem_name (by decide)

end Different

end Boundary
