import Boundary.Demo.Declarations
import Boundary.Proofs.Config
import Boundary.Proofs.Managed.Choices
import Boundary.Proofs.Managed.Listing
import Boundary.Proofs.Native.TagArms

/-!
# Discriminants

The variants of an enum go by their discriminants where their values cross the boundary. Native code
answers with the discriminant of a value, managed code chooses by it, and so does the serialization
of values.

* `Schema.Serves`: the symbol of one entry point, with what the entry point is for.
* `Schema.RecordsVariant`: the record of a variant, and the entry points that belong to it.
* `Schema.DiscriminantsAgree`: all that depends on the discriminants of an enum.
* `discriminants_agree`: this about all enums of an accepted schema.
-/

namespace Boundary

open Managed Native Source

/-- A symbol is that of one entry point, which serves the purpose and has the body. -/
def Schema.Serves (s : Schema) (c : Config) (symbol : String) (p : EntryPurpose) (b : Native.Body) :
    Prop :=
  (∃ e ∈ s.entryPoints c.symbols, e.symbol = symbol ∧ e.purpose = p ∧
    ∀ e' ∈ s.entryPoints c.symbols, e'.symbol = symbol → e' = e) ∧ s.body? p = some b

/-- The record of a variant: its number leads to the variant, and its entry points make the variant
from the fields and read the fields, in the order of the fields. -/
structure Schema.RecordsVariant (s : Schema) (c : Config) (x : ExportedEnum) (v : Variant)
    (r : VariantRecord) : Prop where
  name : r.name = Naming.pascal v.name
  /-- Values are serialized by the same number. -/
  variant : x.variant? r.discriminant = some v
  make : s.Serves c r.makeSymbol (.variantCtor x.id r.discriminant)
    (constructVariant x r.discriminant v)
  /-- A value of the variant is answered with the same number. -/
  answer : ∀ fields, discriminant (variantArms x) (.variant r.discriminant fields) = r.discriminant
  fields : List.Forall₂ (fun (g : RecordField) (f : PayloadField × Nat) =>
    g.name = recordField f.1.name ∧ g.type = f.1.type ∧
      g.argument = (s.surface c).argument ("__v." ++ g.name) (localName f.1.name.paramName)
        f.1.type ∧
      s.Serves c g.getter (.variantGetter x.id r.discriminant f.2)
        (.variantField x.id (VariantRef.of x r.discriminant v) f.2 f.1.name (isNumber f.1.type)
          (Lowering.of f.1.type))) r.fields v.payload.fields.zipIdx

/-- **All that depends on the discriminants of an enum agrees about them.** -/
structure Schema.DiscriminantsAgree (s : Schema) (c : Config) (x : ExportedEnum) : Prop where
  numbers : x.variants.map (·.discriminant) = List.range x.variants.length
  /-- The entry point that reads the discriminant has one arm for each variant. -/
  arms : armsOf (entryCode (s.spelling c) (x.tagEntry c.symbols) (s.body? (.tag x.id))) =
    x.variants.map fun v =>
      ((VariantRef.of x v.discriminant v).pattern (s.spelling c), toString v.discriminant)
  patterns : (x.variants.map fun v =>
    (VariantRef.of x v.discriminant v).pattern (s.spelling c)).Nodup
  tag : s.Serves c (Symbol.tag c.symbols x.name) (.tag x.id) (.tag x.id (variantArms x))
  records : List.Forall₂ (s.RecordsVariant c x) x.variants ((s.context c).enumClass x).records
  /-- No two variants have the same record. -/
  names : (((s.context c).enumClass x).records.map (·.name)).Nodup
  /-- Records are made from handles in one case for each number, which that entry point answers. -/
  decode : choiceOf (Code.textsAll (((s.context c).enumClass x).decode (s.surface c))) =
    ⟨[.binds "__status" "default(CallStatus)",
        .calls "__tag" (Naming.managedIdent (Symbol.tag c.symbols x.name))
          ["handle", statusArgument],
        .switches "__tag"],
      ((s.context c).enumClass x).records.map (·.decodeCase (s.surface c))
        ++ [⟨"default", "", []⟩]⟩
  /-- Handles are made from records in one case for each record. -/
  lower : choiceOf (Code.textsAll (((s.context c).enumClass x).lower (s.surface c))) =
    ⟨[.binds "__status" "default(CallStatus)", .switches "value"],
      ((s.context c).enumClass x).records.map (·.lowerCase (s.surface c))
        ++ [⟨"default", "", []⟩]⟩

section Agree

variable {c : Config} {facade : String} {ds : List Declaration} {s : Schema}

theorem Accepted.serves (h : Accepted facade ds s) {e : EntryPoint}
    (he : e ∈ s.entryPoints c.symbols) {b : Native.Body} (hbody : s.body? e.purpose = some b) :
    s.Serves c e.symbol e.purpose b :=
  ⟨⟨e, he, rfl, rfl, fun _ he' heq =>
    List.inj_on_of_nodup_map (h.nodup_entrySymbols c.symbols) he' he heq⟩, hbody⟩

/-- The discriminant of a variant leads to the variant. -/
theorem getElem?_discriminant (h : c.schema ds = .ok s) {x : ExportedEnum} (hx : x ∈ s.enums)
    {v : Variant} (hv : v ∈ x.variants) : x.variants[v.discriminant]? = some v := by
  have hmirrors := Schema.mirrors_of_build (Config.schema_eq_ok_iff.mp h).2
  obtain ⟨i, hi⟩ := List.mem_iff_getElem?.mp hv
  rw [hmirrors.discriminant_eq x hx i v hi]
  exact hi

private theorem map_discriminant (h : c.schema ds = .ok s) {x : ExportedEnum} (hx : x ∈ s.enums) :
    x.variants.map (·.discriminant) = List.range x.variants.length := by
  have hmirrors := Schema.mirrors_of_build (Config.schema_eq_ok_iff.mp h).2
  refine List.ext_getElem (by simp) fun i hi _ => ?_
  rw [List.getElem_map, List.getElem_range]
  rw [List.length_map] at hi
  exact hmirrors.discriminant_eq x hx i _ (List.getElem?_eq_getElem hi)

private theorem map_variantArms (h : c.schema ds = .ok s) {x : ExportedEnum} (hx : x ∈ s.enums)
    (names : Spelling) : (variantArms x).map (fun (v, n) => (v.pattern names, toString n)) =
      x.variants.map fun v =>
        ((VariantRef.of x v.discriminant v).pattern names, toString v.discriminant) := by
  have hmirrors := Schema.mirrors_of_build (Config.schema_eq_ok_iff.mp h).2
  conv_rhs => rw [← List.zipIdx_map_fst 0 x.variants, List.map_map]
  rw [variantArms, List.map_map]
  refine List.map_congr_left fun p hp => ?_
  have hplace := hmirrors.discriminant_eq x hx p.2 p.1 (List.mk_mem_zipIdx_iff_getElem?.mp hp)
  simp [hplace]

theorem recordsVariant (h : Accepted facade ds s) {x : ExportedEnum} (hx : x ∈ s.enums)
    {v : Variant} (hv : x.variants[v.discriminant]? = some v) :
    s.RecordsVariant c x v ((s.context c).record x v) where
  name := rfl
  variant := hv
  make := h.serves (Schema.Entry.mem_entryPoints (.variantCtor hx hv))
    (h.body?_variantCtor hx hv c.symbols)
  answer := fun fields => discriminant_variantArms hv fields
  fields := by
    have hrecord : ((s.context c).record x v).fields =
        v.payload.fields.zipIdx.map fun f => (s.context c).recordField x v f.1 := by
      conv_rhs => rw [← Function.comp_def ((s.context c).recordField x v), ← List.map_map,
        List.zipIdx_map_fst]
      rfl
    rw [hrecord, List.forall₂_map_left_iff, List.forall₂_same]
    intro f hf
    have hfield := List.mk_mem_zipIdx_iff_getElem?.mp hf
    exact ⟨rfl, rfl, rfl, h.serves (Schema.Entry.mem_entryPoints (.variantGetter hx hv hfield))
      (h.body?_variantGetter hx hv hfield c.symbols)⟩

private theorem isLocal_record (x : ExportedEnum) (v : Variant) :
    ((s.context c).record x v).IsLocal := by
  intro g hg
  obtain ⟨f, -, rfl⟩ := List.mem_map.mp hg
  exact ⟨Naming.isMade_append (by decide) _, Naming.isMade_append (by decide) _⟩

/-- **Native code, managed code and the serialization of values agree about discriminants.** -/
theorem discriminants_agree (h : c.schema ds = .ok s) {x : ExportedEnum} (hx : x ∈ s.enums) :
    s.DiscriminantsAgree c x := by
  obtain ⟨hfault, hbuild⟩ := Config.schema_eq_ok_iff.mp h
  have haccepted := Schema.build_eq_ok_iff_accepted.mp hbuild
  have hreadable := readable_enumClass hfault haccepted hx
  have hbody : s.body? (.tag x.id) = some (.tag x.id (variantArms x)) :=
    haccepted.body?_tag hx c.symbols
  have hlocal : ∀ r ∈ ((s.context c).enumClass x).records, r.IsLocal := by
    intro r hr
    obtain ⟨v, -, rfl⟩ := List.mem_map.mp hr
    exact isLocal_record x v
  have hnames : ((s.context c).enumClass x).records.map (·.name) =
      x.variants.map fun v => Naming.pascal v.name := List.map_map
  refine ⟨map_discriminant h hx, ?_, haccepted.nodup_patterns hx _,
    haccepted.serves (Schema.Entry.mem_entryPoints (.tag hx)) hbody, ?_,
    hnames ▸ haccepted.nodup_variantNames hx, choiceOf_decode hreadable,
    choiceOf_lower hreadable hlocal⟩
  · rw [hbody, armsOf_entryCode, map_variantArms h hx]
  · refine List.forall₂_map_right_iff.mpr (List.forall₂_same.mpr fun v hv => ?_)
    exact recordsVariant haccepted hx (getElem?_discriminant h hx hv)

/-- The enum of the demo library. -/
theorem discriminants_agree_demo :
    ({ libraryName := "demo" } : Config).schema Demo.declarations = .ok Demo.schema ∧
      ∃ x ∈ Demo.schema.enums, x.variants.length = 3 ∧
        Demo.schema.DiscriminantsAgree { libraryName := "demo" } x := by
  obtain ⟨x, hx, hlength⟩ : ∃ x ∈ Demo.schema.enums, x.variants.length = 3 := by decide +kernel
  exact ⟨Demo.schema_eq_ok, x, hx, hlength, discriminants_agree Demo.schema_eq_ok hx⟩

end Agree

end Boundary
