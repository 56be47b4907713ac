import Boundary.Proofs.Naming.Local
import Boundary.Proofs.Schema.Words

/-!
# Lists of parameters

Three kinds of lists become parameters: the fields of a struct, the fields of a variant, and the
parameters of a function. Fields are told apart in Pascal case and parameters in camel case, which
is the same.

* `AreParams`: usable names that are different in Pascal case.
* `AreParams.nodup_camel`, `AreParams.nodup_bare`, `AreParams.nodup_nativeIdent`: they are different
  in the other forms too.
* `Accepted.areParams_fields`, `Accepted.areParams_variant`, `Accepted.areParams_function`: the
  three kinds.
-/

namespace Boundary

open Naming

/-- Names that can be those of the parameters of one list. -/
structure AreParams (names : List String) : Prop where
  usable : ∀ name ∈ names, isUsableName name = true
  nodup_pascal : (names.map pascal).Nodup

namespace AreParams

variable {names : List String}

theorem nil : AreParams [] := ⟨by simp, List.nodup_nil⟩

theorem isIdentifier (h : AreParams names) : ∀ name ∈ names, isIdentifier name = true :=
  fun name hname => isIdentifier_of_isUsableName (h.usable name hname)

/-- Names that are different in Pascal case are different in every form that tells this case. -/
theorem nodup_map (h : AreParams names) {form : String → String}
    (hform : ∀ a ∈ names, ∀ b ∈ names, form a = form b → pascal a = pascal b) :
    (names.map form).Nodup := by
  have hnodup : names.Nodup := h.nodup_pascal.of_map _
  refine hnodup.map_on ?_
  intro a ha b hb heq
  exact List.inj_on_of_nodup_map h.nodup_pascal ha hb (hform a ha b hb heq)

theorem nodup_camel (h : AreParams names) : (names.map camel).Nodup :=
  h.nodup_map fun a ha b hb => (camel_eq_iff (h.isIdentifier a ha) (h.isIdentifier b hb)).mp

theorem nodup_bare (h : AreParams names) : (names.map bare).Nodup :=
  h.nodup_map fun _ _ _ _ => pascal_eq_of_bare_eq

theorem nodup_nativeIdent (h : AreParams names) : (names.map nativeIdent).Nodup :=
  h.nodup_map fun a ha b hb heq =>
    pascal_eq_of_bare_eq ((nativeIdent_eq_iff (h.isIdentifier a ha) (h.isIdentifier b hb)).mp heq)

theorem nodup_localName (h : AreParams names) : (names.map Managed.localName).Nodup := by
  refine h.nodup_map fun a _ b _ heq => ?_
  have hchars := congrArg String.toList heq
  rw [Managed.localName, Managed.localName, String.toList_append, String.toList_append] at hchars
  exact String.toList_injective (List.append_cancel_left hchars)

end AreParams

/-- The names of the fields of a variant as parameters have them. -/
def Variant.paramNames (v : Variant) : List String := v.payload.fields.map (·.name.paramName)

/-- The places of a tuple. -/
theorem areParams_items (n : Nat) :
    AreParams ((List.range n).map fun i => (FieldName.index i).paramName) := by
  refine ⟨?_, ?_⟩
  · intro name hname
    obtain ⟨i, -, rfl⟩ := List.mem_map.mp hname
    exact isUsableName_itemName i
  · rw [List.map_map]
    refine List.nodup_range.map ?_
    intro i j heq
    simp only [Function.comp_apply, pascal_itemName] at heq
    have hchars := congrArg String.toList heq
    rw [String.toList_append, String.toList_append] at hchars
    exact toString_nat_injective (String.toList_injective (List.append_cancel_left hchars))

namespace Accepted

variable {facade : String} {ds : List Declaration} {s : Schema}

/-- The fields of a struct. -/
theorem areParams_fields (h : Accepted facade ds s) {x : ExportedStruct} (hx : x ∈ s.structs) :
    AreParams (x.fields.map (·.name)) := by
  refine ⟨?_, ?_⟩
  · intro name hname
    obtain ⟨f, hf, rfl⟩ := List.mem_map.mp hname
    exact h.isUsableName_field hx hf
  · rw [List.map_map]
    exact (List.nodup_append.mp (h.grants_struct hx).nodup).1

/-- The fields of a variant. -/
theorem areParams_variant (h : Accepted facade ds s) {x : ExportedEnum} (hx : x ∈ s.enums)
    {v : Variant} (hv : v ∈ x.variants) : AreParams v.paramNames := by
  cases hpayload : v.payload with
  | unit =>
    rw [Variant.paramNames, hpayload]
    exact .nil
  | tuple elems =>
    have hnames : v.paramNames =
        (List.range elems.length).map fun i => (FieldName.index i).paramName := by
      rw [Variant.paramNames, hpayload, Payload.fields, List.map_map, List.range_eq_range',
        ← List.zipIdx_map_snd 0 elems, List.map_map]
      rfl
    rw [hnames]
    exact areParams_items elems.length
  | struct fields =>
    have hnames : v.paramNames = fields.map (·.name) := by
      rw [Variant.paramNames, hpayload, Payload.fields, List.map_map]
      rfl
    rw [hnames]
    refine ⟨?_, ?_⟩
    · intro name hname
      obtain ⟨f, hf, rfl⟩ := List.mem_map.mp hname
      exact h.isUsableName_payloadField hx hv hpayload hf
    · rw [List.map_map]
      exact (h.grants_payload hx hv hpayload).nodup

/-- The parameters of a function. -/
theorem areParams_function (h : Accepted facade ds s) {f : ExportedFunction}
    (hf : f ∈ s.functions) : AreParams (f.params.map (·.name)) := by
  have husable : ∀ name ∈ f.params.map (·.name), isUsableName name = true := by
    intro name hname
    obtain ⟨p, hp, rfl⟩ := List.mem_map.mp hname
    exact h.isUsableName_param hf hp
  refine ⟨husable, ?_⟩
  have hcamel : ((f.params.map (·.name)).map camel).Nodup := by
    rw [h.functions_eq] at hf
    obtain ⟨⟨id, d⟩, hd, rfl⟩ := List.mem_map.mp hf
    obtain ⟨earlier, hcontent⟩ := h.function_of_mem (function_mem hd)
    obtain ⟨-, hparams, -⟩ := FunctionDecl.contentReport_eq_nil_iff.mp hcontent
    have hgrants : Scope.params.Grants ((d.params.filterMap paramClaim?).map (·.managed)) := by
      refine Scope.grants_filterMap paramClaim? ?_
      intro front p back c hp hc
      unfold paramClaim? at hc
      split at hc
      · cases hc
        exact (FunctionDecl.paramsReport_eq_nil_iff.mp hparams front p back hp).2.1
      · cases hc
    have hnames : ((d.exported (declaredTable ds) id).params.map (·.name)).map camel =
        (d.params.filterMap paramClaim?).map (·.managed) := by
      rw [FunctionDecl.exported, List.map_map, List.map_map, List.map_filterMap,
        ← List.filterMap_eq_map, List.filterMap_filter]
      refine List.filterMap_congr fun p _ => ?_
      unfold paramClaim?
      split <;> rfl
    rw [hnames]
    exact hgrants.nodup
  -- Names that are the same in Pascal case are the same in camel case.
  refine (hcamel.of_map _).map_on ?_
  intro a ha b hb heq
  have hcamel' := (camel_eq_iff (isIdentifier_of_isUsableName (husable a ha))
    (isIdentifier_of_isUsableName (husable b hb))).mpr heq
  exact List.inj_on_of_nodup_map hcamel ha hb hcamel'

end Accepted

end Boundary
