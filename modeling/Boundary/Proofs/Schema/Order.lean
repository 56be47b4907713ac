import Boundary.Proofs.Schema.Members
import Boundary.Proofs.Schema.Numbering
import Boundary.Proofs.Schema.TopLevel

/-!
# The order of declarations

Which declaration comes first decides which of two is refused, and how types and functions are
numbered. It does not decide whether declarations are accepted, nor what the schema is but for these
numbers.

* `exists_places_of_perm`: where the items of a list are in a permutation of it.
* `Rearranges`: declarations in another order, with the places of types and functions.
* `Accepted.renames`, `Accepted.renumbers`: the table and the schema of the other order.
* `Accepted.rearranged`: declarations in another order are accepted too.
* `Schema.build_perm`: acceptance and schema do not depend on the order.
-/

namespace Boundary

/-! ## Places in a permutation -/

/-- The change of places `σ` behind a first item that stays where it is. -/
def behindFirst (σ : Nat → Nat) : Nat → Nat
  | 0 => 0
  | i + 1 => σ i + 1

/-- The change of places of the first two items. -/
def swapFirst : Nat → Nat
  | 0 => 1
  | 1 => 0
  | i + 2 => i + 2

private theorem bijective_behindFirst {σ : Nat → Nat} (h : σ.Bijective) :
    (behindFirst σ).Bijective := by
  constructor
  · intro i j hij
    cases i <;> cases j <;> simp_all [behindFirst, h.injective.eq_iff]
  · intro j
    cases j with
    | zero => exact ⟨0, rfl⟩
    | succ j =>
      obtain ⟨i, rfl⟩ := h.surjective j
      exact ⟨i + 1, rfl⟩

private theorem bijective_swapFirst : swapFirst.Bijective := by
  refine Function.Involutive.bijective ?_
  intro i
  match i with
  | 0 | 1 | _ + 2 => rfl

/-- Every item of `as` is at some place of the permutation `bs`, which `σ` tells. -/
theorem exists_places_of_perm {α : Type} {as bs : List α} (h : as.Perm bs) :
    ∃ σ : Nat → Nat, σ.Bijective ∧ ∀ i, bs[σ i]? = as[i]? := by
  induction h with
  | nil => exact ⟨fun i => i, Function.bijective_id, fun _ => rfl⟩
  | cons a _ ih =>
    obtain ⟨σ, hσ, hplace⟩ := ih
    refine ⟨behindFirst σ, bijective_behindFirst hσ, ?_⟩
    intro i
    cases i with
    | zero => rfl
    | succ i => exact hplace i
  | swap a b as =>
    refine ⟨swapFirst, bijective_swapFirst, ?_⟩
    intro i
    match i with
    | 0 | 1 | _ + 2 => rfl
  | trans _ _ ih ih' =>
    obtain ⟨σ, hσ, hplace⟩ := ih
    obtain ⟨σ', hσ', hplace'⟩ := ih'
    exact ⟨σ' ∘ σ, hσ'.comp hσ, fun i => (hplace' (σ i)).trans (hplace i)⟩

/-- The items of a list with their places, at the places that they have in a permutation. -/
theorem zipIdx_perm_of_places {α : Type} {as bs : List α} {σ : Nat → Nat} (hσ : σ.Bijective)
    (hplace : ∀ i, bs[σ i]? = as[i]?) :
    bs.zipIdx.Perm (as.zipIdx.map fun p => (p.1, σ p.2)) := by
  have hnodup (l : List α) : (l.zipIdx.map Prod.snd).Nodup := by
    rw [List.zipIdx_map_snd]
    exact List.nodup_range' 1
  have hmoved : (as.zipIdx.map fun p => (p.1, σ p.2)).Nodup := by
    refine List.Nodup.of_map Prod.snd ?_
    have hsnd := (hnodup as).map hσ.injective
    rwa [List.map_map] at hsnd ⊢
  refine (List.perm_ext_iff_of_nodup (List.Nodup.of_map _ (hnodup bs)) hmoved).mpr ?_
  rintro ⟨a, j⟩
  obtain ⟨i, rfl⟩ := hσ.surjective j
  rw [List.mk_mem_zipIdx_iff_getElem?, hplace, ← List.mk_mem_zipIdx_iff_getElem?, List.mem_map]
  constructor
  · intro ha
    exact ⟨(a, i), ha, rfl⟩
  · rintro ⟨⟨b, k⟩, hb, heq⟩
    obtain ⟨rfl, hk⟩ := Prod.mk.inj heq
    obtain rfl : k = i := hσ.injective hk
    exact hb

/-- The number of a type at the place that `σ` moves it to. -/
def TypeId.move (σ : Nat → Nat) (id : TypeId) : TypeId := ⟨σ id.index⟩

/-- The number of a function at the place that `τ` moves it to. -/
def FunctionId.move (τ : Nat → Nat) (id : FunctionId) : FunctionId := ⟨τ id.index⟩

theorem TypeId.injective_move {σ : Nat → Nat} (h : σ.Injective) : (TypeId.move σ).Injective := by
  rintro ⟨i⟩ ⟨j⟩ hij
  exact congrArg TypeId.mk (h (congrArg TypeId.index hij))

theorem FunctionId.injective_move {τ : Nat → Nat} (h : τ.Injective) :
    (FunctionId.move τ).Injective := by
  rintro ⟨i⟩ ⟨j⟩ hij
  exact congrArg FunctionId.mk (h (congrArg FunctionId.index hij))

/-! ## Declarations in another order -/

/-- The same declarations in another order. The type at a place is moved to the place that `σ`
tells, and the function at a place to the one that `τ` tells. -/
structure Rearranges (σ τ : Nat → Nat) (ds ds' : List Declaration) : Prop where
  perm : ds.Perm ds'
  types_bijective : σ.Bijective
  functions_bijective : τ.Bijective
  type_moved : ∀ i, (ds'.filterMap Declaration.type?)[σ i]? = (ds.filterMap Declaration.type?)[i]?
  function_moved : ∀ i,
    (ds'.filterMap Declaration.function?)[τ i]? = (ds.filterMap Declaration.function?)[i]?

private theorem exists_rearranges {ds ds' : List Declaration} (h : ds.Perm ds') :
    ∃ σ τ, Rearranges σ τ ds ds' := by
  obtain ⟨σ, hσ, htypes⟩ := exists_places_of_perm (h.filterMap Declaration.type?)
  obtain ⟨τ, hτ, hfunctions⟩ := exists_places_of_perm (h.filterMap Declaration.function?)
  exact ⟨σ, τ, h, hσ, hτ, htypes, hfunctions⟩

variable {facade : String} {ds ds' : List Declaration} {s : Schema} {σ τ : Nat → Nat}

/-! ### Tables -/

/-- `lookup` finds a declared type by its name, if no two have the same. -/
theorem lookup_declaredTable (hnodup : ((ds.filterMap Declaration.type?).map TypeDecl.name).Nodup)
    {i : Nat} {t : TypeDecl} (ht : (ds.filterMap Declaration.type?)[i]? = some t) :
    (declaredTable ds).lookup t.name = some ⟨i⟩ := by
  have hmem : (t.name, (⟨i⟩ : TypeId)) ∈ declaredTable ds :=
    List.mem_map.mpr ⟨(t, i), List.mk_mem_zipIdx_iff_getElem?.mpr ht, rfl⟩
  cases hid : (declaredTable ds).lookup t.name with
  | none =>
    rw [List.lookup_eq_none_iff] at hid
    simpa using hid _ hmem
  | some id =>
    obtain ⟨u, hu, hname⟩ := exists_type_of_lookup hid
    have hplace : id.index = i := place_eq_of_key_eq hnodup hu ht hname
    rw [← hplace]

namespace Accepted

variable (h : Accepted facade ds s) (hr : Rearranges σ τ ds ds')

include h hr

theorem nodup_typeNames_rearranged :
    ((ds'.filterMap Declaration.type?).map TypeDecl.name).Nodup :=
  ((hr.perm.filterMap Declaration.type?).map TypeDecl.name).nodup_iff.mp h.nodup_typeNames

/-- The table of `ds'` has the names of `ds`. -/
theorem renames : TypeTable.Renames (TypeId.move σ) (declaredTable ds) (declaredTable ds') := by
  intro name id hid
  obtain ⟨t, ht, rfl⟩ := exists_type_of_lookup hid
  refine lookup_declaredTable (h.nodup_typeNames_rearranged hr) ?_
  rw [hr.type_moved, ht]

end Accepted

/-! ### Schemas -/

/-- The declared types of one kind are the same, at other places. -/
theorem Rearranges.declaredTypes_perm (hr : Rearranges σ τ ds ds') {α : Type}
    (kind? : TypeDecl → Option α) : (declaredTypes kind? ds').Perm
      ((declaredTypes kind? ds).map fun d => (TypeId.move σ d.1, d.2)) := by
  refine ((zipIdx_perm_of_places hr.types_bijective hr.type_moved).filterMap _).trans (.of_eq ?_)
  rw [declaredTypes, List.filterMap_map, List.map_filterMap]
  refine List.filterMap_congr ?_
  rintro ⟨t, i⟩ -
  cases h : kind? t <;> simp [TypeId.move, h]

/-- The declared functions are the same, at other places. -/
theorem Rearranges.declaredFunctions_perm (hr : Rearranges σ τ ds ds') :
    (declaredFunctions ds').Perm
      ((declaredFunctions ds).map fun d => (FunctionId.move τ d.1, d.2)) := by
  refine ((zipIdx_perm_of_places hr.functions_bijective hr.function_moved).map _).trans (.of_eq ?_)
  rw [declaredFunctions, List.map_map, List.map_map]
  rfl

/-- The schema of `ds`, if no declaration is refused. -/
def schemaOf (facade : String) (ds : List Declaration) : Schema :=
  (Registry.ofRegistered ds).schema (grantedNames facade (ds.flatMap Declaration.topClaims))

/-- An item has another key than those before it, if no two have the same. -/
theorem key_ne_of_nodup {α κ : Type} {key : α → κ} {front back : List α} {a : α}
    (h : ((front ++ a :: back).map key).Nodup) {e : α} (he : e ∈ front) : key e ≠ key a := by
  rw [List.map_append, List.map_cons, List.nodup_append] at h
  exact h.2.2 _ (List.mem_map_of_mem he) _ List.mem_cons_self

namespace Accepted

variable (h : Accepted facade ds s) (hr : Rearranges σ τ ds ds')

include h hr

/-- The names at the top level are granted in the order of `ds'`. -/
theorem topConflict?_rearranged {front back : List TopClaim} {c : TopClaim}
    (hsplit : ds'.flatMap Declaration.topClaims = front ++ c :: back) :
    topConflict? facade front c = none := by
  have hclaims : (ds.flatMap Declaration.topClaims).Perm (ds'.flatMap Declaration.topClaims) :=
    hr.perm.flatMap_right _
  have hnodup := (hclaims.map TopClaim.managed).nodup_iff.mp h.nodup_topNames
  rw [hsplit] at hnodup
  have hmem : c ∈ ds.flatMap Declaration.topClaims := hclaims.mem_iff.mpr (by simp [hsplit])
  obtain ⟨front', back', hsplit'⟩ := List.append_of_mem hmem
  obtain ⟨hreserved, hoption, -⟩ := topConflict?_eq_none_iff.mp (h.topConflict?_eq_none hsplit')
  exact topConflict?_eq_none_iff.mpr ⟨hreserved, hoption, fun e he => key_ne_of_nodup hnodup he⟩

/-- The schema of `ds'` has the items of `s`, with the numbers of their places. -/
theorem renumbers :
    s.Renumbers (TypeId.move σ) (FunctionId.move τ) (schemaOf facade ds') := by
  have hnames := h.renames hr
  refine ⟨TypeId.injective_move hr.types_bijective.injective,
    FunctionId.injective_move hr.functions_bijective.injective, ?_, ?_, ?_, ?_⟩
  · rw [h.structs_eq, schemaOf, structs_schema, List.map_map]
    refine ((hr.declaredTypes_perm _).map _).trans (.of_eq ?_)
    rw [List.map_map]
    exact List.map_congr_left fun ⟨id, d⟩ hd =>
      StructDecl.exported_of_renames hnames (h.struct_isSound hd) id
  · rw [h.enums_eq, schemaOf, enums_schema, List.map_map]
    refine ((hr.declaredTypes_perm _).map _).trans (.of_eq ?_)
    rw [List.map_map]
    exact List.map_congr_left fun ⟨id, d⟩ hd =>
      EnumDecl.exported_of_renames hnames (fun v hv => ((h.enum_isSound hd).2 v hv).2) id
  · rw [h.functions_eq, schemaOf, functions_schema, List.map_map]
    refine (hr.declaredFunctions_perm.map _).trans (.of_eq ?_)
    rw [List.map_map]
    exact List.map_congr_left fun ⟨id, f⟩ hf =>
      FunctionDecl.exported_of_renames (τ := FunctionId.move τ) hnames
        (h.function_isSound (function_mem hf)) id
  · have hgranted := grantedNames_eq fun front c back => h.topConflict?_rearranged hr
    have hgranted' := grantedNames_eq fun front c back => h.topConflict?_eq_none
    rw [h.schema_eq]
    show (grantedNames facade _).Perm (grantedNames facade _)
    rw [hgranted, hgranted']
    exact ((hr.perm.symm.flatMap_right _).map _).append_left _

end Accepted

/-! ## Acceptance -/

/-- A function is not refused if none before it has its name and its owner. -/
theorem refusal?_function_eq_none {earlier : List Declaration} {f : FunctionDecl}
    (hname : isUsableName f.name = true)
    (hfresh : ∀ g ∈ earlier.filterMap Declaration.function?,
      (g.owner?, g.name) ≠ (f.owner?, f.name)) :
    (Declaration.function f).refusal? earlier = none := by
  have hproblem : identifierProblem? (Declaration.function f).name = none :=
    isUsableName_iff.mp hname
  unfold Declaration.refusal?
  rw [hproblem]
  dsimp only
  rw [if_neg]
  intro hsame
  obtain ⟨g, hg, hsame⟩ := List.any_eq_true.mp hsame
  rw [FunctionDecl.sameAs, Bool.and_eq_true, decide_eq_true_eq, decide_eq_true_eq] at hsame
  exact hfresh g hg (Prod.ext hsame.1.symm hsame.2.symm)

/-- A type is not refused if its name has no fixed meaning and none before it has its name. -/
theorem refusal?_type_eq_none {earlier : List Declaration} {d : Declaration} {t : TypeDecl}
    (hd : d.type? = some t) (hname : isUsableName t.name = true)
    (hbuiltin : isBuiltinTypeName t.name = false)
    (hfresh : ∀ u ∈ earlier.filterMap Declaration.type?, u.name ≠ t.name) :
    d.refusal? earlier = none := by
  have hany : ¬ (earlier.filterMap Declaration.type?).any (·.name = t.name) = true := by
    rw [List.any_eq_true]
    rintro ⟨u, hu, heq⟩
    exact hfresh u hu (of_decide_eq_true heq)
  cases d with
  | function f => cases hd
  | struct d | enum d =>
    cases hd
    unfold Declaration.refusal?
    split
    · rename_i hproblem
      exact absurd ((isUsableName_iff.mp hname).symm.trans hproblem) (by simp)
    · exact (if_neg (ne_true_of_eq_false hbuiltin)).trans (if_neg hany)

namespace Scope

variable {scope : Scope}

theorem Grants.perm {names names' : List String} (h : scope.Grants names)
    (hperm : names.Perm names') : scope.Grants names' :=
  ⟨hperm.nodup_iff.mp h.nodup, fun name hname => h.ne_owner name (hperm.mem_iff.mpr hname),
    fun name hname => h.notMem_reserved name (hperm.mem_iff.mpr hname)⟩

/-- Names that are granted are granted one after the other. -/
theorem Grants.conflict?_eq_none {front back : List NameClaim} {c : NameClaim}
    (h : scope.Grants ((front ++ c :: back).map (·.managed))) : scope.conflict? front c = none := by
  have hmem : c.managed ∈ (front ++ c :: back).map (·.managed) := by simp
  exact Scope.conflict?_eq_none_iff.mpr
    ⟨h.ne_owner _ hmem, h.notMem_reserved _ hmem, fun e he => key_ne_of_nodup h.nodup he⟩

end Scope

/-- What a function asks for in its class, where it stands. -/
theorem filterMap_ownClaim?_split {front back : List Declaration} {f : FunctionDecl} :
    (front ++ .function f :: back).filterMap (ownClaim? f.owner?) =
      front.filterMap (ownClaim? f.owner?) ++ f.claim :: back.filterMap (ownClaim? f.owner?) := by
  rw [List.filterMap_append, List.filterMap_cons_some]
  simp [ownClaim?]

namespace Accepted

/-- A declared type does not hold itself: `cycle?` finds no way. -/
theorem cycle?_eq_none (h : Accepted facade ds s) {i : Nat} {t : TypeDecl}
    (ht : (ds.filterMap Declaration.type?)[i]? = some t) : s.cycle? ⟨i⟩ = none := by
  obtain ⟨front, d, back, hds, hdt, hlength⟩ := exists_split_of_getElem?_filterMap ht
  have hreport := h.registeredReport_eq_nil front d back hds
  have hbefore : (Registry.ofRegistered front).types.length = i := hlength
  have hrecursion : s.recursionReport d.location ⟨i⟩ = [] := by
    cases d with
    | function f => cases hdt
    | struct d | enum d =>
      simp only [Declaration.registeredReport, List.append_eq_nil_iff, hbefore] at hreport
      exact hreport.2.1.2
  unfold Schema.recursionReport at hrecursion
  cases hcycle : s.cycle? ⟨i⟩ with
  | none => rfl
  | some cycle =>
    rw [hcycle] at hrecursion
    cases hrecursion

private theorem isUsableName_of_mem (h : Accepted facade ds s) {d : Declaration} (hd : d ∈ ds) :
    isUsableName d.name = true := by
  obtain ⟨front, back, hds⟩ := List.append_of_mem hd
  exact isUsableName_of_refusal? (h.refusal?_eq_none front d back hds)

section Rearranged

variable (h : Accepted facade ds s) (hr : Rearranges σ τ ds ds')

include h hr

/-- No declaration is refused in the order of `ds'`. -/
theorem refusal?_rearranged {front back : List Declaration} {d : Declaration}
    (hds : ds' = front ++ d :: back) : d.refusal? front = none := by
  have hmem : d ∈ ds := hr.perm.mem_iff.mpr (by simp [hds])
  have hname := h.isUsableName_of_mem hmem
  cases htype : d.type? with
  | some t =>
    have hnodup := h.nodup_typeNames_rearranged hr
    rw [hds, List.filterMap_append, List.filterMap_cons_some htype] at hnodup
    have ht : t ∈ ds.filterMap Declaration.type? := List.mem_filterMap.mpr ⟨d, hmem, htype⟩
    exact refusal?_type_eq_none htype (h.isUsableName_type ht) (h.type_of_mem ht).2
      fun u hu => key_ne_of_nodup hnodup hu
  | none =>
    obtain ⟨f, rfl⟩ : ∃ f, d = .function f := by
      cases d with
      | function f => exact ⟨f, rfl⟩
      | struct d | enum d => cases htype
    have hnodup := ((hr.perm.filterMap Declaration.function?).map
      fun f => (f.owner?, f.name)).nodup_iff.mp h.nodup_functionKeys
    have hfunction : (Declaration.function f).function? = some f := rfl
    rw [hds, List.filterMap_append, List.filterMap_cons_some hfunction] at hnodup
    exact refusal?_function_eq_none hname fun g hg => key_ne_of_nodup hnodup hg

private theorem topReport_rearranged {front back : List Declaration} {d : Declaration}
    (hds : ds' = front ++ d :: back) : d.topReport facade front = [] := by
  refine List.flatMap_eq_nil_iff.mpr ?_
  rintro ⟨before, c⟩ hmem
  obtain ⟨first, rest, hclaims, hbefore⟩ := mem_withEarlier_iff.mp hmem
  have hsplit : ds'.flatMap Declaration.topClaims =
      before ++ c :: (rest ++ back.flatMap Declaration.topClaims) := by
    rw [hbefore, hds, List.flatMap_append, List.flatMap_cons, hclaims]
    simp only [List.append_assoc, List.cons_append]
  exact conflictReport_eq_nil_iff.mpr (h.topConflict?_rearranged hr hsplit)

/-- A function is granted its name as a member in the order of `ds'`. -/
theorem memberReport_rearranged {front back : List Declaration} {f : FunctionDecl}
    (hds : ds' = front ++ .function f :: back) :
    f.memberReport (.ofAccepted facade ds' (schemaOf facade ds'))
      (front.filterMap Declaration.function?) = [] := by
  have hmem : f ∈ ds.filterMap Declaration.function? :=
    List.mem_filterMap.mpr ⟨.function f, hr.perm.mem_iff.mpr (by simp [hds]), rfl⟩
  have hclaims : (ds.filterMap (ownClaim? f.owner?)).Perm
      (front.filterMap (ownClaim? f.owner?) ++ f.claim :: back.filterMap (ownClaim? f.owner?)) := by
    rw [← filterMap_ownClaim?_split, ← hds]
    exact hr.perm.filterMap _
  unfold FunctionDecl.memberReport
  cases hreceiver : f.receiver with
  | none =>
    have howner : f.owner? = none := by rw [FunctionDecl.owner?, hreceiver, Option.map_none]
    have hbefore : (front.filterMap Declaration.function?).filter (·.receiver.isNone) =
        (front.filterMap Declaration.function?).filter fun g => g.owner? = none :=
      List.filter_congr fun g _ => by
        rw [Bool.eq_iff_iff, FunctionDecl.isNone_receiver_iff, decide_eq_true_eq]
    dsimp only
    rw [hbefore, ← filterMap_ownClaim?]
    rw [howner] at hclaims
    exact conflictReport_eq_nil_iff.mpr
      (h.grants_ownClaims_none.perm (hclaims.map _)).conflict?_eq_none
  | some r =>
    obtain ⟨id, hid⟩ := (h.function_isSound hmem).receiver r hreceiver
    obtain ⟨t, ht, hname⟩ := exists_type_of_lookup hid
    have howner : f.owner? = some t.name := by
      rw [FunctionDecl.owner?, hreceiver, Option.map_some, hname]
    have hlookup : (Surroundings.ofAccepted facade ds' (schemaOf facade ds')).table.lookup
        (Naming.lastSegment r.typeName) = some (id.move σ) := h.renames hr _ _ hid
    have htype : (Surroundings.ofAccepted facade ds' (schemaOf facade ds')).registry.type?
        (id.move σ) = some t := (hr.type_moved _).trans ht
    dsimp only
    rw [hlookup]
    dsimp only
    rw [htype]
    dsimp only
    rw [howner, ← filterMap_ownClaim?]
    rw [howner] at hclaims
    have hgrants := (h.grants_ownClaims_some (List.mem_of_getElem? ht)).perm
      ((hclaims.append_left t.memberClaims).map (·.managed))
    rw [← List.append_assoc] at hgrants
    exact conflictReport_eq_nil_iff.mpr hgrants.conflict?_eq_none

/-- The parameters of a function are sound in the order of `ds'`. -/
theorem paramsReport_rearranged {f : FunctionDecl}
    (hf : f ∈ ds.filterMap Declaration.function?) :
    f.paramsReport (.ofAccepted facade ds' (schemaOf facade ds')) = [] := by
  obtain ⟨earlier, hcontent⟩ := h.function_of_mem hf
  obtain ⟨-, hparams, -⟩ := FunctionDecl.contentReport_eq_nil_iff.mp hcontent
  rw [FunctionDecl.paramsReport_eq_nil_iff] at hparams ⊢
  intro front p back hsplit
  obtain ⟨hname, hconflict, htype, htransfer⟩ := hparams front p back hsplit
  refine ⟨hname, hconflict, TypeExpr.not_isRefused_of_renames (h.renames hr) htype, ?_⟩
  rw [ParamDecl.transferReport_eq_nil_iff] at htransfer ⊢
  refine ⟨fun hmode => ?_, htransfer.2⟩
  have hstruct := htransfer.1 hmode
  have hresolve := TypeExpr.resolve_of_renames (h.renames hr) htype
  have hmoved (t : TypeRef) :
      (Registry.ofRegistered ds').isStructHandle (t.rename (TypeId.move σ)) =
        (Registry.ofRegistered ds).isStructHandle t := by
    cases t with
    | handle id => exact congrArg (Option.any TypeDecl.isStruct) (hr.type_moved id.index)
    | _ => rfl
  exact (congrArg _ hresolve).trans ((hmoved _).trans hstruct)

/-- A declared type does not hold itself in the order of `ds'`. -/
theorem recursionReport_rearranged {j : Nat} {t : TypeDecl} (location : Location)
    (ht : (ds'.filterMap Declaration.type?)[j]? = some t) :
    (schemaOf facade ds').recursionReport location ⟨j⟩ = [] := by
  obtain ⟨i, rfl⟩ := hr.types_bijective.surjective j
  rw [hr.type_moved] at ht
  have hcycle : (schemaOf facade ds').cycle? ⟨σ i⟩ = (s.cycle? ⟨i⟩).map (·.map (TypeId.move σ)) :=
    (h.renumbers hr).cycle?_eq h.isNumbered ⟨i⟩
  rw [Schema.recursionReport, hcycle, h.cycle?_eq_none ht]
  rfl

/-- **Declarations in another order are accepted too.** -/
theorem rearranged : Accepted facade ds' (schemaOf facade ds') := by
  have hrenumbers := h.renumbers hr
  have hsymbols : (schemaOf facade ds').symbolConflicts = [] :=
    hrenumbers.symbolConflicts_eq_nil h.isNumbered h.symbolConflicts_eq_nil
  have hsymbol (location : Location) (item : ItemId) : (Surroundings.ofAccepted facade ds'
      (schemaOf facade ds')).symbolReport location item = [] := by
    rw [Surroundings.symbolReport, Surroundings.ofAccepted, hsymbols]
    rfl
  refine ⟨rfl, fun front d back => h.refusal?_rearranged hr, fun front d back hds => ?_⟩
  have htop := h.topReport_rearranged hr hds
  have hmem : d ∈ ds := hr.perm.mem_iff.mpr (by simp [hds])
  have htype {t : TypeDecl} (hdt : d.type? = some t) : t.contentReport (declaredTable ds') = [] ∧
      (schemaOf facade ds').recursionReport d.location
        ⟨(front.filterMap Declaration.type?).length⟩ = [] := by
    have ht : t ∈ ds.filterMap Declaration.type? := List.mem_filterMap.mpr ⟨d, hmem, hdt⟩
    refine ⟨TypeDecl.contentReport_of_renames (h.renames hr) (h.type_of_mem ht).1,
      h.recursionReport_rearranged hr (t := t) _ ?_⟩
    rw [hds, List.filterMap_append, List.filterMap_cons_some hdt,
      List.getElem?_append_right (Nat.le_refl _), Nat.sub_self, List.getElem?_cons_zero]
  cases d with
  | function f =>
    have hf : f ∈ ds.filterMap Declaration.function? := List.mem_filterMap.mpr ⟨_, hmem, rfl⟩
    have hreturns := TypeExpr.not_isRefused_of_renames (h.renames hr)
      (h.function_isSound hf).returns.not_isRefused
    simp only [Declaration.registeredReport, List.append_eq_nil_iff,
      FunctionDecl.contentReport_eq_nil_iff]
    exact ⟨htop, ⟨h.memberReport_rearranged hr hds, h.paramsReport_rearranged hr hf, hreturns⟩,
      hsymbol _ _⟩
  | struct d | enum d =>
    obtain ⟨hcontent, hrecursion⟩ := htype rfl
    simp only [Declaration.registeredReport, List.append_eq_nil_iff]
    exact ⟨htop, ⟨hcontent, hrecursion⟩, hsymbol _ _⟩

end Rearranged

end Accepted

/-! ## Schemas in another order -/

/-- **Acceptance does not depend on the order of declarations.** A list of declarations is accepted
exactly if each permutation of it is, and the two schemas have the same items, types, names and
entry points, up to the numbers of types and functions. The numbers are those of the places at which
the declarations stand. -/
theorem Schema.build_perm (hperm : ds.Perm ds') :
    ((∃ s, Schema.build facade ds = .ok s) ↔ ∃ s', Schema.build facade ds' = .ok s') ∧
      ∀ s s', Schema.build facade ds = .ok s → Schema.build facade ds' = .ok s' →
        ∃ σ τ, Rearranges σ τ ds ds' ∧ s.Renumbers (TypeId.move σ) (FunctionId.move τ) s' ∧
          (∀ id, s'.typeName? (id.move σ) = s.typeName? id) ∧
          ∀ start, (s'.entryPoints start).Perm
            ((s.entryPoints start).map (·.rename (TypeId.move σ) (FunctionId.move τ))) := by
  have hbuilt {ds ds' : List Declaration} (hperm : ds.Perm ds')
      (h : ∃ s, Schema.build facade ds = .ok s) : ∃ s', Schema.build facade ds' = .ok s' := by
    obtain ⟨s, hs⟩ := h
    obtain ⟨σ, τ, hr⟩ := exists_rearranges hperm
    have haccepted := (Schema.build_eq_ok_iff_accepted.mp hs).rearranged hr
    exact ⟨_, Schema.build_eq_ok_iff_accepted.mpr haccepted⟩
  refine ⟨⟨hbuilt hperm, hbuilt hperm.symm⟩, ?_⟩
  intro s s' hs hs'
  have h := Schema.build_eq_ok_iff_accepted.mp hs
  have h' := Schema.build_eq_ok_iff_accepted.mp hs'
  obtain ⟨σ, τ, hr⟩ := exists_rearranges hperm
  have hrenumbers : s.Renumbers (TypeId.move σ) (FunctionId.move τ) s' := by
    rw [h'.schema_eq]
    exact h.renumbers hr
  exact ⟨σ, τ, hr, hrenumbers, hrenumbers.typeName?_eq h.isNumbered,
    hrenumbers.entryPoints_perm h.isNumbered⟩

/-- The declarations of the small library are accepted from the last to the first. -/
theorem build_perm_demo_reverse :
    Demo.declarations.Perm Demo.declarations.reverse ∧
      Schema.build defaultFacade Demo.declarations = .ok Demo.schema ∧
      ∃ s', Schema.build defaultFacade Demo.declarations.reverse = .ok s' ∧
        ∃ σ τ, Demo.schema.Renumbers (TypeId.move σ) (FunctionId.move τ) s' := by
  have hperm : Demo.declarations.Perm Demo.declarations.reverse :=
    (List.reverse_perm Demo.declarations).symm
  obtain ⟨hiff, hsame⟩ := @Schema.build_perm defaultFacade _ _ hperm
  obtain ⟨s', hs'⟩ := hiff.mp ⟨_, Demo.build_declarations⟩
  obtain ⟨σ, τ, -, hrenumbers, -⟩ := hsame _ _ Demo.build_declarations hs'
  exact ⟨hperm, Demo.build_declarations, s', hs', σ, τ, hrenumbers⟩

end Boundary
