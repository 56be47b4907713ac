import Mathlib.Data.List.Basic
import Boundary.Schema.Build
import Boundary.Proofs.Resolution

/-!
# Accepted declarations

A list of declarations is accepted if the report about it is empty. Then nothing has been left out
on the way, since whatever is left out is reported, and every check has found nothing.

* `withEarlier_flatMap_eq_nil_iff`: a report about the items of a list is empty exactly if it is
  empty about each item.
* `fieldsReport_eq_nil_iff` and its siblings: what an empty report says about a part.
* `Accepted`: an accepted list of declarations, with its schema.
* `Schema.build_eq_ok_iff_accepted`: exactly those are built.
* `Accepted.struct_fields`, `Accepted.enum_variants`, `Accepted.function_params` and the other
  theorems in `Accepted`: what holds of the parts of accepted declarations.
-/

namespace Boundary

/-! ## Reports about lists -/

theorem withEarlier_flatMap_eq_nil_iff {α β : Type} {f : List α × α → List β} {as : List α} :
    (withEarlier [] as).flatMap f = [] ↔
      ∀ front a back, as = front ++ a :: back → f (front, a) = [] := by
  rw [List.flatMap_eq_nil_iff]
  constructor
  · intro h front a back has
    exact h _ (mem_withEarlier_iff.mpr ⟨front, back, has, rfl⟩)
  · rintro h ⟨before, a⟩ hmem
    obtain ⟨front, back, has, hbefore⟩ := mem_withEarlier_iff.mp hmem
    rw [hbefore]
    exact h front a back has

theorem isUsableName_iff {name : String} :
    isUsableName name = true ↔ identifierProblem? name = none := by
  simp [isUsableName]

theorem namedReport_eq_nil_iff {location : Location} {subject name : String} {rest : Report} :
    namedReport location subject name rest = [] ↔ isUsableName name = true ∧ rest = [] := by
  rw [isUsableName_iff]
  unfold namedReport
  split
  · simp_all
  · simp_all

theorem conflictReport_eq_nil_iff {location : Location} {subject : String}
    {problem : Option Problem} : conflictReport location subject problem = [] ↔ problem = none := by
  cases problem <;> simp [conflictReport]

theorem typeReport_eq_nil_iff {location : Location} {subject : String} {t : TypeRef} :
    typeReport location subject t = [] ↔ ¬ t.IsRefused := by
  cases t <;> simp [typeReport, TypeRef.IsRefused]

/-! ## Reports about parts -/

variable {table : TypeTable}

theorem fieldsReport_eq_nil_iff {scope : Scope} {location : Location} {owner : String}
    {fields : List FieldDecl} :
    fieldsReport table scope location owner fields = [] ↔
      ∀ (front : List FieldDecl) (f : FieldDecl) (back : List FieldDecl),
        fields = front ++ f :: back →
        isUsableName f.name = true ∧
        scope.conflict? (front.filterMap fun e => memberClaim? e.name)
          ⟨Naming.pascal f.name, f.name⟩ = none ∧
        ¬ (f.type.resolve table .field).IsRefused := by
  simp only [fieldsReport, withEarlier_flatMap_eq_nil_iff, namedReport_eq_nil_iff,
    List.append_eq_nil_iff, conflictReport_eq_nil_iff, typeReport_eq_nil_iff]

theorem PayloadDecl.report_tuple_eq_nil_iff {location : Location} {variant subject : String}
    {elems : List TypeExpr} :
    (PayloadDecl.tuple elems).report table location variant subject = [] ↔
      ∀ t ∈ elems, ¬ (t.resolve table .field).IsRefused := by
  simp only [PayloadDecl.report, List.flatMap_eq_nil_iff, typeReport_eq_nil_iff]
  constructor
  · intro h t ht
    obtain ⟨i, hi⟩ := List.mem_iff_getElem?.mp ht
    exact h (t, i) (List.mk_mem_zipIdx_iff_getElem?.mpr hi)
  · rintro h ⟨t, i⟩ hti
    exact h t (List.fst_mem_of_mem_zipIdx hti)

theorem EnumDecl.variantsReport_eq_nil_iff {d : EnumDecl} :
    d.variantsReport table = [] ↔
      ∀ (front : List VariantDecl) (v : VariantDecl) (back : List VariantDecl),
        d.variants = front ++ v :: back →
        isUsableName v.name = true ∧
        (TypeDecl.enum d).scope.conflict? (front.filterMap fun e => memberClaim? e.name)
          ⟨Naming.pascal v.name, v.name⟩ = none ∧
        v.payload.report table d.location v.name s!"{d.name}::{v.name}" = [] := by
  simp only [EnumDecl.variantsReport, withEarlier_flatMap_eq_nil_iff, namedReport_eq_nil_iff,
    List.append_eq_nil_iff, conflictReport_eq_nil_iff]

theorem TypeDecl.contentReport_enum_eq_nil_iff {d : EnumDecl} :
    (TypeDecl.enum d).contentReport table = [] ↔
      d.variants ≠ [] ∧ d.variantsReport table = [] := by
  simp only [TypeDecl.contentReport, List.append_eq_nil_iff]
  cases d.variants <;> simp

variable {s : Surroundings}

theorem FunctionDecl.exists_lookup_of_memberReport_eq_nil {earlier : List FunctionDecl}
    {f : FunctionDecl} {r : ReceiverDecl} (hr : f.receiver = some r)
    (h : f.memberReport s earlier = []) :
    ∃ id, s.table.lookup (Naming.lastSegment r.typeName) = some id := by
  unfold FunctionDecl.memberReport at h
  rw [hr] at h
  dsimp only at h
  split at h
  · cases h
  · exact ⟨_, ‹_›⟩

theorem ParamDecl.transferReport_eq_nil_iff {location : Location} {subject : String}
    {p : ParamDecl} :
    p.transferReport s location subject = [] ↔
      (p.type.paramMode p.transfer = .transfer →
        s.registry.isStructHandle (p.type.resolve s.table .param) = true) ∧
      (p.type.paramMode p.transfer = .borrowed → p.transfer = false) := by
  unfold ParamDecl.transferReport
  split
  · simp_all
  · simp_all
  · simp_all

theorem FunctionDecl.paramsReport_eq_nil_iff {f : FunctionDecl} :
    f.paramsReport s = [] ↔
      ∀ (front : List ParamDecl) (p : ParamDecl) (back : List ParamDecl),
        f.params = front ++ p :: back →
        isUsableName p.name = true ∧
        Scope.params.conflict? (front.filterMap paramClaim?)
          ⟨Naming.camel p.name, p.name⟩ = none ∧
        ¬ (p.type.resolve s.table .param).IsRefused ∧
        p.transferReport s f.location s!"{f.subject}({p.name})" = [] := by
  simp only [FunctionDecl.paramsReport, withEarlier_flatMap_eq_nil_iff, namedReport_eq_nil_iff,
    List.append_eq_nil_iff, conflictReport_eq_nil_iff, typeReport_eq_nil_iff, and_assoc]

theorem FunctionDecl.contentReport_eq_nil_iff {earlier : List FunctionDecl} {f : FunctionDecl} :
    f.contentReport s earlier = [] ↔
      f.memberReport s earlier = [] ∧ f.paramsReport s = [] ∧
        ¬ (f.returns.resolve s.table .return_).IsRefused := by
  simp only [FunctionDecl.contentReport, List.append_eq_nil_iff, typeReport_eq_nil_iff, and_assoc]

/-! ## Sound parts -/

theorem TypeExpr.admissible_resolve {position : TypePosition} {e : TypeExpr}
    (h : ¬ (e.resolve table position).IsRefused) : (e.resolve table position).Admissible table :=
  (e.isRefused_or_admissible_resolve position).resolve_left h

/-- A field of a usable name whose type `table` resolves, and which can cross the boundary. -/
def FieldDecl.IsSound (table : TypeTable) (f : FieldDecl) : Prop :=
  isUsableName f.name = true ∧ (f.type.resolve table .field).Admissible table

/-- A payload of which every part can cross the boundary. -/
def PayloadDecl.IsSound (table : TypeTable) : PayloadDecl → Prop
  | .unit => True
  | .tuple elems => ∀ t ∈ elems, (t.resolve table .field).Admissible table
  | .struct fields => ∀ f ∈ fields, f.IsSound table

theorem isSound_of_fieldsReport_eq_nil {scope : Scope} {location : Location} {owner : String}
    {fields : List FieldDecl} (h : fieldsReport table scope location owner fields = []) :
    ∀ f ∈ fields, f.IsSound table := by
  intro f hf
  obtain ⟨front, back, hfields⟩ := List.append_of_mem hf
  obtain ⟨hname, -, htype⟩ := fieldsReport_eq_nil_iff.mp h front f back hfields
  exact ⟨hname, TypeExpr.admissible_resolve htype⟩

theorem PayloadDecl.isSound_of_report_eq_nil {location : Location} {variant subject : String}
    {p : PayloadDecl} (h : p.report table location variant subject = []) : p.IsSound table := by
  cases p with
  | unit => trivial
  | tuple elems =>
    intro t ht
    exact TypeExpr.admissible_resolve (PayloadDecl.report_tuple_eq_nil_iff.mp h t ht)
  | struct fields => exact isSound_of_fieldsReport_eq_nil h

theorem EnumDecl.isSound_of_variantsReport_eq_nil {d : EnumDecl} (h : d.variantsReport table = []) :
    ∀ v ∈ d.variants, isUsableName v.name = true ∧ v.payload.IsSound table := by
  intro v hv
  obtain ⟨front, back, hvariants⟩ := List.append_of_mem hv
  obtain ⟨hname, -, hpayload⟩ := EnumDecl.variantsReport_eq_nil_iff.mp h front v back hvariants
  exact ⟨hname, PayloadDecl.isSound_of_report_eq_nil hpayload⟩

/-! ## Accepted lists -/

theorem Declaration.report_eq_nil_iff {earlier : List Declaration} {d : Declaration} :
    d.report s earlier = [] ↔
      d.refusal? earlier = none ∧ d.registeredReport s (registered earlier) = [] := by
  unfold Declaration.report
  split
  · simp_all
  · simp_all

/-- `registered` keeps all declarations of a list if none is refused. -/
theorem registered_eq_self {ds : List Declaration}
    (h : ∀ front d back, ds = front ++ d :: back → d.refusal? front = none) :
    registered ds = ds := by
  conv_rhs => rw [← map_snd_withEarlier [] ds]
  unfold registered
  rw [List.filterMap_eq_map_iff_forall_eq_some]
  rintro ⟨before, d⟩ hmem
  obtain ⟨front, back, hds, hbefore⟩ := mem_withEarlier_iff.mp hmem
  rw [hbefore]
  simp [h front d back hds]

/-- What the declarations of the accepted list `ds` have in common. -/
def Surroundings.ofAccepted (facade : String) (ds : List Declaration) (s : Schema) : Surroundings :=
  ⟨facade, .ofRegistered ds, s, s.symbolConflicts⟩

/-- An accepted list of declarations `ds`, with its schema `s`. -/
structure Accepted (facade : String) (ds : List Declaration) (s : Schema) : Prop where
  /-- The schema is made of all declarations. -/
  schema_eq : s = (Registry.ofRegistered ds).schema (grantedNames facade (ds.flatMap (·.topClaims)))
  /-- No declaration is refused. -/
  refusal?_eq_none : ∀ front d back, ds = front ++ d :: back → d.refusal? front = none
  /-- Nothing is wrong with any declaration. -/
  registeredReport_eq_nil : ∀ front d back, ds = front ++ d :: back →
    d.registeredReport (.ofAccepted facade ds s) front = []

/-- **The accepted lists are exactly those that `Schema.build` makes a schema of.** -/
theorem Schema.build_eq_ok_iff_accepted {facade : String} {ds : List Declaration} {s : Schema} :
    Schema.build facade ds = .ok s ↔ Accepted facade ds s := by
  rw [Schema.build_eq_ok_iff]
  simp only [Schema.report, withEarlier_flatMap_eq_nil_iff, Declaration.report_eq_nil_iff]
  -- Without a refusal the declarations that take part are the declarations, in each prefix too.
  have hregistered (h : ∀ front d back, ds = front ++ d :: back → d.refusal? front = none) :
      registered ds = ds ∧
        ∀ front d back, ds = front ++ d :: back → registered front = front := by
    refine ⟨registered_eq_self h, ?_⟩
    rintro front d back rfl
    refine registered_eq_self ?_
    rintro front' d' back' rfl
    exact h front' d' (back' ++ d :: back) (by simp)
  have hsurroundings (h : registered ds = ds) : Surroundings.ofDeclarations facade ds =
      .ofAccepted facade ds (Surroundings.ofDeclarations facade ds).schema := by
    simp only [Surroundings.ofDeclarations, Surroundings.ofAccepted, Registry.ofDeclarations, h]
  constructor
  · rintro ⟨hreport, rfl⟩
    obtain ⟨hds, hfront⟩ := hregistered fun front d back h => (hreport front d back h).1
    refine ⟨?_, fun front d back h => (hreport front d back h).1, fun front d back h => ?_⟩
    · simp only [Surroundings.ofDeclarations, Registry.ofDeclarations, hds]
    · rw [← hsurroundings hds, ← hfront front d back h]
      exact (hreport front d back h).2
  · rintro ⟨rfl, hrefusal, hreport⟩
    obtain ⟨hds, hfront⟩ := hregistered hrefusal
    have hschema : (Surroundings.ofDeclarations facade ds).schema =
        (Registry.ofRegistered ds).schema (grantedNames facade (ds.flatMap (·.topClaims))) := by
      simp only [Surroundings.ofDeclarations, Registry.ofDeclarations, hds]
    refine ⟨fun front d back h => ⟨hrefusal front d back h, ?_⟩, hschema.symm⟩
    rw [hsurroundings hds, hfront front d back h, hschema]
    exact hreport front d back h

/-- `Schema.build` rejects a list exactly with the report about it. -/
theorem Schema.build_eq_error_iff {facade : String} {ds : List Declaration} {r : Report} :
    Schema.build facade ds = .error r ↔ Schema.report facade ds = r ∧ r ≠ [] := by
  unfold Schema.build
  split
  · rename_i h
    simp [h, eq_comm]
  · rename_i h
    rw [h, Except.error.injEq]
    constructor
    · rintro rfl
      simp
    · exact fun heq => heq.1

namespace Accepted

variable {facade : String} {ds : List Declaration} {s : Schema}

/-- The content of a declared type is sound, and its name has no fixed meaning. -/
theorem type_of_mem (h : Accepted facade ds s) {t : TypeDecl}
    (ht : t ∈ (Registry.ofRegistered ds).types) :
    t.contentReport (Registry.ofRegistered ds).table = [] ∧ isBuiltinTypeName t.name = false := by
  obtain ⟨d, hd, hdt⟩ := List.mem_filterMap.mp ht
  obtain ⟨front, back, hds⟩ := List.append_of_mem hd
  have hreport := h.registeredReport_eq_nil front d back hds
  have hrefusal := h.refusal?_eq_none front d back hds
  cases d with
  | function f => cases hdt
  | struct d | enum d =>
    cases hdt
    simp only [Declaration.registeredReport, List.append_eq_nil_iff] at hreport
    refine ⟨hreport.2.1.1, ?_⟩
    unfold Declaration.refusal? at hrefusal
    split at hrefusal
    · cases hrefusal
    · dsimp only at hrefusal
      split at hrefusal
      · cases hrefusal
      · exact eq_false_of_ne_true ‹_›

/-- The content of a declared function is sound, for some functions before it. -/
theorem function_of_mem (h : Accepted facade ds s) {f : FunctionDecl}
    (hf : f ∈ (Registry.ofRegistered ds).functions) :
    ∃ earlier, f.contentReport (.ofAccepted facade ds s) earlier = [] := by
  obtain ⟨d, hd, hdf⟩ := List.mem_filterMap.mp hf
  obtain ⟨front, back, hds⟩ := List.append_of_mem hd
  have hreport := h.registeredReport_eq_nil front d back hds
  cases d with
  | function g =>
    cases hdf
    simp only [Declaration.registeredReport, List.append_eq_nil_iff] at hreport
    exact ⟨_, hreport.2.1⟩
  | _ => cases hdf

/-- The fields of a declared struct are sound. -/
theorem struct_fields (h : Accepted facade ds s) {d : StructDecl}
    (hd : .struct d ∈ (Registry.ofRegistered ds).types) :
    ∀ f ∈ d.fields, f.IsSound (Registry.ofRegistered ds).table :=
  isSound_of_fieldsReport_eq_nil (h.type_of_mem hd).1

/-- A declared enum has variants, and they are sound. -/
theorem enum_variants (h : Accepted facade ds s) {d : EnumDecl}
    (hd : .enum d ∈ (Registry.ofRegistered ds).types) :
    d.variants ≠ [] ∧ ∀ v ∈ d.variants, isUsableName v.name = true ∧
      v.payload.IsSound (Registry.ofRegistered ds).table := by
  obtain ⟨hne, hvariants⟩ := TypeDecl.contentReport_enum_eq_nil_iff.mp (h.type_of_mem hd).1
  exact ⟨hne, EnumDecl.isSound_of_variantsReport_eq_nil hvariants⟩

/-- The receiver of a declared function is an exported type. -/
theorem function_receiver (h : Accepted facade ds s) {f : FunctionDecl}
    (hf : f ∈ (Registry.ofRegistered ds).functions) {r : ReceiverDecl} (hr : f.receiver = some r) :
    ∃ id, (Registry.ofRegistered ds).table.lookup (Naming.lastSegment r.typeName) = some id := by
  obtain ⟨earlier, hcontent⟩ := h.function_of_mem hf
  obtain ⟨hmember, -, -⟩ := FunctionDecl.contentReport_eq_nil_iff.mp hcontent
  exact FunctionDecl.exists_lookup_of_memberReport_eq_nil hr hmember

/-- A parameter of a declared function has a usable name and a type that can cross the boundary,
and what it hands over is what it may hand over. -/
theorem function_params (h : Accepted facade ds s) {f : FunctionDecl}
    (hf : f ∈ (Registry.ofRegistered ds).functions) :
    ∀ p ∈ f.params, isUsableName p.name = true ∧
      (p.type.resolve (Registry.ofRegistered ds).table .param).Admissible
        (Registry.ofRegistered ds).table ∧
      (p.type.paramMode p.transfer = .transfer → (Registry.ofRegistered ds).isStructHandle
        (p.type.resolve (Registry.ofRegistered ds).table .param) = true) ∧
      (p.type.paramMode p.transfer = .borrowed → p.transfer = false) := by
  intro p hp
  obtain ⟨earlier, hcontent⟩ := h.function_of_mem hf
  obtain ⟨-, hparams, -⟩ := FunctionDecl.contentReport_eq_nil_iff.mp hcontent
  obtain ⟨front, back, hfront⟩ := List.append_of_mem hp
  obtain ⟨hname, -, htype, htransfer⟩ :=
    FunctionDecl.paramsReport_eq_nil_iff.mp hparams front p back hfront
  exact ⟨hname, TypeExpr.admissible_resolve htype, ParamDecl.transferReport_eq_nil_iff.mp htransfer⟩

/-- The type that a declared function returns can cross the boundary. -/
theorem function_returns (h : Accepted facade ds s) {f : FunctionDecl}
    (hf : f ∈ (Registry.ofRegistered ds).functions) :
    (f.returns.resolve (Registry.ofRegistered ds).table .return_).Admissible
      (Registry.ofRegistered ds).table := by
  obtain ⟨earlier, hcontent⟩ := h.function_of_mem hf
  obtain ⟨-, -, hreturns⟩ := FunctionDecl.contentReport_eq_nil_iff.mp hcontent
  exact TypeExpr.admissible_resolve hreturns

end Accepted

end Boundary
