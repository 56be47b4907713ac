import Boundary.Proofs.Config
import Boundary.Proofs.Native.Items
import Boundary.Proofs.Schema.Parameters

/-!
# Names of native parameters

The parameters of an entry point are named after fields, places of a tuple or parameters. Their
names are different from each other, and from the names that bodies make up, since no declared name
starts like these. Nothing keeps them apart from the handle tables, which a parameter cannot hide.

* `fixedNames`, `IsFixed`: the names that bodies make up.
* `Schema.paramNames`, `Accepted.params_eq`: the names of the parameters of an entry point.
* `ParamsAreApart`, `params_areApart`: parameters are different from each other and from these.
* `Schema.tables`, `Hygienic`: no parameter has the name of a handle table either.
* `hygienic_iff`: when this holds; `not_hygienic_table`: that it does not always.
-/

namespace Boundary

open Native Naming

/-! ## Names in bodies -/

namespace Native

/-- The names that bodies use besides their parameters, but for those bound at some depth. -/
def fixedNames : List String := [
  handleName, "__this", "__out_status", "__result", "__value", "__error", "__writer", "__field",
  support]

/-- A name that bodies use besides their parameters. -/
def IsFixed (name : String) : Prop := name ∈ fixedNames ∨ ∃ depth, name = boundName depth

/-- All `fixedNames` and all bound names are made up. -/
theorem IsFixed.isMade {name : String} (h : IsFixed name) : IsMade name := by
  obtain h | ⟨depth, rfl⟩ := h
  · have hall : ∀ name ∈ fixedNames, IsMade name := by decide
    exact hall name h
  · exact isMade_append (by decide : IsMade "__v") (toString depth)

end Native

/-! ## Parameters -/

/-- The names that the parameters of an entry point are made from, by its purpose. -/
def Schema.paramNames (s : Schema) : EntryPurpose → List String
  | .ctor id => ((s.struct? id).map fun x => x.fields.map (·.name)).getD []
  | .variantCtor id i => (((s.enum? id).bind (·.variants[i]?)).map Variant.paramNames).getD []
  | .function id => ((s.function? id).map fun f => f.params.map (·.name)).getD []
  | .bufferFree | .free _ | .tag _ | .getter .. | .variantGetter .. => []

/-- The parameters of an entry point that are not named after anything: the handle of a receiver,
or the buffer that is released. -/
def Schema.ownParams (s : Schema) : EntryPurpose → List String
  | .bufferFree => ["buf"]
  | .ctor _ | .variantCtor .. => []
  | .free _ | .tag _ | .getter .. | .variantGetter .. => [handleName]
  | .function id => if (s.function? id).any (·.receiver ≠ .none) then [handleName] else []

namespace Accepted

variable {facade start : String} {ds : List Declaration} {s : Schema}

/-- The parameters of the entry point `e`, by name. -/
theorem params_eq (h : Accepted facade ds s) {e : EntryPoint} (he : e ∈ s.entryPoints start) :
    e.params.map (·.name) = s.ownParams e.purpose ++ s.paramNames e.purpose := by
  have hfunction {f : ExportedFunction} (hf : f ∈ s.functions) :
      (s.functionEntry start f).params.map (·.name) =
        s.ownParams (.function f.id) ++ s.paramNames (.function f.id) := by
    have hfind := h.function?_of_mem hf
    simp only [Schema.functionEntry, Schema.ownParams, Schema.paramNames, hfind, Option.any_some,
      Option.map_some, Option.getD_some, List.map_append, List.map_map]
    by_cases hreceiver : f.receiver = .none
    · simp [hreceiver, Function.comp_def]
    · simp [hreceiver, handleParam, Function.comp_def]
  obtain ⟨kind, entry, hentry, rfl⟩ := Schema.exists_entry_of_mem he
  cases hentry with
  | bufferFree | getter | tag | variantGetter | free => rfl
  | ctor hx =>
    have hfind := h.struct?_of_mem hx
    simp [ExportedStruct.ctorEntry, Schema.ownParams, Schema.paramNames, hfind]
  | variantCtor hx hv =>
    have hfind := h.enum?_of_mem hx
    simp [ExportedEnum.ctorEntry, Schema.ownParams, Schema.paramNames, hfind, hv,
      Variant.paramNames]
  | function hf | method hf => exact hfunction hf

/-- The parameters that are named after something can stand in one list. -/
theorem areParams_paramNames (h : Accepted facade ds s) {e : EntryPoint}
    (he : e ∈ s.entryPoints start) : AreParams (s.paramNames e.purpose) := by
  have hfunction {f : ExportedFunction} (hf : f ∈ s.functions) :
      AreParams (s.paramNames (.function f.id)) := by
    simpa [Schema.paramNames, h.function?_of_mem hf] using h.areParams_function hf
  obtain ⟨kind, entry, hentry, rfl⟩ := Schema.exists_entry_of_mem he
  cases hentry with
  | bufferFree | getter | tag | variantGetter | free => exact .nil
  | ctor hx =>
    have hfind := h.struct?_of_mem hx
    simpa [ExportedStruct.ctorEntry, Schema.paramNames, hfind] using h.areParams_fields hx
  | variantCtor hx hv =>
    have hfind := h.enum?_of_mem hx
    simpa [ExportedEnum.ctorEntry, Schema.paramNames, hfind, hv] using
      h.areParams_variant hx (List.mem_of_getElem? hv)
  | function hf | method hf => exact hfunction hf

end Accepted

/-! ## Hygiene -/

/-- The handle tables of a native file. -/
def Schema.tables (s : Schema) (c : Config) : List String :=
  s.typeNames.map fun t => (s.spelling c).table t.1

/-- The parameters of the entry point `e` are different from each other and from the names that
bodies make up. -/
structure ParamsAreApart (s : Schema) (e : EntryPoint) : Prop where
  /-- In the file they stand behind the others, and before the status. -/
  reads : ∃ item, itemOfLine? (Text.trimStart (signature e)) = some item ∧
    item.params.map (·.1) = s.ownParams e.purpose ++ (s.paramNames e.purpose).map nativeIdent
      ++ ["__out_status"]
  nodup : ((s.paramNames e.purpose).map nativeIdent).Nodup
  not_isFixed : ∀ name ∈ s.paramNames e.purpose, ¬ IsFixed (nativeIdent name)

/-- No parameter of an entry point of `s` has the name of another one, a name that bodies make up,
or that of a handle table. -/
def Hygienic (s : Schema) (c : Config) : Prop :=
  ∀ e ∈ s.entryPoints c.symbols, ParamsAreApart s e ∧
    ∀ name ∈ s.paramNames e.purpose, nativeIdent name ∉ s.tables c

/-- The names of all fields and parameters as declared. -/
def Schema.declaredNames (s : Schema) : List String :=
  s.structs.flatMap (fun x => x.fields.map (·.name)) ++
    s.enums.flatMap (fun x => x.variants.flatMap fun v => v.payload.fields.filterMap fun f =>
      match f.name with
      | .index _ => none
      | .named name => some name) ++
    s.functions.flatMap fun f => f.params.map (·.name)

section Tables

variable {c : Config} {ds : List Declaration} {s : Schema}

private theorem map_nativeIdent_ownParams (p : EntryPurpose) :
    (s.ownParams p).map nativeIdent = s.ownParams p := by
  cases p with
  | ctor | variantCtor => rfl
  | bufferFree => exact (by decide : ["buf"].map nativeIdent = ["buf"])
  | free | tag | getter | variantGetter =>
    exact (by decide : [handleName].map nativeIdent = [handleName])
  | function id =>
    rw [Schema.ownParams]
    split <;> decide

/-- The parameters of an entry point are different from each other and from made up names. -/
theorem params_areApart (h : c.schema ds = .ok s) {e : EntryPoint}
    (he : e ∈ s.entryPoints c.symbols) : ParamsAreApart s e := by
  obtain ⟨hfault, hbuild⟩ := Config.schema_eq_ok_iff.mp h
  have haccepted := Schema.build_eq_ok_iff_accepted.mp hbuild
  have hparams := haccepted.areParams_paramNames he
  refine ⟨⟨e.item, itemOfLine?_signature
    (haccepted.isWord_symbol (Config.isWord_symbols hfault) he)
    fun p hp => haccepted.isWord_entryParam he hp, ?_⟩, hparams.nodup_nativeIdent, ?_⟩
  · rw [EntryPoint.item, List.map_append, List.map_map, ← map_nativeIdent_ownParams,
      ← List.map_append, ← haccepted.params_eq he, List.map_map]
    rfl
  · intro name hname hfixed
    exact not_isMade_nativeIdent (hparams.usable name hname) hfixed.isMade

/-- What a handle table is called in the end. -/
def tableEnd : List Char := ['_', 'H', 'A', 'N', 'D', 'L', 'E', 'S']

theorem tableEnd_suffix {name : String} (h : name ∈ s.tables c) : tableEnd <:+ name.toList := by
  obtain ⟨t, -, rfl⟩ := List.mem_map.mp h
  have hend : "_HANDLES".toList = tableEnd := by decide
  exact hend ▸ ⟨_, String.toList_append.symm⟩

/-- A name is that of a table with the mark of a keyword exactly if it is without. -/
theorem nativeIdent_mem_tables_iff {name : String} :
    nativeIdent name ∈ s.tables c ↔ bare name ∈ s.tables c := by
  have hkeywords : ∀ word ∈ nativeKeywords,
      ¬ tableEnd <:+ word.toList ∧ ¬ tableEnd <:+ ("r#" ++ word).toList := by decide
  unfold nativeIdent
  dsimp only
  split
  · rename_i hkeyword
    have hword := hkeywords _ (List.contains_iff_mem.mp hkeyword)
    exact iff_of_false (fun hmem => hword.2 (tableEnd_suffix hmem))
      fun hmem => hword.1 (tableEnd_suffix hmem)
  · exact Iff.rfl

/-- No place of a tuple has the name of a table. -/
theorem bare_itemName_notMem_tables (n : Nat) :
    bare (FieldName.index n).paramName ∉ s.tables c := by
  intro hmem
  have hsuffix := tableEnd_suffix hmem
  rw [bare_itemName, toList_itemName] at hsuffix
  have hunderscore := hsuffix.subset (List.mem_cons_self : '_' ∈ tableEnd)
  simp at hunderscore

/-- The names of parameters are declared, but for those of the places of a tuple. -/
theorem Accepted.mem_declaredNames_or {facade start : String} (h : Accepted facade ds s)
    {e : EntryPoint} (he : e ∈ s.entryPoints start) {name : String}
    (hname : name ∈ s.paramNames e.purpose) :
    name ∈ s.declaredNames ∨ ∃ n, name = (FieldName.index n).paramName := by
  simp only [Schema.declaredNames, List.mem_append, List.mem_flatMap]
  have hfunction {f : ExportedFunction} (hf : f ∈ s.functions)
      (hname : name ∈ s.paramNames (.function f.id)) :
      ∃ f ∈ s.functions, name ∈ f.params.map (·.name) := by
    rw [Schema.paramNames, h.function?_of_mem hf] at hname
    exact ⟨f, hf, hname⟩
  obtain ⟨kind, entry, hentry, rfl⟩ := Schema.exists_entry_of_mem he
  cases hentry with
  | bufferFree | getter | tag | variantGetter | free => cases hname
  | @ctor x hx =>
    replace hname : name ∈ s.paramNames (.ctor x.id) := hname
    rw [Schema.paramNames, h.struct?_of_mem hx] at hname
    exact .inl (.inl (.inl ⟨x, hx, hname⟩))
  | @variantCtor x hx i v hv =>
    replace hname : name ∈ s.paramNames (.variantCtor x.id i) := hname
    rw [Schema.paramNames, h.enum?_of_mem hx, Option.bind_some, hv] at hname
    obtain ⟨f, hf, rfl⟩ := List.mem_map.mp hname
    cases hfield : f.name with
    | index n => exact .inr ⟨n, rfl⟩
    | named name =>
      exact .inl (.inl (.inr ⟨x, hx, v, List.mem_of_getElem? hv,
        List.mem_filterMap.mpr ⟨f, hf, by rw [hfield]; rfl⟩⟩))
  | function hf | method hf => exact .inl (.inr (hfunction hf hname))

/-- Every declared name is that of a parameter. -/
theorem Accepted.exists_entry_of_mem_declaredNames {facade start : String}
    (h : Accepted facade ds s) {name : String} (hname : name ∈ s.declaredNames) :
    ∃ e ∈ s.entryPoints start, name ∈ s.paramNames e.purpose := by
  simp only [Schema.declaredNames, List.mem_append, List.mem_flatMap] at hname
  obtain (⟨x, hx, hname⟩ | ⟨x, hx, v, hv, hname⟩) | ⟨f, hf, hname⟩ := hname
  · refine ⟨x.ctorEntry start, (Schema.Entry.ctor hx).mem_entryPoints, ?_⟩
    show name ∈ s.paramNames (.ctor x.id)
    rw [Schema.paramNames, h.struct?_of_mem hx]
    exact hname
  · obtain ⟨i, hi⟩ := List.mem_iff_getElem?.mp hv
    refine ⟨x.ctorEntry i v start, (Schema.Entry.variantCtor hx hi).mem_entryPoints, ?_⟩
    show name ∈ s.paramNames (.variantCtor x.id i)
    rw [Schema.paramNames, h.enum?_of_mem hx, Option.bind_some, hi]
    obtain ⟨f, hf, hfield⟩ := List.mem_filterMap.mp hname
    refine List.mem_map.mpr ⟨f, hf, ?_⟩
    cases hcase : f.name with
    | index n =>
      rw [hcase] at hfield
      cases hfield
    | named other =>
      rw [hcase] at hfield
      exact Option.some.inj hfield
  · have hentry : s.functionEntry start f ∈ s.entryPoints start := by
      cases howner : s.ownerName f with
      | none => exact (Schema.Entry.function hf howner).mem_entryPoints
      | some owner => exact (Schema.Entry.method hf howner).mem_entryPoints
    refine ⟨_, hentry, ?_⟩
    show name ∈ s.paramNames (.function f.id)
    rw [Schema.paramNames, h.function?_of_mem hf]
    exact hname

/-- **No parameter of a native file hides anything**, exactly if no field or parameter has the name
of a handle table. From the other names it always differs. -/
theorem hygienic_iff (h : c.schema ds = .ok s) :
    (∀ e ∈ s.entryPoints c.symbols, ParamsAreApart s e) ∧
      (Hygienic s c ↔ ∀ name ∈ s.declaredNames, bare name ∉ s.tables c) := by
  have haccepted := Schema.build_eq_ok_iff_accepted.mp (Config.schema_eq_ok_iff.mp h).2
  refine ⟨fun e he => params_areApart h he, ?_, ?_⟩
  · intro hhygienic name hname
    obtain ⟨e, he, hparam⟩ := haccepted.exists_entry_of_mem_declaredNames hname
    exact fun htable =>
      (hhygienic e he).2 name hparam (nativeIdent_mem_tables_iff.mpr htable)
  · intro hdeclared e he
    refine ⟨params_areApart h he, ?_⟩
    intro name hname htable
    rw [nativeIdent_mem_tables_iff] at htable
    obtain hmem | ⟨n, rfl⟩ := haccepted.mem_declaredNames_or he hname
    · exact hdeclared name hmem htable
    · exact bare_itemName_notMem_tables n htable

/-- The native file of the small library. -/
theorem hygienic_iff_demo :
    ({ libraryName := "demo" } : Config).schema Demo.declarations = .ok Demo.schema ∧
      Hygienic Demo.schema { libraryName := "demo" } :=
  ⟨Demo.schema_eq_ok, (hygienic_iff Demo.schema_eq_ok).2.mpr (by decide +kernel)⟩

/-- A function with a parameter that is named like the table of a struct. -/
def hidingDeclarations : List Declaration := [
  .struct ⟨"Person", [], Demo.at_ 1⟩,
  Demo.functionDecl "count" [⟨"PERSON_HANDLES", Demo.named "u32", false⟩] .unit 2]

/-- It is accepted, and its entry point has a parameter that hides the table. -/
theorem not_hygienic_table :
    ∃ s, ({} : Config).schema hidingDeclarations = .ok s ∧ ¬ Hygienic s {} := by
  have hschema : ({} : Config).schema hidingDeclarations =
      .ok (Surroundings.ofDeclarations defaultFacade hidingDeclarations).schema :=
    Config.schema_eq_ok_iff.mpr
      ⟨by decide +kernel, Schema.build_eq_ok_iff.mpr ⟨by decide +kernel, rfl⟩⟩
  refine ⟨_, hschema, ?_⟩
  have hmem : ∃ e ∈
      (Surroundings.ofDeclarations defaultFacade hidingDeclarations).schema.entryPoints
        ({} : Config).symbols, ∃ name ∈ (Surroundings.ofDeclarations defaultFacade
        hidingDeclarations).schema.paramNames e.purpose, nativeIdent name ∈
          (Surroundings.ofDeclarations defaultFacade hidingDeclarations).schema.tables {} := by
    decide +kernel
  obtain ⟨e, he, name, hname, htable⟩ := hmem
  exact fun hhygienic => (hhygienic e he).2 name hname htable

end Tables

end Boundary
