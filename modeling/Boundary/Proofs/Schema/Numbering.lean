import Boundary.Proofs.Schema.Renaming
import Boundary.Proofs.Schema.Symbols

/-!
# Schemas that differ in their numbers

Two schemas have the same items, in another order and with other numbers. Then everything that is
looked up by numbers is the same in both, and so is everything that is checked about a whole schema.

* `Frontier.search_rename`: the search for a way back does not depend on numbers.
* `Schema.Renumbers`: the second schema has the items of the first one with other numbers.
* `Schema.Renumbers.struct?_eq`, `Schema.Renumbers.typeName?_eq`, `Schema.Renumbers.cycle?_eq`: what
  is looked up.
* `Schema.Renumbers.entryPoints_perm`: the entry points are the same up to their purposes.
* `Schema.Renumbers.symbolConflicts_eq_nil`: the comparison of symbols has the same outcome.
-/

namespace Boundary

/-! ## The search for a way back -/

section Search

variable {σ : TypeId → TypeId} {start : TypeId} {step step' : TypeId → List TypeId}

/-- The frontier with its numbers changed. -/
def Frontier.rename (σ : TypeId → TypeId) (f : Frontier) : Frontier :=
  ⟨f.visited.map σ, f.ways.map (·.map σ)⟩

/-- The outcome of a step of the search with its numbers changed. -/
def renameOutcome (σ : TypeId → TypeId) :
    Except (List TypeId) Frontier → Except (List TypeId) Frontier
  | .ok f => .ok (f.rename σ)
  | .error way => .error (way.map σ)

theorem Frontier.reach_rename (hσ : σ.Injective) (f : Frontier) (way : List TypeId)
    (next : TypeId) : (f.rename σ).reach (way.map σ) (σ next) = (f.reach way next).rename σ := by
  unfold Frontier.reach
  have hvisited : (f.rename σ).visited.contains (σ next) = f.visited.contains next := by
    rw [Bool.eq_iff_iff, List.contains_iff_mem, List.contains_iff_mem]
    exact List.mem_map_of_injective hσ
  rw [hvisited]
  split
  · rfl
  · simp [Frontier.rename]

theorem Frontier.follow_rename (hσ : σ.Injective) (way : List TypeId) (f : Frontier)
    (nexts : List TypeId) : (f.rename σ).follow (σ start) (way.map σ) (nexts.map σ) =
      renameOutcome σ (f.follow start way nexts) := by
  induction nexts generalizing f with
  | nil => rfl
  | cons next rest ih =>
    rw [List.map_cons, Frontier.follow, Frontier.follow]
    by_cases hback : next = start
    · rw [if_pos hback, if_pos (congrArg σ hback)]
      rfl
    · rw [if_neg hback, if_neg (hσ.ne hback), Frontier.reach_rename hσ, ih]

theorem Frontier.followAll_rename (hσ : σ.Injective)
    (hstep : ∀ id, step' (σ id) = (step id).map σ) (f : Frontier) (ways : List (List TypeId)) :
    (f.rename σ).followAll (σ start) step' (ways.map (·.map σ)) =
      renameOutcome σ (f.followAll start step ways) := by
  induction ways generalizing f with
  | nil => rfl
  | cons way rest ih =>
    have hnexts : (((way.map σ).head?.map step').getD []) =
        ((way.head?.map step).getD []).map σ := by
      cases way with
      | nil => rfl
      | cons id _ => exact hstep id
    rw [List.map_cons, Frontier.followAll, Frontier.followAll, hnexts, Frontier.follow_rename hσ]
    cases f.follow start way ((way.head?.map step).getD []) with
    | error way => rfl
    | ok g => exact ih g

/-- **The search for a way back does not depend on numbers.** -/
theorem Frontier.search_rename (hσ : σ.Injective) (hstep : ∀ id, step' (σ id) = (step id).map σ)
    (bound : Nat) (f : Frontier) : (f.rename σ).search (σ start) step' bound =
      (f.search start step bound).map (·.map σ) := by
  induction bound generalizing f with
  | zero => rfl
  | succ bound ih =>
    have hlevel : Frontier.followAll (σ start) step' ⟨(f.rename σ).visited, []⟩ (f.rename σ).ways =
        renameOutcome σ (Frontier.followAll start step ⟨f.visited, []⟩ f.ways) :=
      Frontier.followAll_rename hσ hstep ⟨f.visited, []⟩ f.ways
    rw [Frontier.search, Frontier.search, hlevel]
    cases Frontier.followAll start step ⟨f.visited, []⟩ f.ways with
    | error way => simp [renameOutcome]
    | ok g => exact ih g

end Search

/-! ## Items by number -/

/-- What is found by its key is found in any order, if no two items have the same key. -/
theorem find?_key_of_perm {α κ : Type} [DecidableEq κ] {key : α → κ} {as bs : List α}
    (h : as.Perm bs) (hnodup : (as.map key).Nodup) (k : κ) :
    bs.find? (fun b => key b = k) = as.find? (fun a => key a = k) := by
  cases hfind : as.find? (fun a => key a = k) with
  | none =>
    rw [List.find?_eq_none] at hfind ⊢
    exact fun b hb => hfind b (h.mem_iff.mpr hb)
  | some a =>
    obtain rfl : key a = k := by simpa using List.find?_some hfind
    exact find?_key_eq_some ((h.map key).nodup_iff.mp hnodup)
      (h.mem_iff.mp (List.mem_of_find?_eq_some hfind))

/-- What is found by its key is found in any order, with its key changed. -/
theorem find?_key_of_perm_map {α κ : Type} [DecidableEq κ] (key : α → κ) {f : α → α} {σ : κ → κ}
    (hσ : σ.Injective) (hf : ∀ a, key (f a) = σ (key a)) {as bs : List α}
    (h : bs.Perm (as.map f)) (hnodup : (as.map key).Nodup) (k : κ) :
    bs.find? (fun b => key b = σ k) = (as.find? (fun a => key a = k)).map f := by
  have hkeys : (as.map f).map key = (as.map key).map σ := by
    rw [List.map_map, List.map_map]
    exact List.map_congr_left fun a _ => hf a
  have hnodup' : ((as.map f).map key).Nodup := hkeys ▸ hnodup.map hσ
  rw [find?_key_of_perm h.symm hnodup', List.find?_map]
  congr 2
  funext a
  simp only [Function.comp_apply, hf, hσ.eq_iff]

/-! ## Renumbered schemas -/

/-- A schema that has the items of another one, in any order and with other numbers. -/
structure Schema.Renumbers (σ : TypeId → TypeId) (τ : FunctionId → FunctionId) (s s' : Schema) :
    Prop where
  types_injective : σ.Injective
  functions_injective : τ.Injective
  structs : s'.structs.Perm (s.structs.map (·.rename σ))
  enums : s'.enums.Perm (s.enums.map (·.rename σ))
  functions : s'.functions.Perm (s.functions.map (·.rename σ τ))
  names : s'.names.Perm s.names

/-- No two items of a schema have the same number. -/
structure Schema.IsNumbered (s : Schema) : Prop where
  structs : (s.structs.map (·.id)).Nodup
  enums : (s.enums.map (·.id)).Nodup
  functions : (s.functions.map (·.id)).Nodup

theorem Accepted.isNumbered {facade : String} {ds : List Declaration} {s : Schema}
    (h : Accepted facade ds s) : s.IsNumbered := by
  obtain ⟨hstructs, henums, -⟩ := List.nodup_append.mp h.nodup_typeIds
  exact ⟨hstructs, henums, h.nodup_functionIds⟩

namespace Schema.Renumbers

variable {σ : TypeId → TypeId} {τ : FunctionId → FunctionId} {s s' : Schema}

section Lookups

variable (h : s.Renumbers σ τ s') (hs : s.IsNumbered)

include h hs

theorem struct?_eq (id : TypeId) : s'.struct? (σ id) = (s.struct? id).map (·.rename σ) :=
  find?_key_of_perm_map ExportedStruct.id h.types_injective (fun _ => rfl) h.structs hs.structs id

theorem enum?_eq (id : TypeId) : s'.enum? (σ id) = (s.enum? id).map (·.rename σ) :=
  find?_key_of_perm_map ExportedEnum.id h.types_injective (fun _ => rfl) h.enums hs.enums id

private theorem function?_eq (id : FunctionId) :
    s'.function? (τ id) = (s.function? id).map (·.rename σ τ) :=
  find?_key_of_perm_map ExportedFunction.id h.functions_injective (fun _ => rfl) h.functions
    hs.functions id

theorem typeName?_eq (id : TypeId) : s'.typeName? (σ id) = s.typeName? id := by
  rw [Schema.typeName?, Schema.typeName?, h.struct?_eq hs, h.enum?_eq hs]
  cases s.struct? id with
  | some x => rfl
  | none => cases s.enum? id <;> rfl

theorem typeName_eq (id : TypeId) : s'.typeName (σ id) = s.typeName id := by
  rw [Schema.typeName, h.typeName?_eq hs, Schema.typeName]

/-! ### Types that hold themselves -/

private theorem mentions_eq (id : TypeId) : s'.mentions (σ id) = (s.mentions id).map σ := by
  have hstruct (x : ExportedStruct) : (x.rename σ).mentions = x.mentions.map σ := by
    simp only [ExportedStruct.mentions, ExportedStruct.rename, List.flatMap_map, List.map_flatMap,
      Field.rename, TypeRef.handles_rename]
  have henum (x : ExportedEnum) : (x.rename σ).mentions = x.mentions.map σ := by
    simp only [ExportedEnum.mentions, ExportedEnum.rename, List.flatMap_map, List.map_flatMap,
      Variant.rename, Payload.fields_rename, TypeRef.handles_rename]
  rw [Schema.mentions, Schema.mentions, h.struct?_eq hs, h.enum?_eq hs, List.map_append]
  cases s.struct? id <;> cases s.enum? id <;> simp [hstruct, henum]

/-- A type holds itself in both schemas or in neither. -/
theorem cycle?_eq (id : TypeId) : s'.cycle? (σ id) = (s.cycle? id).map (·.map σ) := by
  have hbound : s'.structs.length + s'.enums.length = s.structs.length + s.enums.length := by
    rw [h.structs.length_eq, h.enums.length_eq, List.length_map, List.length_map]
  rw [Schema.cycle?, hbound]
  exact Frontier.search_rename h.types_injective (h.mentions_eq hs) _ ⟨[], [[id]]⟩

/-! ### Entry points -/

theorem ownerName_eq (f : ExportedFunction) : s'.ownerName (f.rename σ τ) = s.ownerName f := by
  rw [Schema.ownerName, Schema.ownerName, ExportedFunction.rename, Receiver.typeId?_rename,
    Option.map_map]
  exact Option.map_congr fun id _ => h.typeName_eq hs id

private theorem functionEntry_eq (start : String) (f : ExportedFunction) :
    s'.functionEntry start (f.rename σ τ) = (s.functionEntry start f).rename σ τ := by
  simp only [Schema.functionEntry, Schema.functionSymbol, h.ownerName_eq hs, EntryPoint.rename,
    EntryPurpose.rename]
  simp only [ExportedFunction.rename, Receiver.rename_eq_none_iff, List.map_map, Param.rename,
    Function.comp_def, FlatType.of_rename]

/-- **The entry points are the same**, up to the numbers in their purposes. -/
theorem entryPoints_perm (start : String) :
    (s'.entryPoints start).Perm ((s.entryPoints start).map (·.rename σ τ)) := by
  have hstructs : (s'.structs.flatMap (·.entryPoints start)).Perm
      ((s.structs.flatMap (·.entryPoints start)).map (·.rename σ τ)) := by
    refine (h.structs.flatMap_right _).trans (.of_eq ?_)
    simp only [List.flatMap_map, List.map_flatMap, ExportedStruct.entryPoints_rename (τ := τ)]
  have henums : (s'.enums.flatMap (·.entryPoints start)).Perm
      ((s.enums.flatMap (·.entryPoints start)).map (·.rename σ τ)) := by
    refine (h.enums.flatMap_right _).trans (.of_eq ?_)
    simp only [List.flatMap_map, List.map_flatMap, ExportedEnum.entryPoints_rename (τ := τ)]
  have hfunctions : (s'.functions.map (s'.functionEntry start)).Perm
      ((s.functions.map (s.functionEntry start)).map (·.rename σ τ)) := by
    refine (h.functions.map _).trans (.of_eq ?_)
    simp only [List.map_map, Function.comp_def, h.functionEntry_eq hs]
  rw [Schema.entryPoints, Schema.entryPoints, List.map_append, List.map_append, List.map_cons]
  exact ((hstructs.cons _).append henums).append hfunctions

/-- An entry point is about the same part of the same item. -/
theorem entrySubject_eq (p : EntryPurpose) :
    s'.entrySubject (p.rename σ τ) = s.entrySubject p := by
  cases p with
  | bufferFree => rfl
  | ctor id | free id | tag id => exact h.typeName_eq hs id
  | getter id field =>
    simp only [EntryPurpose.rename, Schema.entrySubject, h.struct?_eq hs, h.typeName_eq hs]
    cases s.struct? id with
    | none => rfl
    | some x =>
      simp only [Option.map_some, Option.bind_some, ExportedStruct.rename, List.getElem?_map]
      cases x.fields[field]? <;> rfl
  | variantCtor id variant | variantGetter id variant field =>
    simp only [EntryPurpose.rename, Schema.entrySubject, h.enum?_eq hs, h.typeName_eq hs]
    cases s.enum? id with
    | none => rfl
    | some x =>
      simp only [Option.map_some, Option.bind_some, ExportedEnum.rename, List.getElem?_map]
      cases x.variants[variant]? <;> rfl
  | function id =>
    simp only [EntryPurpose.rename, Schema.entrySubject, h.function?_eq hs]
    cases s.function? id with
    | none => rfl
    | some f => exact congrArg (qualified · f.name) (h.ownerName_eq hs f)

/-- A symbol is used for the same parts. -/
theorem exists_symbolUse {u' : SymbolUse} (hu' : u' ∈ s'.symbolUses) :
    ∃ u ∈ s.symbolUses, u.symbol = u'.symbol ∧ u.subject = u'.subject := by
  obtain ⟨e', he', hitem'⟩ := List.mem_filterMap.mp hu'
  obtain ⟨item', hpurpose', rfl⟩ := Option.map_eq_some_iff.mp hitem'
  obtain ⟨e, he, rfl⟩ := List.mem_map.mp ((h.entryPoints_perm hs anyStart).mem_iff.mp he')
  obtain ⟨item, hitem⟩ : ∃ item, e.purpose.item? = some item := by
    replace hpurpose' : (e.purpose.rename σ τ).item? = some item' := hpurpose'
    cases hp : e.purpose with
    | bufferFree =>
      rw [hp] at hpurpose'
      cases hpurpose'
    | _ => exact ⟨_, rfl⟩
  refine ⟨⟨e.symbol, item, s.entrySubject e.purpose⟩, ?_, rfl, (h.entrySubject_eq hs _).symm⟩
  exact List.mem_filterMap.mpr ⟨e, he, by rw [hitem]; rfl⟩

end Lookups

end Schema.Renumbers

/-! ## The comparison of symbols -/

theorem Schema.Renumbers.symbolConflicts_eq_nil {σ : TypeId → TypeId} {τ : FunctionId → FunctionId}
    {s s' : Schema} (h : s.Renumbers σ τ s') (hs : s.IsNumbered) (hnone : s.symbolConflicts = []) :
    s'.symbolConflicts = [] := by
  rw [Schema.symbolConflicts_eq_nil_iff] at hnone ⊢
  intro u' hu' v' hv' hsymbol
  obtain ⟨u, hu, husymbol, husubject⟩ := h.exists_symbolUse hs hu'
  obtain ⟨v, hv, hvsymbol, hvsubject⟩ := h.exists_symbolUse hs hv'
  rw [← husubject, ← hvsubject]
  exact hnone u hu v hv (by rw [husymbol, hvsymbol, hsymbol])

end Boundary
