import Boundary.Proofs.Schema.Distinct
import Boundary.Proofs.Schema.Renaming

/-!
# More declarations

Declarations that are added at the end leave everything as it is that has been declared before: the
items that are exported keep their numbers and their content, and their entry points keep their
symbols and signatures.

* `TypeTable.renames_append`: a longer table has the names of the shorter one.
* `Accepted.structs_append`, `Accepted.enums_append`, `Accepted.functions_append`: the exported
  items come first among those of more declarations.
* `Schema.Extends`: a schema that holds another one.
* `Schema.extends_of_build_append`: so does the schema of more declarations.
-/

namespace Boundary

variable {facade : String} {ds es : List Declaration} {s s' : Schema}

/-! ## Declarations with their numbers -/

theorem declaredTypes_append {α : Type} (kind? : TypeDecl → Option α) (ds es : List Declaration) :
    declaredTypes kind? ds <+: declaredTypes kind? (ds ++ es) := by
  rw [declaredTypes, declaredTypes, List.filterMap_append, List.zipIdx_append,
    List.filterMap_append]
  exact List.prefix_append _ _

theorem declaredFunctions_append (ds es : List Declaration) :
    declaredFunctions ds <+: declaredFunctions (ds ++ es) := by
  rw [declaredFunctions, declaredFunctions, List.filterMap_append, List.zipIdx_append,
    List.map_append]
  exact List.prefix_append _ _

/-- A longer table has the names of the shorter one, with their numbers. -/
theorem TypeTable.renames_append (ds es : List Declaration) :
    TypeTable.Renames (fun id => id) (declaredTable ds) (declaredTable (ds ++ es)) := by
  intro name id hid
  rw [declaredTable, List.filterMap_append, List.zipIdx_append, List.map_append,
    List.lookup_append]
  exact Option.or_of_isSome (by rw [← declaredTable, hid]; rfl) |>.trans hid

/-- What items are exported as comes first, if it does not depend on the rest. -/
theorem map_prefix_of_congr {α β : Type} {f g : α → β} {as bs : List α} (h : as <+: bs)
    (hfg : ∀ a ∈ as, f a = g a) : as.map f <+: bs.map g := by
  rw [List.map_congr_left hfg]
  exact h.map g

private theorem flatMap_prefix {α β : Type} (f : α → List β) {as bs : List α} (h : as <+: bs) :
    as.flatMap f <+: bs.flatMap f := by
  obtain ⟨rest, rfl⟩ := h
  rw [List.flatMap_append]
  exact List.prefix_append _ _

namespace Accepted

theorem structs_append (h : Accepted facade ds s) (h' : Accepted facade (ds ++ es) s') :
    s.structs <+: s'.structs := by
  rw [h.structs_eq, h'.structs_eq]
  refine map_prefix_of_congr (declaredTypes_append _ ds es) ?_
  rintro ⟨id, d⟩ hd
  have hsame := StructDecl.exported_of_renames (TypeTable.renames_append ds es)
    (h.struct_isSound hd) id
  rw [hsame, ExportedStruct.rename_self]

theorem enums_append (h : Accepted facade ds s) (h' : Accepted facade (ds ++ es) s') :
    s.enums <+: s'.enums := by
  rw [h.enums_eq, h'.enums_eq]
  refine map_prefix_of_congr (declaredTypes_append _ ds es) ?_
  rintro ⟨id, d⟩ hd
  have hsame := EnumDecl.exported_of_renames (TypeTable.renames_append ds es)
    (fun v hv => ((h.enum_isSound hd).2 v hv).2) id
  rw [hsame, ExportedEnum.rename_self]

theorem functions_append (h : Accepted facade ds s) (h' : Accepted facade (ds ++ es) s') :
    s.functions <+: s'.functions := by
  rw [h.functions_eq, h'.functions_eq]
  refine map_prefix_of_congr (declaredFunctions_append ds es) ?_
  rintro ⟨id, f⟩ hf
  have hsame := FunctionDecl.exported_of_renames (τ := fun id => id)
    (TypeTable.renames_append ds es) (h.function_isSound (function_mem hf)) id
  rw [hsame, ExportedFunction.rename_self]

/-- The type that a function is called on keeps its name. -/
theorem ownerName_append (h : Accepted facade ds s) (h' : Accepted facade (ds ++ es) s')
    {f : ExportedFunction} (hf : f ∈ s.functions) : s'.ownerName f = s.ownerName f := by
  have hfunctions := h.functions_eq
  rw [hfunctions] at hf
  obtain ⟨⟨id, d⟩, hd, rfl⟩ := List.mem_map.mp hf
  have hsame := FunctionDecl.exported_of_renames (τ := fun id => id)
    (TypeTable.renames_append ds es) (h.function_isSound (function_mem hd)) id
  rw [ExportedFunction.rename_self] at hsame
  rw [h.ownerName_exported hd, ← hsame,
    h'.ownerName_exported ((declaredFunctions_append ds es).subset hd)]

private theorem entryPoints_append (h : Accepted facade ds s) (h' : Accepted facade (ds ++ es) s')
    (start : String) : (s.entryPoints start).Sublist (s'.entryPoints start) := by
  have hstructs := flatMap_prefix (·.entryPoints start) (h.structs_append h')
  have henums := flatMap_prefix (·.entryPoints start) (h.enums_append h')
  have hfunctions : s.functions.map (s.functionEntry start) <+:
      s'.functions.map (s'.functionEntry start) := by
    refine map_prefix_of_congr (h.functions_append h') ?_
    intro f hf
    rw [Schema.functionEntry, Schema.functionEntry, Schema.functionSymbol, Schema.functionSymbol,
      h.ownerName_append h' hf]
  exact ((hstructs.sublist.cons_cons _).append henums.sublist).append hfunctions.sublist

end Accepted

/-! ## Schemas that hold another one -/

/-- A schema that holds the items and the entry points of another one, in their order. -/
structure Schema.Extends (s s' : Schema) : Prop where
  structs : s.structs <+: s'.structs
  enums : s.enums <+: s'.enums
  functions : s.functions <+: s'.functions
  struct?_eq : ∀ id x, s.struct? id = some x → s'.struct? id = some x
  enum?_eq : ∀ id x, s.enum? id = some x → s'.enum? id = some x
  function?_eq : ∀ id f, s.function? id = some f → s'.function? id = some f
  entryPoints : ∀ start, (s.entryPoints start).Sublist (s'.entryPoints start)

/-- What is found in the first items of a list is found in the list. -/
theorem find?_eq_some_of_prefix {α : Type} {p : α → Bool} {as bs : List α} (h : as <+: bs) {a : α}
    (ha : as.find? p = some a) : bs.find? p = some a := by
  obtain ⟨rest, rfl⟩ := h
  rw [List.find?_append, ha]
  rfl

/-- **Declarations that are added leave the others as they are.** -/
theorem Schema.extends_of_build_append (h : Schema.build facade ds = .ok s)
    (h' : Schema.build facade (ds ++ es) = .ok s') : s.Extends s' := by
  have h := Schema.build_eq_ok_iff_accepted.mp h
  have h' := Schema.build_eq_ok_iff_accepted.mp h'
  exact {
    structs := h.structs_append h'
    enums := h.enums_append h'
    functions := h.functions_append h'
    struct?_eq := fun _ _ => find?_eq_some_of_prefix (h.structs_append h')
    enum?_eq := fun _ _ => find?_eq_some_of_prefix (h.enums_append h')
    function?_eq := fun _ _ => find?_eq_some_of_prefix (h.functions_append h')
    entryPoints := h.entryPoints_append h' }

/-- A struct that holds one that is declared before, and a function that returns it. -/
def Demo.addedDeclarations : List Declaration := [
  .struct ⟨"Team", [⟨"lead", Demo.named "Person"⟩], Demo.at_ 95⟩,
  Demo.functionDecl "founded_by" [⟨"person", Demo.lent (Demo.named "Person"), false⟩]
    (Demo.named "Team") 99]

/-- What is added to the small library leaves the rest of it as it is. -/
theorem extends_demo_added :
    ∃ s, Schema.build defaultFacade Demo.declarations = .ok Demo.schema ∧
      Schema.build defaultFacade (Demo.declarations ++ Demo.addedDeclarations) = .ok s ∧
      Demo.schema.Extends s := by
  have hreport :
      Schema.report defaultFacade (Demo.declarations ++ Demo.addedDeclarations) = [] := by
    decide +kernel
  have hadded := Schema.build_eq_ok_iff.mpr ⟨hreport, rfl⟩
  exact ⟨_, Demo.build_declarations, hadded,
    Schema.extends_of_build_append Demo.build_declarations hadded⟩

end Boundary
