import Boundary.Demo.Declarations
import Boundary.Proofs.Schema.Members
import Boundary.Proofs.Schema.TopLevel

/-!
# The index of managed names

A schema keeps an index of the names at the top level of managed code. For accepted declarations it
is exact: it has the names of support code and of what is declared, and nothing else, and each
declared name stands for the one declaration that it is made of.

* `lookup_eq_some_iff_mem`: looking up in a list without repeated keys.
* `Declaration.Renders`: the names that a declaration is seen under, with their entries.
* `Accepted.names_eq`, `Accepted.nodup_names`: the index of accepted declarations.
* `Accepted.exists_only_renders`: a name is made of one declaration only.
* `Accepted.declaredNames_perm`: the declared names are those of the exported items.
* `Schema.Indexes`, `Schema.indexes_of_build`: the index is exact.
-/

namespace Boundary

/-! ## Looking up -/

theorem lookup_eq_some_iff_mem {κ ν : Type} [DecidableEq κ] {entries : List (κ × ν)}
    (h : (entries.map Prod.fst).Nodup) {k : κ} {v : ν} :
    entries.lookup k = some v ↔ (k, v) ∈ entries := by
  induction entries with
  | nil => simp
  | cons e rest ih =>
    obtain ⟨k', v'⟩ := e
    obtain ⟨hfresh, hrest⟩ := List.nodup_cons.mp h
    rw [List.mem_cons, Prod.mk.injEq]
    by_cases hk : k = k'
    · subst hk
      have hnone : (k, v) ∉ rest := by
        intro hmem
        exact hfresh (List.mem_map.mpr ⟨(k, v), hmem, rfl⟩)
      simp [hnone, eq_comm]
    · rw [List.lookup_cons, beq_false_of_ne hk, ih hrest]
      simp [hk]

/-! ## Declared names -/

/-- A name at the top level that a declaration is seen under, with what the index says of it. A
method has none: it is seen inside the class of its receiver. -/
inductive Declaration.Renders : Declaration → String → NameEntry → Prop
  | struct (d : StructDecl) : Renders (.struct d) (Naming.pascal d.name) ⟨d.name, .struct⟩
  | enumClass (d : EnumDecl) : Renders (.enum d) (Naming.pascal d.name) ⟨d.name, .enum⟩
  | enumInterface (d : EnumDecl) :
    Renders (.enum d) ("I" ++ Naming.pascal d.name) ⟨d.name, .enum⟩
  | function (d : FunctionDecl) (hfree : d.receiver = none) :
    Renders (.function d) (Naming.pascal d.name) ⟨d.name, .function⟩

/-- The entry in the index of a name that is granted. -/
def TopClaim.entry (c : TopClaim) : String × NameEntry := (c.managed, ⟨c.native, c.kind⟩)

theorem Declaration.renders_iff {d : Declaration} {name : String} {entry : NameEntry} :
    d.Renders name entry ↔ (name, entry) ∈ d.topClaims.map TopClaim.entry := by
  constructor
  · rintro (d | d | d | ⟨d, hfree⟩)
    · exact List.mem_singleton_self _
    · exact List.mem_cons_self
    · exact List.mem_cons_of_mem _ (List.mem_singleton_self _)
    · rw [Declaration.topClaims, hfree]
      exact List.mem_singleton_self _
  · intro hmem
    obtain ⟨c, hc, heq⟩ := List.mem_map.mp hmem
    cases heq
    cases d with
    | struct d =>
      obtain rfl := List.mem_singleton.mp hc
      exact .struct d
    | enum d =>
      obtain rfl | hc := List.mem_cons.mp hc
      · exact .enumClass d
      · obtain rfl := List.mem_singleton.mp hc
        exact .enumInterface d
    | function d =>
      cases hfree : d.receiver with
      | none =>
        rw [Declaration.topClaims, hfree] at hc
        obtain rfl := List.mem_singleton.mp hc
        exact .function d hfree
      | some r =>
        rw [Declaration.topClaims, hfree] at hc
        cases hc

/-- The names that declarations ask for are those that they are seen under. -/
theorem mem_topNames_iff {ds : List Declaration} {name : String} :
    name ∈ (ds.flatMap Declaration.topClaims).map TopClaim.managed ↔
      ∃ d ∈ ds, ∃ entry, d.Renders name entry := by
  constructor
  · intro hname
    obtain ⟨c, hc, rfl⟩ := List.mem_map.mp hname
    obtain ⟨d, hd, hclaim⟩ := List.mem_flatMap.mp hc
    exact ⟨d, hd, _, Declaration.renders_iff.mpr (List.mem_map_of_mem hclaim)⟩
  · rintro ⟨d, hd, entry, hrenders⟩
    obtain ⟨c, hc, heq⟩ := List.mem_map.mp (Declaration.renders_iff.mp hrenders)
    cases heq
    exact List.mem_map_of_mem (List.mem_flatMap_of_mem hd hc)

private theorem mem_topEntries_iff {ds : List Declaration} {name : String} {entry : NameEntry} :
    (name, entry) ∈ (ds.flatMap Declaration.topClaims).map TopClaim.entry ↔
      ∃ d ∈ ds, d.Renders name entry := by
  rw [List.map_flatMap]
  simp only [List.mem_flatMap, Declaration.renders_iff]

private theorem nodup_reservedTopNames (facade : String) : (reservedTopNames facade).Nodup := by
  have hfixed : reservedTypeNames.Nodup := by decide +kernel
  unfold reservedTopNames
  split
  · rwa [List.append_nil]
  · rename_i hfacade
    rw [List.contains_iff_mem] at hfacade
    exact hfixed.append (List.nodup_singleton _) (List.disjoint_singleton.mpr hfacade)

namespace Accepted

variable {facade : String} {ds : List Declaration} {s : Schema}

/-! ## The index of accepted declarations -/

/-- Every name that is asked for is in `names`, behind those of support code. -/
theorem names_eq (h : Accepted facade ds s) :
    s.names = (reservedTopNames facade).map (fun name => (name, ⟨name, .reserved⟩)) ++
      (ds.flatMap Declaration.topClaims).map TopClaim.entry := by
  conv_lhs => rw [h.schema_eq]
  exact grantedNames_eq fun front c back => h.topConflict?_eq_none

theorem keys_eq (h : Accepted facade ds s) :
    s.names.map Prod.fst =
      reservedTopNames facade ++ (ds.flatMap Declaration.topClaims).map TopClaim.managed := by
  rw [h.names_eq, List.map_append, List.map_map, List.map_map]
  exact congrArg (· ++ _) (List.map_id _)

/-- No name is in `names` twice. -/
theorem nodup_names (h : Accepted facade ds s) : (s.names.map Prod.fst).Nodup := by
  rw [h.keys_eq]
  refine (nodup_reservedTopNames facade).append h.nodup_topNames ?_
  intro name hreserved hname
  obtain ⟨c, hc, rfl⟩ := List.mem_map.mp hname
  obtain ⟨front, back, hsplit⟩ := List.append_of_mem hc
  exact (topConflict?_eq_none_iff.mp (h.topConflict?_eq_none hsplit)).1 hreserved

/-- A name that one declaration is seen under is that of no other. -/
theorem exists_only_renders (h : Accepted facade ds s) {d : Declaration} (hd : d ∈ ds)
    {name : String} {entry : NameEntry} (hrenders : d.Renders name entry) :
    ∃ front back, ds = front ++ d :: back ∧
      ∀ d' ∈ front ++ back, ∀ entry', ¬ d'.Renders name entry' := by
  obtain ⟨front, back, rfl⟩ := List.append_of_mem hd
  refine ⟨front, back, rfl, ?_⟩
  intro d' hd' entry' hother
  have hnodup := h.nodup_topNames
  rw [((List.perm_middle (a := d)).flatMap_right Declaration.topClaims).map _
    |>.nodup_iff] at hnodup
  rw [List.flatMap_cons, List.map_append] at hnodup
  have hname : name ∈ d.topClaims.map TopClaim.managed := by
    obtain ⟨c, hc, heq⟩ := List.mem_map.mp (Declaration.renders_iff.mp hrenders)
    cases heq
    exact List.mem_map_of_mem hc
  exact (List.nodup_append.mp hnodup).2.2 name hname name
    (mem_topNames_iff.mpr ⟨d', hd', entry', hother⟩) rfl

/-! ## Names of exported items -/

/-- The names that declarations ask for are those of their types and of the functions that are
called on nothing. -/
theorem topNames_perm (ds : List Declaration) :
    ((ds.filterMap Declaration.type?).flatMap TypeDecl.managedNames ++
      (ds.filterMap (ownClaim? none)).map (·.managed)).Perm
      ((ds.flatMap Declaration.topClaims).map TopClaim.managed) := by
  induction ds with
  | nil => exact .nil
  | cons d rest ih =>
    rw [List.flatMap_cons, List.map_append]
    cases d with
    | struct d => exact ih.cons _
    | enum d => exact (ih.cons _).cons _
    | function f =>
      cases hfree : f.receiver with
      | none =>
        -- The function stands behind all types.
        simp only [List.filterMap_cons, Declaration.type?, ownClaim?, FunctionDecl.owner?,
          Declaration.topClaims, hfree]
        exact List.perm_middle.trans (ih.cons _)
      | some r =>
        simpa [List.filterMap_cons, Declaration.type?, ownClaim?, FunctionDecl.owner?,
          Declaration.topClaims, hfree] using ih

theorem declaredNames_perm (h : Accepted facade ds s) :
    (s.managedTypeNames ++ s.freeFunctions.map fun f => Naming.pascal f.name).Perm
      ((ds.flatMap Declaration.topClaims).map TopClaim.managed) := by
  rw [h.map_pascal_freeFunctions]
  exact (h.managedTypeNames_perm.append_right _).trans (topNames_perm ds)

/-- The keys of the index are the names of support code and of the exported items. -/
theorem keys_perm (h : Accepted facade ds s) :
    (s.names.map Prod.fst).Perm (reservedTopNames facade ++
      (s.managedTypeNames ++ s.freeFunctions.map fun f => Naming.pascal f.name)) := by
  rw [h.keys_eq]
  exact h.declaredNames_perm.symm.append_left _

end Accepted

/-! ## The index -/

/-- What the index of managed names is of declarations, where `facade` is the class of the free
functions. -/
structure Schema.Indexes (s : Schema) (facade : String) (ds : List Declaration) : Prop where
  /-- No name has two entries in `names`. -/
  nodup_keys : (s.names.map Prod.fst).Nodup
  /-- The names are those of support code, of structs, of the classes and interfaces of enums, and
  of free functions. -/
  mem_keys_iff : ∀ name, name ∈ s.names.map Prod.fst ↔
    name ∈ reservedTypeNames ∨ name = facade ∨
      (∃ x ∈ s.structs, name = Naming.pascal x.name) ∨
      (∃ x ∈ s.enums, name = Naming.pascal x.name ∨ name = "I" ++ Naming.pascal x.name) ∨
      ∃ f ∈ s.freeFunctions, name = Naming.pascal f.name
  /-- The names of support code stand for themselves. -/
  lookup_reserved : ∀ name, name ∈ reservedTypeNames ∨ name = facade →
    s.names.lookup name = some ⟨name, .reserved⟩
  /-- Any other name stands for a declaration that is seen under it, and no other is. -/
  lookup_declared : ∀ name entry, s.names.lookup name = some entry →
    name ∉ reservedTypeNames → name ≠ facade →
    ∃ front d back, ds = front ++ d :: back ∧ d.Renders name entry ∧
      ∀ d' ∈ front ++ back, ∀ entry', ¬ d'.Renders name entry'
  /-- Whatever a declaration is seen under stands for it. -/
  lookup_renders : ∀ d ∈ ds, ∀ name entry, d.Renders name entry → s.names.lookup name = some entry
  /-- The name of a method is there only on behalf of something else. -/
  of_method : ∀ f ∈ s.functions, f.receiver ≠ .none →
    Naming.pascal f.name ∈ s.names.map Prod.fst →
    Naming.pascal f.name ∈ reservedTypeNames ∨ Naming.pascal f.name = facade ∨
      ∃ d ∈ ds, ∃ entry, d.Renders (Naming.pascal f.name) entry

/-- **The index of managed names is exact** for whatever declarations are accepted. -/
theorem Schema.indexes_of_build {facade : String} {ds : List Declaration} {s : Schema}
    (hs : Schema.build facade ds = .ok s) : s.Indexes facade ds := by
  have h : Accepted facade ds s := Schema.build_eq_ok_iff_accepted.mp hs
  have hlookup (name : String) (entry : NameEntry) :
      s.names.lookup name = some entry ↔
        (name ∈ reservedTopNames facade ∧ entry = ⟨name, .reserved⟩) ∨
          ∃ d ∈ ds, d.Renders name entry := by
    rw [lookup_eq_some_iff_mem h.nodup_names, h.names_eq, List.mem_append, mem_topEntries_iff]
    simp [eq_comm]
  refine ⟨h.nodup_names, ?_, ?_, ?_, ?_, ?_⟩
  · intro name
    rw [h.keys_perm.mem_iff]
    simp only [List.mem_append, mem_reservedTopNames, Schema.managedTypeNames, List.mem_map,
      List.mem_flatMap, List.mem_cons, List.not_mem_nil, or_false, interfaceName, or_assoc,
      eq_comm (a := name), or_comm (a := "I" ++ _ = name)]
  · intro name hname
    exact (hlookup name _).mpr (.inl ⟨mem_reservedTopNames.mpr hname, rfl⟩)
  · intro name entry hentry hfixed hfacade
    obtain ⟨hreserved, -⟩ | ⟨d, hd, hrenders⟩ := (hlookup name entry).mp hentry
    · exact absurd (mem_reservedTopNames.mp hreserved) (not_or.mpr ⟨hfixed, hfacade⟩)
    · obtain ⟨front, back, hds, honly⟩ := h.exists_only_renders hd hrenders
      exact ⟨front, d, back, hds, hrenders, honly⟩
  · intro d hd name entry hrenders
    exact (hlookup name entry).mpr (.inr ⟨d, hd, hrenders⟩)
  · intro f _ _ hname
    rw [h.keys_eq, List.mem_append, mem_reservedTopNames, mem_topNames_iff, or_assoc] at hname
    exact hname

theorem Schema.indexes_of_build_demo :
    Schema.build defaultFacade Demo.declarations = .ok Demo.schema ∧
      Demo.schema.Indexes defaultFacade Demo.declarations :=
  ⟨Demo.build_declarations, Schema.indexes_of_build Demo.build_declarations⟩

end Boundary
