import Mathlib.Data.List.Perm.Subperm
import Boundary.Proofs.Schema.Distinct

/-!
# Managed names at the top level

The names that accepted declarations ask for at the top level are all granted: they are different
from each other, from those of support code, and from those of options.

* `withEarlier_flatMap`: what stands before an item of a flattened list.
* `topConflict?_eq_none_iff`: when a name is granted.
* `Accepted.topConflict?_eq_none`: all names that accepted declarations ask for are.
* `Schema.managedTypeNames`, `Accepted.managedTypeNames_subperm`: the names of the exported types
  are among them.
* `Accepted.nodup_managedTypeNames`, `Accepted.managedTypeNames_free`: what follows for these.
-/

namespace Boundary

/-! ## What stands before an item -/

theorem withEarlier_append {α : Type} (earlier as bs : List α) :
    withEarlier earlier (as ++ bs) = withEarlier earlier as ++ withEarlier (earlier ++ as) bs := by
  induction as generalizing earlier with
  | nil => simp [withEarlier]
  | cons a rest ih => simp [withEarlier, ih]

theorem withEarlier_flatMap {α β : Type} (f : α → List β) (earlier as : List α) :
    withEarlier (earlier.flatMap f) (as.flatMap f) =
      (withEarlier earlier as).flatMap fun (before, a) => withEarlier (before.flatMap f) (f a) := by
  induction as generalizing earlier with
  | nil => rfl
  | cons a rest ih =>
    have hearlier : earlier.flatMap f ++ f a = (earlier ++ [a]).flatMap f := by simp
    rw [List.flatMap_cons, withEarlier_append, hearlier, ih]
    rfl

/-! ## Granted names -/

/-- A name is granted if neither support code nor an option nor an earlier item has it. -/
theorem topConflict?_eq_none_iff {facade : String} {earlier : List TopClaim} {c : TopClaim} :
    topConflict? facade earlier c = none ↔ c.managed ∉ reservedTopNames facade ∧
      c.managed.startsWith optionPrefix = false ∧ ∀ e ∈ earlier, e.managed ≠ c.managed := by
  unfold topConflict?
  split
  · simp_all
  split
  · simp_all
  split
  · rename_i first hfirst
    have hmem := List.mem_of_find?_eq_some hfirst
    have heq : first.managed = c.managed := by simpa using List.find?_some hfirst
    simp only [reduceCtorEq, false_iff, not_and, not_forall]
    exact fun _ _ => ⟨first, hmem, not_not.mpr heq⟩
  · simp_all

/-- Names that are all granted are all in the index. -/
theorem grantedNames_eq {claims : List TopClaim}
    (h : ∀ front c back, claims = front ++ c :: back → topConflict? facade front c = none) :
    grantedNames facade claims =
      ((reservedTopNames facade).map fun name => (name, ⟨name, .reserved⟩))
      ++ claims.map fun c => (c.managed, ⟨c.native, c.kind⟩) := by
  rw [grantedNames]
  congr 1
  conv_rhs => rw [← map_snd_withEarlier [] claims, List.map_map]
  rw [List.filterMap_eq_map_iff_forall_eq_some]
  rintro ⟨before, c⟩ hmem
  obtain ⟨front, back, hclaims, hbefore⟩ := mem_withEarlier_iff.mp hmem
  rw [hbefore]
  simp [h front c back hclaims]

theorem mem_reservedTopNames {facade name : String} :
    name ∈ reservedTopNames facade ↔ name ∈ reservedTypeNames ∨ name = facade := by
  by_cases h : facade ∈ reservedTypeNames
  · simp only [reservedTopNames, List.contains_eq_mem, h, decide_true, if_true, List.append_nil]
    constructor
    · exact .inl
    · rintro (hname | rfl)
      · exact hname
      · exact h
  · simp [reservedTopNames, h]

/-- The managed names of the exported types. -/
def Schema.managedTypeNames (s : Schema) : List String :=
  s.structs.map (fun x => Naming.pascal x.name) ++
    s.enums.flatMap fun x => [interfaceName (Naming.pascal x.name), Naming.pascal x.name]

/-- The managed names of a declared type. -/
def TypeDecl.managedNames : TypeDecl → List String
  | .struct d => [Naming.pascal d.name]
  | .enum d => [Naming.pascal d.name, interfaceName (Naming.pascal d.name)]

private theorem typeNames_perm (table : TypeTable) (numbered : List (TypeDecl × Nat)) :
    ((exportedStructs table numbered).map (fun x => Naming.pascal x.name) ++
      (exportedEnums table numbered).flatMap fun x =>
        [interfaceName (Naming.pascal x.name), Naming.pascal x.name]).Perm
      (numbered.flatMap fun t => t.1.managedNames) := by
  induction numbered with
  | nil => exact .nil
  | cons t rest ih =>
    obtain ⟨t, i⟩ := t
    cases t with
    | struct d => exact .cons _ ih
    | enum d =>
      -- The names of an enum stand behind those of all structs.
      have henums : exportedEnums table ((.enum d, i) :: rest) =
          d.exported table ⟨i⟩ :: exportedEnums table rest := rfl
      refine List.perm_append_comm.trans ?_
      rw [henums, List.flatMap_cons, List.append_assoc]
      exact (List.Perm.swap _ _ []).append (List.perm_append_comm.trans ih)

/-- Declared types ask for their names. -/
theorem managedNames_sublist (ds : List Declaration) :
    ((ds.filterMap Declaration.type?).flatMap TypeDecl.managedNames).Sublist
      ((ds.flatMap Declaration.topClaims).map TopClaim.managed) := by
  induction ds with
  | nil => exact .slnil
  | cons d rest ih =>
    rw [List.flatMap_cons, List.map_append]
    cases d with
    | struct d | enum d => exact (List.Sublist.refl _).append ih
    | function f => exact ih.trans (List.sublist_append_right _ _)

namespace Accepted

variable {facade : String} {ds : List Declaration} {s : Schema}

/-- All names that accepted declarations ask for are granted. -/
theorem topConflict?_eq_none (h : Accepted facade ds s) {front back : List TopClaim} {c : TopClaim}
    (hsplit : ds.flatMap Declaration.topClaims = front ++ c :: back) :
    topConflict? facade front c = none := by
  have hmem : (front, c) ∈ withEarlier [] (ds.flatMap Declaration.topClaims) :=
    mem_withEarlier_iff.mpr ⟨front, back, hsplit, rfl⟩
  have hflat := withEarlier_flatMap Declaration.topClaims [] ds
  rw [List.flatMap_nil] at hflat
  rw [hflat] at hmem
  obtain ⟨⟨before, d⟩, hd, hclaim⟩ := List.mem_flatMap.mp hmem
  obtain ⟨first, rest, hds, hbefore⟩ := mem_withEarlier_iff.mp hd
  rw [List.nil_append] at hbefore
  subst hbefore
  have hreport := h.registeredReport_eq_nil before d rest hds
  unfold Declaration.registeredReport at hreport
  have htop := (List.append_eq_nil_iff.mp hreport).1
  exact conflictReport_eq_nil_iff.mp (List.flatMap_eq_nil_iff.mp htop _ hclaim)

theorem nodup_topNames (h : Accepted facade ds s) :
    ((ds.flatMap Declaration.topClaims).map TopClaim.managed).Nodup := by
  rw [← List.filterMap_eq_map]
  refine nodup_filterMap_of_fresh ?_
  rintro front c back _ hsplit hname hmem
  cases hname
  obtain ⟨e, he, hmanaged⟩ := List.mem_filterMap.mp hmem
  obtain ⟨-, -, hfresh⟩ := topConflict?_eq_none_iff.mp (h.topConflict?_eq_none hsplit)
  exact hfresh e he (Option.some.inj hmanaged)

theorem managedTypeNames_perm (h : Accepted facade ds s) :
    s.managedTypeNames.Perm ((ds.filterMap Declaration.type?).flatMap TypeDecl.managedNames) := by
  have hnumbered : (Registry.ofRegistered ds).types.zipIdx.flatMap (fun t => t.1.managedNames) =
      (ds.filterMap Declaration.type?).flatMap TypeDecl.managedNames := by
    rw [← List.flatMap_map, List.zipIdx_map_fst]
    rfl
  have hnames := typeNames_perm (Registry.ofRegistered ds).table
    (Registry.ofRegistered ds).types.zipIdx
  rw [hnumbered] at hnames
  rw [Schema.managedTypeNames, h.schema_eq]
  exact hnames

/-- The names of the exported types are among those that the declarations ask for. -/
theorem managedTypeNames_subperm (h : Accepted facade ds s) :
    s.managedTypeNames.Subperm ((ds.flatMap Declaration.topClaims).map TopClaim.managed) :=
  h.managedTypeNames_perm.subperm.trans (managedNames_sublist ds).subperm

/-- **Exported types have different managed names.** -/
theorem nodup_managedTypeNames (h : Accepted facade ds s) : s.managedTypeNames.Nodup := by
  obtain ⟨names, hperm, hsub⟩ := h.managedTypeNames_subperm
  exact hperm.nodup_iff.mp (hsub.nodup h.nodup_topNames)

/-- **No exported type has the managed name of something else.** -/
theorem managedTypeNames_free (h : Accepted facade ds s) :
    ∀ name ∈ s.managedTypeNames, name ∉ reservedTypeNames ∧ name ≠ facade ∧
      name.startsWith optionPrefix = false := by
  intro name hname
  obtain ⟨c, hc, rfl⟩ := List.mem_map.mp (h.managedTypeNames_subperm.subset hname)
  obtain ⟨front, back, hsplit⟩ := List.append_of_mem hc
  obtain ⟨hreserved, hprefix, -⟩ := topConflict?_eq_none_iff.mp (h.topConflict?_eq_none hsplit)
  rw [mem_reservedTopNames, not_or] at hreserved
  exact ⟨hreserved.1, hreserved.2, hprefix⟩

end Accepted

end Boundary
