import Boundary.Proofs.Schema.Accepted

/-!
# Where problems are reported

Every check of a declaration reports what it finds at the location of the declaration. Only the
check of a type and the search for types that hold themselves find problems of types.

* `Report.Within`: a report about problems of some sort at one location.
* `Problem.IsAboutType`, `Problem.IsRecursion`: problems of types.
* `within_conflictReport` and its siblings: the checks of names and of the other parts.
* `Declaration.within_registeredReport`, `Declaration.location_of_mem_report`: the report about a
  declaration.
-/

namespace Boundary

/-- The report is about problems of some sort at the location. -/
def Report.Within (location : Location) (sort : Problem → Prop) (r : Report) : Prop :=
  ∀ x ∈ r, ∃ p subject, sort p ∧ x = p.diagnostic location subject

namespace Report

variable {location : Location} {subject : String} {sort sort' : Problem → Prop}

theorem within_nil : Within location sort [] := fun _ hx => nomatch hx

theorem Within.append {r r' : Report} (h : Within location sort r) (h' : Within location sort r') :
    Within location sort (r ++ r') :=
  fun x hx => (List.mem_append.mp hx).elim (h x) (h' x)

theorem Within.mono {r : Report} (h : Within location sort r) (hsort : ∀ p, sort p → sort' p) :
    Within location sort' r := by
  intro x hx
  obtain ⟨p, subject, hp, rfl⟩ := h x hx
  exact ⟨p, subject, hsort p hp, rfl⟩

theorem within_flatMap {α : Type} {as : List α} {f : α → Report}
    (h : ∀ a, Within location sort (f a)) : Within location sort (as.flatMap f) := by
  intro x hx
  obtain ⟨a, -, hx⟩ := List.mem_flatMap.mp hx
  exact h a x hx

theorem within_diagnostic {p : Problem} (h : sort p) :
    Within location sort [p.diagnostic location subject] := by
  intro x hx
  exact ⟨p, subject, h, List.mem_singleton.mp hx⟩

theorem Within.location_eq {r : Report} (h : Within location sort r) {x : Diagnostic} (hx : x ∈ r) :
    x.location = location := by
  obtain ⟨p, subject, -, rfl⟩ := h x hx
  rfl

end Report

open Report

/-! ## Problems of types -/

/-- The problem is about a type that cannot cross the boundary. -/
def Problem.IsAboutType (p : Problem) : Prop := p.kind = .unsupportedType

/-- The problem is that a type holds itself. -/
def Problem.IsRecursion (p : Problem) : Prop := ∃ name cycle, p = .recursiveType name cycle

theorem Problem.not_isRecursion_of_not_isAboutType (p : Problem) (h : ¬ p.IsAboutType) :
    ¬ p.IsRecursion := by
  rintro ⟨name, cycle, rfl⟩
  exact h rfl

theorem not_isAboutType_of_identifierProblem? {name : String} {p : Problem}
    (h : identifierProblem? name = some p) : ¬ p.IsAboutType := by
  unfold identifierProblem? at h
  split at h
  · cases h
    nofun
  split at h <;> cases h
  nofun

theorem Scope.not_isAboutType_of_conflict? {s : Scope} {earlier : List NameClaim} {c : NameClaim}
    {p : Problem} (h : s.conflict? earlier c = some p) : ¬ p.IsAboutType := by
  unfold Scope.conflict? at h
  split at h
  · cases h
    nofun
  split at h
  · cases h
    nofun
  split at h <;> cases h
  nofun

private theorem not_isAboutType_of_topConflict? {facade : String} {earlier : List TopClaim}
    {c : TopClaim} {p : Problem} (h : topConflict? facade earlier c = some p) :
    ¬ p.IsAboutType := by
  unfold topConflict? at h
  split at h
  · cases h
    nofun
  split at h
  · cases h
    nofun
  split at h <;> cases h
  nofun

theorem SymbolUse.not_isAboutType_of_conflict? {earlier : List SymbolUse} {u : SymbolUse}
    {p : Problem} (h : u.conflict? earlier = some p) : ¬ p.IsAboutType := by
  unfold SymbolUse.conflict? at h
  split at h
  · split at h <;> cases h
    nofun
  · cases h

theorem Schema.not_isAboutType_of_mem_symbolConflicts {s : Schema} {u : SymbolUse} {p : Problem}
    (h : (u, p) ∈ s.symbolConflicts) : ¬ p.IsAboutType := by
  obtain ⟨⟨earlier, u'⟩, -, hp⟩ := List.mem_filterMap.mp h
  obtain ⟨p', hp', heq⟩ := Option.map_eq_some_iff.mp hp
  cases heq
  exact SymbolUse.not_isAboutType_of_conflict? hp'

theorem Declaration.not_isAboutType_of_refusal? {earlier : List Declaration} {d : Declaration}
    {subject : String} {p : Problem} (h : d.refusal? earlier = some (subject, p)) :
    ¬ p.IsAboutType := by
  unfold Declaration.refusal? at h
  split at h
  · rename_i hproblem
    cases h
    exact not_isAboutType_of_identifierProblem? hproblem
  cases d with
  | function f =>
    dsimp only at h
    split at h <;> cases h
    nofun
  | struct d | enum d =>
    dsimp only at h
    split at h
    · cases h
      nofun
    split at h <;> cases h
    nofun

/-! ## Parts of declarations -/

/-- Where the type is declared. -/
def TypeDecl.location : TypeDecl → Location
  | .struct d => d.location
  | .enum d => d.location

section Parts

variable {location : Location} {subject : String} {sort : Problem → Prop} {table : TypeTable}
  {s : Surroundings}

theorem within_conflictReport {problem : Option Problem} (h : ∀ p, problem = some p → sort p) :
    Within location sort (conflictReport location subject problem) := by
  cases problem with
  | none => exact within_nil
  | some p => exact within_diagnostic (h p rfl)

theorem within_typeReport {t : TypeRef} :
    Within location (¬ ·.IsRecursion) (typeReport location subject t) := by
  unfold typeReport
  split
  · exact within_diagnostic nofun
  · exact within_nil

theorem within_namedReport {name : String} {rest : Report}
    (h : Within location (¬ ·.IsRecursion) rest) :
    Within location (¬ ·.IsRecursion) (namedReport location subject name rest) := by
  unfold namedReport
  split
  · rename_i p hproblem
    exact within_diagnostic
      (p.not_isRecursion_of_not_isAboutType (not_isAboutType_of_identifierProblem? hproblem))
  · exact h

/-- The name of a part, as far as the scope is concerned. -/
theorem Scope.within_conflictReport {scope : Scope} {earlier : List NameClaim} {c : NameClaim} :
    Within location (¬ ·.IsAboutType)
      (conflictReport location subject (scope.conflict? earlier c)) :=
  Boundary.within_conflictReport fun _ => Scope.not_isAboutType_of_conflict?

/-- What is not about types is not about types that hold themselves. -/
theorem Report.Within.not_isRecursion {r : Report} (h : Within location (¬ ·.IsAboutType) r) :
    Within location (¬ ·.IsRecursion) r :=
  h.mono Problem.not_isRecursion_of_not_isAboutType

theorem within_fieldsReport {scope : Scope} {owner : String} {fields : List FieldDecl} :
    Within location (¬ ·.IsRecursion) (fieldsReport table scope location owner fields) :=
  within_flatMap fun _ => within_namedReport <|
    Scope.within_conflictReport.not_isRecursion.append within_typeReport

theorem PayloadDecl.within_report {p : PayloadDecl} {variant : String} :
    Within location (¬ ·.IsRecursion) (p.report table location variant subject) := by
  cases p with
  | unit => exact within_nil
  | tuple elems => exact within_flatMap fun _ => within_typeReport
  | struct fields => exact within_fieldsReport

theorem EnumDecl.within_emptyReport {d : EnumDecl} : Within d.location (¬ ·.IsAboutType)
    (if d.variants.isEmpty then [(Problem.emptyEnum d.name).diagnostic d.location d.name]
      else []) := by
  split
  · exact within_diagnostic nofun
  · exact within_nil

theorem TypeDecl.within_contentReport {t : TypeDecl} :
    Within t.location (¬ ·.IsRecursion) (t.contentReport table) := by
  cases t with
  | struct d => exact within_fieldsReport
  | enum d =>
    exact EnumDecl.within_emptyReport.not_isRecursion.append <|
      within_flatMap fun _ => within_namedReport <|
        Scope.within_conflictReport.not_isRecursion.append PayloadDecl.within_report

theorem FunctionDecl.within_memberReport {earlier : List FunctionDecl} {f : FunctionDecl} :
    Within f.location (¬ ·.IsAboutType) (f.memberReport s earlier) := by
  unfold FunctionDecl.memberReport
  split
  · exact Scope.within_conflictReport
  split
  · exact within_diagnostic nofun
  split
  · exact within_nil
  · exact Scope.within_conflictReport

theorem ParamDecl.within_transferReport {p : ParamDecl} :
    Within location (¬ ·.IsAboutType) (p.transferReport s location subject) := by
  unfold ParamDecl.transferReport
  split
  · split
    · exact within_nil
    · exact within_diagnostic nofun
  · split
    · exact within_diagnostic nofun
    · exact within_nil
  · exact within_nil

theorem FunctionDecl.within_contentReport {earlier : List FunctionDecl} {f : FunctionDecl} :
    Within f.location (¬ ·.IsRecursion) (f.contentReport s earlier) := by
  refine (within_memberReport.not_isRecursion.append ?_).append within_typeReport
  exact within_flatMap fun _ => within_namedReport <|
    (Scope.within_conflictReport.not_isRecursion.append within_typeReport).append
      ParamDecl.within_transferReport.not_isRecursion

theorem Declaration.within_topReport {facade : String} {earlier : List Declaration}
    {d : Declaration} : Within d.location (¬ ·.IsAboutType) (d.topReport facade earlier) :=
  within_flatMap fun _ => within_conflictReport fun _ => not_isAboutType_of_topConflict?

theorem Surroundings.within_symbolReport {item : ItemId}
    (h : s.symbolConflicts = s.schema.symbolConflicts) :
    Within location (¬ ·.IsAboutType) (s.symbolReport location item) := by
  intro x hx
  obtain ⟨⟨u, p⟩, hmem, rfl⟩ := List.mem_map.mp hx
  have hconflict := (List.mem_filter.mp hmem).1
  rw [h] at hconflict
  exact ⟨p, u.subject, Schema.not_isAboutType_of_mem_symbolConflicts hconflict, rfl⟩

theorem Schema.within_recursionReport {s : Schema} {id : TypeId} :
    Within location (·.IsRecursion) (s.recursionReport location id) := by
  unfold Schema.recursionReport
  split
  · exact within_nil
  · exact within_diagnostic ⟨_, _, rfl⟩

end Parts

/-! ## Declarations -/

namespace Declaration

variable {s : Surroundings} {earlier : List Declaration} {d : Declaration}

/-- Everything that is wrong with a declaration is reported where it stands. -/
theorem within_registeredReport (hs : s.symbolConflicts = s.schema.symbolConflicts) :
    Within d.location (fun _ => True) (d.registeredReport s earlier) := by
  refine (within_topReport.mono fun _ _ => trivial).append ?_
  cases d with
  | function f =>
    exact (FunctionDecl.within_contentReport.mono fun _ _ => trivial).append
      ((Surroundings.within_symbolReport hs).mono fun _ _ => trivial)
  | struct d =>
    exact (((TypeDecl.struct d).within_contentReport.mono fun _ _ => trivial).append
      (Schema.within_recursionReport.mono fun _ _ => trivial)).append
        ((Surroundings.within_symbolReport hs).mono fun _ _ => trivial)
  | enum d =>
    exact (((TypeDecl.enum d).within_contentReport.mono fun _ _ => trivial).append
      (Schema.within_recursionReport.mono fun _ _ => trivial)).append
        ((Surroundings.within_symbolReport hs).mono fun _ _ => trivial)

/-- Everything that is wrong with a declaration is reported where it stands. -/
theorem location_of_mem_report (hs : s.symbolConflicts = s.schema.symbolConflicts)
    {x : Diagnostic} (hx : x ∈ d.report s earlier) : x.location = d.location := by
  unfold Declaration.report at hx
  split at hx
  · obtain rfl := List.mem_singleton.mp hx
    rfl
  · exact (within_registeredReport hs).location_eq hx

end Declaration

end Boundary
