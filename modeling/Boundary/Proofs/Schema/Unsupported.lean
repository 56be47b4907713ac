import Boundary.Demo.Declarations
import Boundary.Proofs.Resolution.Grammar
import Boundary.Proofs.Schema.Recursion

/-!
# Types that are reported

A type that cannot cross the boundary is reported if its check is reached: its declaration takes
part, and the variant, field or parameter that it belongs to has a usable name. A part of another
name is left out together with its type, and nothing in a refused declaration is looked at, so that
a type in there is reported only once the name has been changed.

* `TypeSite`, `Declaration.typeSites`: the types that are written in a declaration.
* `Report.aboutTypes`: the diagnostics about types.
* `aboutTypes_contentReport`: those about the content of a type; likewise for functions.
* `aboutTypes_report`: those about a list of declarations.
* `TypesAreReported`, `types_areReported`: which types are reported, and how.
* `not_reported_unusable`: a type that is not reported beside another problem.
-/

namespace Boundary

open Report

/-! ## Types in declarations -/

/-- A type that is written in a declaration. -/
structure TypeSite where
  /-- What diagnostics call it. -/
  subject : String
  /-- The names of the parts that it belongs to. -/
  parts : List String
  type : TypeExpr
  position : TypePosition

/-- Whether the check of the type is reached: all the parts have usable names. -/
def TypeSite.isReached (x : TypeSite) : Bool := x.parts.all isUsableName

/-- What is reported of the type. -/
def TypeSite.report (table : TypeTable) (location : Location) (x : TypeSite) : Report :=
  if x.isReached then typeReport location x.subject (x.type.resolve table x.position) else []

/-- The types of fields that belong to `owner` in messages, inside of parts of the given names. -/
def fieldSites (parts : List String) (owner : String) (fields : List FieldDecl) : List TypeSite :=
  fields.map fun f => ⟨s!"{owner}.{f.name}", parts ++ [f.name], f.type, .field⟩

/-- The types of a payload. -/
def PayloadDecl.typeSites (parts : List String) (subject : String) : PayloadDecl → List TypeSite
  | .unit => []
  | .tuple elems => elems.zipIdx.map fun (t, i) => ⟨s!"{subject}.{i}", parts, t, .field⟩
  | .struct fields => fieldSites parts subject fields

/-- The types of the fields of a struct or an enum. -/
def TypeDecl.typeSites : TypeDecl → List TypeSite
  | .struct d => fieldSites [] d.name d.fields
  | .enum d => d.variants.flatMap fun v => v.payload.typeSites [v.name] s!"{d.name}::{v.name}"

/-- The types of the parameters of a function, and the one that it returns. -/
def FunctionDecl.typeSites (f : FunctionDecl) : List TypeSite :=
  (f.params.map fun p => ⟨s!"{f.subject}({p.name})", [p.name], p.type, .param⟩) ++
    [⟨s!"{f.subject} -> {f.returns.display}", [], f.returns, .return_⟩]

/-- The types that are written in a declaration. -/
def Declaration.typeSites : Declaration → List TypeSite
  | .struct d => (TypeDecl.struct d).typeSites
  | .enum d => (TypeDecl.enum d).typeSites
  | .function f => f.typeSites

/-! ## Diagnostics about types -/

/-- The diagnostics about types that cannot cross the boundary. -/
def Report.aboutTypes (r : Report) : Report := r.filter (·.kind = .unsupportedType)

section AboutTypes

variable {location : Location} {subject : String} {table : TypeTable} {s : Surroundings}

@[simp]
theorem aboutTypes_append {r r' : Report} :
    aboutTypes (r ++ r') = aboutTypes r ++ aboutTypes r' := List.filter_append _ _

@[simp]
theorem aboutTypes_flatMap {α : Type} {as : List α} {f : α → Report} :
    aboutTypes (as.flatMap f) = as.flatMap fun a => aboutTypes (f a) := List.filter_flatMap

theorem Report.Within.aboutTypes_eq_nil {r : Report} (h : r.Within location (¬ ·.IsAboutType)) :
    aboutTypes r = [] := by
  refine List.filter_eq_nil_iff.mpr ?_
  intro x hx
  obtain ⟨p, subject, hp, rfl⟩ := h x hx
  exact fun hkind => hp (of_decide_eq_true (p := p.kind = .unsupportedType) hkind)

theorem aboutTypes_typeReport {t : TypeRef} :
    aboutTypes (typeReport location subject t) = typeReport location subject t := by
  cases t <;> rfl

private theorem aboutTypes_recursionReport {s : Schema} {id : TypeId} :
    aboutTypes (s.recursionReport location id) = s.recursionReport location id := by
  unfold Schema.recursionReport
  cases s.cycle? id <;> rfl

/-- A part of an unusable name is left out. -/
theorem aboutTypes_namedReport {name : String} {rest : Report} :
    aboutTypes (namedReport location subject name rest) =
      if isUsableName name then aboutTypes rest else [] := by
  unfold namedReport isUsableName
  cases hproblem : identifierProblem? name with
  | none => rfl
  | some p =>
    have hwithin : Within location (¬ ·.IsAboutType) [p.diagnostic location subject] :=
      within_diagnostic (not_isAboutType_of_identifierProblem? hproblem)
    exact hwithin.aboutTypes_eq_nil

theorem flatMap_withEarlier_snd {α β : Type} {as : List α} {f : α → List β} :
    ((withEarlier [] as).flatMap fun x => f x.2) = as.flatMap f := by
  conv_rhs => rw [← map_snd_withEarlier [] as, List.flatMap_map]

/-! ### Parts of declarations -/

theorem aboutTypes_fieldsReport {parts : List String} {scope : Scope} {owner : String}
    {fields : List FieldDecl} :
    (fieldSites parts owner fields).flatMap (·.report table location) =
      if parts.all isUsableName then
        aboutTypes (fieldsReport table scope location owner fields)
      else [] := by
  rw [fieldsReport, aboutTypes_flatMap, fieldSites, List.flatMap_map]
  simp only [aboutTypes_namedReport, aboutTypes_append,
    Scope.within_conflictReport.aboutTypes_eq_nil, List.nil_append, aboutTypes_typeReport]
  rw [flatMap_withEarlier_snd (f := fun f : FieldDecl => if isUsableName f.name then
    typeReport location s!"{owner}.{f.name}" (f.type.resolve table .field) else [])]
  by_cases h : parts.all isUsableName = true
  · simp [TypeSite.report, TypeSite.isReached, h]
  · simp [TypeSite.report, TypeSite.isReached, h]

theorem PayloadDecl.aboutTypes_report {parts : List String} {variant : String} {p : PayloadDecl} :
    (p.typeSites parts subject).flatMap (·.report table location) =
      if parts.all isUsableName then aboutTypes (p.report table location variant subject)
      else [] := by
  cases p with
  | unit => simp [PayloadDecl.typeSites, PayloadDecl.report, aboutTypes]
  | tuple elems =>
    rw [PayloadDecl.typeSites, PayloadDecl.report, aboutTypes_flatMap, List.flatMap_map]
    by_cases h : parts.all isUsableName = true
    · simp [TypeSite.report, TypeSite.isReached, h, aboutTypes_typeReport]
    · simp [TypeSite.report, TypeSite.isReached, h]
  | struct fields => exact aboutTypes_fieldsReport

/-- The content of a type. -/
theorem TypeDecl.aboutTypes_contentReport {t : TypeDecl} :
    aboutTypes (t.contentReport table) = t.typeSites.flatMap (·.report table t.location) := by
  cases t with
  | struct d =>
    have hfields : (fieldSites [] d.name d.fields).flatMap (·.report table d.location) =
        if ([] : List String).all isUsableName then
          aboutTypes ((TypeDecl.struct d).contentReport table) else [] :=
      aboutTypes_fieldsReport
    exact hfields.symm
  | enum d =>
    rw [TypeDecl.contentReport, aboutTypes_append, EnumDecl.within_emptyReport.aboutTypes_eq_nil,
      List.nil_append, EnumDecl.variantsReport, aboutTypes_flatMap, TypeDecl.typeSites,
      List.flatMap_assoc]
    simp only [aboutTypes_namedReport, aboutTypes_append,
      Scope.within_conflictReport.aboutTypes_eq_nil, List.nil_append]
    rw [flatMap_withEarlier_snd (f := fun v : VariantDecl => if isUsableName v.name then
      aboutTypes (v.payload.report table d.location v.name s!"{d.name}::{v.name}") else [])]
    refine List.flatMap_congr fun v _ => ?_
    have hpayload : (v.payload.typeSites [v.name] s!"{d.name}::{v.name}").flatMap
        (·.report table d.location) = if [v.name].all isUsableName then
          aboutTypes (v.payload.report table d.location v.name s!"{d.name}::{v.name}") else [] :=
      PayloadDecl.aboutTypes_report
    simpa [TypeDecl.location] using hpayload.symm

/-- The content of a function. -/
theorem FunctionDecl.aboutTypes_contentReport {earlier : List FunctionDecl} {f : FunctionDecl} :
    aboutTypes (f.contentReport s earlier) =
      f.typeSites.flatMap (·.report s.table f.location) := by
  rw [FunctionDecl.contentReport, aboutTypes_append, aboutTypes_append,
    within_memberReport.aboutTypes_eq_nil, List.nil_append, aboutTypes_typeReport,
    FunctionDecl.paramsReport, aboutTypes_flatMap]
  simp only [aboutTypes_namedReport, aboutTypes_append,
    Scope.within_conflictReport.aboutTypes_eq_nil, List.nil_append, aboutTypes_typeReport,
    ParamDecl.within_transferReport.aboutTypes_eq_nil, List.append_nil]
  rw [flatMap_withEarlier_snd (f := fun p : ParamDecl => if isUsableName p.name then
    typeReport f.location s!"{f.subject}({p.name})" (p.type.resolve s.table .param) else [])]
  simp [FunctionDecl.typeSites, TypeSite.report, TypeSite.isReached, List.flatMap_map]

/-! ### Declarations -/

/-- The report that a declared type holds itself, where `earlier` is declared before it. -/
def Declaration.recursionReport (s : Schema) (earlier : List Declaration) (d : Declaration) :
    Report :=
  match d.type? with
  | none => []
  | some t =>
    s.recursionReport t.location ⟨(Registry.ofRegistered (registered earlier)).types.length⟩

/-- A declaration that takes part. -/
theorem Declaration.aboutTypes_registeredReport (hs : s.symbolConflicts = s.schema.symbolConflicts)
    {earlier : List Declaration} {d : Declaration} :
    aboutTypes (d.registeredReport s (registered earlier)) =
      d.typeSites.flatMap (·.report s.table d.location) ++ d.recursionReport s.schema earlier := by
  have hsymbols {item : ItemId} : aboutTypes (s.symbolReport d.location item) = [] :=
    (Surroundings.within_symbolReport hs).aboutTypes_eq_nil
  unfold Declaration.registeredReport
  rw [aboutTypes_append, within_topReport.aboutTypes_eq_nil, List.nil_append]
  cases d with
  | function f =>
    dsimp only
    rw [aboutTypes_append, hsymbols, FunctionDecl.aboutTypes_contentReport]
    rfl
  | struct d =>
    dsimp only
    rw [aboutTypes_append, aboutTypes_append, hsymbols, aboutTypes_recursionReport, List.append_nil]
    exact congrArg (· ++ _) (TypeDecl.struct d).aboutTypes_contentReport
  | enum d =>
    dsimp only
    rw [aboutTypes_append, aboutTypes_append, hsymbols, aboutTypes_recursionReport, List.append_nil]
    exact congrArg (· ++ _) (TypeDecl.enum d).aboutTypes_contentReport

/-- What is reported about the types in a declaration, where `earlier` is declared before it. -/
def Declaration.typesReport (s : Surroundings) (earlier : List Declaration) (d : Declaration) :
    Report :=
  if (d.refusal? earlier).isNone then
    d.typeSites.flatMap (·.report s.table d.location) ++ d.recursionReport s.schema earlier
  else []

theorem Declaration.aboutTypes_report (hs : s.symbolConflicts = s.schema.symbolConflicts)
    {earlier : List Declaration} {d : Declaration} :
    aboutTypes (d.report s earlier) = d.typesReport s earlier := by
  unfold Declaration.report Declaration.typesReport
  cases hrefusal : d.refusal? earlier with
  | some refusal =>
    have hwithin : Within d.location (¬ ·.IsAboutType)
        [refusal.2.diagnostic d.location refusal.1] :=
      within_diagnostic (Declaration.not_isAboutType_of_refusal? hrefusal)
    exact hwithin.aboutTypes_eq_nil
  | none => exact Declaration.aboutTypes_registeredReport hs

end AboutTypes

/-! ## Lists of declarations -/

section Lists

variable {facade : String} {ds : List Declaration}

/-- **The diagnostics about types** are those of the types whose check is reached, and those about
types that hold themselves. -/
theorem aboutTypes_report : aboutTypes (Schema.report facade ds) =
    (withEarlier [] ds).flatMap fun (earlier, d) =>
      d.typesReport (Surroundings.ofDeclarations facade ds) earlier := by
  rw [Schema.report, aboutTypes_flatMap]
  exact List.flatMap_congr fun _ _ => Declaration.aboutTypes_report rfl

theorem Declaration.isBuiltinTypeName_of_refusal? {front : List Declaration} {d : Declaration}
    (h : d.refusal? front = none) {t : TypeDecl} (ht : d.type? = some t) :
    isBuiltinTypeName t.name = false := by
  unfold Declaration.refusal? at h
  split at h
  · cases h
  cases d with
  | function f => cases ht
  | struct d | enum d =>
    cases ht
    dsimp only at h
    split at h
    · cases h
    · exact eq_false_of_ne_true ‹_›

/-- No type that takes part has a name whose meaning is fixed. -/
theorem isBuiltinTypeName_table : ∀ entry ∈ (Registry.ofDeclarations ds).table,
    isBuiltinTypeName entry.1 = false := by
  rintro ⟨name, id⟩ hentry
  obtain ⟨⟨t, i⟩, hi, heq⟩ := List.mem_map.mp hentry
  cases heq
  obtain ⟨d, hd, hdt⟩ := List.mem_filterMap.mp (List.fst_mem_of_mem_zipIdx hi)
  obtain ⟨front, back, hregistered⟩ := List.append_of_mem hd
  obtain ⟨front', back', -, -, hrefusal⟩ := exists_split_of_registered hregistered
  exact Declaration.isBuiltinTypeName_of_refusal? hrefusal hdt

/-- A type whose check is reached is reported. -/
theorem mem_report_of_isReached {front back : List Declaration} {d : Declaration}
    (hds : ds = front ++ d :: back) (hrefusal : d.refusal? front = none) {x : TypeSite}
    (hx : x ∈ d.typeSites) (hreached : x.isReached = true) {reason : String}
    (hreason : x.type.resolve (Registry.ofDeclarations ds).table x.position = .unsupported reason) :
    (Problem.unsupportedType reason x.subject).diagnostic d.location x.subject ∈
      Schema.report facade ds := by
  refine List.mem_of_mem_filter (p := (·.kind = .unsupportedType)) ?_
  show _ ∈ aboutTypes (Schema.report facade ds)
  rw [aboutTypes_report]
  refine List.mem_flatMap.mpr ⟨(front, d), mem_withEarlier_iff.mpr ⟨front, back, hds, rfl⟩, ?_⟩
  have hsite : (Problem.unsupportedType reason x.subject).diagnostic d.location x.subject ∈
      x.report (Surroundings.ofDeclarations facade ds).table d.location := by
    have htable : (Surroundings.ofDeclarations facade ds).table =
        (Registry.ofDeclarations ds).table := rfl
    rw [TypeSite.report, if_pos hreached, htable, hreason]
    exact List.mem_singleton_self _
  simp only [Declaration.typesReport, hrefusal, Option.isNone_none, if_true]
  exact List.mem_append_left _ (List.mem_flatMap.mpr ⟨x, hx, hsite⟩)

/-- All types in accepted declarations can cross the boundary. -/
theorem Accepted.not_isRefused_of_mem_typeSites {s : Schema} (h : Accepted facade ds s)
    {d : Declaration} (hd : d ∈ ds) {x : TypeSite} (hx : x ∈ d.typeSites) :
    ¬ (x.type.resolve (Registry.ofRegistered ds).table x.position).IsRefused := by
  suffices hadmissible : (x.type.resolve (Registry.ofRegistered ds).table x.position).Admissible
      (Registry.ofRegistered ds).table from hadmissible.not_isRefused
  have hfields {parts : List String} {owner : String} {fields : List FieldDecl}
      (hsound : ∀ f ∈ fields, f.IsSound (Registry.ofRegistered ds).table)
      (hx : x ∈ fieldSites parts owner fields) :
      (x.type.resolve (Registry.ofRegistered ds).table x.position).Admissible
        (Registry.ofRegistered ds).table := by
    obtain ⟨f, hf, rfl⟩ := List.mem_map.mp hx
    exact (hsound f hf).2
  cases d with
  | struct d => exact hfields (h.struct_fields (List.mem_filterMap.mpr ⟨_, hd, rfl⟩)) hx
  | enum d =>
    obtain ⟨v, hv, hx⟩ := List.mem_flatMap.mp hx
    have hpayload := ((h.enum_variants (List.mem_filterMap.mpr ⟨_, hd, rfl⟩)).2 v hv).2
    cases hcase : v.payload with
    | unit =>
      rw [hcase] at hx
      cases hx
    | tuple elems =>
      rw [hcase] at hx hpayload
      obtain ⟨⟨t, i⟩, hi, rfl⟩ := List.mem_map.mp hx
      exact hpayload t (List.fst_mem_of_mem_zipIdx hi)
    | struct fields =>
      rw [hcase] at hx hpayload
      exact hfields hpayload hx
  | function f =>
    have hf : f ∈ (Registry.ofRegistered ds).functions := List.mem_filterMap.mpr ⟨_, hd, rfl⟩
    obtain hx | hx := List.mem_append.mp hx
    · obtain ⟨p, hp, rfl⟩ := List.mem_map.mp hx
      exact (h.function_params hf p hp).2.1
    · obtain rfl := List.mem_singleton.mp hx
      exact h.function_returns hf

/-! ### Which types are reported -/

/-- The diagnostic is about a type that is written at a location: it has the subject of the type,
and its message starts with the type or with a part of it. -/
structure Diagnostic.IsAbout (location : Location) (x : TypeSite) (y : Diagnostic) : Prop where
  kind_eq : y.kind = .unsupportedType
  location_eq : y.location = location
  subject_eq : y.subject = x.subject
  names_part : ∃ (part : TypeExpr) (rest : String), part.IsPart x.type ∧
    y.message = "`" ++ part.display ++ "`" ++ rest

/-- The diagnostic about a refused type is about that type. -/
theorem isAbout_diagnostic {table : TypeTable}
    (hnames : ∀ entry ∈ table, isBuiltinTypeName entry.1 = false) {x : TypeSite} {reason : String}
    (hreason : x.type.resolve table x.position = .unsupported reason) (location : Location) :
    ((Problem.unsupportedType reason x.subject).diagnostic location x.subject).IsAbout
      location x := by
  refine ⟨rfl, rfl, rfl, ?_⟩
  obtain ⟨part, r, hpart, heq⟩ | hmeans := TypeExpr.refused_or_means hnames x.position x.type
  · rw [heq] at hreason
    obtain rfl := TypeRef.unsupported.inj hreason
    refine ⟨part, ": " ++ r.message ++ " (in `" ++ x.subject ++ "`)", hpart, ?_⟩
    have hmark : "`: " = "`" ++ ": " := by decide +kernel
    show "`" ++ part.display ++ "`: " ++ r.message ++ " (in `" ++ x.subject ++ "`)" = _
    rw [hmark]
    simp only [String.append_assoc]
  · have hsupported := hmeans.isSupported
    rw [hreason] at hsupported
    cases hsupported

/-- Which types are reported. -/
structure TypesAreReported (facade : String) (ds : List Declaration) : Prop where
  /-- A type that cannot cross the boundary is reported if its declaration takes part and all
  parts that it belongs to have usable names. -/
  reported : ∀ front d back, ds = front ++ d :: back → d.refusal? front = none →
    ∀ x ∈ d.typeSites, (∀ name ∈ x.parts, isUsableName name = true) →
      (x.type.resolve (Registry.ofDeclarations ds).table x.position).IsRefused →
        ∃ r, Schema.build facade ds = .error r ∧ ∃ y ∈ r, y.IsAbout d.location x
  /-- Besides them only types that hold themselves are reported under this kind. -/
  aboutTypes_eq : aboutTypes (Schema.report facade ds) = (withEarlier [] ds).flatMap
    fun (earlier, d) => d.typesReport (Surroundings.ofDeclarations facade ds) earlier
  /-- No declarations with such a type are accepted, wherever it is written. -/
  rejected : ∀ d ∈ ds, ∀ x ∈ d.typeSites,
    (x.type.resolve (Registry.ofDeclarations ds).table x.position).IsRefused →
      ∃ r, Schema.build facade ds = .error r

/-- **Which types are reported.** -/
theorem types_areReported (facade : String) (ds : List Declaration) :
    TypesAreReported facade ds := by
  have hbuild {y : Diagnostic} (hy : y ∈ Schema.report facade ds) :
      Schema.build facade ds = .error (Schema.report facade ds) :=
    Schema.build_eq_error_iff.mpr ⟨rfl, List.ne_nil_of_mem hy⟩
  refine ⟨?_, aboutTypes_report, ?_⟩
  · rintro front d back hds hrefusal x hx hparts ⟨reason, hreason⟩
    have hmem : (Problem.unsupportedType reason x.subject).diagnostic d.location x.subject ∈
        Schema.report facade ds :=
      mem_report_of_isReached hds hrefusal hx (List.all_eq_true.mpr hparts) hreason
    exact ⟨_, hbuild hmem, _, hmem, isAbout_diagnostic isBuiltinTypeName_table hreason _⟩
  · intro d hd x hx hrefused
    cases hresult : Schema.build facade ds with
    | error r => exact ⟨r, rfl⟩
    | ok s =>
      have haccepted := Schema.build_eq_ok_iff_accepted.mp hresult
      rw [Registry.ofDeclarations, registered_eq_self haccepted.refusal?_eq_none] at hrefused
      exact absurd hrefused (haccepted.not_isRefused_of_mem_typeSites hd hx)

/-- A struct with a field of an unusable name whose type cannot cross the boundary. -/
def strayDeclarations : List Declaration :=
  [.struct ⟨"Cat", [⟨"9lives", .path "Vec" [Demo.named "u8"]⟩], Demo.at_ 1⟩]

/-- The type of such a field is not reported, only its name. -/
theorem not_reported_unusable :
    ∃ d ∈ strayDeclarations, ∃ x ∈ d.typeSites,
      (x.type.resolve (Registry.ofDeclarations strayDeclarations).table x.position).IsRefused ∧
      ∃ r, Schema.build defaultFacade strayDeclarations = .error r ∧
        ∀ y ∈ r, y.kind ≠ .unsupportedType := by
  have hkinds : (Schema.report defaultFacade strayDeclarations).map (·.kind) =
      [.invalidIdentifier] := by decide +kernel
  have hne : Schema.report defaultFacade strayDeclarations ≠ [] := by
    intro hnil
    rw [hnil] at hkinds
    cases hkinds
  refine ⟨_, List.mem_singleton_self _, _, List.mem_singleton_self _,
    ⟨"`Vec<u8>`: containers are not supported across the boundary", by decide +kernel⟩, _,
    Schema.build_eq_error_iff.mpr ⟨rfl, hne⟩, ?_⟩
  intro y hy hkind
  have hmem := List.mem_map_of_mem (f := (·.kind)) hy
  rw [hkinds, hkind] at hmem
  cases List.mem_singleton.mp hmem

end Lists

end Boundary
