import Boundary.Proofs.Schema.Cycles
import Boundary.Proofs.Schema.Located
import Boundary.Proofs.Schema.Symbols
import Boundary.Proofs.Schema.TopLevel

/-!
# Types that hold themselves

A type mentions the exported types that stand in its fields or in the fields of its variants. Among
the declarations that take part, exactly the types that can be followed back to themselves are
reported, each with a shortest way back. So nothing of the kind is left in an accepted schema.

* `TypeRef.Mentions`, `Schema.Mentions`: the exported types that a type mentions.
* `Schema.OnCycle`: a type that mentions itself in some steps.
* `Schema.isShortestCycle_cycle?`, `Schema.isSome_cycle?_iff`: what is found, and when.
* `Diagnostic.IsRecursion`: a diagnostic about a type that holds itself.
* `mem_report_isRecursion_iff`: which diagnostics of this kind a report has.
* `RecursionIsReported`, `recursion_isReported`: they are about the types on cycles.
-/

namespace Boundary

/-! ## The graph of types -/

/-- An exported type that stands somewhere in a type. -/
inductive TypeRef.Mentions : TypeRef → TypeId → Prop
  | handle (id : TypeId) : Mentions (.handle id) id
  | option {inner : TypeRef} {id : TypeId} (h : Mentions inner id) : Mentions (.option inner) id
  | ok {ok err : TypeRef} {id : TypeId} (h : Mentions ok id) : Mentions (.result ok err) id
  | err {ok err : TypeRef} {id : TypeId} (h : Mentions err id) : Mentions (.result ok err) id

theorem TypeRef.mem_handles_iff {t : TypeRef} {id : TypeId} : id ∈ t.handles ↔ t.Mentions id := by
  constructor
  · intro h
    induction t with
    | handle id' =>
      obtain rfl := List.mem_singleton.mp h
      exact .handle id
    | option inner ih => exact .option (ih h)
    | result ok err ihok iherr =>
      obtain h | h := List.mem_append.mp h
      · exact .ok (ihok h)
      · exact .err (iherr h)
    | _ => cases h
  · intro h
    induction h with
    | handle id => exact List.mem_singleton_self id
    | option _ ih => exact ih
    | ok _ ih => exact List.mem_append_left _ ih
    | err _ ih => exact List.mem_append_right _ ih

namespace Schema

/-- A field of the type `a`, or a field of one of its variants, mentions the type `b`. -/
def Mentions (s : Schema) (a b : TypeId) : Prop :=
  (∃ x ∈ s.structs, x.id = a ∧ ∃ f ∈ x.fields, f.type.Mentions b) ∨
    ∃ x ∈ s.enums, x.id = a ∧ ∃ v ∈ x.variants, ∃ f ∈ v.payload.fields, f.type.Mentions b

/-- The type `id` mentions itself, by way of others or directly: `Mentions`, closed transitively. -/
def OnCycle (s : Schema) (id : TypeId) : Prop := Relation.TransGen s.Mentions id id

variable {s : Schema}

theorem mem_getD_map_iff {α β : Type} {o : Option α} {f : α → List β} {b : β} :
    b ∈ (o.map f).getD [] ↔ ∃ a, o = some a ∧ b ∈ f a := by
  cases o <;> simp

theorem mem_mentions_iff (h : s.typeIds.Nodup) {a b : TypeId} :
    b ∈ s.mentions a ↔ s.Mentions a b := by
  rw [Schema.mentions, List.mem_append, mem_getD_map_iff, mem_getD_map_iff]
  simp only [struct?_eq_some_iff h, enum?_eq_some_iff h, ExportedStruct.mentions,
    ExportedEnum.mentions, List.mem_flatMap, TypeRef.mem_handles_iff, and_assoc, Mentions]

/-- Only exported types mention others: `mentions` is empty off `typeIds`. -/
theorem mem_typeIds_of_mentions_ne_nil {id : TypeId} (h : s.mentions id ≠ []) :
    id ∈ s.typeIds := by
  obtain ⟨b, hb⟩ := List.exists_mem_of_ne_nil _ h
  rw [Schema.mentions, List.mem_append, mem_getD_map_iff, mem_getD_map_iff] at hb
  obtain ⟨x, hx, -⟩ | ⟨x, hx, -⟩ := hb
  · obtain ⟨hmem, rfl⟩ := mem_of_struct? hx
    exact Accepted.mem_typeIds_struct hmem
  · obtain ⟨hmem, rfl⟩ := mem_of_enum? hx
    exact Accepted.mem_typeIds_enum hmem

theorem length_typeIds : s.typeIds.length = s.structs.length + s.enums.length := by
  simp [Schema.typeIds]

/-! ### The search -/

theorem mentions_relation (h : s.typeIds.Nodup) :
    (fun v next => next ∈ s.mentions v) = s.Mentions :=
  funext fun _ => funext fun _ => propext (mem_mentions_iff h)

/-- The way that `cycle?` finds leads from the type back to it, and none is shorter. -/
theorem isShortestCycle_cycle? (h : s.typeIds.Nodup) {id : TypeId} {path : List TypeId}
    (hpath : s.cycle? id = some path) : IsShortestCycle s.Mentions id path :=
  mentions_relation h ▸ Frontier.isShortestCycle_search hpath

/-- `cycle?` finds a way exactly from the types on cycles. -/
theorem isSome_cycle?_iff (h : s.typeIds.Nodup) {id : TypeId} :
    (s.cycle? id).isSome ↔ s.OnCycle id := by
  rw [OnCycle, ← mentions_relation h, ← exists_isCycle_iff_transGen]
  constructor
  · intro hsome
    obtain ⟨path, hpath⟩ := Option.isSome_iff_exists.mp hsome
    exact ⟨path, (Frontier.isShortestCycle_search hpath).toIsCycle⟩
  · rintro ⟨path, hpath⟩
    by_contra hnone
    exact Frontier.not_isCycle_of_search (fun _ => mem_typeIds_of_mentions_ne_nil)
      (Nat.le_of_eq length_typeIds) (Option.not_isSome_iff_eq_none.mp hnone) path hpath

/-- The search with a queue comes to an end, with the outcome of `cycle?`, the search by levels. -/
theorem finds_cycle? (s : Schema) (id : TypeId) :
    Frontier.Finds id s.mentions ⟨[], [[id]]⟩ (s.cycle? id) :=
  Frontier.finds_search (fun _ => mem_typeIds_of_mentions_ne_nil) (Nat.le_of_eq length_typeIds)

end Schema

/-! ## Diagnostics about types that hold themselves -/

/-- The diagnostic `d` says that a type holds itself. -/
def Diagnostic.IsRecursion (d : Diagnostic) : Prop :=
  ∃ name cycle, d.message = (Problem.recursiveType name cycle).message

/-- Only the message about a type that holds itself ends in this letter. -/
theorem Problem.getLast?_message {p : Problem} :
    p.message.toList.getLast? = some 'n' ↔ p.IsRecursion := by
  have hends {text rest : String} (hne : rest ≠ "") :
      (text ++ rest).toList.getLast? = rest.toList.getLast? := by
    have hsome : rest.toList.getLast? ≠ none := by simpa using hne
    rw [String.toList_append, List.getLast?_append,
      Option.or_of_isSome (Option.isSome_iff_ne_none.mpr hsome)]
  cases p with
  | recursiveType name cycle =>
    exact iff_of_true ((hends (by decide +kernel)).trans (by decide +kernel)) ⟨name, cycle, rfl⟩
  | _ =>
    refine iff_of_false ?_ (by rintro ⟨_, _, ⟨⟩⟩)
    exact (hends (by decide +kernel)).trans_ne (by decide +kernel)

/-- A diagnostic says so exactly if its problem is of this kind. -/
theorem Problem.isRecursion_diagnostic_iff {p : Problem} {location : Location} {subject : String} :
    (p.diagnostic location subject).IsRecursion ↔ p.IsRecursion := by
  constructor
  · rintro ⟨name, cycle, hmessage⟩
    have hrecursive := getLast?_message.mpr ⟨name, cycle, rfl⟩
    rw [← hmessage] at hrecursive
    exact getLast?_message.mp hrecursive
  · rintro ⟨name, cycle, rfl⟩
    exact ⟨name, cycle, rfl⟩

/-- A report about other problems has no such diagnostic. -/
theorem Report.Within.not_isRecursion_of_mem {location : Location} {r : Report}
    (h : r.Within location (¬ ·.IsRecursion)) {x : Diagnostic} (hx : x ∈ r) : ¬ x.IsRecursion := by
  obtain ⟨p, subject, hp, rfl⟩ := h x hx
  exact fun hrecursive => hp (Problem.isRecursion_diagnostic_iff.mp hrecursive)

/-! ## Declarations that take part -/

private theorem registered_concat (ds : List Declaration) (d : Declaration) :
    registered (ds ++ [d]) = registered ds ++ if (d.refusal? ds).isNone then [d] else [] := by
  rw [registered, withEarlier_append, List.filterMap_append, ← registered]
  cases hrefusal : d.refusal? ds <;> simp [withEarlier, hrefusal]

/-- What stands before a declaration that takes part, among those that do. -/
theorem registered_split {front : List Declaration} {d : Declaration}
    (h : d.refusal? front = none) (back : List Declaration) :
    ∃ back', registered (front ++ d :: back) = registered front ++ d :: back' := by
  rw [registered, withEarlier_append, List.filterMap_append, ← registered]
  simp [withEarlier, h]

/-- A declaration that takes part stands in the list, behind the same declarations. -/
theorem exists_split_of_registered {ds front back : List Declaration} {d : Declaration}
    (h : registered ds = front ++ d :: back) :
    ∃ front' back', ds = front' ++ d :: back' ∧ registered front' = front ∧
      d.refusal? front' = none := by
  induction ds using List.reverseRecOn generalizing back with
  | nil => simp [registered, withEarlier] at h
  | append_singleton ds e ih =>
    rw [registered_concat] at h
    split at h
    · rename_i hrefusal
      obtain rfl | ⟨back, b, rfl⟩ := List.eq_nil_or_concat' back
      · obtain ⟨hfront, heq⟩ := List.append_inj' h rfl
        cases heq
        exact ⟨ds, [], rfl, hfront, Option.isNone_iff_eq_none.mp hrefusal⟩
      · rw [← List.cons_append, ← List.append_assoc] at h
        obtain ⟨front', back', rfl, hfront, hrefusal⟩ := ih (List.append_inj' h rfl).1
        exact ⟨front', back' ++ [e], by simp, hfront, hrefusal⟩
    · rw [List.append_nil] at h
      obtain ⟨front', back', rfl, hfront, hrefusal⟩ := ih h
      exact ⟨front', back' ++ [e], by simp, hfront, hrefusal⟩

private theorem mem_of_mem_registered {ds : List Declaration} {d : Declaration}
    (h : d ∈ registered ds) : d ∈ ds := by
  obtain ⟨front, back, hds⟩ := List.append_of_mem h
  obtain ⟨front', back', rfl, -, -⟩ := exists_split_of_registered hds
  simp

/-- No two types that take part have the same name. -/
theorem nodup_registeredNames (ds : List Declaration) :
    (((registered ds).filterMap Declaration.type?).map TypeDecl.name).Nodup := by
  rw [List.map_filterMap]
  refine nodup_filterMap_of_fresh ?_
  rintro front d back name hds hname hmem
  obtain ⟨t, ht, rfl⟩ := Option.map_eq_some_iff.mp hname
  rw [← List.map_filterMap] at hmem
  obtain ⟨u, hu, heq⟩ := List.mem_map.mp hmem
  obtain ⟨earlier, -, -, rfl, hrefusal⟩ := exists_split_of_registered hds
  obtain ⟨e, he, heu⟩ := List.mem_filterMap.mp hu
  exact Declaration.name_ne_of_refusal? hrefusal ht
    (List.mem_filterMap.mpr ⟨e, mem_of_mem_registered he, heu⟩) heq

/-! ## The report -/

variable {facade : String} {ds : List Declaration}

theorem Schema.mem_recursionReport_iff {s : Schema} {location : Location} {id : TypeId}
    {x : Diagnostic} : x ∈ s.recursionReport location id ↔ ∃ cycle, s.cycle? id = some cycle ∧
      x = (Problem.recursiveType (s.typeName id) (cycle.map s.typeName)).diagnostic location
        (s.typeName id) := by
  unfold Schema.recursionReport
  cases s.cycle? id <;> simp

/-- The diagnostics of this kind in the `registeredReport` of one declaration. -/
theorem Declaration.mem_registeredReport_isRecursion_iff {s : Surroundings}
    (hs : s.symbolConflicts = s.schema.symbolConflicts) {earlier : List Declaration}
    {d : Declaration} {x : Diagnostic} :
    x ∈ d.registeredReport s earlier ∧ x.IsRecursion ↔ ∃ t, d.type? = some t ∧
      x ∈ s.schema.recursionReport t.location ⟨(Registry.ofRegistered earlier).types.length⟩ := by
  unfold Declaration.registeredReport
  cases d with
  | function f =>
    refine iff_of_false ?_ (by rintro ⟨t, ⟨⟩, -⟩)
    rintro ⟨hx, hrecursive⟩
    exact (within_topReport.not_isRecursion.append (FunctionDecl.within_contentReport.append
      (Surroundings.within_symbolReport hs).not_isRecursion)).not_isRecursion_of_mem hx hrecursive
  | struct d | enum d =>
    constructor
    · rintro ⟨hx, hrecursive⟩
      simp only [List.mem_append] at hx
      obtain hx | (hx | hx) | hx := hx
      · exact absurd hrecursive (within_topReport.not_isRecursion.not_isRecursion_of_mem hx)
      · simp only [Declaration.type?, Option.map_some, Option.getD_some] at hx
        exact absurd hrecursive (TypeDecl.within_contentReport.not_isRecursion_of_mem hx)
      · exact ⟨_, rfl, hx⟩
      · have hwithin {item : ItemId} : (s.symbolReport d.location item).Within d.location _ :=
          Surroundings.within_symbolReport hs
        exact absurd hrecursive (hwithin.not_isRecursion.not_isRecursion_of_mem hx)
    · rintro ⟨t, ⟨⟩, hx⟩
      refine ⟨List.mem_append_right _ (List.mem_append_left _ (List.mem_append_right _ hx)), ?_⟩
      obtain ⟨cycle, -, rfl⟩ := Schema.mem_recursionReport_iff.mp hx
      exact Problem.isRecursion_diagnostic_iff.mpr ⟨_, _, rfl⟩

/-- **The diagnostics about types that hold themselves** are those of the types that take part. -/
theorem mem_report_isRecursion_iff {x : Diagnostic} :
    x ∈ Schema.report facade ds ∧ x.IsRecursion ↔
      ∃ id t, (Registry.ofDeclarations ds).type? id = some t ∧
        x ∈ (Surroundings.ofDeclarations facade ds).schema.recursionReport t.location id := by
  constructor
  · rintro ⟨hx, hrecursive⟩
    obtain ⟨⟨earlier, d⟩, hd, hx⟩ := List.mem_flatMap.mp hx
    obtain ⟨front, back, hds, rfl⟩ := mem_withEarlier_iff.mp hd
    simp only [Declaration.report] at hx
    split at hx
    · rename_i hrefusal
      have hplain := Problem.not_isRecursion_of_not_isAboutType _
        (Declaration.not_isAboutType_of_refusal? hrefusal)
      obtain rfl := List.mem_singleton.mp hx
      exact absurd (Problem.isRecursion_diagnostic_iff.mp hrecursive) hplain
    · rename_i hrefusal
      obtain ⟨t, ht, hx⟩ := (Declaration.mem_registeredReport_isRecursion_iff rfl).mp
        ⟨hx, hrecursive⟩
      refine ⟨_, t, ?_, hx⟩
      obtain ⟨back', hregistered⟩ := registered_split hrefusal back
      rw [hds, Registry.type?, Registry.ofDeclarations, hregistered, Registry.ofRegistered,
        List.filterMap_append, List.filterMap_cons_some ht]
      simp [Registry.ofRegistered]
  · rintro ⟨id, t, ht, hx⟩
    obtain ⟨front, d, back, hregistered, hdt, hlength⟩ := exists_split_of_getElem?_filterMap ht
    obtain ⟨front', back', hds, rfl, hrefusal⟩ := exists_split_of_registered hregistered
    have hid : id = ⟨(Registry.ofRegistered (registered front')).types.length⟩ :=
      congrArg TypeId.mk hlength.symm
    rw [hid] at hx
    obtain ⟨hx, hrecursive⟩ := (Declaration.mem_registeredReport_isRecursion_iff rfl).mpr
      ⟨t, hdt, hx⟩
    refine ⟨List.mem_flatMap.mpr ⟨(front', d), mem_withEarlier_iff.mpr ⟨front', back', hds, rfl⟩,
      ?_⟩, hrecursive⟩
    simp only [Declaration.report, hrefusal]
    exact hx

/-- The name that a type is reported by is the declared one. -/
theorem typeName_ofDeclarations {id : TypeId} {t : TypeDecl}
    (ht : (Registry.ofDeclarations ds).type? id = some t) :
    (Surroundings.ofDeclarations facade ds).schema.typeName id = t.name :=
  typeName_schema _ ht

theorem nodup_typeIds_ofDeclarations :
    (Surroundings.ofDeclarations facade ds).schema.typeIds.Nodup :=
  nodup_typeIds_schema _

/-- A diagnostic of this kind names a type that takes part, and the way back that is found. -/
theorem exists_cycle_of_isRecursion {x : Diagnostic} (hx : x ∈ Schema.report facade ds)
    (hrecursive : x.IsRecursion) :
    ∃ id t cycle, (Registry.ofDeclarations ds).type? id = some t ∧
      (Surroundings.ofDeclarations facade ds).schema.cycle? id = some cycle ∧
      x = (Problem.recursiveType t.name (cycle.map
        (Surroundings.ofDeclarations facade ds).schema.typeName)).diagnostic t.location t.name := by
  obtain ⟨id, t, ht, hx⟩ := mem_report_isRecursion_iff.mp ⟨hx, hrecursive⟩
  obtain ⟨cycle, hcycle, rfl⟩ := Schema.mem_recursionReport_iff.mp hx
  exact ⟨id, t, cycle, ht, hcycle, by rw [typeName_ofDeclarations ht]⟩

/-- A type that takes part is reported exactly if it is `OnCycle`. -/
theorem reported_iff_onCycle {id : TypeId} {t : TypeDecl}
    (ht : (Registry.ofDeclarations ds).type? id = some t) :
    (∃ cycle, (Problem.recursiveType t.name cycle).diagnostic t.location t.name ∈
      Schema.report facade ds) ↔ (Surroundings.ofDeclarations facade ds).schema.OnCycle id := by
  rw [← Schema.isSome_cycle?_iff nodup_typeIds_ofDeclarations]
  constructor
  · rintro ⟨cycle, hx⟩
    obtain ⟨id', t', cycle', ht', hcycle', heq⟩ :=
      exists_cycle_of_isRecursion hx (Problem.isRecursion_diagnostic_iff.mpr ⟨_, _, rfl⟩)
    -- The subject tells the type, since types that take part have different names.
    have hsubject : t.name = t'.name := congrArg Diagnostic.subject heq
    have hindex := place_eq_of_key_eq (nodup_registeredNames ds) ht ht' hsubject
    obtain rfl : id = id' := congrArg TypeId.mk hindex
    rw [hcycle']
    rfl
  · intro hsome
    obtain ⟨cycle, hcycle⟩ := Option.isSome_iff_exists.mp hsome
    have hmem := (@Schema.mem_recursionReport_iff _ t.location id _).mpr ⟨cycle, hcycle, rfl⟩
    rw [typeName_ofDeclarations ht] at hmem
    exact ⟨_, (mem_report_isRecursion_iff.mpr ⟨id, t, ht, hmem⟩).1⟩

/-- No type of an accepted schema lies on a cycle. -/
theorem not_onCycle_of_build
    (h : Schema.build facade ds = .ok (Surroundings.ofDeclarations facade ds).schema)
    (id : TypeId) : ¬ (Surroundings.ofDeclarations facade ds).schema.OnCycle id := by
  intro hcycle
  have haccepted := Schema.build_eq_ok_iff_accepted.mp h
  -- A type on a cycle mentions others, so it is one of those that take part.
  obtain ⟨b, hb, -⟩ := Relation.TransGen.head'_iff.mp hcycle
  have hid := Schema.mem_typeIds_of_mentions_ne_nil
    (List.ne_nil_of_mem ((Schema.mem_mentions_iff nodup_typeIds_ofDeclarations).mpr hb))
  obtain ⟨t, ht⟩ := haccepted.exists_type_of_mem_typeIds hid
  rw [← registered_eq_self haccepted.refusal?_eq_none] at ht
  obtain ⟨cycle, hx⟩ := (reported_iff_onCycle ht).mpr hcycle
  rw [(Schema.build_eq_ok_iff.mp h).1] at hx
  cases hx

/-- Types that hold themselves are reported exactly: what `Schema.report` says about recursion. -/
structure RecursionIsReported (facade : String) (ds : List Declaration) (s : Schema) : Prop where
  /-- A type is reported exactly if it lies on a cycle. -/
  reported_iff : ∀ id t, (Registry.ofDeclarations ds).type? id = some t →
    ((∃ cycle, (Problem.recursiveType t.name cycle).diagnostic t.location t.name ∈
      Schema.report facade ds) ↔ s.OnCycle id)
  /-- Every diagnostic of this kind is about a type that takes part, and names the way back that
  is found from it. -/
  names_cycle : ∀ x ∈ Schema.report facade ds, x.IsRecursion → ∃ id t cycle,
    (Registry.ofDeclarations ds).type? id = some t ∧ s.cycle? id = some cycle ∧
      x = (Problem.recursiveType t.name (cycle.map s.typeName)).diagnostic t.location t.name
  /-- The search for a way back comes to an end, whether it finds one or not. -/
  finds : ∀ id, Frontier.Finds id s.mentions ⟨[], [[id]]⟩ (s.cycle? id)
  /-- What is found is a way from the type back to it, and none is shorter. -/
  isShortestCycle : ∀ id cycle, s.cycle? id = some cycle → IsShortestCycle s.Mentions id cycle
  /-- No type of an accepted schema lies on a cycle. -/
  acyclic : Schema.build facade ds = .ok s → ∀ id, ¬ s.OnCycle id

/-- **Types that hold themselves are reported exactly.** -/
theorem recursion_isReported (facade : String) (ds : List Declaration) :
    RecursionIsReported facade ds (Surroundings.ofDeclarations facade ds).schema :=
  ⟨fun _ _ => reported_iff_onCycle, fun _ => exists_cycle_of_isRecursion, Schema.finds_cycle? _,
    fun _ _ => Schema.isShortestCycle_cycle? nodup_typeIds_ofDeclarations, not_onCycle_of_build⟩

end Boundary
