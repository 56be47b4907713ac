import Mathlib.Data.List.Sort
import Boundary.Demo.Declarations
import Boundary.Proofs.Schema.Recursion

/-!
# The order of diagnostics

Problems are found in four passes over the declarations: names at the top level, then types and
functions, then types that hold themselves, then symbols. The later passes no longer see the
declarations, only the numbers of exported items. Each finding has the place of a declaration, and
in the end the findings are sorted by place without changing the order of those at one place. A
report lists them in just this order.

* `places`, `Schema.itemLocation?`, `itemPlace?`: what is known of a declaration in the later
  passes.
* `findings`: what the four passes find.
* `sorted_eq_flatMap_at`: sorting puts the findings of one place together.
* `report_eq_sorted_findings`: a report is the sorted list of findings.
* `ReportedInOrder`, `report_inOrder`: diagnostics stand at the declarations, in their order.
-/

namespace Boundary

open Report

/-! ## Findings -/

/-- A diagnostic with the place of the declaration that it is about. -/
structure Finding where
  place : Nat
  diagnostic : Diagnostic

/-- What `report` finds about the items of a list, each with its place. -/
def found {α : Type} (place : α → Nat) (report : α → Report) (as : List α) : List Finding :=
  as.flatMap fun a => (report a).map (⟨place a, ·⟩)

/-- The findings at `place`, in the order of `fs`. -/
def findingsAt (place : Nat) (fs : List Finding) : Report :=
  (fs.filter (·.place = place)).map (·.diagnostic)

/-- The findings in the order of their places, by a stable sort. -/
def sortedFindings (fs : List Finding) : Report :=
  (fs.mergeSort fun f g => f.place ≤ g.place).map (·.diagnostic)

/-- The types or the functions that take part, each with the place of its declaration, where
`earlier` is declared before them. -/
def places {α : Type} (part? : Declaration → Option α) (earlier ds : List Declaration) :
    List (Nat × α) :=
  (withEarlier earlier ds).filterMap fun (earlier, d) =>
    if (d.refusal? earlier).isNone then (part? d).map (earlier.length, ·) else none

/-- The place in `ds` of the declaration of an item. -/
def itemPlace? (ds : List Declaration) : ItemId → Option Nat
  | .type id => (places Declaration.type? [] ds)[id.index]?.map (·.1)
  | .function id => (places Declaration.function? [] ds)[id.index]?.map (·.1)

/-- The location of an exported type, as the schema has it. -/
def Schema.typeLocation (s : Schema) (id : TypeId) : Location :=
  match s.struct? id with
  | some x => x.location
  | none => ((s.enum? id).map (·.location)).getD {}

/-- The location of an exported item, as the schema has it. -/
def Schema.itemLocation? (s : Schema) : ItemId → Option Location
  | .type id => some (s.typeLocation id)
  | .function id => (s.function? id).map (·.location)

/-! ### The four passes -/

section Passes

variable (s : Surroundings) (ds : List Declaration)

/-- The first pass: refused declarations and names at the top level. -/
def declareFindings : List Finding :=
  found (·.1.length)
    (fun (earlier, d) =>
      match d.refusal? earlier with
      | some (subject, p) => [p.diagnostic d.location subject]
      | none => d.topReport s.facade (registered earlier))
    (withEarlier [] ds)

/-- The second pass: the content of types, then of functions. -/
def resolveFindings : List Finding :=
  found (·.1) (fun (_, t) => t.contentReport s.table) (places Declaration.type? [] ds) ++
    found (·.2.1) (fun (earlier, _, f) => f.contentReport s (earlier.map (·.2)))
      (withEarlier [] (places Declaration.function? [] ds))

/-- The third pass: types that hold themselves, by number. -/
def recursionFindings : List Finding :=
  found (·.1.1) (fun (_, i) => s.schema.recursionReport (s.schema.typeLocation ⟨i⟩) ⟨i⟩)
    (places Declaration.type? [] ds).zipIdx

/-- A symbol that is used twice, found for the item that uses it later. -/
def symbolFinding? (u : SymbolUse) (p : Problem) : Option Finding := do
  let place ← itemPlace? ds u.item
  let location ← s.schema.itemLocation? u.item
  return ⟨place, p.diagnostic location u.subject⟩

/-- The fourth pass: symbols that are used twice, in the order of the entry points. -/
def symbolFindings : List Finding :=
  s.symbolConflicts.filterMap fun (u, p) => symbolFinding? s ds u p

/-- What the four passes find. -/
def findings : List Finding :=
  declareFindings s ds ++ resolveFindings s ds ++ recursionFindings s ds ++ symbolFindings s ds

end Passes

/-! ## Sorting -/

section Sorting

variable {place n : Nat} {fs gs : List Finding}

@[simp]
theorem findingsAt_append : findingsAt place (fs ++ gs) =
    findingsAt place fs ++ findingsAt place gs := by
  simp [findingsAt]

/-- The findings at `place` are those about the items with that `key`. -/
theorem findingsAt_found {α : Type} {key : α → Nat} {report : α → Report} {as : List α} :
    findingsAt place (found key report as) = (as.filter (key · = place)).flatMap report := by
  induction as with
  | nil => rfl
  | cons a rest ih =>
    rw [found, List.flatMap_cons, ← found, findingsAt_append, ih]
    by_cases h : key a = place
    · rw [List.filter_cons_of_pos (by simpa using h), List.flatMap_cons]
      simp [findingsAt, h, List.filter_map, Function.comp_def]
    · rw [List.filter_cons_of_neg (by simpa using h)]
      simp [findingsAt, h, List.filter_map, Function.comp_def]

/-- What stands at the last place stands at the end of a sorted list. -/
theorem eq_append_last_of_pairwise (h : fs.Pairwise fun f g => f.place ≤ g.place)
    (hlt : ∀ f ∈ fs, f.place < n + 1) :
    fs = fs.filter (·.place < n) ++ fs.filter (·.place = n) := by
  induction fs with
  | nil => rfl
  | cons f rest ih =>
    have ih := ih h.of_cons fun g hg => hlt g (List.mem_cons_of_mem _ hg)
    have hf := hlt f List.mem_cons_self
    by_cases hplace : f.place < n
    · have hne : ¬ f.place = n := by omega
      rw [List.filter_cons_of_pos (by simpa using hplace),
        List.filter_cons_of_neg (by simpa using hne), List.cons_append, ← ih]
    · have heq : f.place = n := by omega
      have hnone : rest.filter (·.place < n) = [] := by
        refine List.filter_eq_nil_iff.mpr fun g hg => ?_
        have hle := List.rel_of_pairwise_cons h hg
        simp only [decide_eq_true_eq]
        omega
      rw [hnone, List.nil_append] at ih
      rw [List.filter_cons_of_neg (by simpa using hplace), hnone,
        List.filter_cons_of_pos (by simpa using heq), List.nil_append, ← ih]

/-- A sorted list lists the findings of one place after the other. -/
theorem eq_flatMap_at_of_pairwise (h : fs.Pairwise fun f g => f.place ≤ g.place)
    (hlt : ∀ f ∈ fs, f.place < n) :
    fs.map (·.diagnostic) = (List.range n).flatMap (findingsAt · fs) := by
  induction n generalizing fs with
  | zero =>
    cases fs with
    | nil => rfl
    | cons f rest => exact absurd (hlt f List.mem_cons_self) (Nat.not_lt_zero _)
  | succ n ih =>
    have hfront := ih (h.filter (·.place < n)) fun f hf => by simpa using List.of_mem_filter hf
    rw [List.range_succ, List.flatMap_append, List.flatMap_singleton]
    conv_lhs => rw [eq_append_last_of_pairwise h hlt, List.map_append, hfront]
    refine congrArg (· ++ _) (List.flatMap_congr fun i hi => ?_)
    have hi : i < n := List.mem_range.mp hi
    unfold findingsAt
    rw [List.filter_filter]
    refine congrArg (List.map _) (List.filter_congr fun f _ => ?_)
    by_cases hf : f.place = i
    · simp [hf, hi]
    · simp [hf]

/-- Sorting does not change what is found at a place, nor its order. -/
theorem findingsAt_mergeSort : findingsAt place (fs.mergeSort fun f g => f.place ≤ g.place) =
    findingsAt place fs := by
  have hsublist : (fs.filter (·.place = place)).Sublist
      (fs.mergeSort fun f g => f.place ≤ g.place) := by
    refine List.sublist_mergeSort ?_ ?_ ?_ (List.filter_sublist)
    · intro f g k
      simpa using Nat.le_trans
    · intro f g
      simpa using Nat.le_total f.place g.place
    · refine List.pairwise_of_forall_mem_list fun f hf g hg => ?_
      have hf := List.of_mem_filter hf
      have hg := List.of_mem_filter hg
      simp only [decide_eq_true_eq] at hf hg ⊢
      omega
  have hlength :=
    ((fs.mergeSort_perm fun f g => f.place ≤ g.place).filter (·.place = place)).length_eq
  refine congrArg (List.map _) (List.Sublist.eq_of_length ?_ hlength.symm).symm
  have h := hsublist.filter (·.place = place)
  simpa [List.filter_filter] using h

theorem pairwise_mergeSort_place : (fs.mergeSort fun f g => f.place ≤ g.place).Pairwise
    fun f g => f.place ≤ g.place := by
  refine (List.pairwise_mergeSort ?_ ?_ fs).imp fun h => by simpa using h
  · intro f g k
    simpa using Nat.le_trans
  · intro f g
    simpa using Nat.le_total f.place g.place

/-- `sortedFindings` puts the findings of one place together. -/
theorem sorted_eq_flatMap_at (hlt : ∀ f ∈ fs, f.place < n) :
    sortedFindings fs = (List.range n).flatMap (findingsAt · fs) := by
  unfold sortedFindings
  rw [eq_flatMap_at_of_pairwise pairwise_mergeSort_place
    fun f hf => hlt f (List.mem_mergeSort.mp hf)]
  exact List.flatMap_congr fun i _ => findingsAt_mergeSort

end Sorting

/-! ## Places -/

section Places

variable {α : Type} {part? : Declaration → Option α} {earlier ds front back : List Declaration}
  {d : Declaration}

theorem map_snd_places : (places part? [] ds).map (·.2) = (registered ds).filterMap part? := by
  rw [places, registered, List.map_filterMap, List.filterMap_filterMap]
  refine List.filterMap_congr ?_
  rintro ⟨earlier, d⟩ -
  cases hrefusal : d.refusal? earlier <;> simp [hrefusal, Function.comp_def]

theorem length_places :
    (places part? [] ds).length = ((registered ds).filterMap part?).length := by
  rw [← map_snd_places, List.length_map]

theorem bounds_of_mem_places {p : Nat × α} (h : p ∈ places part? earlier ds) :
    earlier.length ≤ p.1 ∧ p.1 < earlier.length + ds.length := by
  obtain ⟨⟨before, d⟩, hd, hpart⟩ := List.mem_filterMap.mp h
  obtain ⟨front, back, rfl, rfl⟩ := mem_withEarlier_iff.mp hd
  dsimp only at hpart
  split at hpart
  · obtain ⟨a, -, rfl⟩ := Option.map_eq_some_iff.mp hpart
    simp
  · cases hpart

/-- The part of the declaration `d` that takes part, with its place, behind `front`. -/
def ownPlace (part? : Declaration → Option α) (front : List Declaration) (d : Declaration) :
    List (Nat × α) :=
  if (d.refusal? front).isNone then ((part? d).map (front.length, ·)).toList else []

theorem place_of_mem_ownPlace {p : Nat × α} (h : p ∈ ownPlace part? front d) :
    p.1 = front.length := by
  unfold ownPlace at h
  split at h
  · obtain ⟨a, -, rfl⟩ := Option.map_eq_some_iff.mp (Option.mem_toList.mp h)
    rfl
  · cases h

theorem length_ownPlace_le : (ownPlace part? front d).length ≤ 1 := by
  unfold ownPlace
  split
  · cases part? d <;> simp
  · simp

/-- A declaration stands between those of lower and those of higher places. -/
theorem places_split : places part? [] (front ++ d :: back) =
    places part? [] front ++ ownPlace part? front d ++ places part? (front ++ [d]) back := by
  rw [places, withEarlier_append, List.filterMap_append, List.append_assoc, ← places,
    List.nil_append, withEarlier, List.filterMap_cons]
  refine congrArg (_ ++ ·) ?_
  unfold ownPlace
  dsimp only
  cases d.refusal? front <;> cases part? d <;> rfl

theorem lt_of_mem_places {p : Nat × α} (h : p ∈ places part? [] front) : p.1 < front.length := by
  simpa using (bounds_of_mem_places h).2

theorem gt_of_mem_places {p : Nat × α} (h : p ∈ places part? (front ++ [d]) back) :
    front.length < p.1 := by
  have hle := (bounds_of_mem_places h).1
  rwa [List.length_append] at hle

/-- The items of one place. -/
theorem filter_eq_middle {β : Type} {key : β → Nat} {i : Nat} {before middle after : List β}
    (hbefore : ∀ b ∈ before, key b < i) (hmiddle : ∀ b ∈ middle, key b = i)
    (hafter : ∀ b ∈ after, i < key b) :
    (before ++ middle ++ after).filter (key · = i) = middle := by
  have hnone : before.filter (key · = i) = [] ∧ after.filter (key · = i) = [] :=
    ⟨List.filter_eq_nil_iff.mpr fun b hb => by simpa using (hbefore b hb).ne,
      List.filter_eq_nil_iff.mpr fun b hb => by simpa using (hafter b hb).ne'⟩
  rw [List.filter_append, List.filter_append, hnone.1, hnone.2, List.nil_append, List.append_nil]
  exact List.filter_eq_self.mpr fun b hb => by simpa using hmiddle b hb

/-- The number of an item tells its place, and the other way round. -/
theorem place_eq_iff {k : Nat} :
    (places part? [] (front ++ d :: back))[k]?.map (·.1) = some front.length ↔
      ownPlace part? front d ≠ [] ∧ k = (places part? [] front).length := by
  rw [places_split, List.append_assoc]
  constructor
  · intro h
    obtain ⟨p, hp, hplace⟩ := Option.map_eq_some_iff.mp h
    rw [List.getElem?_append] at hp
    split at hp
    · exact absurd hplace (lt_of_mem_places (List.mem_of_getElem? hp)).ne
    rw [List.getElem?_append] at hp
    split at hp
    · rename_i hle hlt
      refine ⟨List.ne_nil_of_length_pos (Nat.zero_lt_of_lt hlt), ?_⟩
      have hone : (ownPlace part? front d).length ≤ 1 := length_ownPlace_le
      omega
    · exact absurd hplace (gt_of_mem_places (List.mem_of_getElem? hp)).ne'
  · rintro ⟨hne, rfl⟩
    obtain ⟨p, rest, hcons⟩ := List.exists_cons_of_ne_nil hne
    have hp : p.1 = front.length := place_of_mem_ownPlace (hcons ▸ List.mem_cons_self)
    simp [hcons, hp]

end Places

/-! ## The passes at one place -/

section AtPlace

variable {s : Surroundings} {front back : List Declaration} {d : Declaration}

theorem snd_mem_of_mem_withEarlier {α : Type} {earlier as : List α} {x : List α × α}
    (h : x ∈ withEarlier earlier as) : x.2 ∈ as := by
  rw [← map_snd_withEarlier earlier as]
  exact List.mem_map_of_mem h

/-- The items of one place, with the items before them. -/
theorem filter_withEarlier_eq {β : Type} {key : β → Nat} {i : Nat} {before middle after : List β}
    (hbefore : ∀ b ∈ before, key b < i) (hmiddle : ∀ b ∈ middle, key b = i)
    (hafter : ∀ b ∈ after, i < key b) :
    (withEarlier [] (before ++ middle ++ after)).filter (key ·.2 = i) =
      withEarlier before middle := by
  rw [withEarlier_append, withEarlier_append, List.nil_append]
  exact @filter_eq_middle _ (fun x => key x.2) _ _ _ _
    (fun x hx => hbefore _ (snd_mem_of_mem_withEarlier hx))
    (fun x hx => hmiddle _ (snd_mem_of_mem_withEarlier hx))
    (fun x hx => hafter _ (snd_mem_of_mem_withEarlier hx))

/-- The first pass, at the place of `d`. -/
theorem findingsAt_declareFindings :
    findingsAt front.length (declareFindings s (front ++ d :: back)) =
      match d.refusal? front with
      | some (subject, p) => [p.diagnostic d.location subject]
      | none => d.topReport s.facade (registered front) := by
  rw [declareFindings, findingsAt_found, withEarlier_append, withEarlier,
    ← List.singleton_append (x := (_, d)), ← List.append_assoc, filter_eq_middle,
    List.flatMap_singleton, List.nil_append]
  · rintro ⟨earlier, b⟩ hb
    obtain ⟨as', bs', rfl, rfl⟩ := mem_withEarlier_iff.mp hb
    simp
  · simp
  · rintro ⟨earlier, b⟩ hb
    obtain ⟨as', bs', rfl, rfl⟩ := mem_withEarlier_iff.mp hb
    simp

/-- The second pass, at the place of `d`. -/
theorem findingsAt_resolveFindings :
    findingsAt front.length (resolveFindings s (front ++ d :: back)) =
      ((ownPlace Declaration.type? front d).flatMap fun p => p.2.contentReport s.table) ++
        (ownPlace Declaration.function? front d).flatMap fun p =>
          p.2.contentReport s (Registry.ofRegistered (registered front)).functions := by
  rw [resolveFindings, findingsAt_append, findingsAt_found, findingsAt_found, places_split,
    places_split, filter_eq_middle (fun _ => lt_of_mem_places) (fun _ => place_of_mem_ownPlace)
      (fun _ => gt_of_mem_places), filter_withEarlier_eq (fun _ => lt_of_mem_places)
        (fun _ => place_of_mem_ownPlace) (fun _ => gt_of_mem_places)]
  refine congrArg (_ ++ ·) ?_
  have hone := @length_ownPlace_le _ Declaration.function? front d
  rcases hown : ownPlace Declaration.function? front d with _ | ⟨p, _ | ⟨q, rest⟩⟩
  · rfl
  · simp only [withEarlier, List.flatMap_singleton, map_snd_places]
    rfl
  · simp [hown] at hone

/-- The third pass, at the place of `d`. -/
theorem findingsAt_recursionFindings :
    findingsAt front.length (recursionFindings s (front ++ d :: back)) =
      (ownPlace Declaration.type? front d).flatMap fun _ =>
        let id : TypeId := ⟨(Registry.ofRegistered (registered front)).types.length⟩
        s.schema.recursionReport (s.schema.typeLocation id) id := by
  have hmem {n : Nat} {as : List (Nat × TypeDecl)} {x : (Nat × TypeDecl) × Nat}
      (hx : x ∈ as.zipIdx n) : x.1 ∈ as := List.fst_mem_of_mem_zipIdx hx
  rw [recursionFindings, findingsAt_found, places_split, List.zipIdx_append, List.zipIdx_append,
    filter_eq_middle (fun _ hx => lt_of_mem_places (hmem hx))
      (fun _ hx => place_of_mem_ownPlace (hmem hx)) (fun _ hx => gt_of_mem_places (hmem hx))]
  have hone := @length_ownPlace_le _ Declaration.type? front d
  rcases hown : ownPlace Declaration.type? front d with _ | ⟨p, _ | ⟨q, rest⟩⟩
  · rfl
  · simp only [List.zipIdx_cons, List.zipIdx_nil, List.flatMap_singleton, length_places,
      Nat.zero_add]
    rfl
  · simp [hown] at hone

/-- The item of the declaration `d`, if it takes part behind `front`. -/
def ownItem? (front : List Declaration) (d : Declaration) : Option ItemId :=
  if (d.refusal? front).isNone then
    match d with
    | .function _ => some (.function ⟨(places Declaration.function? [] front).length⟩)
    | .struct _ | .enum _ => some (.type ⟨(places Declaration.type? [] front).length⟩)
  else none

private theorem itemPlace?_eq_iff {item : ItemId} :
    itemPlace? (front ++ d :: back) item = some front.length ↔ ownItem? front d = some item := by
  cases item with
  | type id =>
    rw [itemPlace?, place_eq_iff]
    obtain ⟨k⟩ := id
    unfold ownPlace ownItem?
    split
    · cases d <;> simp [Declaration.type?, eq_comm]
    · simp
  | function id =>
    rw [itemPlace?, place_eq_iff]
    obtain ⟨k⟩ := id
    unfold ownPlace ownItem?
    split
    · cases d <;> simp [Declaration.function?, eq_comm]
    · simp

private theorem findingsAt_filterMap {α : Type} {place : Nat} {g : α → Option Finding}
    {as : List α} :
    findingsAt place (as.filterMap g) =
      as.filterMap fun a => ((g a).filter (·.place = place)).map (·.diagnostic) := by
  rw [findingsAt, List.filter_filterMap, List.map_filterMap]

theorem itemPlace?_of_symbolFinding? {ds : List Declaration} {u : SymbolUse} {p : Problem}
    {f : Finding} (h : symbolFinding? s ds u p = some f) : itemPlace? ds u.item = some f.place := by
  obtain ⟨place, hplace, h⟩ := Option.bind_eq_some_iff.mp h
  obtain ⟨location, -, h⟩ := Option.bind_eq_some_iff.mp h
  cases h
  exact hplace

/-- The fourth pass, at the place of `d`. -/
theorem findingsAt_symbolFindings
    (hlocation : ∀ item, ownItem? front d = some item →
      s.schema.itemLocation? item = some d.location) :
    findingsAt front.length (symbolFindings s (front ++ d :: back)) =
      (ownItem? front d).elim [] (s.symbolReport d.location) := by
  have hother {u : SymbolUse} {p : Problem} (hu : ownItem? front d ≠ some u.item) :
      (symbolFinding? s (front ++ d :: back) u p).filter (·.place = front.length) = none := by
    refine Option.filter_eq_none_iff.mpr ?_
    intro f hf hplace
    have hitem := itemPlace?_of_symbolFinding? hf
    rw [of_decide_eq_true hplace] at hitem
    exact hu (itemPlace?_eq_iff.mp hitem)
  rw [symbolFindings, findingsAt_filterMap]
  cases hown : ownItem? front d with
  | none =>
    refine List.filterMap_eq_nil_iff.mpr ?_
    rintro ⟨u, p⟩ -
    exact Option.map_eq_none_iff.mpr (hother (by simp [hown]))
  | some item =>
    rw [Option.elim_some, Surroundings.symbolReport, ← List.filterMap_eq_map,
      List.filterMap_filter]
    refine List.filterMap_congr ?_
    rintro ⟨u, p⟩ -
    by_cases hu : u.item = item
    · have hplace : itemPlace? (front ++ d :: back) item = some front.length :=
        itemPlace?_eq_iff.mpr hown
      simp [symbolFinding?, hu, hplace, hlocation item hown]
    · have hne : ownItem? front d ≠ some u.item := by simpa [hown] using Ne.symm hu
      simp [hother hne, hu]

end AtPlace

/-! ## The report -/

section Whole

variable {facade : String} {ds front back : List Declaration} {d : Declaration}

private theorem typeLocation_schema (names : List (String × NameEntry)) {id : TypeId} {t : TypeDecl}
    (ht : (ds.filterMap Declaration.type?)[id.index]? = some t) :
    ((Registry.ofRegistered ds).schema names).typeLocation id = t.location := by
  have hlookup := lookup_schema names ht
  cases t with
  | struct d =>
    simp only [Schema.typeLocation, hlookup]
    rfl
  | enum d =>
    simp only [Schema.typeLocation, hlookup.1, hlookup.2]
    rfl

/-- The number of an item is that of its declaration. -/
theorem getElem?_length_places {α : Type} {part? : Declaration → Option α} {a : α}
    (hrefusal : d.refusal? front = none) (ha : part? d = some a) :
    ((registered (front ++ d :: back)).filterMap part?)[(places part? [] front).length]? =
      some a := by
  obtain ⟨back', hregistered⟩ := registered_split hrefusal back
  rw [hregistered, List.filterMap_append, length_places, List.filterMap_cons_some ha]
  simp

/-- The schema knows the location of a declaration that takes part. -/
theorem itemLocation?_eq {item : ItemId} (h : ownItem? front d = some item) :
    (Surroundings.ofDeclarations facade (front ++ d :: back)).schema.itemLocation? item =
      some d.location := by
  unfold ownItem? at h
  split at h
  · rename_i hnone
    have hrefusal := Option.isNone_iff_eq_none.mp hnone
    cases d with
    | function f =>
      cases h
      exact congrArg (Option.map _) (function?_schema _ (getElem?_length_places hrefusal rfl))
    | struct d | enum d =>
      cases h
      exact congrArg some (typeLocation_schema _ (getElem?_length_places hrefusal rfl))
  · cases h

/-- What the passes find at the place of a declaration is what is wrong with it. -/
theorem findingsAt_findings :
    findingsAt front.length
        (findings (Surroundings.ofDeclarations facade (front ++ d :: back)) (front ++ d :: back)) =
      d.report (Surroundings.ofDeclarations facade (front ++ d :: back)) front := by
  have hlocation {item : ItemId} (h : ownItem? front d = some item) :
      (Surroundings.ofDeclarations facade (front ++ d :: back)).schema.itemLocation? item =
        some d.location := itemLocation?_eq h
  rw [findings, findingsAt_append, findingsAt_append, findingsAt_append,
    findingsAt_declareFindings, findingsAt_resolveFindings, findingsAt_recursionFindings,
    findingsAt_symbolFindings fun _ => hlocation, Declaration.report]
  cases hrefusal : d.refusal? front with
  | some refusal => simp [ownPlace, ownItem?, hrefusal]
  | none =>
    cases d with
    | function f =>
      simp [ownPlace, ownItem?, hrefusal, Declaration.type?, Declaration.function?,
        Declaration.registeredReport, length_places, Registry.ofRegistered]
    | struct d | enum d =>
      have hitem := @hlocation (.type ⟨(places Declaration.type? [] front).length⟩)
        (by simp [ownItem?, hrefusal])
      have htype := Option.some.inj hitem
      rw [length_places] at htype
      simp [ownPlace, ownItem?, hrefusal, Declaration.type?, Declaration.function?,
        Declaration.registeredReport, length_places, Registry.ofRegistered, htype]

/-! ### All places -/

private theorem lt_length_of_mem_found {α : Type} {key : α → Nat} {report : α → Report}
    {as : List α} {n : Nat} (h : ∀ a ∈ as, key a < n) : ∀ f ∈ found key report as, f.place < n := by
  intro f hf
  obtain ⟨a, ha, hf⟩ := List.mem_flatMap.mp hf
  obtain ⟨x, -, rfl⟩ := List.mem_map.mp hf
  exact h a ha

/-- Every finding has the place of a declaration of `ds`. -/
theorem place_lt_length {s : Surroundings} : ∀ f ∈ findings s ds, f.place < ds.length := by
  have hplaces {α : Type} {part? : Declaration → Option α} :
      ∀ p ∈ places part? [] ds, p.1 < ds.length := fun _ => lt_of_mem_places
  have hitem {item : ItemId} {place : Nat} (h : itemPlace? ds item = some place) :
      place < ds.length := by
    cases item with
    | type id | function id =>
      obtain ⟨p, hp, rfl⟩ := Option.map_eq_some_iff.mp h
      exact hplaces p (List.mem_of_getElem? hp)
  unfold findings declareFindings resolveFindings recursionFindings
  simp only [List.forall_mem_append]
  refine ⟨⟨⟨?_, ?_, ?_⟩, ?_⟩, ?_⟩
  · refine lt_length_of_mem_found ?_
    rintro ⟨earlier, d⟩ hd
    obtain ⟨front, back, rfl, rfl⟩ := mem_withEarlier_iff.mp hd
    simp
  · exact lt_length_of_mem_found hplaces
  · exact lt_length_of_mem_found fun a ha => hplaces _ (snd_mem_of_mem_withEarlier ha)
  · exact lt_length_of_mem_found fun a ha => hplaces _ (List.fst_mem_of_mem_zipIdx ha)
  · intro f hf
    obtain ⟨⟨u, p⟩, -, hf⟩ := List.mem_filterMap.mp hf
    exact hitem (itemPlace?_of_symbolFinding? hf)

private theorem map_length_withEarlier {α : Type} (earlier as : List α) :
    (withEarlier earlier as).map (·.1.length) = List.range' earlier.length as.length := by
  induction as generalizing earlier with
  | nil => rfl
  | cons a rest ih =>
    rw [withEarlier, List.map_cons, ih, List.length_append]
    rfl

/-- **A report lists what the four passes find**, in the order of the declarations and, for each
declaration, in the order of the passes. -/
theorem report_eq_sorted_findings : Schema.report facade ds =
    sortedFindings (findings (Surroundings.ofDeclarations facade ds) ds) := by
  have hplaces : List.range ds.length = (withEarlier [] ds).map (·.1.length) :=
    List.range_eq_range'.trans (map_length_withEarlier [] ds).symm
  rw [sorted_eq_flatMap_at place_lt_length, hplaces, List.flatMap_map, Schema.report]
  refine List.flatMap_congr ?_
  rintro ⟨earlier, d⟩ hd
  obtain ⟨front, back, rfl, rfl⟩ := mem_withEarlier_iff.mp hd
  exact findingsAt_findings.symm

/-- A finding stands at the declaration of its place. -/
theorem exists_declaration_of_mem_findings {f : Finding}
    (hf : f ∈ findings (Surroundings.ofDeclarations facade ds) ds) :
    ∃ d, ds[f.place]? = some d ∧ f.diagnostic.location = d.location := by
  have hlt := place_lt_length f hf
  obtain ⟨front, d, back, rfl, hlength⟩ : ∃ front d back, ds = front ++ d :: back ∧
      front.length = f.place :=
    ⟨ds.take f.place, ds[f.place], ds.drop (f.place + 1), by simp, List.length_take_of_le hlt.le⟩
  have hmem : f.diagnostic ∈ findingsAt front.length
      (findings (Surroundings.ofDeclarations facade (front ++ d :: back)) (front ++ d :: back)) :=
    List.mem_map.mpr ⟨f, List.mem_filter.mpr ⟨hf, decide_eq_true hlength.symm⟩, rfl⟩
  rw [findingsAt_findings] at hmem
  exact ⟨d, by simp [← hlength], Declaration.location_of_mem_report rfl hmem⟩

/-! ### Lines -/

/-- Every declaration stands on the line of its place, counted from one. -/
def StandInLines (ds : List Declaration) : Prop :=
  ∀ i d, ds[i]? = some d → d.location.line.toNat = i + 1

/-- Diagnostics at the declarations and in their order. -/
structure ReportedInOrder (facade : String) (ds : List Declaration) (r : Report) : Prop where
  /-- What the passes find is sorted by place, and else left in the order of the passes. -/
  sorted : r = sortedFindings (findings (Surroundings.ofDeclarations facade ds) ds)
  /-- A finding of any pass has the location of the declaration that it is sorted by. -/
  placed : ∀ f ∈ findings (Surroundings.ofDeclarations facade ds) ds,
    ∃ d, ds[f.place]? = some d ∧ f.diagnostic.location = d.location
  /-- Every diagnostic stands at a declaration. -/
  located : ∀ x ∈ r, ∃ d ∈ ds, x.location = d.location
  /-- The lines of the diagnostics do not decrease. -/
  ordered : r.Pairwise fun x y => x.location.line ≤ y.location.line

/-- **Diagnostics come in the order of the declarations**, each at the location of its own. -/
theorem report_inOrder {r : Report} (hlines : StandInLines ds)
    (h : Schema.build facade ds = .error r) : ReportedInOrder facade ds r := by
  obtain ⟨rfl, -⟩ := Schema.build_eq_error_iff.mp h
  rw [report_eq_sorted_findings]
  refine ⟨rfl, fun _ => exists_declaration_of_mem_findings, ?_, ?_⟩
  · intro x hx
    obtain ⟨f, hf, rfl⟩ := List.mem_map.mp hx
    obtain ⟨d, hd, hlocation⟩ := exists_declaration_of_mem_findings (List.mem_mergeSort.mp hf)
    exact ⟨d, List.mem_of_getElem? hd, hlocation⟩
  · refine List.pairwise_map.mpr (pairwise_mergeSort_place.imp_of_mem ?_)
    intro f g hf hg hplace
    obtain ⟨d, hd, hf⟩ := exists_declaration_of_mem_findings (List.mem_mergeSort.mp hf)
    obtain ⟨e, he, hg⟩ := exists_declaration_of_mem_findings (List.mem_mergeSort.mp hg)
    rw [hf, hg, UInt32.le_iff_toNat_le, hlines _ d hd, hlines _ e he]
    omega

/-- Declarations with problems of every pass: a name that is declared twice, a receiver that is not
exported, a type that holds itself, and a symbol that is used before. -/
def troubledDeclarations : List Declaration := [
  .function ⟨"poke", some ⟨"Ghost", .ref⟩, [], .unit, ⟨none, 1, 7⟩⟩,
  .struct ⟨"Node", [⟨"next", Demo.named "Node"⟩, ⟨"tags", .path "Vec" [Demo.named "u8"]⟩],
    ⟨none, 2, 3⟩⟩,
  .struct ⟨"A", [⟨"b_c", Demo.named "u8"⟩], ⟨none, 3, 0⟩⟩,
  .struct ⟨"A_b", [⟨"c", Demo.named "u8"⟩, ⟨"9", Demo.named "u8"⟩], ⟨some "lib.rs", 4, 1⟩⟩,
  .enum ⟨"Node", [], ⟨none, 5, 2⟩⟩]

/-- Their diagnostics come in the order of the lines, though the passes find them in another. -/
theorem report_inOrder_troubled :
    StandInLines troubledDeclarations ∧
      Schema.build defaultFacade troubledDeclarations =
        .error (Schema.report defaultFacade troubledDeclarations) ∧
      ReportedInOrder defaultFacade troubledDeclarations
        (Schema.report defaultFacade troubledDeclarations) ∧
      (Schema.report defaultFacade troubledDeclarations).map (fun x => (x.location.line, x.kind)) =
        [(1, .invalidReceiver), (2, .unsupportedType), (2, .unsupportedType),
          (4, .invalidIdentifier), (4, .nameCollision), (5, .duplicateDeclaration)] := by
  have hlines : StandInLines troubledDeclarations := by
    intro i d hd
    match i, hd with
    | 0, hd | 1, hd | 2, hd | 3, hd | 4, hd =>
      cases hd
      rfl
  have hkinds : (Schema.report defaultFacade troubledDeclarations).map
      (fun x => (x.location.line, x.kind)) =
        [(1, .invalidReceiver), (2, .unsupportedType), (2, .unsupportedType),
          (4, .invalidIdentifier), (4, .nameCollision), (5, .duplicateDeclaration)] := by
    decide +kernel
  have hne : Schema.report defaultFacade troubledDeclarations ≠ [] := by
    intro hnil
    rw [hnil] at hkinds
    cases hkinds
  have hbuild := Schema.build_eq_error_iff.mpr ⟨rfl, hne⟩
  exact ⟨hlines, hbuild, report_inOrder hlines hbuild, hkinds⟩

end Whole

end Boundary
