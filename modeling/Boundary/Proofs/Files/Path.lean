import Boundary.Files.Path
import Boundary.Proofs.Text.Split

/-!
# Paths in a directory

The path of a file in a directory has the components of the directory and the name of the file,
however the path of the directory is written. So has the path of a file beside it, which is put
together from components.

* `FilePath.IsName`: a text that can stand for a file.
* `FilePath.components_join`: the components of the path of a file in a directory.
* `FilePath.components_ofComponents`: the components of a path that is made of components.
* `FilePath.sibling_join`: the path of a file beside a file in a directory.
* `FilePath.steps_join`, `FilePath.filter_steps`: the steps by which such paths are followed.
-/

namespace Boundary

/-! ## Parts -/

namespace Text

theorem split_append (a b : String) : split '/' (a ++ "/" ++ b) = split '/' a ++ split '/' b :=
  split_separated rfl a b

/-- A text that ends with a separator is another text and that separator. -/
theorem exists_append_of_endsWith {s : String} (h : s.endsWith "/" = true) :
    ∃ front, s = front ++ "/" := by
  have hsuffix : "/".toList <:+ s.toSlice.copy.toList := String.Slice.endsWith_string_iff.mp h
  rw [String.copy_toSlice] at hsuffix
  obtain ⟨front, hfront⟩ := hsuffix
  refine ⟨String.ofList front, ?_⟩
  rw [← String.toList_inj, String.toList_append, String.toList_ofList, hfront]

end Text

/-! ## Components -/

namespace FilePath

/-- A text `s` that can stand for a file in a directory. -/
structure IsName (s : String) : Prop where
  ne_empty : s ≠ ""
  notMem : '/' ∉ s.toList
  ne_here : s ≠ "."
  ne_up : s ≠ ".."

variable {name : String}

theorem IsName.split (h : IsName name) : Text.split '/' name = [name] :=
  Text.split_of_notMem h.notMem

theorem componentOf?_cases (part : String) :
    part = "" ∧ componentOf? part = none ∨ part = "." ∧ componentOf? part = none ∨
      part = ".." ∧ componentOf? part = some .up ∨
      (part ≠ "" ∧ part ≠ "." ∧ part ≠ "..") ∧ componentOf? part = some (.name part) := by
  unfold componentOf?
  split <;> simp_all

theorem IsName.componentOf? (h : IsName name) : componentOf? name = some (.name name) := by
  obtain ⟨hpart, -⟩ | ⟨hpart, -⟩ | ⟨hpart, -⟩ | ⟨-, hsome⟩ := componentOf?_cases name
  · exact absurd hpart h.ne_empty
  · exact absurd hpart h.ne_here
  · exact absurd hpart h.ne_up
  · exact hsome

/-- A text that `IsName` stays one with an `ending`. -/
theorem IsName.append (h : IsName name) {ending : String} (hlength : 2 < ending.length)
    (hending : '/' ∉ ending.toList) : IsName (name ++ ending) := by
  have hlong : 2 < (name ++ ending).length := by
    rw [String.length_append]
    omega
  refine ⟨?_, ?_, ?_, ?_⟩
  · rintro heq
    rw [heq] at hlong
    exact absurd hlong (by decide)
  · rw [String.toList_append, List.mem_append]
    exact fun hmem => hmem.elim h.notMem hending
  · rintro heq
    rw [heq] at hlong
    exact absurd hlong (by decide)
  · rintro heq
    rw [heq] at hlong
    exact absurd hlong (by decide)

/-- The component that stands for the start of a path with the given parts. -/
def startOf : List String → List PathComponent
  | "" :: _ :: _ => [.root]
  | "." :: _ => [.here]
  | _ => []

theorem components_eq (p : FilePath) :
    p.components = startOf p.parts ++ p.parts.filterMap componentOf? := by
  unfold components startOf
  rfl

theorem startOf_singleton (part : String) :
    startOf [part] = if part = "." then [.here] else [] := by
  unfold startOf
  split <;> simp_all

theorem startOf_cons (part : String) {parts : List String} (h : parts ≠ []) :
    startOf (part :: parts) =
      if part = "" then [.root] else if part = "." then [.here] else [] := by
  obtain ⟨next, rest, rfl⟩ := List.exists_cons_of_ne_nil h
  unfold startOf
  split <;> simp_all

theorem IsName.components (h : IsName name) : (FilePath.mk name).components = [.name name] := by
  have hparts : (FilePath.mk name).parts = [name] := h.split
  rw [components_eq, hparts, startOf_singleton, if_neg h.ne_here]
  simp [h.componentOf?]

theorem IsName.isAbsolute (h : IsName name) : (FilePath.mk name).isAbsolute = false := by
  simp [FilePath.isAbsolute, h.components]

/-- The parts of `q.join name`: those of the directory, without an empty part at the end, and then
the name. -/
theorem exists_parts_join (q : FilePath) (habsolute : (FilePath.mk name).isAbsolute = false)
    (hname : Text.split '/' name = [name]) :
    ∃ front, (q.join name).parts = front ++ [name] ∧
      (q.parts = front ∧ front ≠ [""] ∨ q.parts = front ++ [""]) := by
  rw [FilePath.join, habsolute, if_neg Bool.false_ne_true]
  by_cases hempty : q.text = ""
  · refine ⟨[], ?_, .inr ?_⟩
    · simpa [hempty, parts] using hname
    · simp [hempty, parts, Text.split, Text.splitChars]
  by_cases hends : q.text.endsWith "/" = true
  · obtain ⟨front, hfront⟩ := Text.exists_append_of_endsWith hends
    refine ⟨Text.split '/' front, ?_, .inr ?_⟩
    · rw [if_pos (by simp [hends]), hfront]
      exact (Text.split_append front name).trans (by rw [hname])
    · have hsplit := Text.split_append front ""
      rwa [String.append_empty, ← hfront] at hsplit
  · refine ⟨q.parts, ?_, .inl ⟨rfl, fun hparts => hempty (Text.eq_empty_of_split_eq hparts)⟩⟩
    rw [if_neg (by simp [hempty, hends])]
    exact (Text.split_append q.text name).trans (by rw [hname]; rfl)

/-- An empty part at the end of `q` is left out of `q.join name`. -/
theorem IsName.exists_parts_join (h : IsName name) (q : FilePath) :
    ∃ front, (q.join name).parts = front ++ [name] ∧ startOf (front ++ [name]) = startOf q.parts ∧
      front.filterMap FilePath.componentOf? = q.parts.filterMap FilePath.componentOf? := by
  obtain ⟨front, hjoin, hparts⟩ := FilePath.exists_parts_join q h.isAbsolute h.split
  refine ⟨front, hjoin, ?_, ?_⟩
  · cases front with
    | nil =>
      obtain ⟨hparts, -⟩ | hparts := hparts
      · exact absurd hparts (Text.split_ne_nil '/' q.text)
      · rw [hparts, List.nil_append, List.nil_append, startOf_singleton, if_neg h.ne_here]
        rfl
    | cons x rest =>
      rw [List.cons_append, startOf_cons x (by simp)]
      obtain ⟨hparts, hne⟩ | hparts := hparts
      · rw [hparts]
        cases rest with
        | nil => rw [startOf_singleton, if_neg fun hx => hne (by rw [hx])]
        | cons y rest => rw [startOf_cons x (by simp)]
      · rw [hparts, List.cons_append, startOf_cons x (by simp)]
  · obtain ⟨hparts, -⟩ | hparts := hparts
    · rw [hparts]
    · simp [hparts, FilePath.componentOf?]

/-- **A file in a directory.** The path `q.join name` has the components of the directory and the
name of the file. -/
theorem components_join (q : FilePath) (h : IsName name) :
    (q.join name).components = q.components ++ [.name name] := by
  obtain ⟨front, hparts, hstart, hsame⟩ := h.exists_parts_join q
  rw [components_eq, components_eq, hparts, hstart, List.filterMap_append, hsame]
  simp [h.componentOf?]

/-! ## Paths that are made of components -/

/-- A component `c` whose text is a part that stands for `c` in a path. -/
def IsPart (c : PathComponent) : Prop := componentOf? c.text = some c ∧ '/' ∉ c.text.toList

private theorem isPart_of_mem {parts : List String} {c : PathComponent}
    (hparts : ∀ s ∈ parts, '/' ∉ s.toList) (hc : c ∈ parts.filterMap componentOf?) : IsPart c := by
  obtain ⟨s, hs, hsome⟩ := List.mem_filterMap.mp hc
  have hslash := hparts s hs
  have htext : c.text = s := by
    unfold componentOf? at hsome
    split at hsome
    all_goals cases hsome
    all_goals rfl
  rw [IsPart, htext]
  exact ⟨hsome, hslash⟩

theorem IsPart.text_ne_empty {c : PathComponent} (h : IsPart c) : c.text ≠ "" := by
  intro htext
  have hsome := h.1
  rw [htext] at hsome
  cases hsome

theorem IsPart.text_ne_here {c : PathComponent} (h : IsPart c) : c.text ≠ "." := by
  intro htext
  have hsome := h.1
  rw [htext] at hsome
  cases hsome

section Texts

variable {cs : List PathComponent}

/-- The parts of the path that the components `cs` make up. -/
def partsOf (cs : List PathComponent) : List String :=
  if cs = [] then [""] else cs.map (·.text)

theorem filterMap_componentOf?_texts (h : ∀ c ∈ cs, IsPart c) :
    (cs.map (·.text)).filterMap componentOf? = cs := by
  induction cs with
  | nil => rfl
  | cons c rest ih =>
    rw [List.map_cons, List.filterMap_cons_some (h c (by simp)).1,
      ih fun d hd => h d (by simp [hd])]

private theorem filterMap_componentOf?_partsOf (h : ∀ c ∈ cs, IsPart c) :
    (partsOf cs).filterMap componentOf? = cs := by
  unfold partsOf
  split
  · simp [*, componentOf?]
  · exact filterMap_componentOf?_texts h

theorem notMem_of_mem_texts (h : ∀ c ∈ cs, IsPart c) : ∀ s ∈ cs.map (·.text), '/' ∉ s.toList := by
  intro s hs
  obtain ⟨c, hc, rfl⟩ := List.mem_map.mp hs
  exact (h c hc).2

private theorem split_intercalate_texts (h : ∀ c ∈ cs, IsPart c) :
    Text.split '/' ("/".intercalate (cs.map (·.text))) = partsOf cs := by
  unfold partsOf
  split
  · rename_i hnil
    rw [hnil]
    rfl
  · rename_i hne
    exact Text.split_intercalate rfl (by simpa using hne) (notMem_of_mem_texts h)

private theorem startOf_partsOf (h : ∀ c ∈ cs, IsPart c) : startOf (partsOf cs) = [] := by
  cases cs with
  | nil => rfl
  | cons c rest =>
    have hc := h c (by simp)
    rw [partsOf, if_neg (by simp), List.map_cons]
    cases rest with
    | nil => rw [List.map_nil, startOf_singleton, if_neg hc.text_ne_here]
    | cons d rest =>
      rw [startOf_cons _ (by simp), if_neg hc.text_ne_empty, if_neg hc.text_ne_here]

end Texts

/-- A path is a start and then parts. -/
theorem exists_components_eq (p : FilePath) :
    ∃ first cs, p.components = first ++ cs ∧ (first = [] ∨ first = [.root] ∨ first = [.here]) ∧
      ∀ c ∈ cs, IsPart c := by
  refine ⟨startOf p.parts, _, p.components_eq, ?_, ?_⟩
  · unfold startOf
    split <;> simp
  · intro c
    exact isPart_of_mem fun s => Text.notMem_of_mem_split

/-- **A path that is made of the components of a path** has the same components. -/
theorem components_ofComponents (p : FilePath) :
    (ofComponents p.components).components = p.components := by
  obtain ⟨first, cs, hp, hfirst, hcs⟩ := p.exists_components_eq
  rw [hp]
  obtain rfl | rfl | rfl := hfirst
  · have hof : ofComponents cs = ⟨"/".intercalate (cs.map (·.text))⟩ := by
      unfold ofComponents
      split
      · rename_i rest
        cases (hcs .root (by simp)).1
      · rfl
    have hparts : (ofComponents cs).parts = partsOf cs := by
      rw [hof]
      exact split_intercalate_texts hcs
    rw [List.nil_append, components_eq, hparts, startOf_partsOf hcs,
      filterMap_componentOf?_partsOf hcs]
    rfl
  · have hparts : (ofComponents ([.root] ++ cs)).parts = "" :: partsOf cs := by
      have hsplit := Text.split_append "" ("/".intercalate (cs.map (·.text)))
      rw [split_intercalate_texts hcs, String.empty_append] at hsplit
      exact hsplit
    have hne : partsOf cs ≠ [] := by
      rw [← split_intercalate_texts hcs]
      exact Text.split_ne_nil _ _
    rw [components_eq, hparts, startOf_cons _ hne, if_pos rfl, List.filterMap_cons_none rfl,
      filterMap_componentOf?_partsOf hcs]
  · have hparts : (ofComponents ([.here] ++ cs)).parts = "." :: cs.map (·.text) := by
      show Text.split '/' ("/".intercalate ("." :: cs.map (·.text))) = _
      refine Text.split_intercalate rfl (by simp) ?_
      intro s hs
      obtain rfl | hs := List.mem_cons.mp hs
      · decide
      · exact notMem_of_mem_texts hcs s hs
    have hstart : startOf ("." :: cs.map (·.text)) = [.here] := by
      unfold startOf
      split <;> simp_all
    rw [components_eq, hparts, hstart, List.filterMap_cons_none rfl,
      filterMap_componentOf?_texts hcs]

/-! ## Files beside a file -/

/-- The `sibling` of a file in the directory `q` is a file in a path for the same directory. -/
theorem sibling_join (q : FilePath) (h : IsName name) (ending : String) :
    (q.join name).sibling ending = (ofComponents q.components).join (name ++ ending) := by
  have hcomponents := components_join q h
  have hname : (q.join name).name? = some name := by
    rw [name?, hcomponents, List.getLast?_concat]
  have hparent : (q.join name).parent? = some (ofComponents q.components) := by
    rw [parent?, hcomponents]
    split
    · rename_i heq
      simp at heq
    · rename_i heq
      have hlast := congrArg List.getLast? heq
      simp at hlast
    · rw [List.dropLast_concat]
  rw [sibling, hname, hparent]
  rfl

/-! ## Following paths -/

theorem stepOf?_eq_some_iff {part : String} {c : PathComponent} :
    stepOf? part = some c ↔ part = "." ∧ c = .here ∨ componentOf? part = some c := by
  obtain ⟨rfl, h⟩ | ⟨rfl, h⟩ | ⟨rfl, h⟩ | ⟨⟨hempty, hhere, hup⟩, h⟩ := componentOf?_cases part
  · simp [h, stepOf?]
  · simp [h, stepOf?, eq_comm]
  · simp [h, stepOf?]
  · have hstep : stepOf? part = some (.name part) := by
      unfold stepOf?
      split <;> simp_all
    simp [h, hstep, hhere]

/-- What `componentOf?` leaves out of what `stepOf?` keeps are the points. -/
theorem filter_filterMap_stepOf? (parts : List String) :
    (parts.filterMap stepOf?).filter (· ≠ .here) = parts.filterMap componentOf? := by
  induction parts with
  | nil => rfl
  | cons part rest ih =>
    obtain ⟨rfl, -⟩ | ⟨rfl, -⟩ | ⟨rfl, -⟩ | ⟨⟨hempty, hhere, hup⟩, hname⟩ := componentOf?_cases part
    · exact ih
    · exact ih
    · exact congrArg (PathComponent.up :: ·) ih
    · have hstep : stepOf? part = some (.name part) := stepOf?_eq_some_iff.mpr (.inr hname)
      rw [List.filterMap_cons_some hstep, List.filterMap_cons_some hname,
        List.filter_cons_of_pos (by simp), ih]

/-- A path that `isAbsolute` has an empty part at its front, and others. -/
theorem isAbsolute_iff (p : FilePath) :
    p.isAbsolute = true ↔ ∃ part rest, p.parts = "" :: part :: rest := by
  have hne : (p.parts.filterMap componentOf?).head? ≠ some .root := by
    intro hhead
    obtain ⟨part, -, hroot⟩ := List.mem_filterMap.mp (List.mem_of_mem_head? hhead)
    unfold componentOf? at hroot
    split at hroot <;> cases hroot
  rw [isAbsolute, components_eq, decide_eq_true_iff]
  unfold startOf
  split
  · simp_all
  · simp_all
  · rename_i hroot _
    refine iff_of_false hne ?_
    rintro ⟨part, rest, hparts⟩
    exact hroot part rest hparts

/-- The `steps` of a path are its `components`, points apart. -/
theorem filter_steps (p : FilePath) :
    p.steps.filter (· ≠ .here) = p.components.filter (· ≠ .here) := by
  have hnames : (p.parts.filterMap componentOf?).filter (· ≠ .here) =
      p.parts.filterMap componentOf? := by
    rw [← filter_filterMap_stepOf?, List.filter_filter]
    simp
  rw [steps, components_eq, List.filter_append, List.filter_append, filter_filterMap_stepOf?,
    hnames]
  congr 1
  by_cases habsolute : p.isAbsolute = true
  · obtain ⟨part, rest, hparts⟩ := (isAbsolute_iff p).mp habsolute
    rw [if_pos habsolute, hparts]
    rfl
  · rw [if_neg habsolute]
    unfold startOf
    split
    · rename_i part rest hparts
      exact absurd ((isAbsolute_iff p).mpr ⟨part, rest, hparts⟩) habsolute
    · rfl
    · rfl

section Join

variable {last : String}

/-- Whether `q.join last` starts at the root is told by `q`. -/
theorem isAbsolute_join_of_split (q : FilePath) (habsolute : (FilePath.mk last).isAbsolute = false)
    (hlast : Text.split '/' last = [last]) : (q.join last).isAbsolute = q.isAbsolute := by
  obtain ⟨front, hjoin, hparts⟩ := exists_parts_join q habsolute hlast
  rw [Bool.eq_iff_iff, isAbsolute_iff, isAbsolute_iff, hjoin]
  have hne : q.parts ≠ [] := Text.split_ne_nil '/' q.text
  match front with
  | [] => simp_all
  | [x] => obtain ⟨hparts, hx⟩ | hparts := hparts <;> simp_all
  | x :: y :: rest => obtain ⟨hparts, -⟩ | hparts := hparts <;> simp [hparts]

/-- **Following the path of a file in a directory**: the last step is the name of the file. -/
theorem steps_join_of_split (q : FilePath) (habsolute : (FilePath.mk last).isAbsolute = false)
    (hlast : Text.split '/' last = [last]) :
    (q.join last).steps = q.steps ++ (stepOf? last).toList := by
  obtain ⟨front, hjoin, hparts⟩ := exists_parts_join q habsolute hlast
  have hfront : q.parts.filterMap stepOf? = front.filterMap stepOf? := by
    obtain ⟨hparts, -⟩ | hparts := hparts <;> simp [hparts, stepOf?]
  have hone : [last].filterMap stepOf? = (stepOf? last).toList := by
    cases h : stepOf? last <;> simp [h]
  rw [steps, steps, isAbsolute_join_of_split q habsolute hlast, hjoin, hfront,
    List.filterMap_append, hone, List.append_assoc]

theorem steps_join (q : FilePath) (h : IsName name) :
    (q.join name).steps = q.steps ++ [.name name] := by
  have hstep : stepOf? name = some (.name name) := stepOf?_eq_some_iff.mpr (.inr h.componentOf?)
  rw [steps_join_of_split q h.isAbsolute h.split, hstep]
  rfl

/-- The text of `q.join name` is not empty and does not end with a slash. -/
theorem text_join (q : FilePath) (h : IsName name) :
    (q.join name).text ≠ "" ∧ (q.join name).text.endsWith "/" = false := by
  obtain ⟨front, hparts, -⟩ := exists_parts_join q h.isAbsolute h.split
  have hname : ∀ parts, (q.join name).parts ≠ parts ++ [""] := by
    intro parts heq
    rw [hparts] at heq
    exact h.ne_empty (by simpa using (List.append_inj' heq rfl).2)
  refine ⟨fun htext => hname [] ?_, Bool.eq_false_iff.mpr fun hends => ?_⟩
  · rw [parts, htext]
    rfl
  · obtain ⟨text, htext⟩ := Text.exists_append_of_endsWith hends
    refine hname (Text.split '/' text) ?_
    rw [parts, htext]
    exact String.append_empty (s := text ++ "/") ▸ Text.split_append text ""

end Join

end FilePath

end Boundary
