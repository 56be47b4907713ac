import Boundary.Proofs.Config
import Boundary.Proofs.Native.Statements
import Boundary.Proofs.Schema.Words

/-!
# The functions of a native file

A native file defines for callers outside exactly the entry points of its schema.

* `reads_heading`, `reads_tables`, `reads_layoutChecks`: what comes before the entry points.
* `Accepted.isWord_of_body?`, `Config.readable_spelling`: what can be read of a schema.
* `linesRead_nativeSource`: the functions in the file of a schema.
-/

namespace Boundary

namespace Native

open Source Text

variable {c : Config}

/-! ## What comes before the entry points -/

/-- The heading is a comment, whatever the library is called. -/
theorem reads_heading (hlibrary : OneLine c.libraryName) (hruntime : OneLine c.runtimePath) :
    Reads itemOfLine? (heading c) [] := by
  have hfirst : "// @generated by crossbind. Do not edit.\n//\n// Native shims for `" =
      "// @generated by crossbind. Do not edit." ++ "\n" ++
        ("//" ++ "\n" ++ "// Native shims for `") := rfl
  have hthird : "`. Exported types must be `Clone + Send + Sync`.\n" =
      "`. Exported types must be `Clone + Send + Sync`." ++ "\n" := rfl
  have hreturn {cs : List Char} (h : cs.getLast? ≠ some '\r') :
      (String.ofList cs).toList.getLast? ≠ some '\r' := by rwa [String.toList_ofList]
  have hthirdOne : OneLine ("// Native shims for `" ++ c.libraryName
      ++ "`. Exported types must be `Clone + Send + Sync`.") :=
    .append (.append (.ofList (by decide)) hlibrary) (.ofList (by decide))
  have hthirdReturn : ("// Native shims for `" ++ c.libraryName
      ++ "`. Exported types must be `Clone + Send + Sync`.").toList.getLast? ≠ some '\r' := by
    have hlast {cs : List Char} (h : cs.getLast? = some '.') :
        (String.ofList cs).toList.getLast? = some '.' := by rwa [String.toList_ofList]
    have hpoint : "`. Exported types must be `Clone + Send + Sync`.".toList.getLast? = some '.' :=
      hlast (by decide)
    rw [String.toList_append, List.getLast?_append, hpoint]
    simp
  have hlines : Text.lines ("// @generated by crossbind. Do not edit.\n//\n// Native shims for `"
      ++ c.libraryName ++ "`. Exported types must be `Clone + Send + Sync`.\n"
      ++ "// Include this file in the crate that defines them.") =
      ["// @generated by crossbind. Do not edit.", "//",
        "// Native shims for `" ++ c.libraryName
          ++ "`. Exported types must be `Clone + Send + Sync`.",
        "// Include this file in the crate that defines them."] := by
    have htext : "// @generated by crossbind. Do not edit.\n//\n// Native shims for `"
        ++ c.libraryName ++ "`. Exported types must be `Clone + Send + Sync`.\n"
        ++ "// Include this file in the crate that defines them." =
        "// @generated by crossbind. Do not edit." ++ "\n" ++ ("//" ++ "\n" ++
          (("// Native shims for `" ++ c.libraryName
            ++ "`. Exported types must be `Clone + Send + Sync`.") ++ "\n"
              ++ "// Include this file in the crate that defines them.")) := by
      rw [hfirst, hthird]
      simp only [String.append_assoc]
    rw [htext, lines_feed (.ofList (by decide)) (hreturn (by decide)),
      lines_feed (.ofList (by decide)) (hreturn (by decide)), lines_feed hthirdOne hthirdReturn,
      lines_of_oneLine (.ofList (by decide)) (by simp)]
  have hcomment : Reads itemOfLine? (["// @generated by crossbind. Do not edit.", "//",
        "// Native shims for `" ++ c.libraryName
          ++ "`. Exported types must be `Clone + Send + Sync`.",
        "// Include this file in the crate that defines them."].map Code.line) [] :=
    Unread.cons (unread_ofList (by decide)) (Unread.cons (unread_ofList (by decide))
      (Unread.cons (((unread_ofList (by decide)).append hlibrary).append (.ofList (by decide)))
        (unread_ofList (by decide)).line))
  have huse : Reads itemOfLine? [.line s!"use {c.runtimePath} as {support};", .blank] [] :=
    Unread.cons (((((unread_ofList (by decide)).append hruntime).append
      (.ofList (by decide))).append (.ofList (by decide))).append (.ofList (by decide)))
      reads_nil.blank
  have htext := Reads.lines (hlines ▸ hcomment)
  exact htext.append huse.blank

theorem reads_tables {names : Spelling} (hnames : names.Readable) {types : List (TypeId × String)}
    (h : ∀ t ∈ types, Naming.IsWord t.2) :
    Reads itemOfLine? (types.map fun (id, name) => tableCode names id name) [] := by
  refine reads_nothing fun code hcode => ?_
  obtain ⟨⟨id, name⟩, ht, rfl⟩ := List.mem_map.mp hcode
  exact ((((unread_ofList (by decide)).append (hnames.table id).oneLine).append
    (.ofList (by decide))).append (hnames.path name (h _ ht)).oneLine
      |>.append (.ofList (by decide))).line

theorem reads_layoutChecks (t : FlatType) : Reads itemOfLine? (layoutChecks t) [] := by
  have hnative : OneLine (t.native support) := notMem_native t (.inr rfl)
  have hcheck {measure : String} (hmeasure : OneLine measure) (expected : Nat) :
      Reads itemOfLine? (layoutCheck measure (t.native support) expected) [] :=
    Unread.cons (unread_ofList (by decide))
      (((((((unread_ofList (by decide)).append hmeasure).append (.ofList (by decide))).append
        hnative).append (.ofList (by decide))).append (oneLine_toString expected)).append
          (.ofList (by decide))).line
  exact (hcheck (.ofList (by decide)) _).append (hcheck (.ofList (by decide)) _)

end Native

/-! ## The file of a schema -/

open Native Source Text

variable {c : Config} {facade : String} {ds : List Declaration} {s : Schema}

/-- The name of a table is no mark, and the statements that start with it declare nothing. -/
theorem unread_tableName {name : String} (h : Naming.isIdentifier name = true) :
    Unread itemOfLine? (tableName name) := by
  have hword := Naming.isWord_tableName h
  refine unread_of_sign (oneLine_of_isWord hword) (hword.notMem (by decide)) (c := '_') ?_
    (by decide)
  rw [tableName, String.toList_append]
  exact List.mem_append_right _ (by decide)

/-- The tables and the paths of a schema can be read, if the settings name paths. -/
theorem Config.readable_spelling (h : Accepted facade ds s) (hpaths : c.HasPaths) :
    (s.spelling c).Readable := by
  refine ⟨?_, ?_⟩
  · intro id
    show Unread itemOfLine? (tableName (s.typeName id))
    obtain hid | hunknown := s.typeName_cases id
    · exact unread_tableName (h.isIdentifier_typeName hid)
    · rw [hunknown]
      exact unread_of_isOther (by decide +kernel)
  · intro name hname
    have hsigns : ∀ d ∈ [' ', '\n'], isPathChar d = false := by decide
    have hfree : ∀ d ∈ [' ', '\n'], d ∉ (c.nativePath ++ "::").toList := by
      intro d hd
      have hcolons : d ∉ "::".toList := by
        have hall : ∀ d ∈ [' ', '\n'], d ∉ "::".toList := by decide
        exact hall d hd
      rw [String.toList_append, List.mem_append, not_or]
      refine ⟨fun hmem => ?_, hcolons⟩
      have hpath := hpaths.native d hmem
      rw [hsigns d hd] at hpath
      cases hpath
    refine Unread.append
      (unread_of_sign (hfree '\n' (by decide)) (hfree ' ' (by decide)) (c := ':') ?_ (by decide))
      (oneLine_nativeIdent hname)
    rw [String.toList_append]
    exact List.mem_append_right _ (by decide)

/-! ### Bodies -/

private theorem mem_names_ownedSteps {fields : List (String × TypeRef)} {n : String}
    (hn : n ∈ (ownedSteps fields).flatMap Step.names) : ∃ f ∈ fields, f.1 = n := by
  obtain ⟨step, hstep, hn⟩ := List.mem_flatMap.mp hn
  obtain ⟨⟨⟨name, t⟩, i⟩, hf, hstep⟩ := List.mem_filterMap.mp hstep
  replace hstep : (if needsLift t then some (.lift i name (Lift.of .owned t)) else none) =
      some step :=
    hstep
  split at hstep
  · cases hstep
    obtain rfl := List.mem_singleton.mp hn
    exact ⟨_, List.fst_mem_of_mem_zipIdx hf, rfl⟩
  · cases hstep

private theorem mem_names_callSteps {f : ExportedFunction} {n : String}
    (hn : n ∈ (callSteps f).flatMap Step.names) : ∃ p ∈ f.params, p.name = n := by
  have hreceiver (access : Access) (r : Receiver) :
      (receiverSteps access r).flatMap Step.names = [] := by
    unfold receiverSteps
    split
    · split <;> rfl
    · rfl
  have hparams {choose : Param × Nat → Option Step}
      (hchoose : ∀ p i step, choose (p, i) = some step → step.names = [p.name])
      (hn : n ∈ (f.params.zipIdx.filterMap choose).flatMap Step.names) :
      ∃ p ∈ f.params, p.name = n := by
    obtain ⟨step, hstep, hn⟩ := List.mem_flatMap.mp hn
    obtain ⟨⟨p, i⟩, hp, hstep⟩ := List.mem_filterMap.mp hstep
    rw [hchoose p i step hstep, List.mem_singleton] at hn
    exact ⟨p, List.fst_mem_of_mem_zipIdx hp, hn.symm⟩
  simp only [callSteps, List.flatMap_append, hreceiver, List.nil_append, List.append_nil,
    List.mem_append] at hn
  obtain hn | hn := hn
  · refine hparams (fun p i step hstep => ?_) hn
    dsimp only at hstep
    split at hstep
    · cases hstep
    · split at hstep
      · cases hstep
        rfl
      · cases hstep
  · refine hparams (fun p i step hstep => ?_) hn
    dsimp only at hstep
    split at hstep
    · cases hstep
      rfl
    · cases hstep

/-- Arguments of a call have the names of parameters. -/
theorem mem_names_callFunction {owner : Option String} {f : ExportedFunction} {n : String}
    (hn : n ∈ (callFunction owner f).names) :
    n = f.name ∨ owner = some n ∨ ∃ p ∈ f.params, p.name = n := by
  simp only [callFunction, Body.names, Call.names, List.mem_append, List.mem_cons,
    Option.mem_toList, List.map_map, List.mem_map, Function.comp_apply] at hn
  obtain hn | (rfl | howner) | hparam := hn
  · exact .inr (.inr (mem_names_callSteps hn))
  · exact .inl rfl
  · exact .inr (.inl howner)
  · exact .inr (.inr hparam)

theorem Accepted.isWord_variantRef (h : Accepted facade ds s) {x : ExportedEnum} (hx : x ∈ s.enums)
    {v : Variant} (hv : v ∈ x.variants) (i : Nat) :
    ∀ n ∈ (VariantRef.of x i v).names, Naming.IsWord n := by
  simpa [VariantRef.of, VariantRef.names] using
    ⟨Naming.isWord_of_isIdentifier (h.isIdentifier_enum hx),
      Naming.isWord_of_isIdentifier (h.isIdentifier_variant hx hv)⟩

/-- **The names that the body of an entry point mentions are words.** -/
theorem Accepted.isWord_of_body? (h : Accepted facade ds s) {p : EntryPurpose} {b : Body}
    (hb : s.body? p = some b) : ∀ n ∈ b.names, Naming.IsWord n := by
  have hsteps (fields : List (String × TypeRef)) (hfields : ∀ f ∈ fields, Naming.IsWord f.1) :
      ∀ n ∈ (ownedSteps fields).flatMap Step.names, Naming.IsWord n := by
    intro n hn
    obtain ⟨f, hf, rfl⟩ := mem_names_ownedSteps hn
    exact hfields f hf
  cases p with
  | bufferFree | free id =>
    cases hb
    simp [Body.names]
  | ctor id =>
    obtain ⟨x, hfound, rfl⟩ := Option.map_eq_some_iff.mp hb
    have hx := List.mem_of_find?_eq_some hfound
    have hname : ∀ f ∈ x.fields, Naming.IsWord f.name := fun f hf =>
      Naming.isWord_of_isIdentifier (h.isIdentifier_field hx hf)
    have hlifted := hsteps (x.fields.map fun f => (f.name, f.type)) (by simpa using hname)
    have htype := Naming.isWord_of_isIdentifier (h.isIdentifier_struct hx)
    simp only [constructStruct, Body.names, Construction.names, List.forall_mem_append,
      List.forall_mem_cons, List.forall_mem_map]
    exact ⟨hlifted, htype, hname⟩
  | getter id i =>
    obtain ⟨x, hfound, hb⟩ := Option.bind_eq_some_iff.mp hb
    obtain ⟨f, hf, hb⟩ := Option.bind_eq_some_iff.mp hb
    cases hb
    have hx := List.mem_of_find?_eq_some hfound
    simpa [Body.names] using Naming.isWord_of_isIdentifier
      (h.isIdentifier_field hx (List.mem_of_getElem? hf))
  | variantCtor id i =>
    obtain ⟨x, hfound, hb⟩ := Option.bind_eq_some_iff.mp hb
    obtain ⟨v, hv, hb⟩ := Option.bind_eq_some_iff.mp hb
    cases hb
    have hx := List.mem_of_find?_eq_some hfound
    have hname : ∀ f ∈ v.payload.fields, Naming.IsWord f.name.paramName := fun f hf =>
      (h.readable_payloadField hx (List.mem_of_getElem? hv) hf).isWord_paramName
    have hlifted := hsteps (v.payload.fields.map fun f => (f.name.paramName, f.type))
      (by simpa using hname)
    simp only [constructVariant, Body.names, Construction.names, List.forall_mem_append,
      List.map_map, List.forall_mem_map, Function.comp_apply]
    exact ⟨hlifted, h.isWord_variantRef hx (List.mem_of_getElem? hv) i, hname⟩
  | tag id =>
    obtain ⟨x, hfound, rfl⟩ := Option.map_eq_some_iff.mp hb
    have hx := List.mem_of_find?_eq_some hfound
    intro n hn
    obtain ⟨arm, harm, hn⟩ := List.mem_flatMap.mp hn
    obtain ⟨⟨v, i⟩, hv, rfl⟩ := List.mem_map.mp harm
    exact h.isWord_variantRef hx (List.fst_mem_of_mem_zipIdx hv) i n hn
  | variantGetter id i j =>
    obtain ⟨x, hfound, hb⟩ := Option.bind_eq_some_iff.mp hb
    obtain ⟨v, hv, hb⟩ := Option.bind_eq_some_iff.mp hb
    obtain ⟨f, hf, hb⟩ := Option.bind_eq_some_iff.mp hb
    cases hb
    have hx := List.mem_of_find?_eq_some hfound
    have hreadable := h.readable_payloadField hx (List.mem_of_getElem? hv) (List.mem_of_getElem? hf)
    have hfield : ∀ n ∈ f.name.names, Naming.IsWord n := by
      cases hname : f.name with
      | index n => simp [FieldName.names]
      | named name =>
        simpa [FieldName.names] using Naming.isWord_of_isIdentifier (hreadable name hname)
    simp only [Body.names, List.forall_mem_append]
    exact ⟨h.isWord_variantRef hx (List.mem_of_getElem? hv) i, hfield⟩
  | function id =>
    obtain ⟨f, hfound, rfl⟩ := Option.map_eq_some_iff.mp hb
    have hf := List.mem_of_find?_eq_some hfound
    intro n hn
    obtain rfl | howner | ⟨p, hp, rfl⟩ := mem_names_callFunction hn
    · exact Naming.isWord_of_isIdentifier (h.isIdentifier_function hf)
    · exact Naming.isWord_of_isIdentifier (h.isIdentifier_ownerName hf howner)
    · exact Naming.isWord_of_isIdentifier (h.isIdentifier_param hf hp)

/-- **A native file defines the entry points of its schema** for callers outside, one after the
other, and nothing else. -/
theorem linesRead_nativeSource (hschema : c.schema ds = .ok s) (hlibrary : OneLine c.libraryName)
    (hpaths : c.HasPaths) :
    linesRead itemOfLine? (s.nativeSource c) = (s.entryPoints c.symbols).map EntryPoint.item := by
  obtain ⟨hfault, hbuild⟩ := Config.schema_eq_ok_iff.mp hschema
  have h := Schema.build_eq_ok_iff_accepted.mp hbuild
  have hnames := Config.readable_spelling h hpaths
  have hruntime : OneLine c.runtimePath := by
    intro hfeed
    exact absurd (hpaths.runtime _ hfeed) (by decide)
  have htypes : ∀ t ∈ s.typeNames, Naming.IsWord t.2 := by
    rintro ⟨id, name⟩ ht
    obtain ⟨hid, rfl⟩ := h.typeName_of_mem ht
    exact Naming.isWord_of_isIdentifier (h.isIdentifier_typeName hid)
  have hentries : Reads itemOfLine?
      ((s.entryPoints c.symbols).flatMap fun e => entryCode (s.spelling c) e (s.body? e.purpose))
      ((s.entryPoints c.symbols).flatMap fun e => [e.item]) :=
    Reads.flatMap fun e he => reads_entryCode hnames
      (h.isWord_symbol (Config.isWord_symbols hfault) he)
      (fun p hp => h.isWord_entryParam he hp) fun b hb => h.isWord_of_body? hb
  have hchecks : Reads itemOfLine?
      ((FlatType.strView :: .buffer :: optionTypes (s.entryPoints c.symbols)).flatMap layoutChecks)
      [] := reads_flatMap_nothing fun t _ => reads_layoutChecks t
  have hfile := ((((reads_heading hlibrary hruntime).append (reads_tables hnames htypes)).append
    reads_nil.blank).append hchecks).append hentries
  rw [Schema.nativeSource, Schema.nativeCode, hfile.linesRead_render itemOfLine?_empty]
  simp [List.map_eq_flatMap]

end Boundary
