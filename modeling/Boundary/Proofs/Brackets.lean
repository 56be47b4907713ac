import Boundary.Demo.Declarations
import Boundary.Proofs.Managed.Brackets
import Boundary.Proofs.Managed.Listing
import Boundary.Proofs.Naming.Signs
import Boundary.Proofs.Native.Brackets

/-!
# Brackets in generated files

Both files of a schema are written with matching brackets, provided that there are no braces in the
settings.

* `Config.IsBraceFree`: settings without braces; `Config.IsBraceFree.symbols`,
  `Config.IsBraceFree.space`: what is derived from them has none either.
* `Accepted.braceFree_symbol`: nor have the symbols of entry points.
* `Accepted.isNested_method`, `Accepted.isNested_wrapper`, `Accepted.isNested_enumClass`: the parts
  of a managed file.
* `Schema.isNested_managedCode`: the managed file.
* `wellBracketed_files`: the brackets of both files match.
-/

namespace Boundary

open Managed Source Text

/-! ## Settings -/

/-- The texts in the settings `c`. -/
def Config.texts (c : Config) : List String :=
  c.symbolPrefix.toList ++ c.managedNamespace.toList ++
    [c.libraryName, c.facade, c.nativePath, c.runtimePath, c.nativeFile, c.managedFile]

/-- There are no braces in the `texts` of the settings. -/
def Config.IsBraceFree (c : Config) : Prop := ∀ t ∈ c.texts, BraceFree t

instance (c : Config) : Decidable c.IsBraceFree :=
  inferInstanceAs (Decidable (∀ t ∈ c.texts, BraceFree t))

private theorem braceFree_snake {name : String} (h : BraceFree name) :
    BraceFree (Naming.snake name) :=
  ⟨fun hc => h.1 ((Naming.isLone_brace '{' (by decide)).of_mem_snake hc),
    fun hc => h.2 ((Naming.isLone_brace '}' (by decide)).of_mem_snake hc)⟩

private theorem braceFree_pascal {name : String} (h : BraceFree name) :
    BraceFree (Naming.pascal name) :=
  ⟨fun hc => h.1 ((Naming.isLone_brace '{' (by decide)).of_mem_pascal hc),
    fun hc => h.2 ((Naming.isLone_brace '}' (by decide)).of_mem_pascal hc)⟩

namespace Config.IsBraceFree

variable {c : Config} (h : c.IsBraceFree)
include h

theorem libraryName : BraceFree c.libraryName := h _ (by simp [Config.texts])

theorem facade : BraceFree c.facade := h _ (by simp [Config.texts])

theorem nativePath : BraceFree c.nativePath := h _ (by simp [Config.texts])

theorem runtimePath : BraceFree c.runtimePath := h _ (by simp [Config.texts])

/-- The start of symbols has no braces, whether it is given or derived. -/
theorem symbols : BraceFree c.symbols := by
  unfold Config.symbols
  cases hstart : c.symbolPrefix with
  | none => exact braceFree_snake h.libraryName
  | some start => exact h _ (by simp [Config.texts, hstart])

/-- The managed namespace has no braces, whether it is given or derived. -/
theorem space : BraceFree c.space := by
  unfold Config.space
  cases hspace : c.managedNamespace with
  | none => exact braceFree_pascal h.libraryName
  | some space => exact h _ (by simp [Config.texts, hspace])

end Config.IsBraceFree

variable {c : Config} {facade : String} {ds : List Declaration} {s : Schema}

/-- The symbols of entry points have the braces of their start. -/
theorem Accepted.braceFree_symbol {start : String} (h : Accepted facade ds s)
    (hstart : BraceFree start) {e : EntryPoint} (he : e ∈ s.entryPoints start) :
    BraceFree e.symbol := by
  have hnot {d : Char} (hd : d ∉ start.toList) (hword : Naming.isWordChar d = false) :
      d ∉ e.symbol.toList := by
    intro hmem
    rcases h.mem_symbol_cases he hmem with hmem | hmem
    · exact hd hmem
    · rw [hword] at hmem
      cases hmem
  exact ⟨hnot hstart.1 (by decide), hnot hstart.2 (by decide)⟩

/-! ## Managed files -/

theorem Schema.isNested_surface (h : Accepted facade ds s) (hspace : Nested c.space) :
    (s.surface c).IsNested := by
  have hnames (id : TypeId) :
      Nested (s.typeName id) ∧ Nested (Naming.pascal (s.typeName id)) := by
    obtain hid | hunknown := s.typeName_cases id
    · have hname := h.isIdentifier_typeName hid
      exact ⟨nested_of_isWord (Naming.isWord_of_isIdentifier hname),
        nested_of_isWord (Naming.isWord_pascal hname)⟩
    · have hpascal : Naming.pascal "<unknown>" = "<unknown>" := by decide +kernel
      rw [hunknown, hpascal]
      exact ⟨nested_ofList (by decide), nested_ofList (by decide)⟩
  exact ⟨hspace, fun id => (hnames id).1, fun id => (hnames id).2⟩

theorem isNested_argument (surface : Surface) {name : String} (h : Naming.IsWord name)
    (t : TypeRef) : (surface.argument (Managed.paramName name) (localName name) t).IsNested := by
  have hsource := nested_of_isWord (isWord_paramName h)
  have htemporary := nested_of_isWord (isWord_localName h)
  constructor
  · dsimp only [Surface.argument]
    exact hsource
  · dsimp only [Surface.argument]
    exact htemporary

private theorem isNested_thisArgument : ∀ a ∈ [thisArgument], a.IsNested := by
  rw [List.forall_mem_singleton]
  exact ⟨nested_ofList (by decide), nested_empty⟩

namespace Accepted

section Parts

variable (h : Accepted facade ds s) (hspace : Nested c.space)
  (hsymbols : ∀ e ∈ s.entryPoints c.symbols, Nested e.symbol)

include h hspace hsymbols

theorem isNested_method {f : ExportedFunction} (hf : f ∈ s.functions) (isStatic : Bool)
    {extended : List Parameter} (hextended : Parameters.IsNested extended)
    {receiver : List Argument} (hreceiver : ∀ a ∈ receiver, a.IsNested) {owner : String}
    (howner : Nested owner) :
    ((s.context c).method f isStatic extended receiver owner).IsNested := by
  have hname := h.isIdentifier_function hf
  have hsurface := Schema.isNested_surface h hspace
  have hparam : ∀ p ∈ f.params, Naming.IsWord p.name := fun p hp =>
    Naming.isWord_of_isIdentifier (h.isIdentifier_param hf hp)
  have hfree : ∀ p ∈ f.params, BraceFree (Managed.paramName p.name) := fun p hp =>
    braceFree_of_isWord (isWord_paramName (hparam p hp))
  have hentry : s.functionEntry c.symbols f ∈ s.entryPoints c.symbols :=
    List.mem_append_right _ (List.mem_map_of_mem hf)
  have hsymbol := hsymbols _ hentry
  refine ⟨nested_of_isWord (Naming.isWord_of_isIdentifier hname),
    nested_of_isWord (Naming.isWord_pascal hname), ?_, forall_transferredParams hfree, ⟨hsymbol, ?_,
    ?_⟩⟩
  · refine forall_params_method hextended fun p hp => ?_
    dsimp only
    exact ⟨hsurface.type _, (hfree p hp).nested⟩
  · exact forall_args_method hreceiver fun p hp => isNested_argument _ (hparam p hp) _
  · exact forall_forget_method howner fun p hp => (hfree p hp).nested

theorem isNested_wrapper {x : ExportedStruct} (hx : x ∈ s.structs) :
    ((s.context c).wrapper x).IsNested := by
  have hname := h.isIdentifier_struct hx
  have hfield : ∀ f ∈ x.fields, Naming.IsWord f.name := fun f hf =>
    Naming.isWord_of_isIdentifier (h.isIdentifier_field hx hf)
  have hctor := hsymbols _ (Schema.Entry.ctor hx).mem_entryPoints
  have hfree := hsymbols _ (Schema.Entry.free
    (Schema.mem_typeNames_iff.mpr (.inl ⟨x, hx, rfl, rfl⟩))).mem_entryPoints
  refine ⟨nested_of_isWord (Naming.isWord_of_isIdentifier hname),
    nested_of_isWord (Naming.isWord_pascal hname), ?params,
    ⟨hctor, ?arguments, List.forall_mem_nil _⟩, ?properties, ?methods, hfree⟩
  case params =>
    intro p hp
    obtain ⟨f, hf, rfl⟩ := List.mem_map.mp hp
    dsimp only
    exact ⟨(Schema.isNested_surface h hspace).type _,
      nested_of_isWord (isWord_paramName (hfield f hf))⟩
  case arguments =>
    intro a ha
    obtain ⟨f, hf, rfl⟩ := List.mem_map.mp ha
    exact isNested_argument _ (hfield f hf) _
  case properties =>
    intro p hp
    obtain ⟨f, hf, rfl⟩ := List.mem_map.mp hp
    obtain ⟨i, hi⟩ := List.mem_iff_getElem?.mp hf
    have hgetter := hsymbols _ (Schema.Entry.getter hx hi).mem_entryPoints
    exact ⟨nested_of_isWord (Naming.isWord_pascal (h.isIdentifier_field hx hf)), hgetter,
      isNested_thisArgument, List.forall_mem_nil _⟩
  case methods =>
    intro m hm
    obtain ⟨f, hf, rfl⟩ := List.mem_map.mp hm
    exact h.isNested_method hspace hsymbols (List.mem_filter.mp hf).1 false (List.forall_mem_nil _)
      isNested_thisArgument (nested_ofList (by decide))

omit hspace in
theorem isNested_record {x : ExportedEnum} (hx : x ∈ s.enums) {v : Variant}
    (hv : v ∈ x.variants) : ((s.context c).record x v).IsNested := by
  obtain ⟨i, hi⟩ := List.mem_iff_getElem?.mp hv
  have hctor := hsymbols _ (Schema.Entry.variantCtor hx hi).mem_entryPoints
  refine ⟨nested_of_isWord (Naming.isWord_pascal (h.isIdentifier_variant hx hv)), ?_, hctor⟩
  intro g hg
  obtain ⟨f, hf, rfl⟩ := List.mem_map.mp hg
  obtain ⟨j, hj⟩ := List.mem_iff_getElem?.mp hf
  have hreadable := h.readable_payloadField hx hv hf
  have hrecord := nested_of_isWord hreadable.isWord_recordField
  have hgetter := hsymbols _ (Schema.Entry.variantGetter hx hi hj).mem_entryPoints
  have hsource : Nested ("__v." ++ Managed.recordField f.name) :=
    (nested_ofList (by decide)).append hrecord
  have htemporary := nested_of_isWord (isWord_localName hreadable.isWord_paramName)
  exact ⟨hrecord, hgetter, hsource, htemporary⟩

theorem isNested_enumClass {x : ExportedEnum} (hx : x ∈ s.enums) :
    ((s.context c).enumClass x).IsNested := by
  have hname := h.isIdentifier_enum hx
  have hpascal := nested_of_isWord (Naming.isWord_pascal hname)
  have htag := hsymbols _ (Schema.Entry.tag hx).mem_entryPoints
  have hfree := hsymbols _ (Schema.Entry.free
    (Schema.mem_typeNames_iff.mpr (.inr ⟨x, hx, rfl, rfl⟩))).mem_entryPoints
  refine ⟨nested_of_isWord (Naming.isWord_of_isIdentifier hname), hpascal, ?records, htag, hfree,
    ?methods⟩
  case records =>
    intro r hr
    obtain ⟨v, hv, rfl⟩ := List.mem_map.mp hr
    exact h.isNested_record hsymbols hx hv
  case methods =>
    have hself : Parameters.IsNested
        [⟨"this " ++ (s.surface c).qualified ("I" ++ Naming.pascal x.name), "__self"⟩] := by
      rw [Parameters.IsNested, List.forall_mem_singleton]
      exact ⟨(nested_ofList (by decide)).append ((Schema.isNested_surface h hspace).qualified
        ((nested_ofList (by decide)).append hpascal)), nested_ofList (by decide)⟩
    have hreceiver : ∀ a ∈ [(s.surface c).argument "__self" "__selfHandle" (.handle x.id)],
        a.IsNested := by
      rw [List.forall_mem_singleton]
      exact ⟨nested_ofList (by decide), nested_ofList (by decide)⟩
    intro m hm
    obtain ⟨f, hf, rfl⟩ := List.mem_map.mp hm
    exact h.isNested_method hspace hsymbols (List.mem_filter.mp hf).1 true hself hreceiver
      (nested_ofList (by decide))

end Parts

end Accepted

/-- **The braces of a managed file match** if there are none in the settings. -/
theorem Schema.isNested_managedCode (h : Accepted facade ds s) (hc : c.IsBraceFree) :
    Source.IsNested ((s.managedFile c).code (s.surface c)) := by
  have hspace := hc.space.nested
  have hsymbols : ∀ e ∈ s.entryPoints c.symbols, BraceFree e.symbol := fun e he =>
    h.braceFree_symbol hc.symbols he
  have hnested : ∀ e ∈ s.entryPoints c.symbols, Nested e.symbol :=
    fun e he => (hsymbols e he).nested
  have hfree := hnested _ Schema.Entry.bufferFree.mem_entryPoints
  refine isNested_file (Schema.isNested_surface h hspace) {
    libraryName := hc.libraryName
    managedNamespace := hspace
    bufferFree := hfree
    symbols := hsymbols
    params := fun e he p hp => h.isWord_entryParam he hp
    wrappers := fun w hw => ?_
    enums := fun e he => ?_
    facade := hc.facade.nested
    functions := fun m hm => ?_ }
  · obtain ⟨x, hx, rfl⟩ := List.mem_map.mp hw
    exact h.isNested_wrapper hspace hnested hx
  · obtain ⟨x, hx, rfl⟩ := List.mem_map.mp he
    exact h.isNested_enumClass hspace hnested hx
  · obtain ⟨f, hf, rfl⟩ := List.mem_map.mp hm
    exact h.isNested_method hspace hnested (List.mem_filter.mp hf).1 true (List.forall_mem_nil _)
      (List.forall_mem_nil _) nested_empty

/-! ## Both files -/

/-- **Generated files are well bracketed.** If there are no braces in the settings, the calls that
write the native file and the managed file of an accepted schema close what they open, and so do the
braces of their texts. -/
theorem wellBracketed_files (h : Schema.build facade ds = .ok s) (hc : c.IsBraceFree) :
    WellBracketed (s.nativeCode c) (s.nativeSource c) ∧
      WellBracketed ((s.managedFile c).code (s.surface c)) (s.managedSource c) := by
  have haccepted := Schema.build_eq_ok_iff_accepted.mp h
  have hnative := Schema.isNested_nativeCode haccepted hc.libraryName hc.runtimePath.nested
    hc.nativePath.nested fun e he => (haccepted.braceFree_symbol hc.symbols he).nested
  exact ⟨hnative.wellBracketed (s.balanced_nativeCode c),
    (Schema.isNested_managedCode haccepted hc).wellBracketed (File.balanced_code _ _)⟩

/-- The brackets of both files of the demo library match. -/
theorem wellBracketed_files_demo :
    Schema.build defaultFacade Demo.declarations = .ok Demo.schema ∧
      WellBracketed (Demo.schema.nativeCode { libraryName := "demo" })
        (Demo.schema.nativeSource { libraryName := "demo" }) ∧
      WellBracketed ((Demo.schema.managedFile { libraryName := "demo" }).code
        (Demo.schema.surface { libraryName := "demo" }))
        (Demo.schema.managedSource { libraryName := "demo" }) :=
  ⟨Demo.build_declarations, wellBracketed_files Demo.build_declarations (by decide)⟩

end Boundary
