import Boundary.Proofs.Managed.DistinctTypes
import Boundary.Proofs.Managed.Listing
import Boundary.Proofs.Managed.OptionUses

/-!
# Options are declared

Options cross the boundary as structs, which support code declares for the entry points of a schema.
Every option in the signature of an imported function is declared, and so is every option that a
class creates. Nothing keeps a variant from being called like an option, however: what its enum
creates under that name is then its record.

* `mem_optionTypes_iff`: the options that entry points use.
* `importedTypes`: the types in the signatures of imported functions.
* `File.creations`: what classes create, with the types that are nested in them.
* `suits_wrapper`, `suits_enumClass`, `suits_facade`: classes need options of the entry points.
* `Schema.DeclaresOption`: an option with its struct, and with checks of its layout.
* `Schema.CreatesDeclared`, `createsDeclared_iff`: whether all options that classes create are
  declared ones.
* `options_declared`: all of this about an accepted schema.
-/

namespace Boundary

open Managed

/-! ## Options of entry points -/

theorem mem_optionTypes_iff {entryPoints : List EntryPoint} {t : FlatType} :
    t ∈ optionTypes entryPoints ↔ t.isOption = true ∧ ∃ e ∈ entryPoints, t ∈ e.types := by
  have hall (types seen : List FlatType) :
      t ∈ types.foldl (fun seen t => if t.isOption && !seen.contains t then seen ++ [t] else seen)
        seen ↔ t ∈ seen ∨ t.isOption = true ∧ t ∈ types := by
    induction types generalizing seen with
    | nil => simp
    | cons u rest ih =>
      rw [List.foldl_cons, ih]
      split <;> grind
  rw [optionTypes, hall]
  simp

/-- Only options have names that start with `optionPrefix`. -/
theorem FlatType.isOption_of_startsWith {t : FlatType}
    (h : t.managed.startsWith optionPrefix = true) : t.isOption = true := by
  have hplain : ∀ u ∈ plain, u.managed.startsWith optionPrefix = false := by decide +kernel
  by_contra hoption
  rw [hplain t (mem_plain (eq_false_of_ne_true hoption))] at h
  cases h

namespace Managed

open Source Text

/-! ## Imported functions -/

/-- The types in the signature of the imported function `i`. -/
def Import.types (i : Import) : List String :=
  i.params.map (fun p => String.ofList (p.toList.takeWhile (· ≠ ' '))) ++ [i.ret]

/-- The types in the signature that a line declares. -/
def Mark.types : Mark → List String
  | .declared i => i.types
  | .entry _ | .call _ => []

/-- The types in the signatures of the functions that `code` imports. -/
def importedTypes (code : List Code) : List String :=
  ((Code.textsAll code).filterMap fun line => markOf? (trimStart line)).flatMap Mark.types

/-- The signature of an imported function has the types of its entry point, and the type of the
status. -/
theorem types_imported (e : EntryPoint) :
    e.imported.types = (e.params.map fun p => p.type.managed) ++ ["ref", e.ret.managed] := by
  have hparam (p : FlatParam) : String.ofList
      ((p.type.managed ++ " " ++ importName p.name).toList.takeWhile (· ≠ ' ')) =
        p.type.managed := by
    have htype : ∀ c ∈ p.type.managed.toList, decide (c ≠ ' ') = true := by
      intro c hc
      simpa using ne_of_mem_of_not_mem hc ((isWord_managed p.type).notMem (by decide))
    have hblank : (" " : String).toList = [' '] := rfl
    rw [String.toList_append, String.toList_append, hblank, List.append_assoc,
      List.takeWhile_append_of_pos htype]
    simp
  have hstatus : String.ofList ("ref CallStatus __status".toList.takeWhile (· ≠ ' ')) = "ref" := by
    decide
  rw [Import.types, EntryPoint.imported, List.map_append, List.map_map, List.map_singleton, hstatus,
    List.append_assoc]
  exact congrArg (· ++ _) (List.map_congr_left fun p _ => hparam p)

/-- **The types in the signatures of imported functions** are those of the entry points. -/
theorem importedTypes_importsCode {libraryName : String} {entryPoints : List EntryPoint}
    (hsymbols : ∀ e ∈ entryPoints, Naming.IsWord e.symbol)
    (hparams : ∀ e ∈ entryPoints, ∀ p ∈ e.params, Naming.IsWord p.name) :
    importedTypes (importsCode libraryName entryPoints) = entryPoints.flatMap fun e =>
      (e.params.map fun p => p.type.managed) ++ ["ref", e.ret.managed] := by
  have hentry (e : EntryPoint) : e.importMarks.flatMap Mark.types =
      (e.params.map fun p => p.type.managed) ++ ["ref", e.ret.managed] := by
    rw [← types_imported, EntryPoint.importMarks]
    simp [Mark.types]
  rw [importedTypes, (reads_importsCode libraryName hsymbols hparams).eq, List.flatMap_assoc]
  exact List.flatMap_congr fun e _ => hentry e

private theorem mem_importedTypes {libraryName : String} {entryPoints : List EntryPoint}
    (hsymbols : ∀ e ∈ entryPoints, Naming.IsWord e.symbol)
    (hparams : ∀ e ∈ entryPoints, ∀ p ∈ e.params, Naming.IsWord p.name) {name : String}
    (h : name ∈ importedTypes (importsCode libraryName entryPoints)) :
    name = "ref" ∨ ∃ e ∈ entryPoints, ∃ t ∈ e.types, name = t.managed := by
  rw [importedTypes_importsCode hsymbols hparams] at h
  obtain ⟨e, he, hname⟩ := List.mem_flatMap.mp h
  simp only [List.mem_append, List.mem_map, List.mem_cons, List.not_mem_nil, or_false] at hname
  rcases hname with ⟨p, hp, rfl⟩ | rfl | rfl
  · exact .inr ⟨e, he, p.type, List.mem_append_left _ (List.mem_map_of_mem hp), rfl⟩
  · exact .inl rfl
  · exact .inr ⟨e, he, e.ret, List.mem_append_right _ (List.mem_singleton_self _), rfl⟩

/-! ## What classes create -/

/-- What the classes of a file create, each with the types that are nested in its class. A nested
type hides one of its name at the top level. -/
def File.creations (s : Surface) (f : File) : List (List String × String) :=
  f.wrappers.flatMap (fun w => (creationsOf (w.code s)).map fun name => ([], name))
    ++ f.enums.flatMap (fun e =>
      (creationsOf (e.code s)).map fun name => (e.records.map (·.name), name))
    ++ (creationsOf (f.facade.code s f.libraryName)).map fun name => ([], name)

/-- The record of a variant is created in the class of its enum. -/
theorem mem_creationsOf_enumClass (s : Surface) {e : EnumClass} {r : VariantRecord}
    (hr : r ∈ e.records) (hname : Naming.IsWord r.name) : r.name ∈ creationsOf (e.code s) := by
  have hline (values : String) :
      r.name ∈ creationsOf (lines [s!"return new {r.name}({values});"]) := by
    have htext : (s!"return new {r.name}({values});").toList =
        "return new".toList ++ ' ' :: (r.name.toList ++ '(' :: (values ++ ");").toList) := by
      show ("return new " ++ r.name ++ "(" ++ values ++ ");").toList = _
      simp
    have hcomment : ¬ ['/', '/'] <+: (s!"return new {r.name}({values});").toList := by
      rw [htext]
      simp
    have hmem : r.name ∈ creations s!"return new {r.name}({values});" := by
      refine (mem_creations_iff hcomment).mpr ⟨_, _, htext, by decide, ?_⟩
      rw [List.takeWhile_append_of_pos hname, List.takeWhile_cons_of_neg (by decide),
        List.append_nil, String.ofList_toList]
    rw [lines, List.map_singleton, creationsOf_line]
    exact hmem
  have hrecord : r.name ∈ creationsOf (r.decode s) := by
    rw [VariantRecord.decode_eq]
    exact mem_creationsOf_declared (mem_creationsOf_right (hline _) _)
  have hrecords : r.name ∈ creationsOf (e.records.flatMap (·.decode s)) :=
    mem_creationsOf_flatMap hr hrecord
  have hdecode : r.name ∈ creationsOf (e.decode s) := by
    rw [EnumClass.decode_eq]
    exact mem_creationsOf_declared (mem_creationsOf_left (mem_creationsOf_declared
      (mem_creationsOf_right (mem_creationsOf_declared (mem_creationsOf_left hrecords _)) _)) _)
  have hmember : e.decode s ∈ [e.decode s, e.lower s,
      declared "internal static void Free(ulong handle)" (freeBody e.freeSymbol)]
        ++ e.methods.map (·.code s) := List.mem_cons_self
  have hmembers := mem_creationsOf_flatMap (f := fun code => .blank :: code) hmember
    (mem_creationsOf_right hdecode [.blank])
  rw [EnumClass.code_eq]
  exact mem_creationsOf_right (mem_creationsOf_declared (mem_creationsOf_right hmembers _)) _

/-! ## What a schema needs -/

theorem ArgumentForm.eq_of_option? {isEnum : TypeId → Bool} {t : TypeRef} {u : FlatType}
    (h : u ∈ (ArgumentForm.of isEnum t).option?) :
    u = FlatType.of .in_ t ∧ u.isOption = true := by
  have hform {v : FlatType} (hv : u ∈ some v) (hoption : v.isOption = true) :
      u = v ∧ u.isOption = true := by
    obtain rfl := Option.some.inj hv
    exact ⟨rfl, hoption⟩
  unfold ArgumentForm.of at h
  split at h
  · cases h
  · cases h
  · split at h <;> cases h
  · dsimp only at h
    split at h
    · exact hform h rfl
    · exact hform h rfl
    · split at h <;> exact hform h rfl
    · exact hform h rfl
  · cases h

end Managed

open Managed Source Text

/-- The options of a schema by name. -/
def Schema.optionNames (s : Schema) (c : Config) : List String :=
  (optionTypes (s.entryPoints c.symbols)).map FlatType.managed

section Needs

variable {c : Config} {facade : String} {ds : List Declaration} {s : Schema}

theorem mem_optionNames {e : EntryPoint} (he : e ∈ s.entryPoints c.symbols) {t : FlatType}
    (ht : t ∈ e.types) (hoption : t.isOption = true) : t.managed ∈ s.optionNames c :=
  List.mem_map_of_mem (mem_optionTypes_iff.mpr ⟨hoption, e, he, ht⟩)

theorem pascal_ne_newWord {name : String} (h : Naming.isIdentifier name = true) :
    (Naming.pascal name).toList ≠ newWord := by
  intro hnew
  have hlower := Naming.isLower_head?_pascal h 'n' (by rw [hnew]; rfl)
  revert hlower
  decide

theorem Config.isNamed_surface (hfault : c.fault? = none) (h : Accepted facade ds s) :
    (s.surface c).IsNamed := by
  have hname (id : TypeId) : ' ' ∉ (s.typeName id).toList ∧
      ' ' ∉ (Naming.pascal (s.typeName id)).toList ∧
      EndsOther ('.' :: (Naming.pascal (s.typeName id)).toList) ∧
      EndsOther ('I' :: (Naming.pascal (s.typeName id)).toList) := by
    obtain hid | hunknown := s.typeName_cases id
    · have hid' := h.isIdentifier_typeName hid
      have hword := Naming.isWord_pascal hid'
      have hne := pascal_ne_newWord hid'
      exact ⟨(Naming.isWord_of_isIdentifier hid').notMem (by decide), hword.notMem (by decide),
        endsOther_name (by decide) hword hne, endsOther_name (by decide) hword hne⟩
    · have hpascal : Naming.pascal "<unknown>" = "<unknown>" := by decide +kernel
      rw [hunknown, hpascal]
      exact ⟨by decide, by decide, endsOther_of (by decide) (by decide),
        endsOther_of (by decide) (by decide)⟩
  exact ⟨Config.notMem_space hfault (by decide) (by decide), fun id => (hname id).1,
    fun id => (hname id).2.1, fun id => (hname id).2.2.1, fun id => (hname id).2.2.2⟩

/-- A parameter needs the option that an entry point passes it as. -/
theorem suits_argument {p : String → Prop} (hp : ∀ name ∈ s.optionNames c, p name)
    {e : EntryPoint} (he : e ∈ s.entryPoints c.symbols) {source temporary : String} {t : TypeRef}
    (ht : FlatType.of .in_ t ∈ e.types) (hsource : CreatesOnly p source)
    (htemporary : CreatesOnly p temporary) :
    ((s.surface c).argument source temporary t).Suits p := by
  refine ⟨hsource, htemporary, fun u hu => ?_⟩
  obtain ⟨rfl, hoption⟩ := ArgumentForm.eq_of_option? hu
  exact hp _ (mem_optionNames he ht hoption)

theorem createsOnly_paramName {p : String → Prop} {name : String} (h : Naming.IsWord name) :
    CreatesOnly p (Managed.paramName name) := createsOnly_of_isWord (isWord_paramName h)

private theorem suits_thisArgument {p : String → Prop} : thisArgument.Suits p :=
  ⟨.ofList (by decide), .ofList (by decide), by simp [thisArgument, ArgumentForm.option?]⟩

variable (hfault : c.fault? = none) (h : Accepted facade ds s)
include hfault h

theorem suits_method {p : String → Prop} (hp : ∀ name ∈ s.optionNames c, p name)
    {f : ExportedFunction} (hf : f ∈ s.functions) (isStatic : Bool) {extended : List Parameter}
    (hextended : Parameters.Suit p extended) {receiver : List Argument}
    (hreceiver : ∀ a ∈ receiver, a.Suits p) {owner : String} (howner : CreatesOnly p owner) :
    ((s.context c).method f isStatic extended receiver owner).Suits p := by
  have hsurface := Config.isNamed_surface hfault h
  have hparam : ∀ q ∈ f.params, Naming.IsWord q.name := fun q hq =>
    Naming.isWord_of_isIdentifier (h.isIdentifier_param hf hq)
  have hentry : s.functionEntry c.symbols f ∈ s.entryPoints c.symbols :=
    List.mem_append_right _ (List.mem_map_of_mem hf)
  refine ⟨createsOnly_of_isWord (Naming.isWord_pascal (h.isIdentifier_function hf)), ?_,
    h.isWord_functionSymbol (Config.isWord_symbols hfault) hf, ?_, ?_⟩
  · refine forall_params_method hextended fun d hd => ?_
    dsimp only
    exact ⟨hsurface.type _, hsurface.endsOther_type _, createsOnly_paramName (hparam d hd)⟩
  · refine forall_args_method hreceiver fun q hq => ?_
    have htype : FlatType.of .in_ q.type ∈ (s.functionEntry c.symbols f).types :=
      List.mem_append_left _ (List.mem_map.mpr
        ⟨⟨q.name, .of .in_ q.type⟩, List.mem_append_right _ (List.mem_map_of_mem hq), rfl⟩)
    exact suits_argument hp hentry htype (createsOnly_paramName (hparam q hq))
      (createsOnly_of_isWord (isWord_localName (hparam q hq)))
  · exact forall_forget_method howner fun q hq => createsOnly_paramName (hparam q hq)

/-- The class of a struct needs options of the schema only. -/
theorem suits_wrapper {x : ExportedStruct} (hx : x ∈ s.structs) :
    ((s.context c).wrapper x).Suits (· ∈ s.optionNames c) := by
  have hsurface := Config.isNamed_surface hfault h
  have hname := h.isIdentifier_struct hx
  have hstart := Config.isWord_symbols hfault
  have hfield : ∀ f ∈ x.fields, Naming.IsWord f.name := fun f hf =>
    Naming.isWord_of_isIdentifier (h.isIdentifier_field hx hf)
  have hentry : x.ctorEntry c.symbols ∈ s.entryPoints c.symbols := Schema.Entry.mem_entryPoints
    (.ctor hx)
  have hthis : ∀ a ∈ [thisArgument], a.Suits (· ∈ s.optionNames c) := by
    simpa using suits_thisArgument
  refine ⟨Naming.isWord_pascal hname, ?_, ?_, ⟨Symbol.isWord_ctor hstart hname, ?_, ?_⟩, ?_, ?_,
    Symbol.isWord_free hstart hname⟩
  · -- No exported type is called like an option.
    intro hcalled
    have hfree := (h.managedTypeNames_free (Naming.pascal x.name)
      (List.mem_append_left _ (List.mem_map_of_mem hx))).2.2
    have hstarts : (Naming.pascal x.name).startsWith optionPrefix = true :=
      String.startsWith_string_iff.mpr hcalled
    rw [hstarts] at hfree
    cases hfree
  · intro q hq
    obtain ⟨f, hf, rfl⟩ := List.mem_map.mp hq
    dsimp only
    exact ⟨hsurface.type _, hsurface.endsOther_type _,
      createsOnly_paramName (hfield f hf)⟩
  · intro a ha
    obtain ⟨f, hf, rfl⟩ := List.mem_map.mp ha
    have htype : FlatType.of .in_ f.type ∈ (x.ctorEntry c.symbols).types :=
      List.mem_append_left _ (List.mem_map.mpr
        ⟨⟨f.name, .of .in_ f.type⟩, List.mem_map_of_mem hf, rfl⟩)
    exact suits_argument (fun _ hname => hname) hentry htype
      (createsOnly_paramName (hfield f hf))
      (createsOnly_of_isWord (isWord_localName (hfield f hf)))
  · intro owner howner
    cases howner
  · intro q hq
    obtain ⟨f, hf, rfl⟩ := List.mem_map.mp hq
    refine ⟨createsOnly_of_isWord (Naming.isWord_pascal (h.isIdentifier_field hx hf)),
      Symbol.isWord_getter hstart hname (h.isIdentifier_field hx hf), hthis, ?_⟩
    intro owner howner
    cases howner
  · intro m hm
    obtain ⟨f, hf, rfl⟩ := List.mem_map.mp hm
    exact suits_method hfault h (fun _ hname => hname) (List.mem_filter.mp hf).1 false
      (by simp [Parameters.Suit]) hthis (.ofList (by decide))

/-- The record of a variant needs options of the schema, and is created itself. -/
theorem suits_record {x : ExportedEnum} (hx : x ∈ s.enums) {i : Nat} {v : Variant}
    (hv : x.variants[i]? = some v) {p : String → Prop} (hp : ∀ name ∈ s.optionNames c, p name)
    (hown : p (Naming.pascal v.name)) : ((s.context c).record x v).Suits p := by
  have hstart := Config.isWord_symbols hfault
  have htype := h.isIdentifier_enum hx
  have hmem := List.mem_of_getElem? hv
  have hvariant := h.isIdentifier_variant hx hmem
  have hentry : x.ctorEntry i v c.symbols ∈ s.entryPoints c.symbols :=
    Schema.Entry.mem_entryPoints (.variantCtor hx hv)
  refine ⟨Naming.isWord_pascal hvariant, fun _ => hown, ?_,
    Symbol.isWord_variantCtor hstart htype hvariant⟩
  intro g hg
  obtain ⟨f, hf, rfl⟩ := List.mem_map.mp hg
  have hreadable := h.readable_payloadField hx hmem hf
  have hrecord := createsOnly_of_isWord (p := p) hreadable.isWord_recordField
  have hparam : FlatType.of .in_ f.type ∈ (x.ctorEntry i v c.symbols).types :=
    List.mem_append_left _ (List.mem_map.mpr
      ⟨⟨f.name.paramName, .of .in_ f.type⟩, List.mem_map_of_mem hf, rfl⟩)
  exact ⟨hrecord, Symbol.isWord_variantGetter hstart htype hvariant hreadable,
    suits_argument hp hentry hparam ((CreatesOnly.ofList (by decide)).append hrecord)
      (createsOnly_of_isWord (isWord_localName hreadable.isWord_paramName))⟩

/-- The class of an enum needs options of the schema, and creates its records. -/
theorem suits_enumClass {x : ExportedEnum} (hx : x ∈ s.enums) :
    ((s.context c).enumClass x).Suits fun name =>
      name ∈ ((s.context c).enumClass x).records.map (·.name) ∨ name ∈ s.optionNames c := by
  have hsurface := Config.isNamed_surface hfault h
  have hstart := Config.isWord_symbols hfault
  have htype := h.isIdentifier_enum hx
  have hname := Naming.isWord_pascal htype
  have hblank : ' ' ∉ ("I" ++ Naming.pascal x.name).toList :=
    notMem_append (by decide) (hname.notMem (by decide))
  have hend : EndsOther ((s.surface c).qualified ("I" ++ Naming.pascal x.name)).toList :=
    endsOther_interface (endsOther_name (by decide) hname (pascal_ne_newWord htype))
  refine ⟨createsOnly_of_isWord (Naming.isWord_of_isIdentifier htype), hname, ?_,
    Symbol.isWord_tag hstart htype, Symbol.isWord_free hstart htype, ?_⟩
  · intro r hr
    obtain ⟨v, hv, rfl⟩ := List.mem_map.mp hr
    obtain ⟨i, hi⟩ := List.mem_iff_getElem?.mp hv
    exact suits_record hfault h hx hi (fun _ => .inr) (.inl (List.mem_map_of_mem hr))
  · intro m hm
    obtain ⟨f, hf, rfl⟩ := List.mem_map.mp hm
    refine suits_method hfault h (fun _ => .inr) (List.mem_filter.mp hf).1 true ?_ ?_
      (.ofList (by decide))
    · intro q hq
      obtain rfl := List.mem_singleton.mp hq
      refine ⟨(CreatesOnly.ofList (by decide)).append (.of_notMem (hsurface.qualified hblank)), ?_,
        .ofList (by decide)⟩
      dsimp only
      rw [String.toList_append]
      exact hend.behind _
    · -- The receiver is passed as a handle.
      intro a ha
      obtain rfl := List.mem_singleton.mp ha
      refine ⟨.ofList (by decide), .ofList (by decide), fun u hu => ?_⟩
      have hform : u ∈ (ArgumentForm.of (s.surface c).isEnum (.handle x.id)).option? := hu
      obtain ⟨rfl, hoption⟩ := ArgumentForm.eq_of_option? hform
      cases hoption

/-- The class of the free functions needs options of the schema only. -/
theorem suits_facade :
    ∀ m ∈ ((s.context c).facade c.facade).methods, m.Suits (· ∈ s.optionNames c) := by
  intro m hm
  obtain ⟨f, hf, rfl⟩ := List.mem_map.mp hm
  exact suits_method hfault h (fun _ hname => hname) (List.mem_filter.mp hf).1 true
    (by simp [Parameters.Suit]) (by simp) (.ofList (by decide))

end Needs

/-! ## Declared options -/

/-- An option of `inner` is declared: the support code has its struct, and no other type of that
name, and the native file checks the size and the alignment of its representation. -/
structure Schema.DeclaresOption (s : Schema) (c : Config) (inner : FlatType) : Prop where
  once : (typesOf (s.managedFile c).support).count (FlatType.option inner).managed = 1
  struct : declared s!"internal struct {(FlatType.option inner).managed}"
    (lines ["public byte Present;", s!"public {inner.managed} Value;"]) <:+:
      (s.managedFile c).support
  size : Native.layoutCheck "size_of" ((FlatType.option inner).native Native.support)
    (FlatType.option inner).layout.size <:+: s.nativeCode c
  align : Native.layoutCheck "align_of" ((FlatType.option inner).native Native.support)
    (FlatType.option inner).layout.align <:+: s.nativeCode c

/-- An option called `name` is declared. -/
def Schema.DeclaresNamed (s : Schema) (c : Config) (name : String) : Prop :=
  ∃ inner, name = (FlatType.option inner).managed ∧ s.DeclaresOption c inner

/-- **Every option that is created is declared**, and no type that is nested in the class has its
name. -/
def Schema.CreatesDeclared (s : Schema) (c : Config) : Prop :=
  ∀ use ∈ (s.managedFile c).creations (s.surface c), use.2.startsWith optionPrefix = true →
    use.2 ∉ use.1 ∧ s.DeclaresNamed c use.2

section Declared

variable {c : Config} {ds : List Declaration} {s : Schema}

theorem typesOf_support_managedFile (h : c.schema ds = .ok s) :
    typesOf (s.managedFile c).support = supportNames ++ s.optionNames c ++ ["NativeMethods"] := by
  have hoptions : (s.managedFile c).options.filter FlatType.isOption =
      optionTypes (s.entryPoints c.symbols) :=
    List.filter_eq_self.mpr (optionTypes_spec _).2
  rw [typesOf_support (isLine_bufferFree h), hoptions]
  rfl

/-- The options that entry points use are declared. -/
theorem declaresNamed_of_mem (hschema : c.schema ds = .ok s) {name : String}
    (h : name ∈ s.optionNames c) : s.DeclaresNamed c name := by
  obtain ⟨t, ht, rfl⟩ := List.mem_map.mp h
  have hoption := (optionTypes_spec _).2 t ht
  have hchecks : Native.layoutChecks t <:+: s.nativeCode c := by
    have hmem : Native.layoutChecks t ∈
        (FlatType.strView :: .buffer :: optionTypes (s.entryPoints c.symbols)).map
          Native.layoutChecks :=
      List.mem_map_of_mem (List.mem_cons_of_mem _ (List.mem_cons_of_mem _ ht))
    refine (List.infix_of_mem_flatten hmem).trans ?_
    rw [← List.flatMap_def]
    exact List.infix_append _ _ _
  cases t with
  | option inner =>
    refine ⟨inner, rfl, ?_, ?_, ?_, ?_⟩
    · have hothers : ∀ other ∈ supportNames ++ ["NativeMethods"],
          other.startsWith optionPrefix = false := by
        decide +kernel
      have hnot : ∀ others ⊆ supportNames ++ ["NativeMethods"],
          others.count (FlatType.option inner).managed = 0 := by
        intro others hsub
        refine List.count_eq_zero.mpr fun hmem => ?_
        have hstart := hothers _ (hsub hmem)
        rw [FlatType.startsWith_managed hoption] at hstart
        cases hstart
      have honce : (s.optionNames c).count (FlatType.option inner).managed = 1 :=
        List.count_eq_one_of_mem (nodup_managed_optionTypes _) h
      rw [typesOf_support_managedFile hschema, List.count_append, List.count_append,
        hnot _ (List.subset_append_left _ _), hnot _ (List.subset_append_right _ _), honce]
    · have hmem : optionCode (.option inner) ∈ (s.managedFile c).options.map optionCode :=
        List.mem_map_of_mem ht
      refine ((List.suffix_append [.blank, .line "[StructLayout(LayoutKind.Sequential)]"]
        _).isInfix.trans (List.infix_of_mem_flatten hmem)).trans ?_
      rw [← List.flatMap_def]
      exact List.infix_append [Code.lines _] _ _
    · exact (List.prefix_append _ _).isInfix.trans hchecks
    · exact (List.suffix_append _ _).isInfix.trans hchecks
  | _ => cases hoption

/-- What a class creates under the name of an option is a record of its own, or declared. -/
theorem mem_records_or_declaresNamed (h : c.schema ds = .ok s) {use : List String × String}
    (huse : use ∈ (s.managedFile c).creations (s.surface c))
    (hstart : use.2.startsWith optionPrefix = true) :
    use.2 ∈ use.1 ∨ s.DeclaresNamed c use.2 := by
  obtain ⟨hfault, hbuild⟩ := Config.schema_eq_ok_iff.mp h
  have haccepted := Schema.build_eq_ok_iff_accepted.mp hbuild
  have hsurface := Config.isNamed_surface hfault haccepted
  have hcalled := String.startsWith_string_iff.mp hstart
  simp only [File.creations, List.mem_append, List.mem_flatMap, List.mem_map] at huse
  rcases huse with (⟨w, hw, name, hname, rfl⟩ | ⟨e, he, name, hname, rfl⟩) | ⟨name, hname, rfl⟩
  · obtain ⟨x, hx, rfl⟩ := List.mem_map.mp hw
    exact .inr (declaresNamed_of_mem h
      (onlyCreates_wrapper hsurface (suits_wrapper hfault haccepted hx) name hname hcalled))
  · obtain ⟨x, hx, rfl⟩ := List.mem_map.mp he
    have hcreated := onlyCreates_enumClass hsurface (suits_enumClass hfault haccepted hx) name hname
      hcalled
    exact hcreated.imp_right (declaresNamed_of_mem h)
  · have hcreated := onlyCreates_facade (f := (s.context c).facade c.facade) hsurface
      (Naming.isWord_of_isIdentifier (Config.isIdentifier_facade hfault))
      (suits_facade hfault haccepted) c.libraryName name hname hcalled
    exact .inr (declaresNamed_of_mem h hcreated)

/-- The record of a variant is created in the class of its enum. -/
theorem mem_creations_variant (h : c.schema ds = .ok s) {x : ExportedEnum} (hx : x ∈ s.enums)
    {v : Variant} (hv : v ∈ x.variants) :
    (x.variants.map fun v => Naming.pascal v.name, Naming.pascal v.name) ∈
      (s.managedFile c).creations (s.surface c) := by
  obtain ⟨hfault, hbuild⟩ := Config.schema_eq_ok_iff.mp h
  have haccepted := Schema.build_eq_ok_iff_accepted.mp hbuild
  have hrecord : (s.context c).record x v ∈ ((s.context c).enumClass x).records :=
    List.mem_map_of_mem hv
  have hcreated := mem_creationsOf_enumClass (s.surface c) hrecord
    (Naming.isWord_pascal (haccepted.isIdentifier_variant hx hv))
  have hnames : ((s.context c).enumClass x).records.map (·.name) =
      x.variants.map fun v => Naming.pascal v.name := List.map_map
  refine List.mem_append_left _ (List.mem_append_right _ (List.mem_flatMap.mpr
    ⟨(s.context c).enumClass x, List.mem_map_of_mem hx, List.mem_map.mpr ⟨_, hcreated, ?_⟩⟩))
  rw [hnames]
  rfl

/-- Everything that is created under the name of an option is declared, exactly if no variant has
such a name. -/
theorem createsDeclared_iff (h : c.schema ds = .ok s) :
    s.CreatesDeclared c ↔ ∀ x ∈ s.enums, ∀ v ∈ x.variants,
      (Naming.pascal v.name).startsWith optionPrefix = false := by
  constructor
  · intro hdeclared x hx v hv
    by_contra hstart
    have hnot := (hdeclared _ (mem_creations_variant h hx hv) (eq_true_of_ne_false hstart)).1
    exact hnot (List.mem_map_of_mem hv)
  · intro hfree use huse hstart
    have hnot : use.2 ∉ use.1 := by
      intro hmem
      simp only [File.creations, List.mem_append, List.mem_flatMap, List.mem_map] at huse
      rcases huse with (⟨w, hw, name, hname, rfl⟩ | ⟨e, he, name, hname, rfl⟩) | ⟨name, hname, rfl⟩
      · cases hmem
      · obtain ⟨x, hx, rfl⟩ := List.mem_map.mp he
        obtain ⟨r, hr, hrname⟩ := List.mem_map.mp hmem
        obtain ⟨v, hv, rfl⟩ := List.mem_map.mp hr
        have hvariant := hfree x hx v hv
        rw [show Naming.pascal v.name = name from hrname, hstart] at hvariant
        cases hvariant
      · cases hmem
    exact ⟨hnot, (mem_records_or_declaresNamed h huse hstart).resolve_left hnot⟩

/-- **Options are declared.** Different options have different names. An option in the signature of
an imported function is declared exactly once, with its payload and with checks of its size and its
alignment. What a class creates under the name of an option is such an option or a record of the
class; it is never a record exactly if no variant is called like an option. -/
theorem options_declared (h : c.schema ds = .ok s) :
    (∀ t u : FlatType, t.isOption = true → u.isOption = true → t.managed = u.managed → t = u) ∧
    (∀ name ∈ importedTypes (importsCode c.libraryName (s.entryPoints c.symbols)),
      name.startsWith optionPrefix = true → s.DeclaresNamed c name) ∧
    (∀ use ∈ (s.managedFile c).creations (s.surface c), use.2.startsWith optionPrefix = true →
      use.2 ∈ use.1 ∨ s.DeclaresNamed c use.2) ∧
    (s.CreatesDeclared c ↔ ∀ x ∈ s.enums, ∀ v ∈ x.variants,
      (Naming.pascal v.name).startsWith optionPrefix = false) := by
  obtain ⟨hfault, hbuild⟩ := Config.schema_eq_ok_iff.mp h
  have haccepted := Schema.build_eq_ok_iff_accepted.mp hbuild
  refine ⟨fun t u => FlatType.managed_option_injective, ?_,
    fun use => mem_records_or_declaresNamed h, createsDeclared_iff h⟩
  intro name hname hstart
  obtain rfl | ⟨e, he, t, ht, rfl⟩ := mem_importedTypes
    (fun e he => haccepted.isWord_symbol (Config.isWord_symbols hfault) he)
    (fun e he p hp => haccepted.isWord_entryParam he hp) hname
  · have href : "ref".startsWith optionPrefix = false := by decide +kernel
    rw [href] at hstart
    cases hstart
  · exact declaresNamed_of_mem h
      (mem_optionNames he ht (FlatType.isOption_of_startsWith hstart))

/-- All options that the classes of the demo library create are declared. -/
theorem options_declared_demo :
    ({ libraryName := "demo" } : Config).schema Demo.declarations = .ok Demo.schema ∧
      Demo.schema.CreatesDeclared { libraryName := "demo" } :=
  ⟨Demo.schema_eq_ok, (options_declared Demo.schema_eq_ok).2.2.2.mpr (by decide +kernel)⟩

/-- An enum with variants that are called like options, one of which an entry point uses. -/
def optionVariants : List Declaration :=
  [.enum ⟨"E", [⟨"FfiOptionU8", .struct [⟨"value", Demo.optional (Demo.named "u8")⟩]⟩,
    ⟨"FfiOptionWide", .unit⟩], Demo.at_ 1⟩]

/-- It is accepted. Its class creates something that is called like an option and not declared. -/
theorem not_createsDeclared_optionVariants : ∃ s, ({} : Config).schema optionVariants = .ok s ∧
    (["FfiOptionU8", "FfiOptionWide"], "FfiOptionWide") ∈
      (s.managedFile {}).creations (s.surface {}) ∧
    "FfiOptionWide" ∉ typesOf (s.managedFile {}).support ∧ ¬ s.CreatesDeclared {} := by
  obtain ⟨s, hschema, ⟨x, hx, v, hv, hnames, hname⟩, hfree⟩ :
      ∃ s, ({} : Config).schema optionVariants = .ok s ∧
        (∃ x ∈ s.enums, ∃ v ∈ x.variants,
          (x.variants.map fun v => Naming.pascal v.name) = ["FfiOptionU8", "FfiOptionWide"] ∧
            Naming.pascal v.name = "FfiOptionWide") ∧
        "FfiOptionWide" ∉ supportNames ++ s.optionNames {} ++ ["NativeMethods"] :=
    ⟨_, Config.schema_eq_ok_iff.mpr
      ⟨by decide +kernel, Schema.build_eq_ok_iff.mpr ⟨by decide +kernel, rfl⟩⟩, by decide +kernel,
      by decide +kernel⟩
  have hcreated := mem_creations_variant hschema hx hv
  rw [hnames, hname] at hcreated
  refine ⟨s, hschema, hcreated, typesOf_support_managedFile hschema ▸ hfree, fun hdeclared => ?_⟩
  exact (hdeclared _ hcreated (by decide +kernel)).1 (by decide)

end Declared

end Boundary
