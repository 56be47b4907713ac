import Boundary.Proofs.Config
import Boundary.Proofs.Managed.Calls
import Boundary.Proofs.Schema.Words

/-!
# Native functions in a managed file

A managed file declares the entry points of its schema, and calls each of them in the class that it
belongs to.

* `reads_heading`, `reads_optionCode`, `reads_importsCode`: what comes before the classes.
* `Schema.context`, `Config.isOneLine_surface` and what follows: the names in the classes of a
  schema can be read.
* `forall_params_method`, `forall_args_method`, `forall_forget_method`: what methods are made of.
* `File.marks`, `linesRead_managedSource`: what is read off the file of a schema.
-/

namespace Boundary

namespace Managed

open Source Text

/-! ## What comes before the classes -/

theorem reads_heading {libraryName space : String} (hlibrary : OneLine libraryName)
    (hspace : OneLine space) (hother : ∀ c ∈ space.toList.head?, c ≠ '=') :
    Reads markOf? (heading libraryName space) [] := by
  have hfront : Reads markOf? (lines ["// <auto-generated>",
      s!"// Generated by crossbind for native library `{libraryName}`. Do not edit.",
      "// </auto-generated>", "#nullable enable"]) [] := by
    refine reads_lines ?_
    simp only [List.forall_mem_cons, List.not_mem_nil, false_imp_iff, implies_true, and_true]
    exact ⟨unread_ofList (by decide) (by decide),
      ((unread_ofList (by decide) (by decide)).append hlibrary).append (.ofList (by decide)),
      unread_ofList (by decide) (by decide), unread_ofList (by decide) (by decide)⟩
  have husings : Reads markOf? (lines ["using System;", "using System.Buffers.Binary;",
      "using System.Runtime.InteropServices;", "using System.Text;", "using System.Threading;"])
      [] := by
    refine reads_lines ?_
    simp only [List.forall_mem_cons, List.not_mem_nil, false_imp_iff, implies_true, and_true]
    exact ⟨unread_ofList (by decide) (by decide), unread_ofList (by decide) (by decide),
      unread_ofList (by decide) (by decide), unread_ofList (by decide) (by decide),
      unread_ofList (by decide) (by decide)⟩
  have hnamespace : Unread markOf? ("namespace " ++ (space ++ ";")) :=
    unread_beside ['n', 'a', 'm', 'e', 's', 'p', 'a', 'c', 'e'] (by decide) (by decide) (by decide)
      (.behind hother (.ofList (by decide))) (hspace.append (.ofList (by decide)))
  rw [← String.append_assoc] at hnamespace
  exact (hfront.append husings.blank).append (hnamespace.cons reads_nil.blank).blank

theorem reads_optionCode (t : FlatType) : Reads markOf? (optionCode t) [] := by
  cases t with
  | option inner =>
    have hmanaged := oneLine_of_isWord (isWord_managed inner)
    have hlayout : Unread markOf? "[StructLayout(LayoutKind.Sequential)]" :=
      unread_ofList (by decide) (by decide)
    have hheader : Unread markOf? s!"internal struct {(FlatType.option inner).managed}" :=
      (unread_ofList (by decide) (by decide)).append (oneLine_of_isWord (isWord_managed _))
    have hvalue : Unread markOf? ("public " ++ (inner.managed ++ " Value;")) :=
      unread_public (.behind (head?_ne_of_isWord (by decide) (isWord_managed inner))
        (.ofList (by decide))) (hmanaged.append (.ofList (by decide)))
    rw [← String.append_assoc] at hvalue
    rw [optionCode_option]
    exact (hlayout.cons (reads_declared skipsBraces_markOf? hheader.line
      ((unread_ofList (by decide) (by decide)).cons hvalue.line))).blank
  | void | scalar p | handle | strView | buffer => exact reads_nil

theorem reads_importsCode (libraryName : String) {entryPoints : List EntryPoint}
    (hsymbols : ∀ e ∈ entryPoints, Naming.IsWord e.symbol)
    (hparams : ∀ e ∈ entryPoints, ∀ p ∈ e.params, Naming.IsWord p.name) :
    Reads markOf? (importsCode libraryName entryPoints)
      (entryPoints.flatMap EntryPoint.importMarks) := by
  have hlibrary : Unread markOf? ("private const string Library = " ++ quoted libraryName ++ ";") :=
    ((unread_ofList (by decide) (by decide)).append (oneLine_quoted _)).append (.ofList (by decide))
  have himports : Reads markOf? (entryPoints.flatMap importCode)
      (entryPoints.flatMap EntryPoint.importMarks) :=
    Reads.flatMap fun e he => reads_importCode (hsymbols e he) (hparams e he)
  rw [importsCode_eq]
  exact reads_declared skipsBraces_markOf? (unread_ofList (by decide) (by decide)).line
    (hlibrary.line.behind himports)

/-! ## Files -/

/-- What a file says about native functions. -/
def File.marks (f : File) : List Mark :=
  callOf (Naming.managedIdent f.bufferFree) ["buffer"] "ref status"
    :: f.entryPoints.flatMap EntryPoint.importMarks ++ f.wrappers.flatMap (·.marks)
    ++ f.enums.flatMap (·.marks) ++ f.facade.marks

/-- A file whose names can be read. -/
structure File.Readable (f : File) : Prop where
  libraryName : OneLine f.libraryName
  space : OneLine f.managedNamespace
  space_head : ∀ c ∈ f.managedNamespace.toList.head?, c ≠ '='
  bufferFree : Naming.IsWord f.bufferFree
  symbols : ∀ e ∈ f.entryPoints, Naming.IsWord e.symbol
  params : ∀ e ∈ f.entryPoints, ∀ p ∈ e.params, Naming.IsWord p.name
  wrappers : ∀ w ∈ f.wrappers, w.Readable
  enums : ∀ e ∈ f.enums, e.Readable
  facade : OneLine f.facade.name
  methods : ∀ m ∈ f.facade.methods, m.Readable

private theorem reads_file {s : Surface} (hs : s.IsOneLine) {f : File} (h : f.Readable) :
    Reads markOf? (f.code s) f.marks := by
  have hclasses {β : Type} {code : β → List Code} {marks : β → List Mark} {bs : List β}
      (h : ∀ b ∈ bs, Reads markOf? (code b) (marks b)) :
      List.Forall₂ (Reads markOf?) (bs.map code) (bs.map marks) := by
    rw [List.forall₂_map_left_iff, List.forall₂_map_right_iff, List.forall₂_same]
    exact h
  have hparts := reads_spaced (List.rel_append (List.rel_append
    (List.Forall₂.cons (reads_importsCode f.libraryName h.symbols h.params)
      (hclasses fun w hw => reads_wrapper hs (h.wrappers w hw)))
    (hclasses fun e he => reads_enumClass hs (h.enums e he)))
    (List.Forall₂.cons (reads_facade hs h.libraryName h.facade h.methods) .nil))
  have hoptions : Reads markOf? (f.options.flatMap optionCode) [] :=
    reads_flatMap_nothing fun t _ => reads_optionCode t
  have hfile := ((reads_heading h.libraryName h.space h.space_head).append
    ((reads_supportText h.bufferFree.managedIdent).append hoptions)).append hparts
  have hmarks : f.marks = [] ++ ([callOf (Naming.managedIdent f.bufferFree) ["buffer"] "ref status"]
      ++ []) ++ (f.entryPoints.flatMap EntryPoint.importMarks :: f.wrappers.map (·.marks)
        ++ f.enums.map (·.marks) ++ [f.facade.marks]).flatten := by
    simp [File.marks, List.flatMap_def]
  rw [hmarks]
  exact hfile

end Managed

/-! ## The file of a schema -/

open Managed Source Text

/-- What the managed file of a schema is made from. -/
def Schema.context (s : Schema) (c : Config) : Context := ⟨s, c.symbols, s.surface c⟩

section Names

variable {c : Config} {facade : String} {ds : List Declaration} {s : Schema}

private theorem oneLine_typeName (h : Accepted facade ds s) (id : TypeId) :
    OneLine (s.typeName id) ∧ OneLine (Naming.pascal (s.typeName id)) := by
  obtain hid | hunknown := s.typeName_cases id
  · have hname := h.isIdentifier_typeName hid
    exact ⟨oneLine_of_isWord (Naming.isWord_of_isIdentifier hname),
      oneLine_of_isWord (Naming.isWord_pascal hname)⟩
  · rw [hunknown]
    decide +kernel

theorem Config.isOneLine_surface (hfault : c.fault? = none) (h : Accepted facade ds s) :
    (s.surface c).IsOneLine :=
  ⟨Config.notMem_space hfault (by decide) (by decide), fun id => (oneLine_typeName h id).1,
    fun id => (oneLine_typeName h id).2⟩

theorem isWord_paramName {name : String} (h : Naming.IsWord name) :
    Naming.IsWord (Managed.paramName name) := h.camel.managedIdent

theorem isWord_localName {name : String} (h : Naming.IsWord name) :
    Naming.IsWord (localName name) := .append (by decide) h.pascal

theorem readable_argument (surface : Surface) {name : String} (h : Naming.IsWord name)
    (t : TypeRef) :
    (surface.argument (Managed.paramName name) (localName name) t).Readable := by
  have hsource := isWord_paramName h
  have htemporary := isWord_localName h
  constructor
  · dsimp only [Surface.argument]
    exact inline_of_isWord hsource
  · dsimp only [Surface.argument]
    exact htemporary

theorem readable_thisArgument : thisArgument.Readable := ⟨.ofList (by decide), by decide⟩

section Methods

variable {context : Context} {f : ExportedFunction} {isStatic : Bool} {extended : List Parameter}
  {receiver : List Argument} {owner : String}

/-- The parameters of a method are those of its function, behind the ones that it is extended by. -/
theorem forall_params_method {p : Parameter → Prop} (hextended : ∀ q ∈ extended, p q)
    (hparams : ∀ d ∈ f.params, p ⟨context.surface.type d.type, Managed.paramName d.name⟩) :
    ∀ q ∈ (context.method f isStatic extended receiver owner).params, p q :=
  List.forall_mem_append.mpr ⟨hextended, List.forall_mem_map.mpr hparams⟩

/-- A method passes its receiver, and then its parameters. -/
theorem forall_args_method {p : Argument → Prop} (hreceiver : ∀ a ∈ receiver, p a)
    (hparams : ∀ d ∈ f.params,
      p (context.surface.argument (Managed.paramName d.name) (localName d.name) d.type)) :
    ∀ a ∈ (context.method f isStatic extended receiver owner).call.args, p a :=
  List.forall_mem_append.mpr ⟨hreceiver, List.forall_mem_map.mpr hparams⟩

theorem forall_transferredParams {p : String → Prop}
    (hparams : ∀ d ∈ f.params, p (Managed.paramName d.name)) :
    ∀ name ∈ transferredParams f, p name :=
  List.forall_mem_map.mpr fun d hd => hparams d (List.mem_filter.mp hd).1

/-- A method gives up its owner and parameters, if anything. -/
theorem forall_forget_method {p : String → Prop} (howner : p owner)
    (hparams : ∀ d ∈ f.params, p (Managed.paramName d.name)) :
    ∀ name ∈ (context.method f isStatic extended receiver owner).call.forget, p name := by
  refine List.forall_mem_append.mpr ⟨?_, forall_transferredParams hparams⟩
  split
  · exact List.forall_mem_singleton.mpr howner
  · exact List.forall_mem_nil _

end Methods

variable (hfault : c.fault? = none) (h : Accepted facade ds s)
include hfault h

theorem readable_method {f : ExportedFunction} (hf : f ∈ s.functions) (isStatic : Bool)
    {extended : List Parameter} (hextended : Parameters.IsOneLine extended)
    {receiver : List Argument} (hreceiver : ∀ a ∈ receiver, a.Readable) {owner : String}
    (howner : OneLine owner) :
    ((s.context c).method f isStatic extended receiver owner).Readable := by
  have hname := h.isIdentifier_function hf
  have hsurface := Config.isOneLine_surface hfault h
  have hparam : ∀ p ∈ f.params, Naming.IsWord p.name := fun p hp =>
    Naming.isWord_of_isIdentifier (h.isIdentifier_param hf hp)
  have hline : ∀ p ∈ f.params, OneLine (Managed.paramName p.name) := fun p hp =>
    oneLine_of_isWord (isWord_paramName (hparam p hp))
  refine ⟨oneLine_of_isWord (Naming.isWord_of_isIdentifier hname),
    oneLine_of_isWord (Naming.isWord_pascal hname), ?_, forall_transferredParams hline,
    h.isWord_functionSymbol (Config.isWord_symbols hfault) hf, ?_, ?_⟩
  · refine forall_params_method hextended fun p hp => ?_
    dsimp only
    exact ⟨hsurface.type p.type, hline p hp⟩
  · exact forall_args_method hreceiver fun p hp => readable_argument _ (hparam p hp) p.type
  · exact forall_forget_method howner hline

private theorem readable_property {x : ExportedStruct} (hx : x ∈ s.structs) {f : Field}
    (hf : f ∈ x.fields) : (property c.symbols x f).Readable := by
  have hname := h.isIdentifier_field hx hf
  have hgetter : Naming.IsWord (Symbol.getter c.symbols x.name f.name) :=
    Symbol.isWord_getter (Config.isWord_symbols hfault) (h.isIdentifier_struct hx) hname
  have hargs : ∀ a ∈ [thisArgument], a.Readable := by simpa using readable_thisArgument
  exact ⟨oneLine_of_isWord (Naming.isWord_pascal hname), hgetter, hargs, by simp [property]⟩

private theorem readable_wrapper {x : ExportedStruct} (hx : x ∈ s.structs) :
    ((s.context c).wrapper x).Readable := by
  have hname := h.isIdentifier_struct hx
  have hpascal := Naming.isWord_pascal hname
  have hstart := Config.isWord_symbols hfault
  have hfield : ∀ f ∈ x.fields, Naming.IsWord f.name := fun f hf =>
    Naming.isWord_of_isIdentifier (h.isIdentifier_field hx hf)
  have hctor : Naming.IsWord (Symbol.ctor c.symbols x.name) := Symbol.isWord_ctor hstart hname
  have hfree : Naming.IsWord (Symbol.free c.symbols x.name) := Symbol.isWord_free hstart hname
  have hargs : ∀ a ∈ x.fields.map fun f => (s.surface c).argument (Managed.paramName f.name)
      (localName f.name) f.type, a.Readable := by
    intro a ha
    obtain ⟨f, hf, rfl⟩ := List.mem_map.mp ha
    exact readable_argument _ (hfield f hf) _
  refine ⟨oneLine_of_isWord (Naming.isWord_of_isIdentifier hname), oneLine_of_isWord hpascal, ?_,
    ?_, ⟨hctor, hargs, by simp [Context.wrapper]⟩, ?_, ?_, hfree⟩
  · intro d hd
    refine ⟨?_, head?_ne_of_isWord (by decide) hpascal d hd⟩
    rintro rfl
    have hlower := Naming.isLower_head?_pascal hname 'e' hd
    revert hlower
    decide
  · intro p hp
    obtain ⟨f, hf, rfl⟩ := List.mem_map.mp hp
    have hparam := isWord_paramName (hfield f hf)
    dsimp only
    exact ⟨(Config.isOneLine_surface hfault h).type _, oneLine_of_isWord hparam⟩
  · intro p hp
    obtain ⟨f, hf, rfl⟩ := List.mem_map.mp hp
    exact readable_property hfault h hx hf
  · intro m hm
    obtain ⟨f, hf, rfl⟩ := List.mem_map.mp hm
    exact readable_method hfault h (List.mem_filter.mp hf).1 false (by simp [Parameters.IsOneLine])
      (by simpa using readable_thisArgument) (.ofList (by decide))

private theorem readable_record {x : ExportedEnum} (hx : x ∈ s.enums) {v : Variant}
    (hv : v ∈ x.variants) : ((s.context c).record x v).Readable := by
  have hstart := Config.isWord_symbols hfault
  have htype := h.isIdentifier_enum hx
  have hvariant := h.isIdentifier_variant hx hv
  have hmake : Naming.IsWord (Symbol.variantCtor c.symbols x.name v.name) :=
    Symbol.isWord_variantCtor hstart htype hvariant
  refine ⟨Naming.isWord_pascal hvariant, ?_, hmake⟩
  intro g hg
  obtain ⟨f, hf, rfl⟩ := List.mem_map.mp hg
  have hreadable := h.readable_payloadField hx hv hf
  have hrecord : Naming.IsWord (Managed.recordField f.name) := hreadable.isWord_recordField
  have hgetter : Naming.IsWord (Symbol.variantGetter c.symbols x.name v.name f.name) :=
    Symbol.isWord_variantGetter hstart htype hvariant hreadable
  have hsource : Inline ("__v." ++ Managed.recordField f.name) :=
    (Inline.ofList (by decide)).append (inline_of_isWord hrecord)
  exact ⟨oneLine_of_isWord hrecord, hgetter, hsource, isWord_localName hreadable.isWord_paramName⟩

theorem readable_enumClass {x : ExportedEnum} (hx : x ∈ s.enums) :
    ((s.context c).enumClass x).Readable := by
  have hstart := Config.isWord_symbols hfault
  have hsurface := Config.isOneLine_surface hfault h
  have hname := h.isIdentifier_enum hx
  have hpascal := oneLine_of_isWord (Naming.isWord_pascal hname)
  have htag : Naming.IsWord (Symbol.tag c.symbols x.name) := Symbol.isWord_tag hstart hname
  have hfree : Naming.IsWord (Symbol.free c.symbols x.name) := Symbol.isWord_free hstart hname
  refine ⟨oneLine_of_isWord (Naming.isWord_of_isIdentifier hname), hpascal, ?_, htag, hfree, ?_⟩
  · intro r hr
    obtain ⟨v, hv, rfl⟩ := List.mem_map.mp hr
    exact readable_record hfault h hx hv
  · have hself : Parameters.IsOneLine
        [⟨"this " ++ (s.surface c).qualified ("I" ++ Naming.pascal x.name), "__self"⟩] := by
      intro p hp
      obtain rfl := List.mem_singleton.mp hp
      exact ⟨(OneLine.ofList (by decide)).append
        (hsurface.qualified ((OneLine.ofList (by decide)).append hpascal)), .ofList (by decide)⟩
    have hhandle : Naming.IsWord "__selfHandle" := by decide
    have hreceiver : ∀ a ∈ [(s.surface c).argument "__self" "__selfHandle" (.handle x.id)],
        a.Readable := by
      intro a ha
      obtain rfl := List.mem_singleton.mp ha
      exact ⟨.ofList (by decide), hhandle⟩
    intro m hm
    obtain ⟨f, hf, rfl⟩ := List.mem_map.mp hm
    exact readable_method hfault h (List.mem_filter.mp hf).1 true hself hreceiver
      (.ofList (by decide))

private theorem readable_managedFile (hlibrary : OneLine c.libraryName) :
    (s.managedFile c).Readable where
  libraryName := hlibrary
  space := (Config.isOneLine_surface hfault h).space
  space_head := fun d hd hequals => Config.notMem_space hfault (by decide) (by decide)
    (hequals ▸ List.mem_of_mem_head? hd)
  bufferFree := Symbol.isWord_bufferFree (Config.isWord_symbols hfault)
  symbols := fun e he => h.isWord_symbol (Config.isWord_symbols hfault) he
  params := fun e he p hp => h.isWord_entryParam he hp
  wrappers := fun w hw => by
    obtain ⟨x, hx, rfl⟩ := List.mem_map.mp hw
    exact readable_wrapper hfault h hx
  enums := fun e he => by
    obtain ⟨x, hx, rfl⟩ := List.mem_map.mp he
    exact readable_enumClass hfault h hx
  facade := oneLine_of_isWord (Naming.isWord_of_isIdentifier (Config.isIdentifier_facade hfault))
  methods := fun m hm => by
    obtain ⟨f, hf, rfl⟩ := List.mem_map.mp hm
    exact readable_method hfault h (List.mem_filter.mp hf).1 true (by simp [Parameters.IsOneLine])
      (by simp) (.ofList (by decide))

/-- **What a managed file says about native functions**: it declares the entry points of its schema
in order, and the calls are those of its classes. -/
theorem linesRead_managedSource (hlibrary : OneLine c.libraryName) :
    linesRead markOf? (s.managedSource c) = (s.managedFile c).marks :=
  (reads_file (Config.isOneLine_surface hfault h)
    (readable_managedFile hfault h hlibrary)).linesRead_render markOf?_empty

end Names

end Boundary
