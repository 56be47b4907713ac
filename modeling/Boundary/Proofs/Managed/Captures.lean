import Boundary.Proofs.Managed.DistinctTypes
import Boundary.Proofs.Managed.Support

/-!
# Names that exported types take away

Support code refers to its own types and to those of the system by simple names. A simple name means
the type of that name in the file, if there is one, before any other. Exported types never have the
names of support types. Nothing keeps them from having those of the system.

* `simpleNames`: the names in a line that nothing qualifies; `RefersTo`: the names that some code
  refers to like this.
* `systemTypes`: types of the system that support code refers to like this.
* `refersTo_systemTypes`: that it does, in every file.
* `typesOf_exported_managedFile`: the types that exported types bring along.
* `File.Captures`: names that such a type takes away from another type.
* `not_captures_iff`: when none is taken away; `captures_exception`: that one may be.
-/

namespace Boundary.Managed

open Source

/-! ## Simple names -/

/-- The name that a run of characters is, unless the character before it qualifies it. -/
def closed (before : Char) (run : List Char) : List (List Char) :=
  if run = [] ∨ before = '.' ∨ before = ':' then [] else [run]

/-- The simple names behind a character and a run of characters of a name. -/
def simpleNamesFrom (before : Char) (run : List Char) : List Char → List (List Char)
  | [] => closed before run
  | c :: rest =>
    if Naming.isIdentPart c then simpleNamesFrom before (run ++ [c]) rest
    else closed before run ++ simpleNamesFrom c [] rest

/-- The names in a line that are not qualified, keywords included. Indentation does not count, and
nothing in a comment is a name. -/
def simpleNames (line : String) : List String :=
  let text := (Text.trimStart line).toList
  if ['/', '/'] <+: text then [] else (simpleNamesFrom ' ' [] text).map String.ofList

/-- A name behind a character that is no part of a name is read whatever stands before. -/
theorem mem_simpleNamesFrom_behind {c : Char} (hc : Naming.isIdentPart c = false)
    {name back : List Char} (h : name ∈ simpleNamesFrom c [] back) (before : Char)
    (run front : List Char) : name ∈ simpleNamesFrom before run (front ++ c :: back) := by
  -- A run of the front ends at `c` at the latest, and reading starts afresh there.
  induction front generalizing before run with
  | nil => simp [simpleNamesFrom, hc, h]
  | cons d front ih =>
    rw [List.cons_append, simpleNamesFrom]
    split
    · exact ih _ _
    · exact List.mem_append_right _ (ih _ _)

/-- Some code refers to something by that name alone. -/
def RefersTo (code : List Code) (name : String) : Prop :=
  ∃ line ∈ Code.textsAll code, name ∈ simpleNames line

section Code

variable {code : List Code} {name : String}

theorem RefersTo.append_left (h : RefersTo code name) (back : List Code) :
    RefersTo (code ++ back) name := by
  obtain ⟨line, hline, hname⟩ := h
  refine ⟨line, ?_, hname⟩
  rw [Code.textsAll_append]
  exact List.mem_append_left _ hline

theorem RefersTo.append_right (h : RefersTo code name) (front : List Code) :
    RefersTo (front ++ code) name := by
  obtain ⟨line, hline, hname⟩ := h
  refine ⟨line, ?_, hname⟩
  rw [Code.textsAll_append]
  exact List.mem_append_right _ hline

end Code

/-! ## What support code refers to -/

/-- Types of the system that support code refers to by simple names. Besides these there are
generic ones, which the number of their arguments tells from exported types, and attributes. -/
def systemTypes : List String := [
  "Exception", "IDisposable", "IntPtr", "UIntPtr", "Array", "Encoding", "Marshal", "Interlocked",
  "BinaryPrimitives", "ObjectDisposedException", "LayoutKind", "CallingConvention"]

/-- An imported function has a calling convention. -/
theorem refersTo_importCode (entry : EntryPoint) :
    RefersTo (importCode entry) "CallingConvention" := by
  have hname : "CallingConvention".toList ∈
      simpleNamesFrom ',' [] " CallingConvention = CallingConvention.Cdecl)]".toList := by
    decide +kernel
  have hline : Text.trimStart ("[DllImport(Library, EntryPoint = " ++ Text.quoted entry.symbol
      ++ ", CallingConvention = CallingConvention.Cdecl)]") =
        String.ofList ('[' :: ("DllImport(Library, EntryPoint = ".toList
          ++ (Text.quoted entry.symbol).toList)
          ++ ',' :: " CallingConvention = CallingConvention.Cdecl)]".toList) := by
    simp [Text.trimStart]
  have hmem : "[DllImport(Library, EntryPoint = " ++ Text.quoted entry.symbol
      ++ ", CallingConvention = CallingConvention.Cdecl)]" ∈ Code.textsAll (importCode entry) := by
    simp [importCode, Code.textsAll, Code.texts]
  refine ⟨_, hmem, ?_⟩
  rw [simpleNames, hline, String.toList_ofList, if_neg (by simp)]
  exact List.mem_map_of_mem (mem_simpleNamesFrom_behind (by decide) hname _ _ _)

/-- The first imported function has a calling convention. -/
theorem refersTo_importsCode (libraryName : String) {entryPoints : List EntryPoint}
    (h : entryPoints ≠ []) :
    RefersTo (importsCode libraryName entryPoints) "CallingConvention" := by
  obtain ⟨entry, rest, rfl⟩ := List.exists_cons_of_ne_nil h
  obtain ⟨line, hline, hname⟩ := refersTo_importCode entry
  refine ⟨line, ?_, hname⟩
  simp [importsCode, Code.textsAll_append, Code.textsAll, hline]

/-! ### Support types -/

private theorem mem_simpleNames_ofList {line name : List Char}
    (hcomment : ¬ ['/', '/'] <+: line.dropWhile (· = ' '))
    (hname : name ∈ simpleNamesFrom ' ' [] (line.dropWhile (· = ' '))) :
    String.ofList name ∈ simpleNames (String.ofList line) := by
  rw [simpleNames, Text.trimStart, String.toList_ofList, String.toList_ofList, if_neg hcomment]
  exact List.mem_map_of_mem hname

private theorem simpleNames_indented (texts : List String) :
    (indented texts).flatMap simpleNames = texts.flatMap simpleNames := by
  have hblank : ∀ c ∈ "    ".toList, c = ' ' := by decide
  rw [indented, List.flatMap_map]
  refine List.flatMap_congr fun text _ => ?_
  split
  · rename_i hempty
    obtain rfl : text = "" := by simpa using hempty
    rfl
  · rw [simpleNames, Text.trimStart_append hblank]
    rfl

/-- A body between braces has the same names as outside. -/
private theorem simpleNames_enclosed (header : String) (body : List String) :
    (enclosed header body).flatMap simpleNames =
      simpleNames header ++ body.flatMap simpleNames := by
  have hopen : simpleNames "\x7b" = [] := by decide +kernel
  have hclose : simpleNames "\x7d" = [] := by decide +kernel
  simp [enclosed, simpleNames_indented, hopen, hclose]

private theorem mem_simpleNames_nativeBuffer :
    ∀ name ∈ ["IntPtr", "UIntPtr", "Marshal", "LayoutKind"],
      name ∈ nativeBuffer.flatMap simpleNames := by
  have hdata : "IntPtr" ∈ simpleNames "public IntPtr Data;" :=
    mem_simpleNames_ofList (by decide) (by decide)
  have hlen : "UIntPtr" ∈ simpleNames "public UIntPtr Len;" :=
    mem_simpleNames_ofList (by decide) (by decide)
  have hcopy : "Marshal" ∈ simpleNames "Marshal.Copy(Data, bytes, 0, len);" :=
    mem_simpleNames_ofList (by decide) (by decide)
  have hlayout : "LayoutKind" ∈ simpleNames "[StructLayout(LayoutKind.Sequential)]" :=
    mem_simpleNames_ofList (by decide) (by decide)
  simp [nativeBuffer, simpleNames_enclosed, hdata, hlen, hcopy, hlayout]

private theorem mem_simpleNames_utf8Arg :
    ∀ name ∈ ["IDisposable", "Encoding", "Interlocked"],
      name ∈ utf8Arg.flatMap simpleNames := by
  have hclass : "IDisposable" ∈ simpleNames "internal sealed class Utf8Arg : IDisposable" :=
    mem_simpleNames_ofList (by decide) (by decide)
  have hlen : "Encoding" ∈ simpleNames "_len = Encoding.UTF8.GetByteCount(value);" :=
    mem_simpleNames_ofList (by decide) (by decide)
  have hdata : "Interlocked" ∈
      simpleNames "var data = Interlocked.Exchange(ref _data, IntPtr.Zero);" :=
    mem_simpleNames_ofList (by decide) (by decide)
  simp [utf8Arg, simpleNames_enclosed, hclass, hlen, hdata]

private theorem mem_simpleNames_ownedHandle :
    "ObjectDisposedException" ∈ ownedHandle.flatMap simpleNames := by
  have hthrow : "ObjectDisposedException" ∈
      simpleNames "throw new ObjectDisposedException(_owner);" :=
    mem_simpleNames_ofList (by decide) (by decide)
  simp [ownedHandle, simpleNames_enclosed, hthrow]

private theorem mem_simpleNames_byteReader :
    "BinaryPrimitives" ∈ byteReader.flatMap simpleNames := by
  have hread : "BinaryPrimitives" ∈ simpleNames
      "internal uint ReadU32() => BinaryPrimitives.ReadUInt32LittleEndian(Take(4));" :=
    mem_simpleNames_ofList (by decide) (by decide)
  simp [byteReader, simpleNames_enclosed, hread]

private theorem mem_simpleNames_nativeException :
    "Exception" ∈ nativeException.flatMap simpleNames := by
  have hclass : "Exception" ∈ simpleNames "public abstract class NativeException : Exception" :=
    mem_simpleNames_ofList (by decide) (by decide)
  simp [nativeException, simpleNames_enclosed, hclass]

private theorem mem_simpleNames_ffi (bufferFree : String) :
    "Array" ∈ (ffi bufferFree).flatMap simpleNames := by
  have hreturn : "Array" ∈ simpleNames "return Array.Empty<byte>();" :=
    mem_simpleNames_ofList (by decide) (by decide)
  simp [ffi, simpleNames_enclosed, hreturn]

private theorem refersTo_supportText {bufferFree name : String} (h : IsLine bufferFree)
    {t : SupportType} (ht : t ∈ supportTypes bufferFree)
    (hname : name ∈ t.lines.flatMap simpleNames) :
    RefersTo [.lines (supportText bufferFree)] name := by
  obtain ⟨line, hline, hname⟩ := List.mem_flatMap.mp hname
  refine ⟨line, ?_, hname⟩
  rw [Code.textsAll, Code.texts, lines_supportText h, Code.textsAll, List.append_nil]
  exact mem_separated (List.mem_map_of_mem ht) hline

/-- **Every file refers to these types of the system** where it is not about exported types. -/
theorem refersTo_systemTypes {f : File} (hfree : IsLine f.bufferFree) (h : f.entryPoints ≠ []) :
    ∀ name ∈ systemTypes, RefersTo f.support name := by
  let types := supportTypes (Naming.managedIdent f.bufferFree)
  have hsupport {t : SupportType} (ht : t ∈ types) {name : String}
      (hname : name ∈ t.lines.flatMap simpleNames) : RefersTo f.support name :=
    ((refersTo_supportText hfree.managedIdent ht hname).append_left _).append_left _
  have himports : RefersTo f.support "CallingConvention" :=
    (((refersTo_importsCode f.libraryName h).append_right [.blank]).append_left []).append_right _
  have hbuffer : ⟨"RustBuffer", nativeBuffer⟩ ∈ types := by simp [types, supportTypes]
  have harg : ⟨"Utf8Arg", utf8Arg⟩ ∈ types := by simp [types, supportTypes]
  have howned : ⟨"OwnedHandle", ownedHandle⟩ ∈ types := by simp [types, supportTypes]
  have hreader : ⟨"ByteReader", byteReader⟩ ∈ types := by simp [types, supportTypes]
  have hexception : ⟨"NativeException", nativeException⟩ ∈ types := by simp [types, supportTypes]
  have hffi : ⟨"Ffi", ffi (Naming.managedIdent f.bufferFree)⟩ ∈ types := by
    simp [types, supportTypes]
  intro name hname
  simp only [systemTypes, List.mem_cons, List.not_mem_nil, or_false] at hname
  obtain rfl | rfl | rfl | rfl | rfl | rfl | rfl | rfl | rfl | rfl | rfl | rfl := hname
  · exact hsupport hexception mem_simpleNames_nativeException
  · exact hsupport harg (mem_simpleNames_utf8Arg _ (by simp))
  · exact hsupport hbuffer (mem_simpleNames_nativeBuffer _ (by simp))
  · exact hsupport hbuffer (mem_simpleNames_nativeBuffer _ (by simp))
  · exact hsupport hffi (mem_simpleNames_ffi _)
  · exact hsupport harg (mem_simpleNames_utf8Arg _ (by simp))
  · exact hsupport hbuffer (mem_simpleNames_nativeBuffer _ (by simp))
  · exact hsupport harg (mem_simpleNames_utf8Arg _ (by simp))
  · exact hsupport hreader mem_simpleNames_byteReader
  · exact hsupport howned mem_simpleNames_ownedHandle
  · exact hsupport hbuffer (mem_simpleNames_nativeBuffer _ (by simp))
  · exact himports

/-! ## Captured names -/

/-- A type of that name takes it away from another type, which the file refers to where it is not
about exported types: one that it declares there or one of the system. -/
def File.Captures (f : File) (name : String) : Prop :=
  name ∈ typesOf f.support ∨ name ∈ systemTypes ∧ RefersTo f.support name

end Boundary.Managed

namespace Boundary

open Managed

variable {c : Config} {ds : List Declaration} {s : Schema}

/-- The types that exported types bring along. -/
theorem typesOf_exported_managedFile {facade : String} (h : Accepted facade ds s) :
    typesOf ((s.managedFile c).exported (s.surface c)) = s.managedTypeNames := by
  rw [typesOf_exported]
  · rw [Schema.managedFile, List.map_map, List.flatMap_map]
    rfl
  · intro w hw
    obtain ⟨x, hx, rfl⟩ := List.mem_map.mp hw
    exact Naming.isWord_pascal (h.isIdentifier_struct hx)
  · intro e he
    obtain ⟨x, hx, rfl⟩ := List.mem_map.mp he
    exact Naming.isWord_pascal (h.isIdentifier_enum hx)

/-- An interface is called like one of these types of the system only if its enum is called
`Disposable`. -/
theorem interfaceName_mem_systemTypes_iff {name : String} (h : Naming.isIdentifier name = true) :
    interfaceName (Naming.pascal name) ∈ systemTypes ↔ Naming.pascal name = "Disposable" := by
  -- What stands behind the first letter of the others starts with a small letter.
  have hsystem : ∀ type ∈ systemTypes, type.toList.head? = some 'I' →
      type.toList.tail = "Disposable".toList ∨ type.toList.tail.head?.any Char.isLower = true := by
    decide +kernel
  have hinterface : (interfaceName (Naming.pascal name)).toList =
      'I' :: (Naming.pascal name).toList := by
    rw [interfaceName, String.toList_append]
    rfl
  constructor
  · intro hmem
    have hcases := hsystem _ hmem
    rw [hinterface] at hcases
    obtain heq | hlower := hcases rfl
    · exact String.toList_injective heq
    · obtain ⟨c, hc, hcase⟩ := (Option.any_eq_true _ _).mp hlower
      rw [List.tail_cons] at hc
      rw [Naming.isLower_head?_pascal h c hc] at hcase
      cases hcase
  · intro heq
    rw [heq]
    decide

/-- When no exported type is called like one of these types of the system. -/
theorem Accepted.notMem_systemTypes_iff {facade : String} (h : Accepted facade ds s) :
    (∀ name ∈ s.managedTypeNames, name ∉ systemTypes) ↔
      (∀ t ∈ s.typeNames, Naming.pascal t.2 ∉ systemTypes) ∧
        ∀ x ∈ s.enums, Naming.pascal x.name ≠ "Disposable" := by
  have henums : (∀ name ∈ s.enums.flatMap fun x =>
        [interfaceName (Naming.pascal x.name), Naming.pascal x.name], name ∉ systemTypes) ↔
      ∀ x ∈ s.enums, Naming.pascal x.name ∉ systemTypes ∧ Naming.pascal x.name ≠ "Disposable" := by
    rw [List.forall_mem_flatMap]
    refine forall₂_congr fun x hx => ?_
    rw [List.forall_mem_cons, List.forall_mem_singleton,
      interfaceName_mem_systemTypes_iff (h.isIdentifier_enum hx), and_comm]
  simp only [Schema.managedTypeNames, Schema.typeNames, List.forall_mem_append, henums,
    List.forall_mem_map, forall₂_and, and_assoc]

/-- **No exported type takes the name of a type away from support code**, exactly if none is called
like a type of the system that support code refers to and no enum is called `Disposable`. The names
of support types are never taken away. -/
theorem not_captures_iff (h : c.schema ds = .ok s) :
    (∀ name ∈ typesOf ((s.managedFile c).exported (s.surface c)),
      name ∉ typesOf (s.managedFile c).support) ∧
    ((∀ name ∈ typesOf ((s.managedFile c).exported (s.surface c)),
        ¬ (s.managedFile c).Captures name) ↔
      (∀ t ∈ s.typeNames, Naming.pascal t.2 ∉ systemTypes) ∧
        ∀ x ∈ s.enums, Naming.pascal x.name ≠ "Disposable") := by
  have haccepted := Config.accepted h
  have hfree := isLine_bufferFree h
  have hrefers : ∀ name ∈ systemTypes, RefersTo (s.managedFile c).support name :=
    refersTo_systemTypes hfree (List.cons_ne_nil _ _)
  have hsupport : ∀ name ∈ s.managedTypeNames, name ∉ typesOf (s.managedFile c).support := by
    intro name hname hmem
    obtain ⟨hreserved, -, hprefix⟩ := haccepted.managedTypeNames_free name hname
    have hnames : ∀ name ∈ supportNames ++ ["NativeMethods"], name ∈ reservedTypeNames := by decide
    rw [typesOf_support hfree, List.mem_append, List.mem_append] at hmem
    obtain (hmem | hmem) | hmem := hmem
    · exact hreserved (hnames name (List.mem_append_left _ hmem))
    · obtain ⟨t, ht, rfl⟩ := List.mem_map.mp hmem
      rw [FlatType.startsWith_managed (List.mem_filter.mp ht).2] at hprefix
      cases hprefix
    · exact hreserved (hnames name (List.mem_append_right _ hmem))
  rw [typesOf_exported_managedFile haccepted, ← haccepted.notMem_systemTypes_iff]
  refine ⟨hsupport, fun hfree name hname hsystem => ?_, fun hfree name hname hcaptures => ?_⟩
  · exact hfree name hname (.inr ⟨hsystem, hrefers name hsystem⟩)
  · exact hcaptures.elim (hsupport name hname) fun hsystem => hfree name hname hsystem.1

/-- The managed file of the small library. -/
theorem not_captures_demo :
    ({ libraryName := "demo" } : Config).schema Demo.declarations = .ok Demo.schema ∧
      ∀ name ∈ typesOf ((Demo.schema.managedFile { libraryName := "demo" }).exported
          (Demo.schema.surface { libraryName := "demo" })),
        ¬ (Demo.schema.managedFile { libraryName := "demo" }).Captures name :=
  ⟨Demo.schema_eq_ok, (not_captures_iff Demo.schema_eq_ok).2.mpr (by decide +kernel)⟩

/-- A struct that is called like the base of all exceptions. -/
def exceptionDeclarations : List Declaration := [.struct ⟨"Exception", [], Demo.at_ 1⟩]

/-- It is accepted, and support code derives its own exceptions from it. -/
theorem captures_exception : ∃ s, ({} : Config).schema exceptionDeclarations = .ok s ∧
    "Exception" ∈ typesOf ((s.managedFile {}).exported (s.surface {})) ∧
      (s.managedFile {}).Captures "Exception" := by
  obtain ⟨s, hschema, hmem⟩ : ∃ s, ({} : Config).schema exceptionDeclarations = .ok s ∧
      "Exception" ∈ s.managedTypeNames :=
    ⟨_, Config.schema_eq_ok_iff.mpr
      ⟨by decide +kernel, Schema.build_eq_ok_iff.mpr ⟨by decide +kernel, rfl⟩⟩, by decide +kernel⟩
  have haccepted := Config.accepted hschema
  have hsystem : "Exception" ∈ systemTypes := by decide
  have hrefers := refersTo_systemTypes (isLine_bufferFree hschema) (List.cons_ne_nil _ _) _ hsystem
  refine ⟨s, hschema, ?_, .inr ⟨hsystem, hrefers⟩⟩
  rw [typesOf_exported_managedFile haccepted]
  exact hmem

end Boundary
