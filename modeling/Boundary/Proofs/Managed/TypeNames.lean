import Boundary.Proofs.Managed.Lines
import Boundary.Proofs.Managed.SupportText

/-!
# Types in managed files

The types that a managed file declares at the top level, read off its lines.

* `typeOfLine?`: the type that a line declares; `typesOf`: those that some code declares.
* `typeOfLine?_words`, `typeOfLine?_eq_none`: lines that declare a type, and lines that do not.
* `types_supportText`, `types_wrapper`, `types_enumClass` and so on: the parts of a file.
* `typesOf_support`, `typesOf_exported`: what is there for all exported types, and what they bring
  along.
* `typesOf_file`: the types of a file, part by part.
-/

namespace Boundary.Managed

open Source

/-! ## Declared types -/

/-- The words that may stand before the kind of a type. -/
def typeModifiers : List String := ["public", "internal", "abstract", "sealed", "static"]

/-- The kinds of types. -/
def typeKinds : List String := ["class", "struct", "interface", "record"]

/-- The type that some words declare. A generic form counts with the type of the same name. -/
def typeOfWords? (words : List String) : Option String :=
  match words.dropWhile typeModifiers.contains with
  | kind :: name :: _ => if kind ∈ typeKinds ∧ '<' ∉ name.toList then some name else none
  | _ => none

/-- The type that a line declares, if it declares one. -/
def typeOfLine? (line : String) : Option String := typeOfWords? (Text.split ' ' line)

/-- The types that some code declares at its top level. -/
def typesOf (code : List Code) : List String := readLines typeOfLine? code

/-- The type that a header declares. -/
theorem typeOfLine?_header {line name : String} (modifiers : List String) (kind : String)
    (behind : List String) (hline : Text.split ' ' line = modifiers ++ kind :: name :: behind)
    (hmodifiers : ∀ m ∈ modifiers, m ∈ typeModifiers) (hkind : kind ∈ typeKinds)
    (hname : '<' ∉ name.toList) : typeOfLine? line = some name := by
  have hkinds : ∀ w ∈ typeKinds, w ∉ typeModifiers := by decide
  rw [typeOfLine?, hline, typeOfWords?, List.dropWhile_append_of_pos (by simpa using hmodifiers),
    List.dropWhile_cons_of_neg (by simpa using hkinds kind hkind)]
  exact if_pos ⟨hkind, hname⟩

/-- A generic form is not counted. -/
theorem typeOfLine?_generic {line name : String} (modifiers : List String) (kind : String)
    (behind : List String) (hline : Text.split ' ' line = modifiers ++ kind :: name :: behind)
    (hmodifiers : ∀ m ∈ modifiers, m ∈ typeModifiers) (hkind : kind ∈ typeKinds)
    (hname : '<' ∈ name.toList) : typeOfLine? line = none := by
  have hkinds : ∀ w ∈ typeKinds, w ∉ typeModifiers := by decide
  rw [typeOfLine?, hline, typeOfWords?, List.dropWhile_append_of_pos (by simpa using hmodifiers),
    List.dropWhile_cons_of_neg (by simpa using hkinds kind hkind)]
  exact if_neg fun h => h.2 hname

/-! ### Lines that declare nothing -/

/-- The characters that the declaration of a type starts with. -/
def typeStarts : List Char := ['p', 'i', 'a', 's', 'c', 'r', ' ']

/-- A line that starts with another character declares nothing. -/
theorem typeOfLine?_eq_none {line : String} {c : Char} {cs : List Char}
    (hline : line.toList = c :: cs) (hc : c ∉ typeStarts) : typeOfLine? line = none := by
  have hstarts : ∀ w ∈ typeModifiers ++ typeKinds, w.toList.head? ≠ some c := by
    have hall : ∀ w ∈ typeModifiers ++ typeKinds, ∃ d ∈ typeStarts, w.toList.head? = some d := by
      decide
    intro w hw heq
    obtain ⟨d, hd, hhead⟩ := hall w hw
    rw [hhead] at heq
    cases heq
    exact hc hd
  have hblank : c ≠ ' ' := by
    rintro rfl
    exact hc (by decide)
  obtain ⟨part, parts, hparts⟩ : ∃ part parts,
      Text.split ' ' line = String.ofList (c :: part) :: parts := by
    rw [Text.split, hline, Text.splitChars, if_neg hblank]
    split
    · exact ⟨[], [], rfl⟩
    · exact ⟨_, _, rfl⟩
  have hfirst : (String.ofList (c :: part)).toList.head? = some c := by simp
  have hmodifier : String.ofList (c :: part) ∉ typeModifiers := fun h =>
    hstarts _ (List.mem_append_left _ h) hfirst
  have hkind : String.ofList (c :: part) ∉ typeKinds := fun h =>
    hstarts _ (List.mem_append_right _ h) hfirst
  rw [typeOfLine?, hparts, typeOfWords?, List.dropWhile_cons_of_neg (by simpa using hmodifier)]
  cases parts with
  | nil => rfl
  | cons name behind => exact if_neg fun h => hkind h.1

theorem typeOfLine?_ofList {c : Char} {cs : List Char} (hc : c ∉ typeStarts) :
    typeOfLine? (String.ofList (c :: cs)) = none :=
  typeOfLine?_eq_none String.toList_ofList hc

theorem typeOfLine?_ofList_append {c : Char} {cs : List Char} (hc : c ∉ typeStarts)
    (rest : String) : typeOfLine? (String.ofList (c :: cs) ++ rest) = none := by
  have hline : (String.ofList (c :: cs) ++ rest).toList = c :: (cs ++ rest.toList) := by
    rw [String.toList_append, String.toList_ofList]
    rfl
  exact typeOfLine?_eq_none hline hc

theorem typeOfLine?_ofList_append_append {c : Char} {cs : List Char} (hc : c ∉ typeStarts)
    (text back : String) : typeOfLine? (String.ofList (c :: cs) ++ text ++ back) = none := by
  rw [String.append_assoc]
  exact typeOfLine?_ofList_append hc _

/-- Words with nothing before the first blank declare nothing. -/
theorem typeOfLine?_blank (text : String) : typeOfLine? (" " ++ text) = none := by
  have hline : " " ++ text = "" ++ " " ++ text := by rw [String.empty_append]
  rw [typeOfLine?, hline, Text.split_separated rfl, Text.split_empty, typeOfWords?,
    List.singleton_append, List.dropWhile_cons_of_neg (by decide)]
  cases Text.split ' ' text with
  | nil => rfl
  | cons name rest => exact if_neg fun h => absurd h.1 (by decide)

/-! ### The parts of a file -/

private theorem typeOfLine?_summary (text : String) :
    typeOfLine? s!"/// <summary>{text}</summary>" = none :=
  typeOfLine?_ofList_append_append (by decide) _ _

theorem types_summary (text : String) : ReadsLines typeOfLine? [summary text] [] :=
  readsLines_nil.skip (typeOfLine?_summary text)

theorem types_threadingRemarks : ReadsLines typeOfLine? [threadingRemarks] [] :=
  readsLines_nil.skip (typeOfLine?_ofList_append (by decide) _)

/-! #### Support code -/

private theorem types_indented (texts : List String) :
    (indented texts).filterMap typeOfLine? = [] := by
  have hline : "    " = " " ++ "   " := rfl
  have hempty : typeOfLine? "" = none := by decide
  rw [List.filterMap_eq_nil_iff]
  refine List.forall_mem_map.mpr fun text _ => ?_
  split
  · exact hempty
  · rw [hline, String.append_assoc]
    exact typeOfLine?_blank _

/-- A declaration in support code declares what its header does. -/
theorem types_enclosed (header : String) (body : List String) :
    (enclosed header body).filterMap typeOfLine? = (typeOfLine? header).toList := by
  have hopen : typeOfLine? "\x7b" = none := by decide
  have hclose : typeOfLine? "\x7d" = none := by decide
  have hbody : ("\x7b" :: indented body ++ ["\x7d"]).filterMap typeOfLine? = [] := by
    simp [hopen, hclose, types_indented]
  rw [enclosed, List.cons_append, List.filterMap_cons, hbody]
  cases typeOfLine? header <;> rfl

private theorem types_separated (parts : List (List String)) :
    (separated parts).filterMap typeOfLine? = parts.flatMap (·.filterMap typeOfLine?) := by
  have hempty : typeOfLine? "" = none := by decide
  fun_induction separated parts with
  | case1 => rfl
  | case2 texts => simp
  | case3 texts rest _ ih => simp [ih, hempty]

/-- A type with a remark or an attribute on the line before it. -/
theorem types_remarked {remark header name : String} {body : List String}
    (hremark : typeOfLine? remark = none) (modifiers : List String) (kind : String)
    (behind : List String) (hline : Text.split ' ' header = modifiers ++ kind :: name :: behind)
    (hmodifiers : ∀ m ∈ modifiers, m ∈ typeModifiers) (hkind : kind ∈ typeKinds)
    (hname : '<' ∉ name.toList) :
    ([remark] ++ enclosed header body).filterMap typeOfLine? = [name] := by
  rw [List.singleton_append, List.filterMap_cons_none hremark, types_enclosed,
    typeOfLine?_header modifiers kind behind hline hmodifiers hkind hname]
  rfl

/-- The support types by name, the generic exception with the one of the same name. -/
def supportNames : List String := [
  "RustBuffer", "FfiStr", "CallStatus", "Utf8Arg", "OwnedHandle", "ByteReader", "NativeException",
  "NativePanicException", "NativeContractException", "NativeErrorException", "Ffi"]

theorem types_supportText {bufferFree : String} (h : IsLine bufferFree) :
    ReadsLines typeOfLine? [.lines (supportText bufferFree)] supportNames := by
  have hlayout : typeOfLine? "[StructLayout(LayoutKind.Sequential)]" = none :=
    typeOfLine?_ofList (by decide)
  have hbuffer : nativeBuffer.filterMap typeOfLine? = ["RustBuffer"] :=
    types_remarked hlayout ["internal"] "struct" [] (Text.split_ofList _) (by decide)
      (by decide) (by decide)
  have hstr : ffiStr.filterMap typeOfLine? = ["FfiStr"] :=
    types_remarked hlayout ["internal"] "struct" [] (Text.split_ofList _) (by decide)
      (by decide) (by decide)
  have hstatus : callStatus.filterMap typeOfLine? = ["CallStatus"] :=
    types_remarked hlayout ["internal"] "struct" [] (Text.split_ofList _) (by decide)
      (by decide) (by decide)
  have harg : utf8Arg.filterMap typeOfLine? = ["Utf8Arg"] :=
    types_remarked (typeOfLine?_ofList_append (by decide) _) ["internal", "sealed"]
      "class" [":", "IDisposable"] (Text.split_ofList _) (by decide) (by decide) (by decide)
  have howned : ownedHandle.filterMap typeOfLine? = ["OwnedHandle"] :=
    types_remarked (typeOfLine?_ofList (by decide)) ["internal", "sealed"] "class"
      [":", "IDisposable"] (Text.split_ofList _) (by decide) (by decide) (by decide)
  have hreader : byteReader.filterMap typeOfLine? = ["ByteReader"] := by
    rw [byteReader, types_enclosed, typeOfLine?_header ["internal", "sealed"] "class" []
      (Text.split_ofList _) (by decide) (by decide) (by decide)]
    rfl
  have hexception : nativeException.filterMap typeOfLine? = ["NativeException"] :=
    types_remarked (typeOfLine?_ofList (by decide)) ["public", "abstract"] "class"
      [":", "Exception"] (Text.split_ofList _) (by decide) (by decide) (by decide)
  have hpanic : panicException.filterMap typeOfLine? = ["NativePanicException"] :=
    types_remarked (typeOfLine?_ofList (by decide)) ["public", "sealed"] "class"
      [":", "NativeException"] (Text.split_ofList _) (by decide) (by decide) (by decide)
  have hcontract : contractException.filterMap typeOfLine? = ["NativeContractException"] :=
    types_remarked (typeOfLine?_ofList_append (by decide) _) ["public", "sealed"]
      "class" [":", "NativeException"] (Text.split_ofList _) (by decide) (by decide) (by decide)
  have herror : errorException.filterMap typeOfLine? = ["NativeErrorException"] :=
    types_remarked (typeOfLine?_ofList (by decide)) ["public"] "class"
      [":", "NativeException"] (Text.split_ofList _) (by decide) (by decide) (by decide)
  have htyped : typedErrorException.filterMap typeOfLine? = [] := by
    rw [typedErrorException, List.singleton_append,
      List.filterMap_cons_none (typeOfLine?_ofList_append (by decide) _), types_enclosed,
      typeOfLine?_generic ["public", "sealed"] "class" [":", "NativeErrorException"]
        (Text.split_ofList _) (by decide) (by decide) (by decide)]
    rfl
  have hffi : (ffi bufferFree).filterMap typeOfLine? = ["Ffi"] := by
    rw [ffi, types_enclosed, typeOfLine?_header ["internal", "static"] "class" []
      (Text.split_ofList _) (by decide) (by decide) (by decide)]
    rfl
  have hlines : (Text.lines (supportText bufferFree)).filterMap typeOfLine? = supportNames := by
    rw [lines_supportText h, supportLines, types_separated]
    simp only [supportTypes, List.map_cons, List.map_nil, List.flatMap_cons, List.flatMap_nil,
      hbuffer, hstr, hstatus, harg, howned, hreader, hexception, hpanic, hcontract, herror, htyped,
      hffi]
    rfl
  exact hlines ▸ readsLines_text _

/-! #### Other parts -/

private theorem types_heading (libraryName managedNamespace : String) :
    ReadsLines typeOfLine? (heading libraryName managedNamespace) [] := by
  have hlibrary : typeOfLine?
      s!"// Generated by crossbind for native library `{libraryName}`. Do not edit." = none :=
    typeOfLine?_ofList_append_append (by decide) _ _
  have hnamespace : typeOfLine? s!"namespace {managedNamespace};" = none :=
    typeOfLine?_ofList_append_append (by decide) _ _
  have hremarks : ReadsLines typeOfLine? (lines ["// <auto-generated>",
      s!"// Generated by crossbind for native library `{libraryName}`. Do not edit.",
      "// </auto-generated>", "#nullable enable"]) [] :=
    (((readsLines_nil.skip (typeOfLine?_ofList (by decide))).skip
      (typeOfLine?_ofList (by decide))).skip hlibrary).skip (typeOfLine?_ofList (by decide))
  have husing : ReadsLines typeOfLine? (lines ["using System;", "using System.Buffers.Binary;",
      "using System.Runtime.InteropServices;", "using System.Text;", "using System.Threading;"])
      [] :=
    ((((readsLines_nil.skip (typeOfLine?_ofList (by decide))).skip
      (typeOfLine?_ofList (by decide))).skip (typeOfLine?_ofList (by decide))).skip
        (typeOfLine?_ofList (by decide))).skip (typeOfLine?_ofList (by decide))
  exact (hremarks.append husing.blank).append (readsLines_nil.blank.skip hnamespace).blank

/-- A line of words declares the type that the words do. -/
theorem typeOfLine?_words {line name : String} (modifiers : List String) (kind : String)
    (behind : List String) (hline : line = " ".intercalate (modifiers ++ kind :: name :: behind))
    (hmodifiers : ∀ m ∈ modifiers, m ∈ typeModifiers) (hkind : kind ∈ typeKinds)
    (hname : Naming.IsWord name) (hbehind : ∀ w ∈ behind, ' ' ∉ w.toList) :
    typeOfLine? line = some name := by
  have hfixed : ∀ w ∈ typeModifiers ++ typeKinds, ' ' ∉ w.toList := by decide
  have hblanks : ∀ w ∈ modifiers ++ kind :: name :: behind, ' ' ∉ w.toList := by
    intro w hw
    simp only [List.mem_append, List.mem_cons] at hw
    obtain hw | rfl | rfl | hw := hw
    · exact hfixed w (List.mem_append_left _ (hmodifiers w hw))
    · exact hfixed _ (List.mem_append_right _ hkind)
    · exact hname.notMem (by decide)
    · exact hbehind w hw
  refine typeOfLine?_header modifiers kind behind ?_ hmodifiers hkind (hname.notMem (by decide))
  rw [hline, Text.split_intercalate rfl (by simp) hblanks]

private theorem isWord_suffix (t : FlatType) : Naming.IsWord t.suffix := by
  induction t with
  | scalar p => cases p <;> decide
  | option inner ih => exact .append (by decide) ih
  | _ => decide

/-- A declaration declares what its header does, whatever is in its body. -/
theorem types_declared {header name : String} (h : typeOfLine? header = some name)
    {body : List Code} (hbody : Balanced body) :
    ReadsLines typeOfLine? (declared header body) [name] :=
  readsLines_declared (readsLines_line (congrArg Option.toList h)) hbody

private theorem types_optionCode (t : FlatType) :
    ReadsLines typeOfLine? (optionCode t) (if t.isOption then [t.managed] else []) := by
  cases t with
  | option inner =>
    have hheader : typeOfLine? s!"internal struct {(FlatType.option inner).managed}" =
        some (FlatType.option inner).managed :=
      typeOfLine?_words ["internal"] "struct" [] (by simp [← String.toList_inj, toString])
        (by decide) (by decide) (.append (by decide) (isWord_suffix inner)) (by decide)
    rw [optionCode_option]
    exact ((types_declared hheader (balanced_lines _)).skip (typeOfLine?_ofList (by decide))).blank
  | _ => exact readsLines_nil

private theorem types_importsCode (libraryName : String) (entryPoints : List EntryPoint) :
    ReadsLines typeOfLine? (importsCode libraryName entryPoints) ["NativeMethods"] := by
  rw [importsCode_eq]
  exact types_declared (typeOfLine?_header ["internal", "static"] "class" [] (Text.split_ofList _)
    (by decide) (by decide) (by decide)) ((balanced_lines _).append
      (.flatMap fun _ _ => .blank (.line _ (.line _ .nil))))

theorem typeOfLine?_sealedClass {name : String} (h : Naming.IsWord name) :
    typeOfLine? s!"public sealed class {name} : IDisposable" = some name :=
  typeOfLine?_words ["public", "sealed"] "class" [":", "IDisposable"]
    (by simp [← String.toList_inj, toString]) (by decide) (by decide) h (by decide)

theorem typeOfLine?_interface {name : String} (h : Naming.IsWord name) :
    typeOfLine? s!"public interface {name}" = some name :=
  typeOfLine?_words ["public"] "interface" [] (by simp [← String.toList_inj, toString])
    (by decide) (by decide) h (by decide)

theorem types_wrapper (s : Surface) {w : Wrapper} (h : Naming.IsWord w.name) :
    ReadsLines typeOfLine? (w.code s) [w.name] := by
  rw [Wrapper.code_eq]
  exact ((types_summary _).append types_threadingRemarks).append
    (types_declared (typeOfLine?_sealedClass h) (w.balanced_members s))

theorem typeOfLine?_staticClass {name : String} (h : Naming.IsWord name) :
    typeOfLine? s!"public static class {name}" = some name :=
  typeOfLine?_words ["public", "static"] "class" [] (by simp [← String.toList_inj, toString])
    (by decide) (by decide) h (by decide)

theorem types_enumClass (s : Surface) {e : EnumClass} (h : Naming.IsWord e.name) :
    ReadsLines typeOfLine? (e.code s) [e.interface, e.name] := by
  have hinterface : ReadsLines typeOfLine?
      (lines [s!"public interface {e.interface}", "\x7b", "\x7d"]) [e.interface] := by
    have hheader : typeOfLine? s!"public interface {e.interface}" = some e.interface :=
      typeOfLine?_interface (.append (by decide) h)
    exact (readsLines_line (congrArg Option.toList hheader)).append
      ((readsLines_nil.skip (by decide)).skip (by decide))
  rw [EnumClass.code_eq]
  exact (((types_summary _).append hinterface).append
    ((types_summary _).append types_threadingRemarks).blank).append
      (types_declared (typeOfLine?_staticClass h) (e.balanced_members s))

private theorem types_facade (s : Surface) (libraryName : String) {f : Facade}
    (h : Naming.IsWord f.name) : ReadsLines typeOfLine? (f.code s libraryName) [f.name] := by
  rw [Facade.code_eq]
  exact ((types_summary _).append types_threadingRemarks).append
    (types_declared (typeOfLine?_staticClass h) (f.balanced_members s))

/-! ### Whole files -/

theorem reads_support {f : File} (h : IsLine f.bufferFree) : ReadsLines typeOfLine? f.support
    (supportNames ++ (f.options.filter FlatType.isOption).map FlatType.managed
      ++ ["NativeMethods"]) := by
  have hoptions : f.options.flatMap (fun t => if t.isOption then [t.managed] else []) =
      (f.options.filter FlatType.isOption).map FlatType.managed := by
    induction f.options with
    | nil => rfl
    | cons t rest ih =>
      rw [List.flatMap_cons, ih]
      cases ht : t.isOption <;> simp [ht]
  have himports := (types_importsCode f.libraryName f.entryPoints).blank.append readsLines_nil
  exact ((types_supportText h.managedIdent).append
    (hoptions ▸ ReadsLines.flatMap fun t _ => types_optionCode t)).append himports

/-- The types that are there for all exported types. -/
theorem typesOf_support {f : File} (h : IsLine f.bufferFree) : typesOf f.support =
    supportNames ++ (f.options.filter FlatType.isOption).map FlatType.managed
      ++ ["NativeMethods"] := (reads_support h).eq

theorem reads_exported (s : Surface) {f : File}
    (hwrappers : ∀ w ∈ f.wrappers, Naming.IsWord w.name)
    (henums : ∀ e ∈ f.enums, Naming.IsWord e.name) : ReadsLines typeOfLine? (f.exported s)
      (f.wrappers.map (·.name) ++ f.enums.flatMap fun e => [e.interface, e.name]) := by
  rw [File.exported, spaced_append, List.map_eq_flatMap (f := fun w : Wrapper => w.name)]
  exact (ReadsLines.spaced fun w hw => types_wrapper s (hwrappers w hw)).append
    (ReadsLines.spaced fun e he => types_enumClass s (henums e he))

theorem typesOf_exported (s : Surface) {f : File}
    (hwrappers : ∀ w ∈ f.wrappers, Naming.IsWord w.name)
    (henums : ∀ e ∈ f.enums, Naming.IsWord e.name) : typesOf (f.exported s) =
      f.wrappers.map (·.name) ++ f.enums.flatMap fun e => [e.interface, e.name] :=
  (reads_exported s hwrappers henums).eq

/-- The types of a file by name. -/
def File.typeNames (f : File) : List String :=
  supportNames ++ (f.options.filter FlatType.isOption).map FlatType.managed ++ "NativeMethods" ::
    f.wrappers.map (·.name) ++ f.enums.flatMap (fun e => [e.interface, e.name]) ++ [f.facade.name]

/-- **The types that a file declares** at the top level. -/
theorem typesOf_file (s : Surface) {f : File} (hfree : IsLine f.bufferFree)
    (hwrappers : ∀ w ∈ f.wrappers, Naming.IsWord w.name)
    (henums : ∀ e ∈ f.enums, Naming.IsWord e.name) (hfacade : Naming.IsWord f.facade.name) :
    typesOf (f.code s) = f.typeNames := by
  have hlast := (types_facade s f.libraryName hfacade).blank.append readsLines_nil
  have hfile := (((types_heading f.libraryName f.managedNamespace).append
    (reads_support hfree)).append (reads_exported s hwrappers henums)).append hlast
  rw [File.code_eq, typesOf, spaced, List.flatMap_singleton]
  rw [List.append_nil] at hfile
  refine hfile.eq.trans ?_
  simp [File.typeNames]

end Boundary.Managed
