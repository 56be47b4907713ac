import Boundary.Managed.Source
import Boundary.Proofs.Source.Balance

/-!
# Levels in managed files

The calls that write a managed file open and close levels one by one. Put together differently, the
same calls are declarations with their bodies, so that every level is closed where it should be.

* `declared`: a declaration or statement with a body between braces.
* `Wrapper.members`, `EnumClass.members`: what stands between the braces of a class;
  `EnumClass.decoding`, `EnumClass.lowering`: and between those of the two methods for a handle.
* `Method.code_eq`, `Wrapper.code_eq`, `EnumClass.code_eq` and so on: the parts of a file, put
  together of such declarations.
* `balanced_lines`, `balanced_spaced`: the ways to put balanced calls together.
* `File.balanced_code`: the calls that write a managed file are balanced, whatever is in it.
-/

namespace Boundary.Managed

open Source

/-! ## Declarations -/

/-- A declaration or statement `header` with a `body` between braces. -/
def declared (header : String) (body : List Code) : List Code :=
  .line header :: level "\x7b" "\x7d" body

section Parts

variable (s : Surface)

theorem Method.code_eq (m : Method) :
    let modifiers := if m.isStatic then "public static " else "public "
    m.code s = m.doc s ++
      declared (modifiers ++ s.type m.returns ++ " " ++ m.name ++ parameters m.params)
        (m.call.returning s) := by
  simp [Method.code, declared, level]

theorem Property.code_eq (p : Property) :
    let remark := match p.type with
      | .handle _ => lines [
      "/// <remarks>Each read returns a new wrapper owning a copy; dispose it when done.</remarks>"]
      | _ => []
    p.code s = remark ++
      declared s!"public {s.type p.type} {p.name}" (declared "get" (p.read.returning s)) := by
  obtain ⟨name, type, read⟩ := p
  cases type <;> simp [Property.code, declared, level]

/-- The members of the class of the struct `w`. -/
def Wrapper.members (w : Wrapper) : List Code :=
  let owned := s!"new OwnedHandle(handle, Free, nameof({w.name}))"
  lines ["private readonly OwnedHandle _handle;"]
    ++ spaced ([
      declared s!"public {w.name}{parameters w.params}" (w.make.code s
        ++ lines [s!"_handle = new OwnedHandle(__ret, Free, nameof({w.name}));"]),
      declared s!"private {w.name}(OwnedHandle handle)" (lines ["_handle = handle;"]),
      lines [s!"internal static {w.name} FromHandle(ulong handle) => new {w.name}({owned});"],
      lines ["internal ulong RawHandle => _handle.Value;"],
      declared "internal void Forget()"
        (lines ["_handle.Forget();", "global::System.GC.SuppressFinalize(this);"])]
      ++ w.properties.map (·.code s) ++ w.methods.map (·.code s) ++ [
      declared "public void Dispose()"
        (lines ["_handle?.Dispose();", "global::System.GC.SuppressFinalize(this);"]),
      declared s!"~{w.name}()" (lines ["_handle?.Dispose();"]),
      declared "private static void Free(ulong handle)" (freeBody w.freeSymbol)])

theorem Wrapper.code_eq (w : Wrapper) : w.code s =
    [summary s!"Managed wrapper for native <c>{w.native}</c>.", threadingRemarks]
      ++ declared s!"public sealed class {w.name} : IDisposable" (w.members s) := by
  simp [Wrapper.code, members, declared, level, lines, spaced]

theorem VariantRecord.decode_eq (r : VariantRecord) :
    let values := (List.range r.fields.length).map fun i => s!"__f{i}"
    r.decode s = declared s!"case {r.discriminant}:" (
      r.fields.zipIdx.flatMap (fun (f, i) => f.decode s i)
        ++ lines [s!"return new {r.name}({commas values});"]) := by
  simp [VariantRecord.decode, declared, level, lines]

theorem VariantRecord.lower_eq (r : VariantRecord) :
    let args := r.fields.map (·.argument)
    let binding := if r.fields.isEmpty then "" else " __v"
    r.lower s = declared s!"case {r.name}{binding}:" (
      lines (args.flatMap (·.setup s))
        ++ [.line ("__ret = " ++ callImported r.makeSymbol (args.map (·.expr)) ++ ";")]
        ++ (args.filterMap (·.keepAlive?)).map keepAlive ++ lines ["break;"]) := by
  simp [VariantRecord.lower, declared, level, lines]

/-- The statements of `Decode`, which makes a record from a handle. -/
def EnumClass.decoding (e : EnumClass) : List Code :=
  declared "try" (
    [newStatus, .line ("var __tag = " ++ callImported e.tagSymbol ["handle"] ++ ";"), checkStatus]
    ++ declared "switch (__tag)" (
      e.records.flatMap (·.decode s) ++ lines [
        "default:",
        "    throw new NativeContractException($\"unknown " ++ e.native
          ++ " discriminant \x7b__tag\x7d\");"]))
  ++ declared "finally" (lines ["Free(handle);"])

theorem EnumClass.decode_eq (e : EnumClass) : e.decode s =
    declared s!"internal static {s.qualified e.interface} Decode(ulong handle)" (e.decoding s) := by
  simp [EnumClass.decode, decoding, declared, level, lines]

/-- The statements of `Lower`, which makes a handle from a record. -/
def EnumClass.lowering (e : EnumClass) : List Code :=
  newStatus :: lines ["ulong __ret;"]
    ++ declared "switch (value)" (
      e.records.flatMap (·.lower s) ++ lines [
        "default:",
        "    throw new global::System.ArgumentException($\"unknown " ++ e.interface
          ++ " implementation \x7bvalue?.GetType()\x7d\", nameof(value));"])
    ++ checkStatus :: lines ["return __ret;"]

theorem EnumClass.lower_eq (e : EnumClass) : e.lower s =
    declared s!"internal static ulong Lower({s.qualified e.interface} value)" (e.lowering s) := by
  simp [EnumClass.lower, lowering, declared, level, lines]

/-- The members of the class of the enum `e`. -/
def EnumClass.members (e : EnumClass) : List Code :=
  e.records.map (·.code s (s.qualified e.interface))
    ++ spaced ([
      e.decode s,
      e.lower s,
      declared "internal static void Free(ulong handle)" (freeBody e.freeSymbol)]
      ++ e.methods.map (·.code s))

/-- The interface of an enum is written by `line`, with its braces. -/
theorem EnumClass.code_eq (e : EnumClass) : e.code s =
    [summary s!"A value of native enum <c>{e.native}</c>."]
      ++ lines [s!"public interface {e.interface}", "\x7b", "\x7d"]
      ++ [.blank, summary s!"Variants of native enum <c>{e.native}</c>.", threadingRemarks]
      ++ declared s!"public static class {e.name}" (e.members s) := by
  simp [EnumClass.code, members, declared, level, lines, spaced]

theorem Facade.code_eq (libraryName : String) (f : Facade) :
    f.code s libraryName =
      [summary s!"Free functions of native library <c>{libraryName}</c>.", threadingRemarks]
        ++ declared s!"public static class {f.name}" (interspaced (f.methods.map (·.code s))) := by
  simp [Facade.code, declared, level]

end Parts

theorem optionCode_option (inner : FlatType) :
    optionCode (.option inner) = .blank :: .line "[StructLayout(LayoutKind.Sequential)]"
      :: declared s!"internal struct {(FlatType.option inner).managed}"
        (lines ["public byte Present;", s!"public {inner.managed} Value;"]) := rfl

theorem importsCode_eq (libraryName : String) (entryPoints : List EntryPoint) :
    importsCode libraryName entryPoints = declared "internal static class NativeMethods" (
      lines ["private const string Library = " ++ Text.quoted libraryName ++ ";"]
        ++ entryPoints.flatMap importCode) := by
  simp [importsCode, declared, level, lines]

/-! ## Balance -/

@[simp] theorem balanced_lines (texts : List String) : Balanced (lines texts) :=
  .map fun text _ => .line text .nil

@[simp] theorem balanced_declared {header : String} {body : List Code} (h : Balanced body) :
    Balanced (declared header body) := .line header h.level

theorem balanced_spaced {codes : List (List Code)} (h : ∀ code ∈ codes, Balanced code) :
    Balanced (spaced codes) := .flatMap fun code hcode => .blank (h code hcode)

private theorem balanced_interspaced {codes : List (List Code)}
    (h : ∀ code ∈ codes, Balanced code) : Balanced (interspaced codes) := by
  cases codes with
  | nil => exact .nil
  | cons code rest =>
    rw [List.forall_mem_cons] at h
    exact h.1.append (balanced_spaced h.2)

section Parts

variable (s : Surface)

@[simp] theorem Invocation.balanced_code (i : Invocation) : Balanced (i.code s) := by
  have hcheck : Balanced [i.check s] := by
    unfold check
    split <;> exact .line _ .nil
  exact (((balanced_lines _).append (.line _ (.line _ .nil))).append (.map fun _ _ => .line _ .nil)
    |>.append (.map fun _ _ => .line _ .nil)).append hcheck

@[simp] theorem Invocation.balanced_returning (i : Invocation) : Balanced (i.returning s) := by
  refine (i.balanced_code s).append ?_
  split
  · exact .nil
  · exact .line _ .nil

@[simp] theorem Method.balanced_doc (m : Method) : Balanced (m.doc s) :=
  (Balanced.line _ (.map fun _ _ => .line _ .nil)).append (.map fun _ _ => .line _ .nil)

@[simp] theorem Method.balanced_code (m : Method) : Balanced (m.code s) := by
  rw [Method.code_eq]
  exact (m.balanced_doc s).append (balanced_declared (m.call.balanced_returning s))

@[simp] theorem Property.balanced_code (p : Property) : Balanced (p.code s) := by
  rw [Property.code_eq]
  refine .append ?_ (balanced_declared (balanced_declared (p.read.balanced_returning s)))
  split
  · exact balanced_lines _
  · exact .nil

@[simp] theorem balanced_freeBody (symbol : String) : Balanced (freeBody symbol) :=
  .line _ (.line _ .nil)

@[simp] theorem Wrapper.balanced_members (w : Wrapper) : Balanced (w.members s) := by
  refine (balanced_lines _).append (balanced_spaced fun code hcode => ?_)
  simp only [List.mem_append, List.mem_map] at hcode
  obtain ((hcode | ⟨p, -, rfl⟩) | ⟨m, -, rfl⟩) | hcode := hcode
  · revert code
    simp [Balanced.append]
  · exact p.balanced_code s
  · exact m.balanced_code s
  · revert code
    simp

@[simp] theorem Wrapper.balanced_code (w : Wrapper) : Balanced (w.code s) := by
  rw [Wrapper.code_eq]
  exact .append (.line _ (.line _ .nil)) (balanced_declared (w.balanced_members s))

@[simp] theorem VariantRecord.balanced_decode (r : VariantRecord) : Balanced (r.decode s) := by
  rw [VariantRecord.decode_eq]
  exact balanced_declared (.append (.flatMap fun _ _ => .line _ (.line _ (.line _ (.line _ .nil))))
    (balanced_lines _))

@[simp] theorem VariantRecord.balanced_lower (r : VariantRecord) : Balanced (r.lower s) := by
  rw [VariantRecord.lower_eq]
  exact balanced_declared ((((balanced_lines _).append (.line _ .nil)).append
    (.map fun _ _ => .line _ .nil)).append (balanced_lines _))

@[simp] theorem EnumClass.balanced_decoding (e : EnumClass) : Balanced (e.decoding s) := by
  have hcases : Balanced (e.records.flatMap (·.decode s)) :=
    .flatMap fun r _ => r.balanced_decode s
  exact .append (balanced_declared (.append (.line _ (.line _ (.line _ .nil)))
    (balanced_declared (hcases.append (balanced_lines _))))) (balanced_declared (balanced_lines _))

@[simp] theorem EnumClass.balanced_decode (e : EnumClass) : Balanced (e.decode s) := by
  rw [EnumClass.decode_eq]
  exact balanced_declared (e.balanced_decoding s)

@[simp] theorem EnumClass.balanced_lowering (e : EnumClass) : Balanced (e.lowering s) := by
  have hcases : Balanced (e.records.flatMap (·.lower s)) := .flatMap fun r _ => r.balanced_lower s
  exact .append (.line _ (.append (balanced_lines _) (balanced_declared
    (hcases.append (balanced_lines _))))) (.line _ (balanced_lines _))

@[simp] theorem EnumClass.balanced_lower (e : EnumClass) : Balanced (e.lower s) := by
  rw [EnumClass.lower_eq]
  exact balanced_declared (e.balanced_lowering s)

@[simp] theorem EnumClass.balanced_members (e : EnumClass) : Balanced (e.members s) := by
  have hrecords : Balanced (e.records.map (·.code s (s.qualified e.interface))) :=
    .map fun _ _ => .line _ .nil
  refine hrecords.append (balanced_spaced fun code hcode => ?_)
  simp only [List.mem_append, List.mem_map] at hcode
  obtain hcode | ⟨m, -, rfl⟩ := hcode
  · revert code
    simp
  · exact m.balanced_code s

@[simp] theorem EnumClass.balanced_code (e : EnumClass) : Balanced (e.code s) := by
  rw [EnumClass.code_eq]
  exact .append (.append (.append (.line _ .nil) (balanced_lines _))
    (.blank (.line _ (.line _ .nil)))) (balanced_declared (e.balanced_members s))

@[simp] theorem Facade.balanced_members (f : Facade) :
    Balanced (interspaced (f.methods.map (·.code s))) := by
  refine balanced_interspaced ?_
  rw [List.forall_mem_map]
  exact fun m _ => m.balanced_code s

@[simp] theorem Facade.balanced_code (libraryName : String) (f : Facade) :
    Balanced (f.code s libraryName) := by
  rw [Facade.code_eq]
  exact .append (.line _ (.line _ .nil)) (balanced_declared (f.balanced_members s))

end Parts

@[simp] theorem balanced_optionCode (t : FlatType) : Balanced (optionCode t) := by
  cases t with
  | option inner =>
    rw [optionCode_option]
    exact .blank (.line _ (balanced_declared (balanced_lines _)))
  | _ => exact .nil

@[simp] theorem balanced_importsCode (libraryName : String) (entryPoints : List EntryPoint) :
    Balanced (importsCode libraryName entryPoints) := by
  rw [importsCode_eq]
  exact balanced_declared ((balanced_lines _).append
    (.flatMap fun _ _ => .blank (.line _ (.line _ .nil))))

@[simp] theorem balanced_heading (libraryName managedNamespace : String) :
    Balanced (heading libraryName managedNamespace) :=
  .append (.append (balanced_lines _) (.blank (balanced_lines _))) (.blank (.line _ (.blank .nil)))

/-- The part of a file that is there for all exported types: support code, options and the imported
functions. -/
def File.support (f : File) : List Code :=
  .lines (supportText (Naming.managedIdent f.bufferFree)) :: f.options.flatMap optionCode
    ++ spaced [importsCode f.libraryName f.entryPoints]

/-- The part of a file that exported types bring along. -/
def File.exported (s : Surface) (f : File) : List Code :=
  spaced (f.wrappers.map (·.code s) ++ f.enums.map (·.code s))

/-- A file consists of its heading, of `support` and of `exported`. -/
theorem File.code_eq (s : Surface) (f : File) :
    f.code s = heading f.libraryName f.managedNamespace ++ f.support ++ f.exported s
      ++ spaced [f.facade.code s f.libraryName] := by
  simp [File.code, File.support, File.exported, spaced]

@[simp] theorem File.balanced_support (f : File) : Balanced f.support := by
  refine .append (.lines _ (.flatMap fun t _ => balanced_optionCode t)) (balanced_spaced ?_)
  simp

@[simp] theorem File.balanced_exported (s : Surface) (f : File) : Balanced (f.exported s) := by
  refine balanced_spaced ?_
  rw [List.forall_mem_append, List.forall_mem_map, List.forall_mem_map]
  exact ⟨fun w _ => w.balanced_code s, fun e _ => e.balanced_code s⟩

/-- **The calls of `File.code` are `Balanced`**, whatever is in the file. -/
theorem File.balanced_code (s : Surface) (f : File) : Balanced (f.code s) := by
  rw [File.code_eq]
  refine (((balanced_heading _ _).append f.balanced_support).append
    (f.balanced_exported s)).append (balanced_spaced ?_)
  simp

end Boundary.Managed
