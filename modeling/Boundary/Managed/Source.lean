import Boundary.Managed.File
import Boundary.Managed.Support
import Boundary.Source.Writer
import Boundary.Text.Quoted

/-!
# Managed source

* `Invocation.code`: the statements of a call with its checks and its result.
* `Wrapper.code`, `EnumClass.code`, `Facade.code`: the classes.
* `File.code`: a managed file: its heading, the support types, the imported functions, a class for
  each exported type and the class of the free functions.
* `Schema.managedSource`: the managed file of a schema as text.
-/

namespace Boundary.Managed

open Source

/-- The texts `parts` with commas between them. -/
def commas (parts : List String) : String := ", ".intercalate parts

/-- A call of `line` for each of `texts`. -/
def lines (texts : List String) : List Code := texts.map Code.line

/-- The `parts` of code with an empty line before each of them. -/
def spaced (parts : List (List Code)) : List Code := parts.flatMap fun code => .blank :: code

/-- What is said about the use from several threads. -/
def threadingRemarks : Code :=
  .line ("/// <remarks>Not synchronized: confine each instance to one thread at a time or guard "
    ++ "it externally.</remarks>")

/-- A summary for documentation. -/
def summary (text : String) : Code := .line s!"/// <summary>{text}</summary>"

/-! ## Calls -/

/-- The imported function behind `symbol`. -/
def imported (symbol : String) : String := s!"NativeMethods.{Naming.managedIdent symbol}"

/-- The argument for the status of a call. -/
def statusArgument : String := "ref __status"

/-- The call of the imported function behind `symbol`. -/
def callImported (symbol : String) (args : List String) : String :=
  s!"{imported symbol}({commas (args ++ [statusArgument])})"

/-- The statement that makes `__status`. -/
def newStatus : Code := .line "var __status = default(CallStatus);"

/-- The statement that checks `__status`. -/
def checkStatus : Code := .line "Ffi.Check(ref __status);"

/-- The statement that keeps the wrapper `owner` alive until after the call. -/
def keepAlive (owner : String) : Code := .line s!"global::System.GC.KeepAlive({owner});"

/-- The statement by which `owner` gives its handle up unless the call broke the contract. -/
def forgetConsumed (owner : String) : Code :=
  .line s!"if (__status.Code != Ffi.Contract) {owner}.Forget();"

/-- The flat type that the call `i` returns. -/
def Invocation.flat (i : Invocation) : FlatType := FlatType.of .out i.returns

/-- The statement `Ffi.Check` for the call `i`, which reads the error of the native function. -/
def Invocation.check (s : Surface) (i : Invocation) : Code :=
  match i.returns.error? with
  | none | some .unit => checkStatus
  | some err =>
    let value := (ReadForm.of err).expr s "__reader"
    .line s!"Ffi.Check(ref __status, __reader => {value});"

/-- The statements of the call `i`. The flat result is bound to `__ret`. -/
def Invocation.code (s : Surface) (i : Invocation) : List Code :=
  let call := callImported i.symbol (i.args.map (·.expr))
  lines (i.args.flatMap (·.setup s)) ++ [newStatus,
    .line (if i.flat = .void then s!"{call};" else s!"var __ret = {call};")]
    ++ (i.args.filterMap (·.keepAlive?)).map keepAlive
    ++ i.forget.map forgetConsumed ++ [i.check s]

/-- The statements of the call `i`, and the one that returns its result. -/
def Invocation.returning (s : Surface) (i : Invocation) : List Code :=
  let value := (LiftForm.of i.returns.success).expr s "__ret"
  i.code s ++ if i.flat = .void then [] else [.line s!"return {value};"]

/-! ## Members -/

/-- The parameter `p` with its type. -/
def Parameter.text (p : Parameter) : String := s!"{p.type} {p.name}"

/-- A list of parameters between parentheses. -/
def parameters (params : List Parameter) : String :=
  "(" ++ commas (params.map Parameter.text) ++ ")"

/-- A name without `@`, the mark of a name that would be a keyword. -/
def unmarked (name : String) : String := String.ofList (name.toList.dropWhile (· = '@'))

/-- The documentation of the parameter `name`, whose ownership moves. -/
def transferRemark (name : String) : Code :=
  .line ("/// <param name=\"" ++ unmarked name ++ "\">Ownership moves to native code; the wrapper "
    ++ "is unusable afterwards.</param>")

/-- The documentation of the exception for an error of the type `err`. -/
def exceptionRemark (s : Surface) (err : TypeRef) : Code :=
  let exception := match err with
    | .unit => "NativeErrorException"
    | err => "NativeErrorException\x7b" ++ s.type err ++ "\x7d"
  .line ("/// <exception cref=\"" ++ exception
    ++ "\">The native function returned an error.</exception>")

/-- The documentation of the method `m`. -/
def Method.doc (s : Surface) (m : Method) : List Code :=
  summary s!"Calls native <c>{m.native}</c>." :: m.transferred.map transferRemark
    ++ m.returns.error?.toList.map (exceptionRemark s)

/-- The code of the method `m`. -/
def Method.code (s : Surface) (m : Method) : List Code :=
  let modifiers := if m.isStatic then "public static " else "public "
  m.doc s ++ [.line (modifiers ++ s.type m.returns ++ " " ++ m.name ++ parameters m.params),
    .open_ "\x7b"] ++ m.call.returning s ++ [.close "\x7d"]

/-- The code of the property `p`. -/
def Property.code (s : Surface) (p : Property) : List Code :=
  let remark := match p.type with
    | .handle _ => lines [
      "/// <remarks>Each read returns a new wrapper owning a copy; dispose it when done.</remarks>"]
    | _ => []
  remark ++ [.line s!"public {s.type p.type} {p.name}", .open_ "\x7b", .line "get", .open_ "\x7b"]
    ++ p.read.returning s ++ [.close "\x7d", .close "\x7d"]

/-- The statements that release a value. -/
def freeBody (symbol : String) : List Code :=
  [newStatus, .line (callImported symbol ["handle"] ++ ";")]

/-! ## Classes -/

/-- The code of the class of a struct. -/
def Wrapper.code (s : Surface) (w : Wrapper) : List Code :=
  let owned := s!"new OwnedHandle(handle, Free, nameof({w.name}))"
  [summary s!"Managed wrapper for native <c>{w.native}</c>.", threadingRemarks,
    .line s!"public sealed class {w.name} : IDisposable", .open_ "\x7b",
    .line "private readonly OwnedHandle _handle;",
    .blank, .line s!"public {w.name}{parameters w.params}", .open_ "\x7b"]
    ++ w.make.code s ++ [
    .line s!"_handle = new OwnedHandle(__ret, Free, nameof({w.name}));", .close "\x7d",
    .blank, .line s!"private {w.name}(OwnedHandle handle)", .open_ "\x7b",
    .line "_handle = handle;", .close "\x7d",
    .blank, .line s!"internal static {w.name} FromHandle(ulong handle) => new {w.name}({owned});",
    .blank, .line "internal ulong RawHandle => _handle.Value;",
    .blank, .line "internal void Forget()", .open_ "\x7b",
    .line "_handle.Forget();", .line "global::System.GC.SuppressFinalize(this);", .close "\x7d"]
    ++ spaced (w.properties.map (·.code s)) ++ spaced (w.methods.map (·.code s)) ++ [
    .blank, .line "public void Dispose()", .open_ "\x7b",
    .line "_handle?.Dispose();", .line "global::System.GC.SuppressFinalize(this);", .close "\x7d",
    .blank, .line s!"~{w.name}()", .open_ "\x7b", .line "_handle?.Dispose();", .close "\x7d",
    .blank, .line "private static void Free(ulong handle)", .open_ "\x7b"]
    ++ freeBody w.freeSymbol ++ [.close "\x7d", .close "\x7d"]

/-- The code of the record of a variant. -/
def VariantRecord.code (s : Surface) (interface : String) (r : VariantRecord) : Code :=
  let fields := r.fields.map fun f => s!"{s.type f.type} {f.name}"
  .line s!"public sealed record {r.name}({commas fields}) : {interface};"

/-- The statements that read the field `f` of a variant, which is the one at `i`. -/
def RecordField.decode (s : Surface) (f : RecordField) (i : Nat) : List Code := [
  .line "__status = default;",
  .line (s!"var __r{i} = " ++ callImported f.getter ["handle"] ++ ";"),
  checkStatus,
  .line (s!"var __f{i} = " ++ (LiftForm.of f.type).expr s s!"__r{i}" ++ ";")]

/-- The case of `Decode` that makes the record of a variant from a handle. -/
def VariantRecord.decode (s : Surface) (r : VariantRecord) : List Code :=
  let values := (List.range r.fields.length).map fun i => s!"__f{i}"
  [.line s!"case {r.discriminant}:", .open_ "\x7b"]
    ++ r.fields.zipIdx.flatMap (fun (f, i) => f.decode s i)
    ++ [.line s!"return new {r.name}({commas values});", .close "\x7d"]

/-- The case of `Lower` that makes a handle from the record of a variant. -/
def VariantRecord.lower (s : Surface) (r : VariantRecord) : List Code :=
  let args := r.fields.map (·.argument)
  let binding := if r.fields.isEmpty then "" else " __v"
  [.line s!"case {r.name}{binding}:", .open_ "\x7b"] ++ lines (args.flatMap (·.setup s))
    ++ [.line ("__ret = " ++ callImported r.makeSymbol (args.map (·.expr)) ++ ";")]
    ++ (args.filterMap (·.keepAlive?)).map keepAlive ++ [.line "break;", .close "\x7d"]

/-- The method `Decode`, which makes a record from a handle and consumes the handle. -/
def EnumClass.decode (s : Surface) (e : EnumClass) : List Code :=
  [.line s!"internal static {s.qualified e.interface} Decode(ulong handle)", .open_ "\x7b",
    .line "try", .open_ "\x7b", newStatus,
    .line ("var __tag = " ++ callImported e.tagSymbol ["handle"] ++ ";"), checkStatus,
    .line "switch (__tag)", .open_ "\x7b"]
    ++ e.records.flatMap (·.decode s) ++ [
    .line "default:",
    .line ("    throw new NativeContractException($\"unknown " ++ e.native
      ++ " discriminant \x7b__tag\x7d\");"),
    .close "\x7d", .close "\x7d",
    .line "finally", .open_ "\x7b", .line "Free(handle);", .close "\x7d", .close "\x7d"]

/-- The method `Lower`, which makes a handle from a record. -/
def EnumClass.lower (s : Surface) (e : EnumClass) : List Code :=
  [.line s!"internal static ulong Lower({s.qualified e.interface} value)", .open_ "\x7b",
    newStatus, .line "ulong __ret;", .line "switch (value)", .open_ "\x7b"]
    ++ e.records.flatMap (·.lower s) ++ [
    .line "default:",
    .line ("    throw new global::System.ArgumentException($\"unknown " ++ e.interface
      ++ " implementation \x7bvalue?.GetType()\x7d\", nameof(value));"),
    .close "\x7d", checkStatus, .line "return __ret;", .close "\x7d"]

/-- The interface and the class of the enum `e`. The braces of the interface are lines. -/
def EnumClass.code (s : Surface) (e : EnumClass) : List Code :=
  [summary s!"A value of native enum <c>{e.native}</c>.",
    .line s!"public interface {e.interface}", .line "\x7b", .line "\x7d",
    .blank, summary s!"Variants of native enum <c>{e.native}</c>.", threadingRemarks,
    .line s!"public static class {e.name}", .open_ "\x7b"]
    ++ e.records.map (·.code s (s.qualified e.interface))
    ++ .blank :: e.decode s ++ .blank :: e.lower s
    ++ [.blank, .line "internal static void Free(ulong handle)", .open_ "\x7b"]
    ++ freeBody e.freeSymbol ++ .close "\x7d" :: spaced (e.methods.map (·.code s))
    ++ [.close "\x7d"]

/-- Parts of code with an empty line before each of them but the first. -/
def interspaced : List (List Code) → List Code
  | [] => []
  | code :: rest => code ++ spaced rest

/-- The code of the class of the free functions. -/
def Facade.code (s : Surface) (libraryName : String) (f : Facade) : List Code :=
  [summary s!"Free functions of native library <c>{libraryName}</c>.", threadingRemarks,
    .line s!"public static class {f.name}", .open_ "\x7b"]
    ++ interspaced (f.methods.map (·.code s)) ++ [.close "\x7d"]

/-! ## Files -/

/-- The heading of a file. The name of the library stands in a comment. -/
def heading (libraryName managedNamespace : String) : List Code :=
  lines ["// <auto-generated>",
    s!"// Generated by crossbind for native library `{libraryName}`. Do not edit.",
    "// </auto-generated>", "#nullable enable"]
    ++ .blank :: lines ["using System;", "using System.Buffers.Binary;",
      "using System.Runtime.InteropServices;", "using System.Text;", "using System.Threading;"]
    ++ [.blank, .line s!"namespace {managedNamespace};", .blank]

/-- The struct of an option. -/
def optionCode : FlatType → List Code
  | .option inner => [
    .blank, .line "[StructLayout(LayoutKind.Sequential)]",
    .line s!"internal struct {(FlatType.option inner).managed}", .open_ "\x7b",
    .line "public byte Present;", .line s!"public {inner.managed} Value;", .close "\x7d"]
  | _ => []

/-- A parameter of an imported function. -/
def importParam (p : FlatParam) : String := s!"{p.type.managed} {importName p.name}"

/-- An imported function. -/
def importCode (entry : EntryPoint) : List Code :=
  let params := entry.params.map importParam ++ ["ref CallStatus __status"]
  [.blank,
    .line ("[DllImport(Library, EntryPoint = " ++ Text.quoted entry.symbol
      ++ ", CallingConvention = CallingConvention.Cdecl)]"),
    .line ("internal static extern " ++ entry.ret.managed ++ " " ++ Naming.managedIdent entry.symbol
      ++ "(" ++ commas params ++ ");")]

/-- The imported functions. -/
def importsCode (libraryName : String) (entryPoints : List EntryPoint) : List Code :=
  [.line "internal static class NativeMethods", .open_ "\x7b",
    .line ("private const string Library = " ++ Text.quoted libraryName ++ ";")]
    ++ entryPoints.flatMap importCode ++ [.close "\x7d"]

/-- The code of the managed file `f`. -/
def File.code (s : Surface) (f : File) : List Code :=
  heading f.libraryName f.managedNamespace
    ++ .lines (supportText (Naming.managedIdent f.bufferFree)) :: f.options.flatMap optionCode
    ++ spaced (importsCode f.libraryName f.entryPoints :: f.wrappers.map (·.code s)
      ++ f.enums.map (·.code s) ++ [f.facade.code s f.libraryName])

end Boundary.Managed

namespace Boundary

/-- The managed file of the schema `s` as text. -/
def Schema.managedSource (s : Schema) (c : Config) : String :=
  Source.Code.render ((s.managedFile c).code (s.surface c))

end Boundary
