/-!
# Support code in managed files

Every managed file brings the types along that its wrappers need. They are one text, which is the
same in all files but for the name of the function that releases bytes.

* `SupportType`: a type with its name and its lines.
* `supportTypes`: the types, in the order in which they are written.
* `supportText`: the text that they make up.
-/

namespace Boundary.Managed

/-- The lines `texts` one level deeper. An empty line is not indented. -/
def indented (texts : List String) : List String :=
  texts.map fun text => if text.isEmpty then "" else "    " ++ text

/-- The lines of the declaration or statement `header` with `body` between braces. -/
def enclosed (header : String) (body : List String) : List String :=
  header :: "\x7b" :: indented body ++ ["\x7d"]

/-- The lines of a `switch` expression with the given `arms`. -/
def switched (header : String) (arms : List String) : List String :=
  header :: "\x7b" :: indented arms ++ ["\x7d;"]

/-- A type with its name and its lines. -/
structure SupportType where
  name : String
  lines : List String

/-! ## The types -/

/-- The struct `RustBuffer`: bytes that native code gives away. -/
def nativeBuffer : List String :=
  ["[StructLayout(LayoutKind.Sequential)]"] ++
  enclosed "internal struct RustBuffer" (
    ["public IntPtr Data;", "public UIntPtr Len;", "public UIntPtr Capacity;", ""] ++
    enclosed "internal byte[] ToArray()" (
      ["var len = checked((int)Len.ToUInt64());", "var bytes = new byte[len];"] ++
      enclosed "if (len > 0)" (
        ["Marshal.Copy(Data, bytes, 0, len);"]) ++
      ["return bytes;"]))

/-- The struct `FfiStr`: a view of text that is lent to native code. -/
def ffiStr : List String :=
  ["[StructLayout(LayoutKind.Sequential)]"] ++
  enclosed "internal struct FfiStr" (
    ["public IntPtr Data;", "public UIntPtr Len;"])

/-- The struct `CallStatus`: the status of a call. -/
def callStatus : List String :=
  ["[StructLayout(LayoutKind.Sequential)]"] ++
  enclosed "internal struct CallStatus" (
    ["public sbyte Code;", "public RustBuffer ErrorBuf;"])

/-- The class `Utf8Arg`: text that is copied for the duration of a call. -/
def utf8Arg : List String :=
  [
    ("/// <summary>A managed string copied to unmanaged UTF-8 for the duration of one " ++
        "call.</summary>")] ++
  enclosed "internal sealed class Utf8Arg : IDisposable" (
    ["private IntPtr _data;", "private readonly int _len;", ""] ++
    enclosed "internal Utf8Arg(string value)" (
      [
        "_data = Marshal.StringToCoTaskMemUTF8(value);",
        "_len = Encoding.UTF8.GetByteCount(value);"]) ++
    [
      "",
      "internal FfiStr View => new FfiStr \x7b Data = _data, Len = (UIntPtr)(uint)_len \x7d;",
      ""] ++
    enclosed "public void Dispose()" (
      ["var data = Interlocked.Exchange(ref _data, IntPtr.Zero);"] ++
      enclosed "if (data != IntPtr.Zero)" (
        ["Marshal.FreeCoTaskMem(data);"])))

/-- The class `OwnedHandle`: a handle that is released once. -/
def ownedHandle : List String :=
  [
    "/// <summary>A native handle released exactly once, by whoever gets there first.</summary>"] ++
  enclosed "internal sealed class OwnedHandle : IDisposable" (
    [
      "private ulong _value;",
      "private readonly Action<ulong> _free;",
      "private readonly string _owner;",
      ""] ++
    enclosed "internal OwnedHandle(ulong value, Action<ulong> free, string owner)" (
      ["_value = value;", "_free = free;", "_owner = owner;"]) ++
    [""] ++
    enclosed "internal ulong Value" (
      enclosed "get" (
        ["var value = Interlocked.Read(ref _value);"] ++
        enclosed "if (value == 0)" (
          ["throw new ObjectDisposedException(_owner);"]) ++
        ["return value;"])) ++
    [
      "",
      ("/// <summary>Drop the handle without freeing it; native code now owns the " ++
          "value.</summary>"),
      "internal void Forget() => Interlocked.Exchange(ref _value, 0UL);",
      ""] ++
    enclosed "public void Dispose()" (
      ["var value = Interlocked.Exchange(ref _value, 0UL);"] ++
      enclosed "if (value != 0)" (
        ["_free(value);"])))

/-- The class `ByteReader`, which reads serialized errors. -/
def byteReader : List String :=
  enclosed "internal sealed class ByteReader" (
    ["private readonly byte[] _bytes;", "private int _pos;", ""] ++
    enclosed "internal ByteReader(byte[] bytes)" (
      ["_bytes = bytes;"]) ++
    [""] ++
    enclosed "private ReadOnlySpan<byte> Take(int count)" (
      enclosed "if (count < 0 || _bytes.Length - _pos < count)" (
        [
          ("throw new NativeContractException($\"native payload truncated: needed " ++
              "\x7bcount\x7d bytes, \x7b_bytes.Length - _pos\x7d left\");")]) ++
      [
        "var span = new ReadOnlySpan<byte>(_bytes, _pos, count);",
        "_pos += count;",
        "return span;"]) ++
    [""] ++
    switched "internal bool ReadBool() => Take(1)[0] switch" (
      [
        "0 => false,",
        "1 => true,",
        "var other => throw new NativeContractException($\"invalid bool byte \x7bother\x7d\"),"]) ++
    [""] ++
    switched "internal bool ReadPresence() => Take(1)[0] switch" (
      [
        "0 => false,",
        "1 => true,",
        ("var other => throw new NativeContractException($\"invalid presence tag " ++
            "\x7bother\x7d\"),")]) ++
    [
      "",
      "internal byte ReadU8() => Take(1)[0];",
      "internal sbyte ReadI8() => unchecked((sbyte)Take(1)[0]);",
      "internal ushort ReadU16() => BinaryPrimitives.ReadUInt16LittleEndian(Take(2));",
      "internal short ReadI16() => BinaryPrimitives.ReadInt16LittleEndian(Take(2));",
      "internal uint ReadU32() => BinaryPrimitives.ReadUInt32LittleEndian(Take(4));",
      "internal int ReadI32() => BinaryPrimitives.ReadInt32LittleEndian(Take(4));",
      "internal ulong ReadU64() => BinaryPrimitives.ReadUInt64LittleEndian(Take(8));",
      "internal long ReadI64() => BinaryPrimitives.ReadInt64LittleEndian(Take(8));",
      "internal float ReadF32() => BinaryPrimitives.ReadSingleLittleEndian(Take(4));",
      "internal double ReadF64() => BinaryPrimitives.ReadDoubleLittleEndian(Take(8));",
      "internal ulong ReadHandle() => ReadU64();",
      ""] ++
    enclosed "internal string ReadString()" (
      ["var len = checked((int)ReadU32());", "return Encoding.UTF8.GetString(Take(len));"]))

/-- The base of all exceptions. -/
def nativeException : List String :=
  ["/// <summary>Base of every failure raised by a native call.</summary>"] ++
  enclosed "public abstract class NativeException : Exception" (
    enclosed "protected NativeException(string message) : base(message)" [] ++
    [
      "",
      "/// <summary>Always true: the failure originated on the native side.</summary>",
      "public bool IsFromNative => true;"])

/-- The exception for a call that was aborted. -/
def panicException : List String :=
  ["/// <summary>Native code panicked; the panic was trapped at the boundary.</summary>"] ++
  enclosed "public sealed class NativePanicException : NativeException" (
    enclosed "internal NativePanicException(string message) : base(message)" [])

/-- The exception for a call that breaks the contract of the boundary. -/
def contractException : List String :=
  [
    ("/// <summary>The call broke the boundary contract (stale handle, invalid UTF-8, wrong " ++
        "variant).</summary>")] ++
  enclosed "public sealed class NativeContractException : NativeException" (
    enclosed "internal NativeContractException(string message) : base(message)" [])

/-- The exception for an error without a value. -/
def errorException : List String :=
  ["/// <summary>The native function returned an error.</summary>"] ++
  enclosed "public class NativeErrorException : NativeException" (
    enclosed "internal NativeErrorException(string message) : base(message)" [])

/-- The exception for an error with its value. -/
def typedErrorException : List String :=
  [
    ("/// <summary>The native function returned an error value of type <typeparamref " ++
        "name=\"TError\"/>.</summary>")] ++
  enclosed "public sealed class NativeErrorException<TError> : NativeErrorException" (
    enclosed ("internal NativeErrorException(TError error) : " ++
        "base($\"native call failed: \x7berror\x7d\")") (
      ["Error = error;"]) ++
    ["", "public TError Error \x7b get; \x7d"])

/-- The class `Ffi`: the check of a status, and the release of bytes by `bufferFree`. -/
def ffi (bufferFree : String) : List String :=
  enclosed "internal static class Ffi" (
    [
      "internal const sbyte Success = 0;",
      "internal const sbyte Error = 1;",
      "internal const sbyte Panic = 2;",
      "internal const sbyte Contract = 3;",
      ""] ++
    enclosed "internal static void Check(ref CallStatus status)" (
      ["var code = status.Code;"] ++
      enclosed "if (code == Success)" (
        ["return;"]) ++
      ["var message = Encoding.UTF8.GetString(TakeErrorBuf(ref status));"] ++
      enclosed "switch (code)" (
        [
          "case Error:",
          "    throw new NativeErrorException(\"native call failed\");",
          "case Panic:",
          "    throw new NativePanicException(message);",
          "case Contract:",
          "    throw new NativeContractException(message);",
          "default:",
          "    throw new NativeContractException($\"unknown call status \x7bcode\x7d\");"])) ++
    [""] ++
    enclosed ("internal static void Check<TError>(ref CallStatus status, " ++
        "Func<ByteReader, TError> readError)") (
      enclosed "if (status.Code == Error)" (
        [
          "var reader = new ByteReader(TakeErrorBuf(ref status));",
          "throw new NativeErrorException<TError>(readError(reader));"]) ++
      ["Check(ref status);"]) ++
    [""] ++
    enclosed "internal static byte[] TakeErrorBuf(ref CallStatus status)" (
      [
        "var buffer = status.ErrorBuf;",
        "status.ErrorBuf = default;",
        "return Consume(buffer);"]) ++
    ["", "/// <summary>Copy a native buffer out and release it.</summary>"] ++
    enclosed "internal static byte[] Consume(RustBuffer buffer)" (
      enclosed "if (buffer.Data == IntPtr.Zero)" (
        ["return Array.Empty<byte>();"]) ++
      enclosed "try" (
        ["return buffer.ToArray();"]) ++
      enclosed "finally" (
        [
          "var status = default(CallStatus);",
          "NativeMethods." ++ bufferFree ++ "(buffer, ref status);"])) ++
    [
      "",
      ("internal static string LiftString(RustBuffer buffer) => " ++
          "Encoding.UTF8.GetString(Consume(buffer));")])

/-- The types, where `bufferFree` is the imported function that releases bytes. -/
def supportTypes (bufferFree : String) : List SupportType := [
  ⟨"RustBuffer", nativeBuffer⟩, ⟨"FfiStr", ffiStr⟩, ⟨"CallStatus", callStatus⟩,
  ⟨"Utf8Arg", utf8Arg⟩, ⟨"OwnedHandle", ownedHandle⟩, ⟨"ByteReader", byteReader⟩,
  ⟨"NativeException", nativeException⟩, ⟨"NativePanicException", panicException⟩,
  ⟨"NativeContractException", contractException⟩, ⟨"NativeErrorException", errorException⟩,
  ⟨"NativeErrorException", typedErrorException⟩, ⟨"Ffi", ffi bufferFree⟩]

/-- Texts of which each but the first has an empty line before it. -/
def separated : List (List String) → List String
  | [] => []
  | [texts] => texts
  | texts :: rest => texts ++ "" :: separated rest

/-- The lines of all types of support code. -/
def supportLines (bufferFree : String) : List String :=
  separated ((supportTypes bufferFree).map (·.lines))

/-- The text of all types of support code. -/
def supportText (bufferFree : String) : String := "\n".intercalate (supportLines bufferFree)

end Boundary.Managed
