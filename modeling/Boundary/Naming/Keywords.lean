/-!
# Reserved words

* `managedKeywords`: the words that C# reserves everywhere.
* `nativeKeywords`: the words that Rust reserves, for now or for later.
* `nativeNonRaw`: the words that cannot be made identifiers by the raw mark either.
-/

namespace Boundary.Naming

/-- The words that C# reserves everywhere. -/
def managedKeywords : List String := [
  "abstract", "as", "base", "bool", "break", "byte", "case", "catch", "char", "checked",
  "class", "const", "continue", "decimal", "default", "delegate", "do", "double", "else",
  "enum", "event", "explicit", "extern", "false", "finally", "fixed", "float", "for",
  "foreach", "goto", "if", "implicit", "in", "int", "interface", "internal", "is", "lock",
  "long", "namespace", "new", "null", "object", "operator", "out", "override", "params",
  "private", "protected", "public", "readonly", "ref", "return", "sbyte", "sealed", "short",
  "sizeof", "stackalloc", "static", "string", "struct", "switch", "this", "throw", "true",
  "try", "typeof", "uint", "ulong", "unchecked", "unsafe", "ushort", "using", "virtual",
  "void", "volatile", "while"]

/-- The words that Rust reserves, for now or for later. -/
def nativeKeywords : List String := [
  "as", "async", "await", "break", "const", "continue", "dyn", "else", "enum", "extern",
  "false", "fn", "for", "if", "impl", "in", "let", "loop", "match", "mod", "move", "mut",
  "pub", "ref", "return", "static", "struct", "trait", "true", "type", "unsafe", "use",
  "where", "while", "gen", "abstract", "become", "box", "do", "final", "macro", "override",
  "priv", "typeof", "unsized", "virtual", "yield", "try"]

/-- The words that the raw mark does not turn into identifiers. -/
def nativeNonRaw : List String := ["self", "Self", "super", "crate"]

end Boundary.Naming
