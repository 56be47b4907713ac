import Boundary.Schema.Build

/-!
# The declarations of the small library

* `declarations`: what the library declares.
* `schema`: its schema.
* `build_declarations`: this is what is built from the declarations.
-/

namespace Boundary.Demo

/-- A place in the only file of the library. -/
def at_ (line : UInt32) : Location := ⟨some "src/lib.rs", line, 1⟩

/-- A type without arguments. -/
def named (name : String) : TypeExpr := .path name []

/-- The type of what may be missing. -/
def optional (t : TypeExpr) : TypeExpr := .path "Option" [t]

/-- The type of what may fail. -/
def fallible (ok err : TypeExpr) : TypeExpr := .path "Result" [ok, err]

/-- A reference. -/
def lent (t : TypeExpr) : TypeExpr := .ref false t

/-- The declaration of the struct. -/
def personDecl : StructDecl :=
  ⟨"Person", [⟨"name", named "String"⟩, ⟨"age", named "u32"⟩], at_ 8⟩

/-- The declaration of the enum. -/
def messageDecl : EnumDecl :=
  ⟨"Message", [⟨"NoData", .unit⟩, ⟨"Toggle", .tuple [named "bool"]⟩,
    ⟨"KeyValue", .struct [⟨"key", named "String"⟩, ⟨"value", named "String"⟩]⟩], at_ 14⟩

/-- The declaration of a function that is called on nothing. -/
def functionDecl (name : String) (params : List ParamDecl) (returns : TypeExpr) (line : UInt32) :
    Declaration :=
  .function ⟨name, none, params, returns, at_ line⟩

/-- The declaration of a function that is called on a person. -/
def methodDecl (name : String) (mode : ReceiverMode) (params : List ParamDecl)
    (returns : TypeExpr) (line : UInt32) : Declaration :=
  .function ⟨name, some ⟨"Person", mode⟩, params, returns, at_ line⟩

/-- What the library declares. -/
def declarations : List Declaration := [
  .struct personDecl,
  .enum messageDecl,
  functionDecl "greet" [⟨"person", lent (named "Person"), false⟩] (named "String") 21,
  functionDecl "parse_age" [⟨"text", lent (named "str"), false⟩]
    (fallible (named "u32") (named "String")) 25,
  functionDecl "find_nickname" [⟨"name", lent (named "str"), false⟩]
    (optional (named "String")) 29,
  functionDecl "describe" [⟨"message", lent (named "Message"), false⟩] (named "String") 37,
  functionDecl "lucky_number" [⟨"seed", optional (named "u32"), false⟩] (optional (named "u32")) 45,
  functionDecl "adopt" [⟨"person", named "Person", true⟩] (named "String") 49,
  functionDecl "explode" [] .unit 53,
  methodDecl "rename" .value [⟨"new_name", lent (named "str"), false⟩] (named "Person") 58,
  methodDecl "is_adult" .ref [] (named "bool") 63,
  functionDecl "invert" [⟨"flag", optional (named "bool"), false⟩] (optional (named "bool")) 67,
  functionDecl "elder"
    [⟨"person", lent (named "Person"), false⟩, ⟨"other", optional (named "Person"), false⟩]
    (optional (named "Person")) 71,
  functionDecl "flip" [⟨"message", named "Message", false⟩] (named "Message") 79,
  functionDecl "require_toggle" [⟨"message", lent (named "Message"), false⟩]
    (fallible .unit (named "Message")) 86]

/-- What the symbols of the library start with. -/
def symbols : String := "demo"

/-- The schema of the library. -/
def schema : Schema := (Surroundings.ofDeclarations defaultFacade declarations).schema

theorem build_declarations : Schema.build defaultFacade declarations = .ok schema :=
  Schema.build_eq_ok_iff.mpr ⟨by decide +kernel, rfl⟩

/-- The entry point of that symbol. -/
def entryPoint? (symbol : String) : Option EntryPoint :=
  (schema.entryPoints symbols).find? (·.symbol = symbols ++ "_" ++ symbol)

end Boundary.Demo
