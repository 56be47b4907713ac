import Boundary.Config
import Boundary.Native.Body
import Boundary.Source.Writer
import Boundary.Text.Case

/-!
# Native source

* `Body.code`: the statements of a body.
* `entryCode`: an entry point with its signature.
* `Schema.nativeSource`: the whole native file: its heading, a handle table for each exported
  type, checks of the layout of everything that crosses by value, and the entry points.
-/

namespace Boundary

open Source

namespace Native

/-- The name of the support library in native source. -/
def support : String := "__rt"

/-! ## Statements -/

/-- The statement of a `Step`. -/
def Step.line (names : Spelling) : Step → Code
  | .receive .lend id => .line s!"let __this = {names.table id}.get({handleName})?;"
  | .receive .take id => .line s!"let __this = {names.table id}.take({handleName})?;"
  | .lift _ name l =>
    let ident := Naming.nativeIdent name
    .line s!"let {ident} = {l.expr names ident 0};"

/-- The statements that serialize the error `value`. -/
def ErrorWrite.code (names : Spelling) (value : String) (depth : Nat) : ErrorWrite → List Code
  | .nothing => []
  | .primitive p => [.line s!"__writer.write_{p.name}({value});"]
  | .text => [.line s!"__writer.write_str(&{value})?;"]
  | .insert id => [.line s!"__writer.write_handle({names.table id}.insert({value}));"]
  | .option inner =>
    let bound := boundName depth
    [.open_ s!"match {value} \x7b", .open_ s!"Some({bound}) => \x7b",
      .line "__writer.write_presence(true);"] ++ inner.code names bound (depth + 1)
      ++ [.close "\x7d", .line "None => __writer.write_presence(false),", .close "\x7d"]

/-- A list of names between commas. -/
def commas (names : List String) : String := ", ".intercalate names

/-- The path of the variant `v`. -/
def VariantRef.path (names : Spelling) (v : VariantRef) : String :=
  s!"{names.path v.enum}::{Naming.nativeIdent v.name}"

/-- The value that is made of lifted arguments. -/
def Construction.expr (names : Spelling) : Construction → String
  | .struct name fields =>
    let inits := fields.map Naming.nativeIdent
    if inits.isEmpty then s!"{names.path name} \x7b\x7d"
    else s!"{names.path name} \x7b {commas inits} \x7d"
  | .variant v fields =>
    let inits := fields.map Naming.nativeIdent
    match v.shape with
    | .unit => v.path names
    | .tuple => s!"{v.path names}({commas inits})"
    | .struct => s!"{v.path names} \x7b {commas inits} \x7d"

/-- The pattern that every value of the variant `v` matches. -/
def VariantRef.pattern (names : Spelling) (v : VariantRef) : String :=
  match v.shape with
  | .unit => v.path names
  | .tuple => s!"{v.path names}(..)"
  | .struct => s!"{v.path names} \x7b .. \x7d"

/-- The pattern that binds `field` of the variant `v`. -/
def VariantRef.binding (names : Spelling) (v : VariantRef) (field : FieldName) : String :=
  match v.shape, field with
  | .tuple, .index i =>
    let skipped := String.join (List.replicate i "_, ")
    s!"{v.path names}({skipped}__field, ..)"
  | .struct, .named name => s!"{v.path names} \x7b {Naming.nativeIdent name}: __field, .. \x7d"
  | _, _ => v.pattern names

/-- The expression of the call `c`. -/
def Call.expr (names : Spelling) (c : Call) : String :=
  let callee := match c.owner with
    | none => names.path c.name
    | some owner => s!"{names.path owner}::{Naming.nativeIdent c.name}"
  let receiver := match c.receiver with
    | none => []
    | some .lend => ["&__this"]
    | some .take => ["__this"]
  let args := c.args.map fun (name, byReference) =>
    if byReference then "&" ++ Naming.nativeIdent name else Naming.nativeIdent name
  s!"{callee}({commas (receiver ++ args)})"

/-- The statement that returns the value of `variable_`, lowered by `lowering`. -/
def lowered (names : Spelling) (variable_ : String) (lowering : Lowering) : Code :=
  .line s!"Ok({lowering.expr names variable_ 0})"

/-- The statements that carry out `call` and answer. -/
def Answer.code (names : Spelling) (call : String) : Answer → List Code
  | .nothing => [.line s!"{call};", .line "Ok(())"]
  | .value lowering => [.line s!"let __result = {call};", lowered names "__result" lowering]
  | .result ok err =>
    let failure : List Code := match err with
      | none => [
        .line "let () = __error;", .line "return Err(__rt::CallError::native(Vec::new()));"]
      | some write =>
        .line "let mut __writer = __rt::WireWriter::new();" :: write.code names "__error" 0
          ++ [.line "return Err(__rt::CallError::native(__writer.finish()));"]
    let success : List Code := match ok with
      | none => [.line "let () = __result;", .line "Ok(())"]
      | some lowering => [lowered names "__result" lowering]
    [.open_ s!"let __result = match {call} \x7b", .line "Ok(__value) => __value,",
      .open_ "Err(__error) => \x7b"] ++ failure ++ [.close "\x7d", .close "\x7d;"] ++ success

/-- The statements of a `Body`. -/
def Body.code (names : Spelling) : Body → List Code
  | .freeBuffer => [.line "unsafe \x7b buf.destroy() \x7d;", .line "Ok(())"]
  | .release id => [.line s!"{names.table id}.remove({handleName});", .line "Ok(())"]
  | .construct id steps value =>
    steps.map (·.line names) ++ [.line s!"Ok({names.table id}.insert({value.expr names}))"]
  | .field id _ name isNumber lowering =>
    let read := s!"__this.{Naming.nativeIdent name}"
    let value := if isNumber then read else s!"{read}.clone()"
    [(Step.receive .lend id).line names, .line s!"let __field = {value};",
      lowered names "__field" lowering]
  | .tag id arms =>
    [(Step.receive .lend id).line names, .open_ "Ok(match &*__this \x7b"]
      ++ arms.map (fun (v, n) => .line s!"{v.pattern names} => {n},") ++ [.close "\x7d)"]
  | .variantField id v _ name isNumber lowering =>
    let value := if isNumber then "*__field" else "__field.clone()"
    let expected := s!"{Text.quoted v.enum}, {Text.quoted v.name}"
    [(Step.receive .lend id).line names, .open_ "match &*__this \x7b",
      .open_ s!"{v.binding names name} => \x7b",
      .line s!"let __value = {value};", lowered names "__value" lowering, .close "\x7d",
      .line "#[allow(unreachable_patterns)]",
      .line s!"_ => Err(__rt::CallError::variant_mismatch({expected})),", .close "\x7d"]
  | .call steps c answer => steps.map (·.line names) ++ answer.code names (c.expr names)

/-! ## Items -/

/-- The parameter for the status of a call. -/
def statusParam : String := s!"__out_status: &mut {support}::CallStatus"

/-- A parameter of an entry point. -/
def flatParam (p : FlatParam) : String :=
  s!"{Naming.nativeIdent p.name}: {p.type.native support}"

/-- The signature of `entry`. -/
def signature (entry : EntryPoint) : String :=
  let ret := match entry.ret with
    | .void => ""
    | t => " -> " ++ t.native support
  let params := commas (entry.params.map flatParam ++ [statusParam])
  "pub extern \"C\" fn " ++ entry.symbol ++ "(" ++ params ++ ")" ++ ret ++ " \x7b"

/-- The code of `entry`, whose statements are those of `body`. -/
def entryCode (names : Spelling) (entry : EntryPoint) (body : Option Body) : List Code :=
  [.blank, .line "#[unsafe(no_mangle)]", .open_ (signature entry),
    .open_ "__rt::rust_call(__out_status, move || \x7b"] ++ (body.map (·.code names)).getD []
    ++ [.close "\x7d)", .close "\x7d"]

/-- The heading of the file. The name of the library stands in a comment. -/
def heading (c : Config) : List Code := [
  .lines ("// @generated by crossbind. Do not edit.\n//\n// Native shims for `"
    ++ c.libraryName ++ "`. Exported types must be `Clone + Send + Sync`.\n"
    ++ "// Include this file in the crate that defines them."),
  .blank, .line s!"use {c.runtimePath} as {support};", .blank]

/-- The declaration of the handle table of the type `id`. -/
def tableCode (names : Spelling) (id : TypeId) (name : String) : Code :=
  .line s!"static {names.table id}: __rt::HandleMap<{names.path name}> = __rt::HandleMap::new();"

/-- The check that something has the given number of bytes or alignment. -/
def layoutCheck (measure type : String) (expected : Nat) : List Code := [
  .line "#[cfg(target_pointer_width = \"64\")]",
  .line s!"const _: () = assert!(::core::mem::{measure}::<{type}>() == {expected});"]

/-- The checks of the layout of the flat type `t`. -/
def layoutChecks (t : FlatType) : List Code :=
  layoutCheck "size_of" (t.native support) t.layout.size
    ++ layoutCheck "align_of" (t.native support) t.layout.align

end Native

open Native

/-- The name of the handle table of the type `typeName`. -/
def tableName (typeName : String) : String :=
  String.ofList (Text.upperWord (Naming.snake typeName).toList) ++ "_HANDLES"

/-- How the native source of the schema `s` refers to the things it uses. -/
def Schema.spelling (s : Schema) (c : Config) : Spelling :=
  ⟨fun id => tableName (s.typeName id), fun name => s!"{c.nativePath}::{Naming.nativeIdent name}"⟩

/-- The exported types of `s` with their names, the structs first. -/
def Schema.typeNames (s : Schema) : List (TypeId × String) :=
  s.structs.map (fun d => (d.id, d.name)) ++ s.enums.map fun e => (e.id, e.name)

/-- The calls that write the native file of the schema `s`. -/
def Schema.nativeCode (s : Schema) (c : Config) : List Code :=
  let names := s.spelling c
  let entryPoints := s.entryPoints c.symbols
  heading c ++ s.typeNames.map (fun (id, name) => tableCode names id name) ++ [.blank]
    ++ (FlatType.strView :: .buffer :: optionTypes entryPoints).flatMap layoutChecks
    ++ entryPoints.flatMap fun entry => entryCode names entry (s.body? entry.purpose)

/-- The native file of the schema `s` as text. -/
def Schema.nativeSource (s : Schema) (c : Config) : String := Code.render (s.nativeCode c)

end Boundary
