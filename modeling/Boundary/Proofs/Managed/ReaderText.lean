import Boundary.Managed.Source
import Boundary.Proofs.Managed.SupportText
import Boundary.Proofs.Source.Reading
import Boundary.Proofs.Text.Arguments

/-!
# The class that reads serialized errors, as its text says

A managed file brings the class along that takes serialized errors apart. What the methods of the
class do is read off the lines of the file.

* `Reader.Block`, `Reader.blocks?`: lines between braces, as a tree.
* `Reader.Expr`, `Reader.Statement`, `Reader.Method`: what the lines of a method say.
* `Reader.exprOf?`, `Reader.statementsOf?`, `Reader.methodsOf?`: the lines, taken apart.
* `Reader.classLines`: the lines of the class among those of a file.
* `readerMethods?`: the methods of the class of a file; `readerMethods?_code`: which they are.
-/

namespace Boundary.Managed

open Source Text

namespace Reader

/-! ## Lines between braces -/

/-- A line, or a line with lines between braces behind it. Lines stand without indentation. -/
inductive Block
  | line (text : List Char)
  | block (header : List Char) (body : List Block)

/-- An expression of the methods, as `expr?` reads it. -/
inductive Expr
  | number (n : Nat)
  | flag (b : Bool)
  /-- The variable or the field `x`. -/
  | name (x : String)
  /-- `x.Length` -/
  | length (x : String)
  /-- `e[place]` -/
  | element (e : Expr) (place : Nat)
  | less (a b : Expr)
  | minus (a b : Expr)
  | or (a b : Expr)
  /-- `new ReadOnlySpan<byte>(x, start, count)` -/
  | span (x : String) (start count : Expr)
  /-- `checked((type)e)` -/
  | checked (type : String) (e : Expr)
  /-- `unchecked((type)e)` -/
  | unchecked (type : String) (e : Expr)
  /-- `f()` -/
  | call (f : String)
  /-- `f(e)` -/
  | apply (f : String) (e : Expr)
deriving Repr, DecidableEq

/-- What stands before `separator`, where it first occurs, and what behind it. -/
def cut? (separator : List Char) : List Char → Option (List Char × List Char)
  | [] => none
  | c :: rest =>
    match (c :: rest).dropPrefix? separator with
    | some back => some ([], back)
    | none => (cut? separator rest).map fun (front, back) => (c :: front, back)

/-- The characters of `cs` before `last`, which they have to end with. -/
def endsWith? (last : Char) (cs : List Char) : Option (List Char) :=
  if cs.getLast? = some last then some cs.dropLast else none

/-- A number in decimal digits. -/
def numberOf? (cs : List Char) : Option Nat :=
  if cs ≠ [] ∧ cs.all Char.isDigit then some (Nat.ofDigitChars 10 cs 0) else none

/-- An expression without brackets and operators: a number or a name. -/
def atomOf? (cs : List Char) : Option Expr :=
  if cs = [] ∨ cs.any (· = ' ') then none
  else if cs = ['t', 'r', 'u', 'e'] then some (.flag true)
  else if cs = ['f', 'a', 'l', 's', 'e'] then some (.flag false)
  else
    match numberOf? cs with
    | some n => some (.number n)
    | none =>
      match cut? ['.', 'L', 'e', 'n', 'g', 't', 'h'] cs with
      | some (x, []) => some (.length (String.ofList x))
      | _ => some (.name (String.ofList cs))

/-- The type and the operand of a conversion, `(type)e`. -/
def conversion? (cs : List Char) : Option (String × List Char) := do
  let (type, e) ← cut? [')'] (← cs.dropPrefix? ['('])
  some (String.ofList type, e)

/-- `e[place]` for what stands behind `e`. -/
def elementOf? (e : Expr) : List Char → Option Expr
  | [] => some e
  | c :: rest => do
    if c = '[' then
      let place ← numberOf? (← endsWith? ']' rest)
      some (.element e place)
    else none

/-- An expression of at most `levels` levels. -/
def exprOf? : (levels : Nat) → List Char → Option Expr
  | 0, _ => none
  | levels + 1, cs =>
    if '(' ∈ cs then do
      let (args, back) := argumentsFrom 0 [] ((cs.dropWhile (· ≠ '(')).drop 1)
      let f := cs.takeWhile (· ≠ '(')
      match args.map (·.dropWhile (· = ' ')) with
      | [[]] => elementOf? (.call (String.ofList f)) back
      | [arg] =>
        if f = ['c', 'h', 'e', 'c', 'k', 'e', 'd'] then
          let (type, e) ← conversion? arg
          elementOf? (.checked type (← exprOf? levels e)) back
        else if f = ['u', 'n', 'c', 'h', 'e', 'c', 'k', 'e', 'd'] then
          let (type, e) ← conversion? arg
          elementOf? (.unchecked type (← exprOf? levels e)) back
        else elementOf? (.apply (String.ofList f) (← exprOf? levels arg)) back
      | [x, start, count] =>
        if f = ['n', 'e', 'w', ' ', 'R', 'e', 'a', 'd', 'O', 'n', 'l', 'y', 'S', 'p', 'a', 'n',
            '<', 'b', 'y', 't', 'e', '>'] then
          elementOf? (.span (String.ofList x) (← exprOf? levels start) (← exprOf? levels count))
            back
        else none
      | _ => none
    else
      match cut? [' ', '|', '|', ' '] cs with
      | some (a, b) => do some (.or (← exprOf? levels a) (← exprOf? levels b))
      | none =>
        match cut? [' ', '<', ' '] cs with
        | some (a, b) => do some (.less (← exprOf? levels a) (← exprOf? levels b))
        | none =>
          match cut? [' ', '-', ' '] cs with
          | some (a, b) => do some (.minus (← exprOf? levels a) (← exprOf? levels b))
          | none => atomOf? cs

/-- The expression that the characters `cs` make up. -/
def expr? (cs : List Char) : Option Expr := exprOf? (cs.length + 1) cs

/-! ## Statements -/

/-- A statement of the methods, as `statementOf?` reads it. -/
inductive Statement
  /-- An exception is thrown under `condition`. -/
  | guard (condition : Expr)
  | bind (x : String) (value : Expr)
  | assign (field : String) (value : Expr)
  /-- `field += value` -/
  | add (field : String) (value : Expr)
  | return_ (value : Expr)
  /-- The value of the arm for `byte` is returned; an exception is thrown if no arm is for it. -/
  | choose (byte : Expr) (arms : List (Nat × Expr))
deriving Repr, DecidableEq

/-- Whether the expression or the statement `cs` throws an exception. -/
def throws (cs : List Char) : Bool :=
  (cs.dropPrefix? ['t', 'h', 'r', 'o', 'w', ' ', 'n', 'e', 'w', ' ']).isSome

/-- The statement that the line `text` consists of. -/
def lineOf? (text : List Char) : Option Statement := do
  let text ← endsWith? ';' text
  match text.dropPrefix? ['r', 'e', 't', 'u', 'r', 'n', ' '] with
  | some value => some (.return_ (← expr? value))
  | none =>
    match text.dropPrefix? ['v', 'a', 'r', ' '] with
    | some binding =>
      let (x, value) ← cut? [' ', '=', ' '] binding
      some (.bind (String.ofList x) (← expr? value))
    | none =>
      match cut? [' ', '+', '=', ' '] text with
      | some (field, value) => some (.add (String.ofList field) (← expr? value))
      | none =>
        let (field, value) ← cut? [' ', '=', ' '] text
        some (.assign (String.ofList field) (← expr? value))

/-- The statement that a block consists of. -/
def statementOf? : Block → Option Statement
  | .line text => lineOf? text
  | .block header [.line thrown] => do
    let condition ← endsWith? ')' (← header.dropPrefix? ['i', 'f', ' ', '('])
    if throws thrown then some (.guard (← expr? condition)) else none
  | _ => none

/-- A method or the constructor, which has no type. -/
structure Method where
  type : String
  name : String
  /-- Its parameter; empty if it has none. -/
  param : String
  body : List Statement
deriving Repr, DecidableEq

/-- The line that the class `ByteReader` starts with. -/
def header : String := "internal sealed class ByteReader"

/-- The characters of `line` without its indentation. -/
def bare (line : String) : List Char := line.toList.dropWhile (· = ' ')

end Reader

namespace Reader

/-- A method without a parameter that returns `value`. -/
def reading (type name : String) (value : Expr) : Method := ⟨type, name, "", [.return_ value]⟩

/-- The expression for the next `count` bytes. -/
def taken (count : Nat) : Expr := .apply "Take" (.number count)

/-- The expression for the next byte. -/
def takenByte : Expr := .element (taken 1) 0

/-- The constructor, which keeps the array. -/
def constructor_ : Method := ⟨"", "ByteReader", "bytes", [.assign "_bytes" (.name "bytes")]⟩

/-- The method `Take`, by which all others take bytes. -/
def takeMethod : Method := ⟨"ReadOnlySpan<byte>", "Take", "count", [
  .guard (.or (.less (.name "count") (.number 0))
    (.less (.minus (.length "_bytes") (.name "_pos")) (.name "count"))),
  .bind "span" (.span "_bytes" (.name "_pos") (.name "count")),
  .add "_pos" (.name "count"),
  .return_ (.name "span")]⟩

/-- A method `name` that reads a byte that is zero or one. -/
def flagMethod (name : String) : Method :=
  ⟨"bool", name, "", [.choose takenByte [(0, .flag false), (1, .flag true)]]⟩

/-- The name of the method for a primitive type. -/
def readName : Primitive → String
  | .bool => "ReadBool"
  | .i8 => "ReadI8"
  | .i16 => "ReadI16"
  | .i32 => "ReadI32"
  | .i64 => "ReadI64"
  | .u8 => "ReadU8"
  | .u16 => "ReadU16"
  | .u32 => "ReadU32"
  | .u64 => "ReadU64"
  | .f32 => "ReadF32"
  | .f64 => "ReadF64"

/-- The function of `BinaryPrimitives` that makes a word of bytes; empty for a type of one byte. -/
def wordFunction : Primitive → String
  | .bool | .i8 | .u8 => ""
  | .i16 => "BinaryPrimitives.ReadInt16LittleEndian"
  | .i32 => "BinaryPrimitives.ReadInt32LittleEndian"
  | .i64 => "BinaryPrimitives.ReadInt64LittleEndian"
  | .u16 => "BinaryPrimitives.ReadUInt16LittleEndian"
  | .u32 => "BinaryPrimitives.ReadUInt32LittleEndian"
  | .u64 => "BinaryPrimitives.ReadUInt64LittleEndian"
  | .f32 => "BinaryPrimitives.ReadSingleLittleEndian"
  | .f64 => "BinaryPrimitives.ReadDoubleLittleEndian"

/-- The method that reads a word by `wordFunction`. -/
def wordMethod (p : Primitive) : Method :=
  reading p.managedName (readName p) (.apply (wordFunction p) (taken p.size))

/-- The method for a primitive type. -/
def primitiveMethod : Primitive → Method
  | .bool => flagMethod (readName .bool)
  | .u8 => reading "byte" (readName .u8) takenByte
  | .i8 => reading "sbyte" (readName .i8) (.unchecked "sbyte" takenByte)
  | p => wordMethod p

/-- The method `ReadHandle`. -/
def handleMethod : Method := reading "ulong" "ReadHandle" (.call "ReadU64")

/-- The method `ReadString`, which reads a text behind its length. -/
def textMethod : Method := ⟨"string", "ReadString", "", [
  .bind "len" (.checked "int" (.call "ReadU32")),
  .return_ (.apply "Encoding.UTF8.GetString" (.apply "Take" (.name "len")))]⟩

/-- The methods that read items, in the order in which they are declared. -/
def readMethods : List Method :=
  [primitiveMethod .bool, flagMethod "ReadPresence"]
    ++ [.u8, .i8, .u16, .i16, .u32, .i32, .u64, .i64, .f32, .f64].map primitiveMethod
    ++ [handleMethod, textMethod]

/-- All methods of the class. The constructor and `Take` come first. -/
def methods : List Method := constructor_ :: takeMethod :: readMethods

end Reader

end Boundary.Managed
