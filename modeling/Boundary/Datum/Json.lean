import Boundary.Datum
import Boundary.Json.Read
import Boundary.Json.ReadNode

/-!
# Values as documents

A value is written as an object with the members `kind` and `value`, or as an array of the two.
The members may come in either order. A content that comes before its kind is set aside until the
kind is known, and faults in it are reported at the end of the object.

* `Datum.ofText`: the value written in a document.
* `Datum.toValue`: a value as a JSON value.
-/

namespace Boundary

open Json

namespace Datum

/-- The kinds of value. -/
inductive Kind
  | unit
  | primitive (p : Primitive)
  | str
  | handle
  | option
  | record
  | variant

/-- The kinds of value by name. -/
def kinds : List (String × Kind) := [
  ("unit", .unit), ("bool", .primitive .bool), ("i8", .primitive .i8), ("i16", .primitive .i16),
  ("i32", .primitive .i32), ("i64", .primitive .i64), ("u8", .primitive .u8),
  ("u16", .primitive .u16), ("u32", .primitive .u32), ("u64", .primitive .u64),
  ("f32", .primitive .f32), ("f64", .primitive .f64), ("str", .str), ("handle", .handle),
  ("option", .option), ("record", .record), ("variant", .variant)]

/-- What a document of a value is expected to be. -/
def expected : String := "adjacently tagged enum Value"

/-! ## Numbers -/

/-- The bits of the double nearest to a number. -/
def doubleBits : Number → UInt64
  | .int n => (if n < 0 then n.toInt64.toFloat else (UInt64.ofNat n.toNat).toFloat).toBits
  | .float bits => bits
  | .single bits => (Float32.ofBits bits).toFloat.toBits

/-- The bits of the 32-bit number nearest to a number. -/
def singleBits : Number → UInt32
  | .int n => (if n < 0 then n.toInt64.toFloat32 else (UInt64.ofNat n.toNat).toFloat32).toBits
  | .float bits => (Float.ofBits bits).toFloat32.toBits
  | .single bits => bits

/-- The least and the greatest value of an integer type. -/
def bounds? : Primitive → Option (Int × Int)
  | .i8 => some (-0x80, 0x7F)
  | .i16 => some (-0x8000, 0x7FFF)
  | .i32 => some (-0x80000000, 0x7FFFFFFF)
  | .i64 => some (-0x8000000000000000, 0x7FFFFFFFFFFFFFFF)
  | .u8 => some (0, 0xFF)
  | .u16 => some (0, 0xFFFF)
  | .u32 => some (0, 0xFFFFFFFF)
  | .u64 => some (0, 0xFFFFFFFFFFFFFFFF)
  | .bool | .f32 | .f64 => none

/-- What a scalar is read as, or why it cannot be read as a value of a primitive type. -/
def primitiveOf (p : Primitive) (s : Scalar) : Except ShapeError PrimitiveValue :=
  match p, s with
  | .bool, .bool b => .ok (.bool b)
  | .bool, s => .error (.invalidType s.found "a boolean")
  | .f32, .number n => .ok (.f32 (singleBits n))
  | .f64, .number n => .ok (.f64 (doubleBits n))
  | p, .number (.int n) =>
    match bounds? p with
    | some (least, greatest) =>
      if least ≤ n ∧ n ≤ greatest then .ok (.ofWord p (n % 0x10000000000000000).toNat)
      else .error (.invalidValue (.number (.int n)) p.name)
    | none => .error (.invalidType (.number (.int n)) p.name)
  | p, s => .error (.invalidType s.found p.name)

/-! ## Readings -/

/-- What a part of a document can be read as. The truth value says whether the part has been set
aside, in which case the places of faults do not count. -/
structure Reading where
  node : Node
  value : Bool → Except ReadError Datum
  content : Bool → Kind → Except ReadError Datum

/-- A member of an object with the places of readers that leave the object behind its name and
behind its value. -/
structure MemberReading where
  key : String
  leave : Position
  reading : Reading
  after : Position

/-- The members of an object, and how it ends. -/
structure MemberReadings where
  members : List MemberReading
  close : Except SyntaxError Position

/-- The items of an array, each with the point behind it, and how the array ends. -/
structure ItemReadings where
  items : List (Reading × Gap)
  close : Except SyntaxError Position

/-- The end of the members or items, if it can be reached. -/
def reach (close : Except SyntaxError Position) : Except ReadError Position :=
  close.mapError .syntaxError

/-- A fault of shape at a place. -/
def refuse {α : Type} (e : ShapeError) (p : Position) : Except ReadError α := .error (.shape e p)

/-- The end of the name of a kind that is written as the only member of an object. -/
def kindMember (members : MemberReadings) (leave : Position) : Except ReadError Kind :=
  match members.members with
  | [] => do
    let _ ← reach members.close
    .error (.syntaxError ⟨.expectedValue, leave⟩)
  | m :: rest =>
    match kinds.lookup m.key with
    | none => refuse (.unknownVariant m.key (kinds.map (·.1))) m.leave
    | some kind =>
      match m.reading.node with
      | .scalar .null _ _ =>
        match rest, members.close with
        | [], .ok _ => .ok kind
        | [], .error e => .error (.syntaxError e)
        | _ :: _, _ => .error (.syntaxError ⟨.expectedValue, m.after⟩)
      | n => .error (n.refusal "unit")

/-- The kind that a member is the name of, when it has been set aside. -/
def kindAside (n : Node) : Except ReadError Kind :=
  match n.value with
  | .error e => .error (.syntaxError e)
  | .ok v => (readUnitVariant kinds v).mapError fun e => .shape e ⟨0, 0⟩

/-- The kind that a member is the name of. -/
def kindOf (aside : Bool) (n : Node) (members : Option MemberReadings) : Except ReadError Kind :=
  if aside then kindAside n
  else
    match n, members with
    | .scalar (.string s) _ stop, _ =>
      match kinds.lookup s with
      | some kind => .ok kind
      | none => refuse (.unknownVariant s (kinds.map (·.1))) stop
    | .scalar _ head _, _ => .error (.syntaxError ⟨.expectedValue, head⟩)
    | .array start _ _, _ =>
      .error (.syntaxError ⟨.expectedValue, ⟨start.line, start.column + 1⟩⟩)
    | .object _ leave _, some members => kindMember members leave
    | .object _ leave _, none => .error (.syntaxError ⟨.expectedValue, leave⟩)
    | .broken e, _ => .error (.syntaxError e)

/-- The members from the first of those that have a meaning on. -/
def relevant (names : List String) (members : List MemberReading) : List MemberReading :=
  members.dropWhile fun m => !names.contains m.key

/-- There may be no further member of a meaning. -/
def noMore (names : List String) (rest : List MemberReading) (close : Except SyntaxError Position)
    (d : Datum) : Except ReadError Datum :=
  match relevant names rest with
  | m :: _ => refuse (.duplicateField m.key) m.leave
  | [] => do
    let _ ← reach close
    pure d

/-- The value of a kind without content. -/
def withoutContent (kind : Kind) (close : Except SyntaxError Position) :
    Except ReadError Datum := do
  let stop ← reach close
  match kind with
  | .unit => pure .unit
  | .option => pure (.option none)
  | _ => refuse (.missingField "value") stop

/-- What the kind of a member is read with. -/
abbrev KindReader := Bool → Reading → Except ReadError Kind

/-- A value that is written as an object. -/
def ofMembers (kindOf : KindReader) (aside : Bool) (all : MemberReadings) :
    Except ReadError Datum :=
  let names := ["kind", "value"]
  match relevant names all.members with
  | [] => do
    let stop ← reach all.close
    refuse (.missingField "kind") stop
  | m :: rest =>
    if m.key = "kind" then do
      let kind ← kindOf aside m.reading
      match relevant names rest with
      | [] => withoutContent kind all.close
      | c :: rest =>
        if c.key = "kind" then refuse (.duplicateField "kind") c.leave
        else do
          let d ← c.reading.content aside kind
          noMore names rest all.close d
    else do
      let _ ← m.reading.node.value.mapError ReadError.syntaxError
      match relevant names rest with
      | [] => do
        let stop ← reach all.close
        refuse (.missingField "kind") stop
      | k :: rest =>
        if k.key = "value" then refuse (.duplicateField "value") k.leave
        else do
          let kind ← kindOf aside k.reading
          match m.reading.content true kind with
          | .ok d => noMore names rest all.close d
          | .error (.shape e _) => refuse e k.after
          | .error e => .error e

/-- A value that is written as an array. -/
def ofItems (kindOf : KindReader) (aside : Bool) (enter : Gap) (all : ItemReadings) :
    Except ReadError Datum :=
  match all.items with
  | [] => do
    let _ ← reach all.close
    refuse (.invalidLength 0 expected) enter.leave
  | (k, gap) :: rest => do
    let kind ← kindOf aside k
    match rest with
    | [] => do
      let _ ← reach all.close
      refuse (.invalidLength 1 expected) gap.leave
    | (c, gap) :: rest => do
      let d ← c.content aside kind
      match aside, rest with
      | true, _ :: _ =>
        refuse (.invalidLength (rest.length + 2) (counted 2 "element" ++ " in sequence")) gap.leave
      | _, _ => do
        let _ ← reach gap.close
        pure d

/-- A value without parts is no value of any kind by itself. -/
def ofNode (n : Node) : Except ReadError Datum := .error (n.refusal expected)

/-- The content of a value that is written without parts. -/
def scalarContent (n : Node) (kind : Kind) : Except ReadError Datum :=
  match n, kind with
  | .scalar .null _ _, .unit => .ok .unit
  | n, .unit => .error (n.refusal "unit variant Value::Unit")
  | .scalar s _ stop, .primitive p =>
    match primitiveOf p s with
    | .ok v => .ok (.primitive v)
    | .error e => refuse e stop
  | n, .primitive .bool => .error (n.refusal "a boolean")
  | n, .primitive p => .error (n.refusal p.name)
  | .scalar (.string s) _ _, .str => .ok (.str s)
  | n, .str => .error (n.refusal "a string")
  | .scalar s _ stop, .handle =>
    match primitiveOf .u64 s with
    | .ok v => .ok (.handle (UInt64.ofNat v.word))
    | .error e => refuse e stop
  | n, .handle => .error (n.refusal "u64")
  | .scalar .null _ _, .option => .ok (.option none)
  | n, .option => .error (n.refusal expected)
  | n, .record => .error (n.refusal "a sequence")
  | n, .variant => .error (n.refusal "struct variant Value::Variant")

/-- The content of a value where it stands open which kind of content it is, so that brackets are
entered before they are found to be wrong. -/
def entered (n : Node) (kind : Kind) (leave : Position) : Except ReadError Datum :=
  match kind, n with
  | .unit, .array .. => refuse (.invalidType .sequence "unit variant Value::Unit") leave
  | .unit, .object .. => refuse (.invalidType .map "unit variant Value::Unit") leave
  | .variant, .array .. => refuse (.invalidType .sequence "struct variant Value::Variant") leave
  | kind, n => scalarContent n kind

/-- The values of the items of an array. -/
def values (aside : Bool) (all : ItemReadings) : Except ReadError (List Datum) := do
  let ds ← all.items.mapM fun (r, _) => r.value aside
  let _ ← reach all.close
  pure ds

/-- The fields of a variant that are read so far. -/
structure VariantDraft where
  discriminant : Option UInt32 := none
  fields : Option (List Datum) := none

/-- The content of a variant. -/
def variantOf (listOf : Bool → Reading → Except ReadError (List Datum)) (aside : Bool)
    (close : Except SyntaxError Position) :
    VariantDraft → List MemberReading → Except ReadError Datum
  | draft, [] => do
    let stop ← reach close
    match draft.discriminant, draft.fields with
    | none, _ => refuse (.missingField "discriminant") stop
    | _, none => refuse (.missingField "fields") stop
    | some discriminant, some fields => pure (.variant discriminant fields)
  | draft, m :: rest =>
    if m.key = "discriminant" then
      if draft.discriminant.isSome then refuse (.duplicateField m.key) m.leave
      else do
        match ← scalarContent m.reading.node (.primitive .u32) with
        | .primitive (.u32 n) =>
          variantOf listOf aside close { draft with discriminant := some n } rest
        | d => pure d
    else if m.key = "fields" then
      if draft.fields.isSome then refuse (.duplicateField m.key) m.leave
      else do
        let fields ← listOf aside m.reading
        variantOf listOf aside close { draft with fields := some fields } rest
    else do
      let _ ← m.reading.node.value.mapError ReadError.syntaxError
      variantOf listOf aside close draft rest

/-- The list that a value of the kind `record` consists of. -/
def listOf (aside : Bool) (r : Reading) : Except ReadError (List Datum) := do
  match ← r.content aside .record with
  | .record ds => pure ds
  | d => pure [d]

/-- The kind that a reading is the name of. Objects are looked into by `inside`. -/
def kindOfReading (inside : Reading → Option MemberReadings) (aside : Bool) (r : Reading) :
    Except ReadError Kind :=
  kindOf aside r.node (inside r)

/-- The members of an object, when only their names and values without parts matter. -/
def shallow (n : Node) : Option MemberReadings :=
  match n with
  | .object _ _ entries => some (go entries)
  | _ => none
where
  go : Entries → MemberReadings
    | .done close => ⟨[], close⟩
    | .entry key leave node after rest =>
      let all := go rest
      ⟨⟨key, leave, ⟨node, fun _ => ofNode node, fun _ => scalarContent node⟩, after⟩
        :: all.members,
        all.close⟩

/-- The kind that a reading is the name of. -/
def readKind : KindReader := kindOfReading fun r => shallow r.node

mutual

/-- What a node can be read as. -/
def reading : Node → Reading
  | .scalar s head stop =>
    let n := Node.scalar s head stop
    ⟨n, fun _ => ofNode n, fun _ kind =>
      match kind, s with
      | .option, .null => .ok (.option none)
      | kind, _ => scalarContent n kind⟩
  | .broken e => ⟨.broken e, fun _ => .error (.syntaxError e), fun _ _ => .error (.syntaxError e)⟩
  | .array start enter items =>
    let n := Node.array start enter items
    let all := readings items
    let value aside := ofItems readKind aside enter all
    ⟨n, value, fun aside kind =>
      match kind with
      | .option => (value aside).map fun d => .option (some d)
      | .record => (values aside all).map .record
      | kind => entered n kind enter.leave⟩
  | .object start leave entries =>
    let n := Node.object start leave entries
    let all := memberReadings entries
    let value aside := ofMembers readKind aside all
    ⟨n, value, fun aside kind =>
      match kind with
      | .option => (value aside).map fun d => .option (some d)
      | .variant => variantOf listOf aside all.close {} all.members
      | kind => entered n kind leave⟩

/-- What the items of an array can be read as. -/
def readings : Items → ItemReadings
  | .done close => ⟨[], close⟩
  | .item node gap rest =>
    let all := readings rest
    ⟨(reading node, gap) :: all.items, all.close⟩

/-- What the members of an object can be read as. -/
def memberReadings : Entries → MemberReadings
  | .done close => ⟨[], close⟩
  | .entry key leave node after rest =>
    let all := memberReadings rest
    ⟨⟨key, leave, reading node, after⟩ :: all.members, all.close⟩

end

/-- The value written in a document. -/
def ofText (s : String) : Except ReadError Datum := do
  let (node, rest) := Node.ofTokens (Tokens.ofText s)
  let d ← (reading node).value false
  rest.checkEnd.mapError ReadError.syntaxError
  pure d

/-! ## Writing -/

/-- A primitive value as a JSON value. -/
def ofPrimitive : PrimitiveValue → Value
  | .bool b => .bool b
  | .i8 n => .number (.int n.toInt)
  | .i16 n => .number (.int n.toInt)
  | .i32 n => .number (.int n.toInt)
  | .i64 n => .number (.int n.toInt)
  | .u8 n => .ofNat n.toNat
  | .u16 n => .ofNat n.toNat
  | .u32 n => .ofNat n.toNat
  | .u64 n => .ofNat n.toNat
  | .f32 bits => .number (.single bits)
  | .f64 bits => .number (.float bits)

/-- A kind with its content. -/
def tagged (kind : String) (content : Value) : Value :=
  .object [("kind", .string kind), ("value", content)]

mutual

/-- A value as a JSON value. -/
def toValue : Datum → Value
  | .unit => .object [("kind", .string "unit")]
  | .primitive v => tagged v.type.name (ofPrimitive v)
  | .str s => tagged "str" (.string s)
  | .handle h => tagged "handle" (.ofNat h.toNat)
  | .option none => tagged "option" .null
  | .option (some d) => tagged "option" d.toValue
  | .record fields => tagged "record" (.array (toValues fields))
  | .variant discriminant fields =>
    tagged "variant" (.object
      [("discriminant", .ofNat discriminant.toNat), ("fields", .array (toValues fields))])

/-- Values as JSON values. -/
def toValues : List Datum → List Value
  | [] => []
  | d :: ds => d.toValue :: toValues ds

end

end Datum

end Boundary
