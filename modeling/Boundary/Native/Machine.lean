import Boundary.Call.Flat
import Boundary.Native.Body

/-!
# What entry points do

The bodies of entry points carried out on handle tables. The exported functions themselves are
given by a `Library`; they see values and no tables.

* `NativeValue`: a value in native code.
* `Tables`: a handle table for each exported type.
* `Machine`: what may fail and changes the tables; a failure keeps the changes made before.
* `Lift.run`, `Lowering.run`, `ErrorWrite.run`, `Body.run`: the parts of an entry point.
* `Schema.call`: a call of an entry point, which ends in a result or in a trap.
-/

namespace Boundary.Native

/-- A value in native code. -/
inductive NativeValue
  | unit
  | primitive (v : PrimitiveValue)
  | text (s : String)
  /-- The fields of a struct in declared order. -/
  | record (fields : List NativeValue)
  /-- The variant that stands at a place of its enum, with its fields. -/
  | variant (place : Nat) (fields : List NativeValue)
  | option (value : Option NativeValue)
deriving Repr, Inhabited

/-- A handle table for each exported type. -/
abbrev Tables := TypeId → HandleTable NativeValue

/-- The tables `ts` with `t` as that of the type `id`. -/
def Tables.put (ts : Tables) (id : TypeId) (t : HandleTable NativeValue) : Tables :=
  fun i => if i = id then t else ts i

/-- What may fail, with a `Trap`, and changes tables. -/
abbrev Machine := ExceptT Trap (StateM Tables)

/-- How a native function ends. -/
inductive Outcome
  | value (v : NativeValue)
  | failure (error : NativeValue)
  | abort (message : Option String)
deriving Inhabited

/-- The exported functions by the type that they belong to and their name. -/
abbrev Library := Option String → String → List NativeValue → Outcome

/-! ## Tables -/

/-- A result without change of the tables. -/
def Machine.ofExcept {α : Type} : Except CallError α → Machine α
  | .ok a => pure a
  | .error e => throw (.error e)

/-- The value behind the handle `h` in the table of the type `id`. -/
def lookup (id : TypeId) (h : Handle) : Machine NativeValue := do
  let ts ← get
  Machine.ofExcept (((ts id).get h).mapError .handle)

/-- The value behind the handle `h`, moved out of the table of the type `id`. -/
def moveOut (id : TypeId) (h : Handle) : Machine NativeValue := do
  let ts ← get
  match (ts id).take h with
  | .ok (v, t) =>
    set (ts.put id t)
    pure v
  | .error e => throw (.error (.handle e))

/-- Puts the value `v` into the table of the type `id`. -/
def store (id : TypeId) (v : NativeValue) : Machine Handle := do
  let ts ← get
  let (h, t) := (ts id).insert v
  set (ts.put id t)
  pure h

/-- Releases the value behind the handle `h`, if there is one. -/
def discard (id : TypeId) (h : Handle) : Machine Unit := do
  let ts ← get
  set (ts.put id ((ts id).remove h).2)

/-! ## Conversions -/

/-- The text of a view of `bytes`. -/
def viewText (bytes : Option (List UInt8)) : Machine NativeValue := do
  let s ← Machine.ofExcept (readView bytes)
  pure (.text s)

/-- The native value of a flat argument, by its `Lift`. A flat value of another type than the lift
is for does not occur, and is lifted to nothing. -/
def Lift.run : Lift → FlatValue → Machine NativeValue
  | .same, .scalar v => pure (.primitive v)
  | .bool, .scalar v => pure (.primitive (.bool (v.word ≠ 0)))
  | .lentText, .view bytes => viewText bytes
  | .ownText, .view bytes => viewText bytes
  | .lend id, .handle h => lookup id h
  | .copy id, .handle h => lookup id h
  | .take id, .handle h => moveOut id h
  | .option inner, .option present value =>
    match FlatValue.payload? present value with
    | some v => do
      let v ← inner.run v
      pure (.option (some v))
    | none => pure (.option none)
  | _, _ => pure .unit

/-- The flat value of a native value, by its `Lowering`. -/
def Lowering.run : Lowering → NativeValue → Machine FlatValue
  | .same _, .primitive v => pure (.scalar v)
  | .bool, .primitive v => pure (.scalar (.ofWord .u8 v.word))
  | .text, .text s => pure (.buffer (some (Text.Utf8.encode s)))
  | .insert id, v => do
    let h ← store id v
    pure (.handle h)
  | .option inner, .option (some v) => do
    let v ← inner.run v
    pure (.ofOption inner.type (some v))
  | .option inner, .option none => pure (.ofOption inner.type none)
  | lowering, _ => pure lowering.type.default

/-- The items that are written for an error, by its `ErrorWrite`. -/
def ErrorWrite.run : ErrorWrite → NativeValue → Machine (List Wire.Item)
  | .primitive _, .primitive v => pure [.primitive v]
  | .text, .text s => do
    let item := Wire.Item.str s
    Machine.ofExcept (item.check.mapError .wire)
    pure [item]
  | .insert id, v => do
    let h ← store id v
    pure [.handle h]
  | .option inner, .option (some v) => do
    let items ← inner.run v
    pure (.presence true :: items)
  | .option _, .option none => pure [.presence false]
  | _, _ => pure []

/-! ## Bodies -/

/-- What the statements of a body know: the receiver and the parameters as far as they have been
lifted. -/
structure Frame where
  receiver : NativeValue
  params : List NativeValue

/-- A number that needs no lift. -/
def unlifted : FlatValue → NativeValue
  | .scalar v => .primitive v
  | _ => .unit

/-- Carries out a step, where `handle` is the handle of the receiver. -/
def Step.run (handle : FlatValue) (args : List FlatValue) (f : Frame) : Step → Machine Frame
  | .receive access id => do
    match handle with
    | .handle h =>
      let v ← match access with
        | .lend => lookup id h
        | .take => moveOut id h
      pure { f with receiver := v }
    | _ => pure f
  | .lift place _ l => do
    let v ← l.run (args.getD place .void)
    pure { f with params := f.params.set place v }

/-- Carries out steps one after the other, where `handle` is that of the receiver and `args` are the
flat arguments. -/
def runSteps (handle : FlatValue) (args : List FlatValue) : Frame → List Step → Machine Frame
  | f, [] => pure f
  | f, s :: rest => do
    let f ← s.run handle args f
    runSteps handle args f rest

/-- The frame before any step. -/
def Frame.initial (args : List FlatValue) : Frame := ⟨.unit, args.map unlifted⟩

/-- The value that is made of the lifted arguments `fields`. -/
def Construction.value (fields : List NativeValue) : Construction → NativeValue
  | .struct _ _ => .record fields
  | .variant v _ => .variant v.place fields

/-- The field of a struct value at `place`. -/
def NativeValue.field (place : Nat) : NativeValue → NativeValue
  | .record fields => fields.getD place .unit
  | _ => .unit

/-- The discriminant of an enum value according to the `arms` of a match. -/
def discriminant (arms : List (VariantRef × Nat)) : NativeValue → Nat
  | .variant place _ => ((arms.find? fun (v, _) => v.place = place).map (·.2)).getD 0
  | _ => 0

/-- The field of an enum value that holds the variant `v`. -/
def fieldOfVariant (v : VariantRef) (field : Nat) : NativeValue → Machine NativeValue
  | .variant place fields =>
    if place = v.place then pure (fields.getD field .unit)
    else throw (.error (.variantMismatch v.enum v.name))
  | _ => throw (.error (.variantMismatch v.enum v.name))

/-- What follows from the `Outcome` of a native function. -/
def Answer.run : Answer → Outcome → Machine FlatValue
  | _, .abort message => throw (.abort message)
  | .nothing, _ => pure .void
  | .value lowering, .value v => lowering.run v
  | .value lowering, .failure _ => pure lowering.type.default
  | .result (some lowering) _, .value v => lowering.run v
  | .result none _, .value _ => pure .void
  | .result _ none, .failure _ => throw (.error (.native []))
  | .result _ (some write), .failure e => do
    let items ← write.run e
    throw (.error (.native (Wire.write items)))

/-- Carries out the body `b` with the flat arguments `args`. -/
def Body.run (library : Library) (args : List FlatValue) (b : Body) : Machine FlatValue := do
  match b, args with
  | .freeBuffer, _ => pure .void
  | .release id, .handle h :: _ => do
    discard id h
    pure .void
  | .construct id steps value, args => do
    let f ← runSteps .void args (Frame.initial args) steps
    let h ← store id (value.value f.params)
    pure (.handle h)
  | .field id place _ _ lowering, .handle h :: _ => do
    let v ← lookup id h
    lowering.run (v.field place)
  | .tag id arms, .handle h :: _ => do
    let v ← lookup id h
    pure (.scalar (.u32 (UInt32.ofNat (discriminant arms v))))
  | .variantField id v place _ _ lowering, .handle h :: _ => do
    let value ← lookup id h
    let field ← fieldOfVariant v place value
    lowering.run field
  | .call steps c answer, args =>
    match c.receiver with
    | none => do
      let f ← runSteps .void args (Frame.initial args) steps
      answer.run (library c.owner c.name f.params)
    | some _ => do
      let f ← runSteps (args.headD .void) args.tail (Frame.initial args.tail) steps
      answer.run (library c.owner c.name (f.receiver :: f.params))
  | _, _ => pure .void

end Boundary.Native

namespace Boundary

open Native

/-- The call of `entry`: its result or how else it ends, and the tables after it. -/
def Schema.call (s : Schema) (library : Library) (entry : EntryPoint) (args : List FlatValue)
    (ts : Tables) : Except Trap FlatValue × Tables :=
  match s.body? entry.purpose with
  | some b => (b.run library args).run ts
  | none => (.ok entry.ret.default, ts)

end Boundary
