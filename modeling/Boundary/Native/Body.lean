import Boundary.Native.Lift
import Boundary.EntryPoint

/-!
# Bodies of entry points

What an entry point does between the flat arguments and the flat result, as data.

* `Step`: what prepares the arguments; a step may fail.
* `Body`: what an entry point does.
* `Schema.body?`: the body of an entry point.
* `callSteps`: everything that can fail comes before anything is moved out of a table, as far as
  the order of the steps can bring that about.
-/

namespace Boundary.Native

/-- How a call gets at the value that it is made on. -/
inductive Access
  /-- The value is shared for the duration of the call. -/
  | lend
  /-- The value is moved out of its table. -/
  | take
deriving Repr, DecidableEq

/-- What prepares the arguments of a call. -/
inductive Step
  /-- Finds the receiver. -/
  | receive (access : Access) (id : TypeId)
  /-- Lifts the parameter of that place. -/
  | lift (place : Nat) (name : String) (lift : Lift)
deriving Repr, DecidableEq

/-- What a variant of an enum carries, as a pattern sees it. -/
inductive VariantShape
  | unit
  | tuple
  | struct
deriving Repr, DecidableEq

/-- A variant as native code refers to it. -/
structure VariantRef where
  enum : String
  name : String
  place : Nat
  shape : VariantShape
deriving Repr, DecidableEq

/-- A value that is made of lifted arguments. -/
inductive Construction
  | struct (name : String) (fields : List String)
  | variant (v : VariantRef) (fields : List String)
deriving Repr, DecidableEq

/-- What follows from the outcome of a native function. -/
inductive Answer
  /-- The function returns nothing. -/
  | nothing
  | value (lowering : Lowering)
  /-- The function may fail; `none` stands for no value on either side. -/
  | result (ok : Option Lowering) (err : Option ErrorWrite)
deriving Repr, DecidableEq

/-- A call of a native function. -/
structure Call where
  function : FunctionId
  name : String
  /-- The type that the function belongs to. -/
  owner : Option String
  receiver : Option Access
  /-- The arguments by name, and whether they are handed over by reference. -/
  args : List (String × Bool)
deriving Repr, DecidableEq

/-- What an entry point does. -/
inductive Body
  | freeBuffer
  | release (id : TypeId)
  | construct (id : TypeId) (steps : List Step) (value : Construction)
  | field (id : TypeId) (place : Nat) (name : String) (isNumber : Bool) (lowering : Lowering)
  | tag (id : TypeId) (arms : List (VariantRef × Nat))
  | variantField (id : TypeId) (v : VariantRef) (place : Nat) (name : FieldName) (isNumber : Bool)
      (lowering : Lowering)
  | call (steps : List Step) (call : Call) (answer : Answer)
deriving Repr, DecidableEq

/-- Whether values of the type are copied by reading them. -/
def isNumber : TypeRef → Bool
  | .primitive _ => true
  | _ => false

/-- The step that lifts the owned argument `name` at `place`, if there has to be one. -/
def ownedStep? (place : Nat) (name : String) (t : TypeRef) : Option Step :=
  if needsLift t then some (.lift place name (Lift.of .owned t)) else none

/-- The steps that lift owned arguments. -/
def ownedSteps (fields : List (String × TypeRef)) : List Step :=
  fields.zipIdx.filterMap fun ((name, t), i) => ownedStep? i name t

/-- The body that makes the struct `s`. -/
def constructStruct (s : ExportedStruct) : Body :=
  .construct s.id (ownedSteps (s.fields.map fun f => (f.name, f.type)))
    (.struct s.name (s.fields.map (·.name)))

/-- The shape of a `Payload`. -/
def VariantShape.of : Payload → VariantShape
  | .unit => .unit
  | .tuple _ => .tuple
  | .struct _ => .struct

/-- The variant `v` at `place` of the enum `e`. -/
def VariantRef.of (e : ExportedEnum) (place : Nat) (v : Variant) : VariantRef :=
  ⟨e.name, v.name, place, VariantShape.of v.payload⟩

/-- The body that makes the variant `v`. -/
def constructVariant (e : ExportedEnum) (place : Nat) (v : Variant) : Body :=
  let fields := v.payload.fields.map fun f => (f.name.paramName, f.type)
  .construct e.id (ownedSteps fields)
    (.variant (VariantRef.of e place v) (fields.map (·.1)))

/-- The body that reads the discriminant of the enum `e`. -/
def readTag (e : ExportedEnum) : Body :=
  .tag e.id (e.variants.zipIdx.map fun (v, i) => (VariantRef.of e i v, v.discriminant))

/-! ## Calls -/

/-- The access to a `Receiver`, with its type. -/
def receiverAccess? : Receiver → Option (Access × TypeId)
  | .none => none
  | .byRef id => some (.lend, id)
  | .byValue id => some (.take, id)

/-- The steps that lift those of `params` that are not moved out of a table. -/
def gentleSteps (params : List Param) : List Step :=
  params.zipIdx.filterMap fun (p, i) =>
    if p.mode = .transfer then none
    else if needsLift p.type then some (.lift i p.name (Lift.of p.mode p.type))
    else none

/-- The steps that lift those of `params` that are moved out of a table. -/
def consumingSteps (params : List Param) : List Step :=
  params.zipIdx.filterMap fun (p, i) =>
    if p.mode = .transfer then some (.lift i p.name (Lift.of p.mode p.type)) else none

/-- The steps that find the receiver `r`, if its access is `access`. -/
def receiverSteps (access : Access) (r : Receiver) : List Step :=
  match receiverAccess? r with
  | some (a, id) => if a = access then [.receive a id] else []
  | none => []

/-- The steps of a call of `f`: what takes nothing away comes first, then the parameters that are
moved, then a receiver that is moved. -/
def callSteps (f : ExportedFunction) : List Step :=
  receiverSteps .lend f.receiver ++ gentleSteps f.params ++ consumingSteps f.params
    ++ receiverSteps .take f.receiver

/-- Whether an argument is handed over by reference. -/
def Param.byReference (p : Param) : Bool :=
  match p.mode, p.type with
  | .borrowed, .handle _ => true
  | _, _ => false

/-- What follows from the outcome of a function of the given return type. -/
def Answer.of : TypeRef → Answer
  | .unit => .nothing
  | .result ok err =>
    .result (if ok = .unit then none else some (Lowering.of ok))
      (if err = .unit then none else some (ErrorWrite.of err))
  | t => .value (Lowering.of t)

/-- The body that calls a function, where `owner` is the type that it is called on. -/
def callFunction (owner : Option String) (f : ExportedFunction) : Body :=
  .call (callSteps f)
    { function := f.id, name := f.name, owner := owner
      receiver := (receiverAccess? f.receiver).map (·.1)
      args := f.params.map fun p => (p.name, Param.byReference p) }
    (Answer.of f.returns)

end Boundary.Native

namespace Boundary

open Native

/-- The body of an entry point, by its `EntryPurpose`. -/
def Schema.body? (s : Schema) : EntryPurpose → Option Body
  | .bufferFree => some .freeBuffer
  | .ctor id => (s.struct? id).map constructStruct
  | .free id => some (.release id)
  | .getter id i => do
    let f ← (← s.struct? id).fields[i]?
    pure (.field id i f.name (isNumber f.type) (Lowering.of f.type))
  | .variantCtor id i => do
    let e ← s.enum? id
    let v ← e.variants[i]?
    pure (constructVariant e i v)
  | .tag id => (s.enum? id).map readTag
  | .variantGetter id i j => do
    let e ← s.enum? id
    let v ← e.variants[i]?
    let f ← v.payload.fields[j]?
    pure (.variantField id (VariantRef.of e i v) j f.name (isNumber f.type) (Lowering.of f.type))
  | .function id => (s.function? id).map fun f => callFunction (s.ownerName f) f

end Boundary
