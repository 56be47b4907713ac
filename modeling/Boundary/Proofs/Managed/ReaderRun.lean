import Boundary.Naming.Words
import Boundary.Proofs.Managed.ReaderText
import Boundary.Wire.Item

/-!
# Running the class that reads serialized errors

The methods of the class are carried out on an array and a position in it, with the arithmetic of
the 32 bits that a position has.

* `Reader.Cursor`, `Reader.Value`, `Reader.Eval`: an object of the class, values, and what computes
  with them.
* `Reader.Expr.eval`, `Reader.runAll`, `Reader.call`: expressions, statements and methods.
* `Reader.Cursor.between`: an object that stands between two parts of its array.
* `Reader.run_take`: what `Take` does.
* `Reader.run_read`: **the method for an item takes the bytes of the item**, and gives its value.
-/

namespace Boundary.Managed.Reader

/-! ## Values -/

/-- A value of an `Expr`. -/
inductive Value
  | primitive (v : PrimitiveValue)
  | text (s : String)
  /-- An array or a part of one. -/
  | bytes (bytes : List UInt8)
  /-- What a constructor returns. -/
  | nothing
deriving Repr, DecidableEq

/-- The type of a value, as managed code writes it. -/
def Value.type : Value → String
  | .primitive v => v.type.managedName
  | .text _ => "string"
  | .bytes _ => "ReadOnlySpan<byte>"
  | .nothing => ""

/-- The number that a value of type `int` is. -/
def Value.int? : Value → Option Int32
  | .primitive (.i32 n) => some n
  | _ => none

/-- Whether a value of type `bool` is true. -/
def Value.flag? : Value → Option Bool
  | .primitive (.bool b) => some b
  | _ => none

/-- The number that a value of type `byte` is. -/
def Value.byte? : Value → Option UInt8
  | .primitive (.u8 n) => some n
  | _ => none

/-- The bytes that a value consists of, if it is an array or a part of one. -/
def Value.bytes? : Value → Option (List UInt8)
  | .bytes bs => some bs
  | _ => none

private theorem int?_i32 (n : Int32) : (Value.primitive (.i32 n)).int? = some n := rfl

theorem flag?_bool (b : Bool) : (Value.primitive (.bool b)).flag? = some b := rfl

private theorem byte?_u8 (n : UInt8) : (Value.primitive (.u8 n)).byte? = some n := rfl

private theorem bytes?_bytes (bs : List UInt8) : (Value.bytes bs).bytes? = some bs := rfl

/-- An object of the class `ByteReader`: its array `_bytes`, and its position `_pos`. -/
structure Cursor where
  bytes : List UInt8
  pos : Int32
deriving Repr, DecidableEq

/-- What computes on an object of the class. There is no result if an exception is thrown. -/
abbrev Eval := StateT Cursor Option

/-- The variables in scope, the innermost one first. -/
abbrev Variables := List (String × Value)

/-! ## Fields and functions of the library -/

/-- The value of the field `x`, if the class has it. -/
def Cursor.field? (c : Cursor) (x : String) : Option Value :=
  if x = "_bytes" then some (.bytes c.bytes)
  else if x = "_pos" then some (.primitive (.i32 c.pos))
  else none

/-- The object `c` with the value `v` in a field. -/
def Cursor.assign? (c : Cursor) (field : String) (v : Value) : Option Cursor :=
  if field = "_bytes" then v.bytes?.map fun bytes => { c with bytes }
  else if field = "_pos" then v.int?.map fun pos => { c with pos }
  else none

/-- The type of the word that the function `f` of the library makes of bytes. -/
def wordType? (f : String) : Option Primitive :=
  [("BinaryPrimitives.ReadUInt16LittleEndian", Primitive.u16),
    ("BinaryPrimitives.ReadInt16LittleEndian", .i16),
    ("BinaryPrimitives.ReadUInt32LittleEndian", .u32),
    ("BinaryPrimitives.ReadInt32LittleEndian", .i32),
    ("BinaryPrimitives.ReadUInt64LittleEndian", .u64),
    ("BinaryPrimitives.ReadInt64LittleEndian", .i64),
    ("BinaryPrimitives.ReadSingleLittleEndian", .f32),
    ("BinaryPrimitives.ReadDoubleLittleEndian", .f64)].lookup f

/-- What the function `f` of the library gives for `bytes`. A word is made of the first bytes of
several. Of bytes that are not UTF-8 nothing is said: of these, the library makes some text as well.
-/
def library? (f : String) (bytes : List UInt8) : Option Value :=
  if f = "Encoding.UTF8.GetString" then
    match Text.Utf8.decode bytes with
    | .ok s => some (.text s)
    | .error _ => none
  else
    match wordType? f with
    | some p =>
      if p.size ≤ bytes.length then
        some (.primitive (.ofWord p (Wire.ofBytes (bytes.take p.size))))
      else none
    | none => none

/-- A conversion to `type` that throws an exception if the number does not fit. -/
def checked? (type : String) : Value → Option Value
  | .primitive (.u32 n) =>
    if type = "int" ∧ n.toNat < 0x80000000 then some (.primitive (.i32 (Int32.ofNat n.toNat)))
    else none
  | _ => none

/-- A conversion to `type` that keeps the bits of a number. -/
def unchecked? (type : String) : Value → Option Value
  | .primitive (.u8 n) => if type = "sbyte" then some (.primitive (.i8 n.toInt8)) else none
  | _ => none

/-- The part of `bytes` that starts at `start` and has `count` bytes. -/
def slice? (bytes : List UInt8) (start count : Int32) : Option (List UInt8) :=
  if 0 ≤ start ∧ 0 ≤ count ∧ start.toInt + count.toInt ≤ bytes.length then
    some ((bytes.drop start.toNatClampNeg).take count.toNatClampNeg)
  else none

/-! ## Expressions, statements and methods -/

section Run

variable (call : String → Option Value → Eval Value) (vars : Variables)

/-- The value of `x`, which is a variable or else a field. -/
def valueOf (x : String) : Eval Value := do
  let c ← get
  match vars.lookup x with
  | some v => pure v
  | none => c.field? x

/-- The value of an expression, where `call` carries out methods. -/
@[simp] def Expr.eval : Expr → Eval Value
  | .number n => pure (.primitive (.i32 (Int32.ofNat n)))
  | .flag b => pure (.primitive (.bool b))
  | .name x => valueOf vars x
  | .length x => do
    let bytes ← (← valueOf vars x).bytes?
    pure (.primitive (.i32 (Int32.ofNat bytes.length)))
  | .element e place => do
    let bytes ← (← e.eval).bytes?
    let byte ← bytes[place]?
    pure (.primitive (.u8 byte))
  | .less a b => do
    let m ← (← a.eval).int?
    let n ← (← b.eval).int?
    pure (.primitive (.bool (m < n)))
  | .minus a b => do
    let m ← (← a.eval).int?
    let n ← (← b.eval).int?
    pure (.primitive (.i32 (m - n)))
  | .or a b => do
    if ← (← a.eval).flag? then pure (.primitive (.bool true)) else b.eval
  | .span x start count => do
    let bytes ← (← valueOf vars x).bytes?
    let start ← (← start.eval).int?
    let count ← (← count.eval).int?
    let part ← slice? bytes start count
    pure (.bytes part)
  | .checked type e => do checked? type (← e.eval)
  | .unchecked type e => do unchecked? type (← e.eval)
  | .call f => call f none
  | .apply f e => do call f (some (← e.eval))

end Run

/-- Carries out statements one after the other, where `call` calls methods, up to one that returns a
value. -/
@[simp] def runAll (call : String → Option Value → Eval Value) (vars : Variables) :
    List Statement → Eval Value
  | [] => pure .nothing
  | .guard condition :: rest => do
    if ← (← condition.eval call vars).flag? then failure else runAll call vars rest
  | .bind x value :: rest => do
    let v ← value.eval call vars
    runAll call ((x, v) :: vars) rest
  | .assign field value :: rest => do
    let v ← value.eval call vars
    set (← (← get).assign? field v)
    runAll call vars rest
  | .add field value :: rest => do
    let n ← (← value.eval call vars).int?
    let old ← (← valueOf [] field).int?
    set (← (← get).assign? field (.primitive (.i32 (old + n))))
    runAll call vars rest
  | .return_ value :: _ => value.eval call vars
  | .choose byte arms :: _ => do
    let n ← (← byte.eval call vars).byte?
    let value ← arms.lookup n.toNat
    value.eval call vars

/-- The variables that `m` starts with: its parameter, if it has one. -/
def Method.variables? (m : Method) : Option Value → Option Variables
  | none => if m.param = "" then some [] else none
  | some v => if m.param = "" then none else some [(m.param, v)]

/-- Carries out `m`. Its value is of the type that it declares. -/
def Method.run (call : String → Option Value → Eval Value) (m : Method) (arg : Option Value) :
    Eval Value := do
  let vars ← m.variables? arg
  let v ← runAll call vars m.body
  if v.type = m.type then pure v else failure

/-- Calls a method by its name, or else a function of the `library?`. Of the methods the last one is
given first; a method calls those that are declared above it. -/
def call : List Method → String → Option Value → Eval Value
  | [], f, arg => do library? f (← arg.bind Value.bytes?)
  | m :: above, f, arg => if m.name = f then m.run (call above) arg else call above f arg

/-! ## Taking bytes -/

/-- The number of bytes in an array of managed code is less than this. -/
def arrayLimit : Nat := 0x80000000

/-- An object whose array is `front ++ rest` and that stands between these parts. -/
def Cursor.between (front rest : List UInt8) : Cursor := ⟨front ++ rest, Int32.ofNat front.length⟩

/-- The number of `bytes`, as a value of managed code. -/
def count (bytes : List UInt8) : Value := .primitive (.i32 (Int32.ofNat bytes.length))

section Calls

variable {f : String} {arg : Option Value} {c : Cursor}

/-- Methods of other names than `f` do not matter for its call. -/
theorem call_append {front : List Method} (h : ∀ m ∈ front, m.name ≠ f) (above : List Method) :
    call (front ++ above) f arg = call above f arg := by
  induction front with
  | nil => rfl
  | cons m rest ih =>
    rw [List.forall_mem_cons] at h
    rw [List.cons_append, call, if_neg h.1, ih h.2]

theorem call_self (m : Method) (above : List Method) :
    call (m :: above) m.name arg = m.run (call above) arg := if_pos rfl

end Calls

private theorem slice?_between {front bytes rest : List UInt8}
    (h : (front ++ (bytes ++ rest)).length < arrayLimit) :
    slice? (front ++ (bytes ++ rest)) (Int32.ofNat front.length) (Int32.ofNat bytes.length) =
      some bytes := by
  have hlength := h
  rw [List.length_append, List.length_append, arrayLimit] at hlength
  have hfront : front.length < 2 ^ 31 := by omega
  have hbytes : bytes.length < 2 ^ 31 := by omega
  have hzero : (0 : Int32) = Int32.ofNat 0 := rfl
  have hroom : (Int32.ofNat front.length).toInt + (Int32.ofNat bytes.length).toInt ≤
      ((front ++ (bytes ++ rest)).length : Int) := by
    rw [Int32.toInt_ofNat_of_lt hfront, Int32.toInt_ofNat_of_lt hbytes, List.length_append,
      List.length_append]
    omega
  have hnonneg {n : Nat} (hn : n < 2 ^ 31) : 0 ≤ Int32.ofNat n := by
    rw [hzero, Int32.ofNat_le_iff_le (by decide) hn]
    exact Nat.zero_le n
  rw [slice?, if_pos ⟨hnonneg hfront, hnonneg hbytes, hroom⟩,
    Int32.toNatClampNeg_ofNat_of_lt hfront, Int32.toNatClampNeg_ofNat_of_lt hbytes,
    List.drop_left, List.take_left]

/-! ## Rules for expressions and statements -/

section Rules

variable {α β : Type} {c c' c'' : Cursor}

theorem run_bind_of_eq {x : Eval α} {a : α} (h : x.run c = some (a, c')) (f : α → Eval β) :
    (x >>= f).run c = (f a).run c' := by
  rw [StateT.run_bind, h]
  rfl

theorem run_lift_bind {o : Option α} {a : α} (h : o = some a) (f : α → Eval β) :
    ((liftM o : Eval α) >>= f).run c = (f a).run c := by
  subst h
  rfl

theorem run_get_bind (f : Cursor → Eval β) : ((get : Eval Cursor) >>= f).run c = (f c).run c :=
  rfl

private theorem run_set_bind (next : Cursor) (f : PUnit → Eval β) :
    ((set next : Eval PUnit) >>= f).run c = (f ⟨⟩).run next := rfl

variable {call : String → Option Value → Eval Value} {vars : Variables} {x : String} {v w : Value}
  {m n : Int32} {a b e : Expr} {bytes part : List UInt8} {rest : List Statement}

/-- The expression `e` has the value `v`, and leaves the object `c` as `c'`. -/
def Expr.Evaluates (call : String → Option Value → Eval Value) (vars : Variables) (c : Cursor)
    (e : Expr) (v : Value) (c' : Cursor) : Prop := (e.eval call vars).run c = some (v, c')

/-- The statements `code` return the value `v`, and leave the object `c` as `c'`. -/
def Returns (call : String → Option Value → Eval Value) (vars : Variables) (c : Cursor)
    (code : List Statement) (v : Value) (c' : Cursor) : Prop :=
  (runAll call vars code).run c = some (v, c')

private theorem valueOf_variable (h : vars.lookup x = some v) :
    (valueOf vars x).run c = some (v, c) := by
  rw [valueOf, run_get_bind, h]
  rfl

private theorem valueOf_field (h : vars.lookup x = none) (hfield : c.field? x = some v) :
    (valueOf vars x).run c = some (v, c) := by
  rw [valueOf, run_get_bind, h]
  show (liftM (c.field? x) : Eval Value).run c = _
  rw [hfield]
  rfl

namespace Expr.Evaluates

theorem number (n : Nat) :
    Evaluates call vars c (.number n) (.primitive (.i32 (Int32.ofNat n))) c :=
  rfl

theorem flag (b : Bool) : Evaluates call vars c (.flag b) (.primitive (.bool b)) c := rfl

theorem ofVariable (h : vars.lookup x = some v) : Evaluates call vars c (.name x) v c :=
  valueOf_variable h

theorem ofField (h : vars.lookup x = none) (hfield : c.field? x = some v) :
    Evaluates call vars c (.name x) v c :=
  valueOf_field h hfield

theorem length (h : vars.lookup x = none) (hfield : c.field? x = some (.bytes bytes)) :
    Evaluates call vars c (.length x) (count bytes) c := by
  rw [Evaluates, eval, run_bind_of_eq (valueOf_field h hfield)]
  rfl

theorem element {place : Nat} {byte : UInt8} (h : Evaluates call vars c e (.bytes bytes) c')
    (hbyte : bytes[place]? = some byte) :
    Evaluates call vars c (.element e place) (.primitive (.u8 byte)) c' := by
  rw [Evaluates, eval, run_bind_of_eq h, run_lift_bind (bytes?_bytes _),
    run_lift_bind hbyte]
  rfl

theorem less (ha : Evaluates call vars c a (.primitive (.i32 m)) c')
    (hb : Evaluates call vars c' b (.primitive (.i32 n)) c'') :
    Evaluates call vars c (.less a b) (.primitive (.bool (m < n))) c'' := by
  rw [Evaluates, eval, run_bind_of_eq ha, run_lift_bind (int?_i32 m), run_bind_of_eq hb,
    run_lift_bind (int?_i32 n)]
  rfl

theorem minus (ha : Evaluates call vars c a (.primitive (.i32 m)) c')
    (hb : Evaluates call vars c' b (.primitive (.i32 n)) c'') :
    Evaluates call vars c (.minus a b) (.primitive (.i32 (m - n))) c'' := by
  rw [Evaluates, eval, run_bind_of_eq ha, run_lift_bind (int?_i32 m), run_bind_of_eq hb,
    run_lift_bind (int?_i32 n)]
  rfl

/-- The second operand counts if the first one is false. -/
theorem or (ha : Evaluates call vars c a (.primitive (.bool false)) c')
    (hb : Evaluates call vars c' b v c'') : Evaluates call vars c (.or a b) v c'' := by
  rw [Evaluates, eval, run_bind_of_eq ha, run_lift_bind (flag?_bool _)]
  exact hb

theorem span (h : vars.lookup x = none) (hfield : c.field? x = some (.bytes bytes))
    (ha : Evaluates call vars c a (.primitive (.i32 m)) c')
    (hb : Evaluates call vars c' b (.primitive (.i32 n)) c'')
    (hpart : slice? bytes m n = some part) :
    Evaluates call vars c (.span x a b) (.bytes part) c'' := by
  rw [Evaluates, eval, run_bind_of_eq (valueOf_field h hfield), run_lift_bind (bytes?_bytes _),
    run_bind_of_eq ha, run_lift_bind (int?_i32 m), run_bind_of_eq hb, run_lift_bind (int?_i32 n),
    run_lift_bind hpart]
  rfl

theorem checked {type : String} (h : Evaluates call vars c e v c') (hv : checked? type v = some w) :
    Evaluates call vars c (.checked type e) w c' := by
  rw [Evaluates, eval, run_bind_of_eq h, hv]
  rfl

theorem unchecked {type : String} (h : Evaluates call vars c e v c')
    (hv : unchecked? type v = some w) : Evaluates call vars c (.unchecked type e) w c' := by
  rw [Evaluates, eval, run_bind_of_eq h, hv]
  rfl

theorem ofCall {f : String} (h : (call f none).run c = some (v, c')) :
    Evaluates call vars c (.call f) v c' := h

theorem apply {f : String} (h : Evaluates call vars c e v c')
    (hf : (call f (some v)).run c' = some (w, c'')) : Evaluates call vars c (.apply f e) w c'' := by
  rw [Evaluates, eval, run_bind_of_eq h, hf]

end Expr.Evaluates

namespace Returns

theorem guard (h : e.Evaluates call vars c (.primitive (.bool false)) c')
    (hrest : Returns call vars c' rest v c'') : Returns call vars c (.guard e :: rest) v c'' := by
  rw [Returns, runAll, run_bind_of_eq h, run_lift_bind (flag?_bool _)]
  exact hrest

theorem bind (h : e.Evaluates call vars c v c')
    (hrest : Returns call ((x, v) :: vars) c' rest w c'') :
    Returns call vars c (.bind x e :: rest) w c'' := by
  rw [Returns, runAll, run_bind_of_eq h]
  exact hrest

theorem assign {next : Cursor} (h : e.Evaluates call vars c v c')
    (hnext : c'.assign? x v = some next)
    (hrest : Returns call vars next rest w c'') :
    Returns call vars c (.assign x e :: rest) w c'' := by
  rw [Returns, runAll, run_bind_of_eq h, run_get_bind, run_lift_bind hnext, run_set_bind]
  exact hrest

theorem add {next : Cursor} (h : e.Evaluates call vars c (.primitive (.i32 n)) c')
    (hfield : c'.field? x = some (.primitive (.i32 m)))
    (hnext : c'.assign? x (.primitive (.i32 (m + n))) = some next)
    (hrest : Returns call vars next rest w c'') : Returns call vars c (.add x e :: rest) w c'' := by
  rw [Returns, runAll, run_bind_of_eq h, run_lift_bind (int?_i32 n),
    run_bind_of_eq (valueOf_field rfl hfield), run_lift_bind (int?_i32 m), run_get_bind,
    run_lift_bind hnext, run_set_bind]
  exact hrest

theorem return_ (h : e.Evaluates call vars c v c') :
    Returns call vars c (.return_ e :: rest) v c' := h

theorem choose {byte : UInt8} {arms : List (Nat × Expr)}
    (h : e.Evaluates call vars c (.primitive (.u8 byte)) c')
    (harm : arms.lookup byte.toNat = some a)
    (hvalue : a.Evaluates call vars c' v c'') :
    Returns call vars c (.choose e arms :: rest) v c'' := by
  rw [Returns, runAll, run_bind_of_eq h, run_lift_bind (byte?_u8 _), run_lift_bind harm]
  exact hvalue

end Returns

/-- A method returns what its statements return, if that is of its type. -/
theorem Method.run_eq {method : Method} {arg : Option Value}
    (hvars : method.variables? arg = some vars)
    (h : Returns call vars c method.body v c') (htype : v.type = method.type) :
    (method.run call arg).run c = some (v, c') := by
  rw [Method.run, run_lift_bind hvars, run_bind_of_eq h, if_pos htype]
  rfl

end Rules

/-! ## Taking bytes -/

/-- **`Take` takes as many bytes as it is asked for**, if the array has them. -/
theorem run_take {front bytes rest : List UInt8}
    (h : (front ++ (bytes ++ rest)).length < arrayLimit)
    (call : String → Option Value → Eval Value) :
    (takeMethod.run call (some (count bytes))).run (.between front (bytes ++ rest)) =
      some (.bytes bytes, .between (front ++ bytes) rest) := by
  have hlength := h
  rw [List.length_append, List.length_append, arrayLimit] at hlength
  have hbytes : bytes.length < 2 ^ 31 := by omega
  have hzero : decide (Int32.ofNat bytes.length < Int32.ofNat 0) = false := by
    rw [decide_eq_false_iff_not, Int32.ofNat_lt_iff_lt hbytes (by decide)]
    omega
  have henough : decide (Int32.ofNat (front ++ (bytes ++ rest)).length - Int32.ofNat front.length <
      Int32.ofNat bytes.length) = false := by
    have htotal : (front ++ (bytes ++ rest)).length - front.length < 2 ^ 31 := by
      rw [List.length_append, List.length_append]
      omega
    rw [decide_eq_false_iff_not, ← Int32.ofNat_sub _ _ (by simp),
      Int32.ofNat_lt_iff_lt htotal hbytes]
    simp only [List.length_append]
    omega
  have hvars : takeMethod.variables? (some (count bytes)) = some [("count", count bytes)] := rfl
  refine Method.run_eq hvars ?_ rfl
  have hcount : (Expr.name "count").Evaluates call [("count", count bytes)]
      (.between front (bytes ++ rest)) (count bytes) (.between front (bytes ++ rest)) :=
    .ofVariable rfl
  have hfield : (Expr.name "_pos").Evaluates call [("count", count bytes)]
      (.between front (bytes ++ rest)) (count front) (.between front (bytes ++ rest)) :=
    .ofField rfl rfl
  have hsize : (Expr.length "_bytes").Evaluates call [("count", count bytes)]
      (.between front (bytes ++ rest)) (count (front ++ (bytes ++ rest)))
      (.between front (bytes ++ rest)) :=
    .length rfl rfl
  have hnegative := hcount.less (.number 0)
  rw [hzero] at hnegative
  have hshort := (hsize.minus hfield).less hcount
  rw [henough] at hshort
  refine .guard (hnegative.or hshort) ?_
  refine .bind (.span rfl rfl hfield hcount (slice?_between h)) ?_
  refine .add (.ofVariable rfl) rfl ?_ (.return_ (.ofVariable rfl))
  show some (Cursor.mk (front ++ (bytes ++ rest))
    (Int32.ofNat front.length + Int32.ofNat bytes.length)) = _
  rw [← Int32.ofNat_add, ← List.length_append, ← List.append_assoc]
  rfl

/-! ## Reading items -/

section Reads

variable {front bytes rest : List UInt8} {above : List Method}

/-- `above` are the methods of the class that are declared above a method that reads items. -/
def Below (above : List Method) : Prop :=
  ∃ reads, (∀ m ∈ reads, m ∈ readMethods) ∧ above = reads ++ [takeMethod, constructor_]

/-- Each of `readMethods` is found by its name, and calls those declared above it. -/
private theorem exists_call {m : Method} (hm : m ∈ readMethods) : ∃ above, Below above ∧
    ∀ arg, call methods.reverse m.name arg = m.run (call above) arg := by
  have hnodup : (readMethods.reverse.map (·.name)).Nodup := by decide +kernel
  obtain ⟨front, reads, hsplit⟩ := List.append_of_mem (List.mem_reverse.mpr hm)
  refine ⟨reads ++ [takeMethod, constructor_], ⟨reads, ?_, rfl⟩, fun arg => ?_⟩
  · intro m' hm'
    rw [← List.mem_reverse, hsplit]
    simp [hm']
  · have hmethods : methods.reverse =
        front ++ m :: (reads ++ [takeMethod, constructor_]) := by
      show readMethods.reverse ++ [takeMethod, constructor_] = _
      rw [hsplit, List.append_assoc, List.cons_append]
    have hfront : ∀ m' ∈ front, m'.name ≠ m.name := by
      rw [hsplit, List.map_append, List.map_cons] at hnodup
      intro m' hm' heq
      exact (List.nodup_append.mp hnodup).2.2 m'.name (List.mem_map_of_mem hm') m.name
        List.mem_cons_self heq
    rw [hmethods, call_append hfront, call_self]

/-- Each of `readMethods` finds `Take` among the methods above it. -/
private theorem call_take (h : Below above) (arg : Option Value) :
    ∃ below, call above "Take" arg = takeMethod.run below arg := by
  obtain ⟨reads, hreads, rfl⟩ := h
  have hne : ∀ m ∈ readMethods, m.name ≠ "Take" := by decide +kernel
  exact ⟨_, (call_append (fun m hm => hne m (hreads m hm)) _).trans (call_self takeMethod _)⟩

/-- A function that is none of `methods` is one of the `library?`. -/
private theorem run_library (h : Below above) {f : String} (hne : ∀ m ∈ methods, m.name ≠ f)
    {v : Value} (hv : library? f bytes = some v) (c : Cursor) :
    (call above f (some (.bytes bytes))).run c = some (v, c) := by
  obtain ⟨reads, hreads, rfl⟩ := h
  have hnone : ∀ m ∈ reads ++ [takeMethod, constructor_], m.name ≠ f := by
    intro m hm
    refine hne m ?_
    obtain hm | hm := List.mem_append.mp hm
    · exact List.mem_cons_of_mem _ (List.mem_cons_of_mem _ (hreads m hm))
    · simp only [List.mem_cons, List.not_mem_nil, or_false] at hm
      obtain rfl | rfl := hm <;> simp [methods]
  have hcall : call ((reads ++ [takeMethod, constructor_]) ++ []) f (some (.bytes bytes)) = _ :=
    call_append hnone []
  rw [List.append_nil] at hcall
  rw [hcall]
  show (liftM (library? f bytes) : Eval Value).run c = _
  rw [hv]
  rfl

/-- The call of `Take` gives the next bytes. -/
private theorem evaluates_take (habove : Below above)
    (h : (front ++ (bytes ++ rest)).length < arrayLimit) {vars : Variables} {e : Expr}
    (he : e.Evaluates (call above) vars (.between front (bytes ++ rest)) (count bytes)
      (.between front (bytes ++ rest))) :
    (Expr.apply "Take" e).Evaluates (call above) vars (.between front (bytes ++ rest))
      (.bytes bytes) (.between (front ++ bytes) rest) := by
  obtain ⟨below, htake⟩ := call_take habove (some (count bytes))
  refine he.apply ?_
  rw [htake]
  exact run_take h below

private theorem evaluates_taken (habove : Below above)
    (h : (front ++ (bytes ++ rest)).length < arrayLimit) (vars : Variables) :
    (taken bytes.length).Evaluates (call above) vars (.between front (bytes ++ rest)) (.bytes bytes)
      (.between (front ++ bytes) rest) :=
  evaluates_take habove h (.number _)

private theorem evaluates_takenByte (habove : Below above) (byte : UInt8)
    (h : (front ++ ([byte] ++ rest)).length < arrayLimit) (vars : Variables) :
    takenByte.Evaluates (call above) vars (.between front ([byte] ++ rest)) (.primitive (.u8 byte))
      (.between (front ++ [byte]) rest) :=
  (evaluates_taken habove h vars).element rfl

/-- A `flagMethod` reads a byte that is zero or one. -/
private theorem run_flag (habove : Below above) (name : String) (b : Bool)
    (h : (front ++ (Wire.bytesOf 1 b.toNat ++ rest)).length < arrayLimit) :
    ((flagMethod name).run (call above) none).run
        (.between front (Wire.bytesOf 1 b.toNat ++ rest)) =
      some (.primitive (.bool b), .between (front ++ Wire.bytesOf 1 b.toNat) rest) := by
  cases b with
  | false =>
    have hbyte := evaluates_takenByte habove 0 h []
    exact Method.run_eq rfl (.choose hbyte rfl (.flag false)) rfl
  | true =>
    have hbyte := evaluates_takenByte habove 1 h []
    exact Method.run_eq rfl (.choose hbyte rfl (.flag true)) rfl

/-- A `wordMethod` reads a word of more than one byte. -/
private theorem run_word (habove : Below above) {v : PrimitiveValue} (hv : v.type.size ≠ 1)
    (h : (front ++ ((Wire.Item.primitive v).bytes ++ rest)).length < arrayLimit) :
    ((wordMethod v.type).run (call above) none).run
        (.between front ((Wire.Item.primitive v).bytes ++ rest)) =
      some (.primitive v, .between (front ++ (Wire.Item.primitive v).bytes) rest) := by
  have hwords : ∀ p ∈ Primitive.all, p.size ≠ 1 → wordType? (wordFunction p) = some p ∧
      wordFunction p ≠ "Encoding.UTF8.GetString" ∧ ∀ m ∈ methods, m.name ≠ wordFunction p := by
    decide +kernel
  obtain ⟨hword, htext, hname⟩ := hwords v.type v.type.mem_all hv
  have hsize : (Wire.Item.primitive v).bytes.length = v.type.size := Wire.length_bytesOf _ _
  have hlibrary : library? (wordFunction v.type) (Wire.Item.primitive v).bytes =
      some (.primitive v) := by
    rw [library?, if_neg htext, hword]
    simp only [hsize, Nat.le_refl, if_true]
    rw [List.take_of_length_le (Nat.le_of_eq hsize), Wire.Item.bytes,
      Wire.ofBytes_bytesOf v.word_lt, PrimitiveValue.ofWord_word]
  have hbytes := evaluates_taken habove h []
  rw [hsize] at hbytes
  exact Method.run_eq rfl (.return_ (hbytes.apply (run_library habove hname hlibrary _))) rfl

end Reads

section Items

variable {front rest : List UInt8}

private theorem primitiveMethod_mem (p : Primitive) : primitiveMethod p ∈ readMethods := by
  cases p <;> simp [readMethods]

private theorem primitiveMethod_name (p : Primitive) : (primitiveMethod p).name = readName p := by
  cases p <;> rfl

/-- The `primitiveMethod` for a type reads its values. -/
private theorem run_primitive (v : PrimitiveValue)
    (h : (front ++ ((Wire.Item.primitive v).bytes ++ rest)).length < arrayLimit) :
    (call methods.reverse (readName v.type) none).run
        (.between front ((Wire.Item.primitive v).bytes ++ rest)) =
      some (.primitive v, .between (front ++ (Wire.Item.primitive v).bytes) rest) := by
  obtain ⟨above, habove, hcall⟩ := exists_call (primitiveMethod_mem v.type)
  rw [← primitiveMethod_name, hcall]
  cases v with
  | bool b => exact run_flag habove _ b h
  | u8 n =>
    have hbytes : (Wire.Item.primitive (.u8 n)).bytes = [n] := by
      simp [Wire.Item.bytes, PrimitiveValue.type, PrimitiveValue.word, Primitive.size, Wire.bytesOf]
    rw [hbytes] at h ⊢
    exact Method.run_eq rfl (.return_ (evaluates_takenByte habove n h [])) rfl
  | i8 n =>
    have hbytes : (Wire.Item.primitive (.i8 n)).bytes = [n.toUInt8] := by
      simp [Wire.Item.bytes, PrimitiveValue.type, PrimitiveValue.word, Primitive.size, Wire.bytesOf]
    rw [hbytes] at h ⊢
    exact Method.run_eq rfl (.return_ ((evaluates_takenByte habove n.toUInt8 h []).unchecked rfl))
      rfl
  | _ => exact run_word habove (by simp [PrimitiveValue.type, Primitive.size]) h

/-- A method below `front` is called there as it is called from outside. -/
private theorem call_above {front above : List Method} (hsplit : methods.reverse = front ++ above)
    {f : String} (hfront : ∀ m ∈ front, m.name ≠ f) (arg : Option Value) :
    call above f arg = call methods.reverse f arg := by
  rw [hsplit, call_append hfront]

private theorem run_handle (n : UInt64)
    (h : (front ++ ((Wire.Item.handle n).bytes ++ rest)).length < arrayLimit) :
    (call methods.reverse "ReadHandle" none).run
        (.between front ((Wire.Item.handle n).bytes ++ rest)) =
      some (.primitive (.u64 n), .between (front ++ (Wire.Item.handle n).bytes) rest) := by
  have hsplit : methods.reverse = [textMethod] ++ handleMethod :: methods.reverse.drop 2 := rfl
  have habove : methods.reverse = [textMethod, handleMethod] ++ methods.reverse.drop 2 := rfl
  have hcall : call methods.reverse "ReadHandle" none =
      handleMethod.run (call (methods.reverse.drop 2)) none := by
    conv_lhs => rw [hsplit]
    rw [call_append (by decide +kernel)]
    exact call_self handleMethod _
  have hword : (call methods.reverse "ReadU64" none).run _ = _ := run_primitive (.u64 n) h
  rw [← call_above habove (by decide +kernel)] at hword
  rw [hcall]
  exact Method.run_eq rfl (.return_ (.ofCall hword)) rfl

/-- The length in front of a text, as `ReadString` reads it. -/
private theorem evaluates_length {bytes : List UInt8} {above : List Method}
    (habove : call above "ReadU32" none = call methods.reverse "ReadU32" none)
    (hbytes : bytes.length < arrayLimit)
    (h : (front ++ (Wire.bytesOf 4 bytes.length ++ rest)).length < arrayLimit) (vars : Variables) :
    (Expr.checked "int" (.call "ReadU32")).Evaluates (call above) vars
      (.between front (Wire.bytesOf 4 bytes.length ++ rest)) (count bytes)
      (.between (front ++ Wire.bytesOf 4 bytes.length) rest) := by
  have hnumber : (UInt32.ofNat bytes.length).toNat = bytes.length := by
    rw [UInt32.toNat_ofNat']
    rw [arrayLimit] at hbytes
    omega
  have hitem : (Wire.Item.primitive (.u32 (UInt32.ofNat bytes.length))).bytes =
      Wire.bytesOf 4 bytes.length := by
    show Wire.bytesOf 4 (UInt32.ofNat bytes.length).toNat = _
    rw [hnumber]
  have hword : (call methods.reverse "ReadU32" none).run _ = _ :=
    run_primitive (.u32 (UInt32.ofNat bytes.length)) (by rwa [hitem])
  rw [← habove, hitem] at hword
  refine (Expr.Evaluates.ofCall hword).checked ?_
  rw [checked?, hnumber, if_pos ⟨rfl, hbytes⟩, count]

private theorem run_text (s : String)
    (h : (front ++ ((Wire.Item.str s).bytes ++ rest)).length < arrayLimit) :
    (call methods.reverse "ReadString" none).run
        (.between front ((Wire.Item.str s).bytes ++ rest)) =
      some (.text s, .between (front ++ (Wire.Item.str s).bytes) rest) := by
  have habove : methods.reverse = [textMethod] ++ methods.reverse.drop 1 := rfl
  have hbelow : Below (methods.reverse.drop 1) :=
    ⟨readMethods.reverse.drop 1, fun m hm => List.mem_reverse.mp (List.mem_of_mem_drop hm), rfl⟩
  have hcall : call methods.reverse "ReadString" none =
      textMethod.run (call (methods.reverse.drop 1)) none := by
    conv_lhs => rw [habove]
    exact call_self textMethod _
  have hitem : (Wire.Item.str s).bytes =
      Wire.bytesOf 4 (Text.Utf8.encode s).length ++ Text.Utf8.encode s := rfl
  rw [hcall, hitem]
  rw [hitem] at h
  generalize hbytes : Text.Utf8.encode s = bytes at h ⊢
  rw [List.append_assoc] at h ⊢
  have hsize : bytes.length < arrayLimit := by
    rw [List.length_append, List.length_append, List.length_append] at h
    omega
  have hlength := evaluates_length (call_above habove (by decide +kernel) none) hsize h []
  have htotal : (front ++ Wire.bytesOf 4 bytes.length ++ (bytes ++ rest)).length < arrayLimit := by
    rwa [List.append_assoc]
  have htaken : (Expr.apply "Take" (.name "len")).Evaluates (call (methods.reverse.drop 1))
      [("len", count bytes)] _ _ _ :=
    evaluates_take hbelow htotal (.ofVariable rfl)
  have hdecoded : library? "Encoding.UTF8.GetString" bytes = some (.text s) := by
    rw [library?, if_pos rfl, ← hbytes, Text.Utf8.decode_encode]
  rw [← List.append_assoc front]
  exact Method.run_eq rfl (.bind hlength (.return_ (htaken.apply
    (run_library hbelow (by decide +kernel) hdecoded _)))) rfl

end Items

end Boundary.Managed.Reader

/-- The value that managed code has for an `Item`. -/
def Boundary.Wire.Item.managed : Boundary.Wire.Item → Boundary.Managed.Reader.Value
  | .primitive v => .primitive v
  | .presence b => .primitive (.bool b)
  | .handle h => .primitive (.u64 h)
  | .str s => .text s

namespace Boundary.Managed.Reader

/-- The method that reads the items of an `ItemKind`. -/
def methodFor : Wire.ItemKind → String
  | .primitive p => "Read" ++ Naming.pascal p.name
  | .presence => "ReadPresence"
  | .handle => "ReadHandle"
  | .str => "ReadString"

private theorem readName_eq (p : Primitive) : readName p = "Read" ++ Naming.pascal p.name := by
  cases p <;> decide +kernel

/-- **The method for an item, `methodFor`, takes the bytes of the item** from where the object
stands, and gives its value. -/
theorem run_read {front rest : List UInt8} (i : Wire.Item)
    (h : (front ++ (i.bytes ++ rest)).length < arrayLimit) :
    (call methods.reverse (methodFor i.kind) none).run (.between front (i.bytes ++ rest)) =
      some (i.managed, .between (front ++ i.bytes) rest) := by
  cases i with
  | primitive v =>
    rw [Wire.Item.kind, methodFor, ← readName_eq]
    exact run_primitive v h
  | presence b =>
    have hmem : flagMethod "ReadPresence" ∈ readMethods := List.mem_of_getElem? (i := 1) rfl
    obtain ⟨above, habove, hcall⟩ := exists_call hmem
    exact (congrFun (hcall none) _).trans (run_flag habove "ReadPresence" b h)
  | handle n => exact run_handle n h
  | str s => exact run_text s h

end Boundary.Managed.Reader
