import Boundary.Proofs.EntryPoint
import Boundary.Proofs.Native.Calls

/-!
# What a call does to the tables

A call of an entry point removes the handles that it surrenders and puts in the value behind the
handle that it hands back, and nothing else. A call that breaks the contract of the boundary
changes nothing, unless its function can find so after it has consumed a handle.

* `Schema.returned`, `Schema.surrendered`: what the call of an entry point is about.
* `ExportedFunction.IsCareful`: a function whose calls break the contract before they consume.
* `Accounted`: what a call may do.
* `Accepted.accounted`: that is what it does.
-/

namespace Boundary

open Fallible Native

/-! ## What a call is about -/

/-- The type that an entry point returns. -/
def Schema.returned (s : Schema) : EntryPurpose → TypeRef
  | .bufferFree | .free _ => .unit
  | .ctor id | .variantCtor id _ => .handle id
  | .getter id i => (((s.struct? id).bind (·.fields[i]?)).map (·.type)).getD .unit
  | .tag _ => .primitive .u32
  | .variantGetter id i j =>
    ((((s.enum? id).bind (·.variants[i]?)).bind (·.payload.fields[j]?)).map (·.type)).getD .unit
  | .function id => ((s.function? id).map (·.returns)).getD .unit

/-- The handles that a call surrenders: the one that it releases, or those that it consumes. -/
def Schema.surrendered (s : Schema) (args : List FlatValue) : EntryPurpose → List (TypeId × Handle)
  | .free id =>
    match args with
    | .handle h :: _ => [(id, h)]
    | _ => []
  | .function id => ((s.function? id).map (·.consumed args)).getD []
  | _ => []

/-- The number of arguments that calls of a function consume. -/
def ExportedFunction.consumers (f : ExportedFunction) : Nat :=
  f.params.countP (·.mode = .transfer) +
    match f.receiver with
    | .byValue _ => 1
    | _ => 0

/-- Calls of the function cannot break the contract after they have consumed a handle: they consume
at most one, and then have no error to serialize. -/
def ExportedFunction.IsCareful (f : ExportedFunction) : Prop :=
  f.consumers = 0 ∨ f.consumers = 1 ∧ f.returns.error? = none

instance (f : ExportedFunction) : Decidable f.IsCareful := inferInstanceAs (Decidable (_ ∨ _))

theorem ExportedFunction.length_consumed_le (f : ExportedFunction) (args : List FlatValue) :
    (f.consumed args).length ≤ f.consumers := by
  rw [consumed, consumers, List.length_append]
  refine Nat.add_le_add ?_ ?_
  · rw [List.length_filterMap_eq_countP]
    have hparams : f.params.countP (·.mode = .transfer) =
        f.params.zipIdx.countP (fun p => p.1.mode = .transfer) := by
      conv_lhs => rw [← List.zipIdx_map_fst 0 f.params, List.countP_map]
      rfl
    rw [hparams]
    refine List.countP_mono_left ?_
    rintro ⟨p, i⟩ - hsome
    unfold Param.consumed? at hsome
    dsimp only at hsome
    split at hsome
    · simpa
    · cases hsome
  · cases f.receiver with
    | byValue id => cases f.receiverArg args <;> simp [Receiver.consumed?]
    | _ => simp [Receiver.consumed?]

theorem TypeRef.handle?_void (t : TypeRef) : t.handle? .void = none := by
  induction t with
  | result ok err ih => exact ih
  | _ => rfl

/-! ## What a call may do -/

namespace Native

variable {α : Type} {ts : Tables} {t : TypeRef} {cs : List (TypeId × Handle)}

/-- What a call may do to the tables, where it returns a value of the type and surrenders the
handles. -/
inductive Accounted (t : TypeRef) (cs : List (TypeId × Handle)) (ts : Tables) :
    Except Trap FlatValue × Tables → Prop
  | unchanged (trap : Trap) (hcode : trap.code = .contract) : Accounted t cs ts (.error trap, ts)
  | done {end_ : Except Trap FlatValue} {ts' : Tables} (hcode : callCode end_ ≠ .contract)
    (hstored : (ts.removeAll cs).Stored (t.handedBack? end_) ts')
    (hlive : (∀ d ∈ cs, ts.Live d) ∨ t.handedBack? end_ = none) : Accounted t cs ts (end_, ts')

theorem Accounted.of_ok {v : FlatValue} {ts' : Tables} (h : ts.Stored (t.handle? v) ts') :
    Accounted t [] ts (.ok v, ts') := by
  refine .done nofun ?_ (.inl nofun)
  cases t <;> exact h

theorem Accounted.of_reads {x : Machine α} {f : α → Machine FlatValue} {p : Prop}
    (hx : Machine.Reads ts p (x.run ts)) (hf : ∀ a, Accounted t [] ts ((f a).run ts)) :
    Accounted t [] ts ((x >>= f).run ts) := by
  rw [run_bind]
  generalize x.run ts = r at hx
  cases hx with
  | ok a _ => exact hf a
  | error trap hcode _ => exact .unchanged trap hcode

theorem Accounted.of_contract {r : Except Trap FlatValue × Tables}
    (hcode : callCode r.1 = .contract) (h : r.2 = ts) : Accounted t cs ts r := by
  obtain ⟨end_, ts'⟩ := r
  obtain rfl : ts' = ts := h
  cases end_ with
  | ok v => cases hcode
  | error trap => exact .unchanged trap hcode

theorem accounted_void (t : TypeRef) : Accounted t [] ts (.ok .void, ts) :=
  .of_ok (t.handle?_void ▸ .nothing)

theorem accounted_lowering (t : TypeRef) (v : NativeValue) :
    Accounted t [] ts (((Lowering.of t).run v).run ts) := by
  obtain ⟨r, ts', hrun, hstored⟩ := exists_run_lowering t v ts
  rw [hrun]
  exact .of_ok hstored

private theorem isGentle_of_mem_ownedSteps {fields : List (String × TypeRef)} {s : Step}
    (hs : s ∈ ownedSteps fields) : s.IsGentle := by
  obtain ⟨⟨⟨name, t⟩, i⟩, -, hstep⟩ := List.mem_filterMap.mp hs
  dsimp only [ownedStep?] at hstep
  split at hstep
  · cases hstep
    exact Lift.isGentle_of (by decide) t
  · cases hstep

private theorem accounted_construct (library : Library) (args : List FlatValue) (id : TypeId)
    (fields : List (String × TypeRef)) (value : Construction) :
    Accounted (.handle id) [] ts
      (((Body.construct id (ownedSteps fields) value).run library args).run ts) :=
  .of_reads (runSteps_reads (fun _ => isGentle_of_mem_ownedSteps) _)
    fun _ => .of_ok (.value id _)

private theorem reads_fieldOfVariant (v : VariantRef) (field : Nat) (value : NativeValue) :
    ∃ p, Machine.Reads ts p ((fieldOfVariant v field value).run ts) := by
  cases value with
  | variant place fields =>
    simp only [fieldOfVariant]
    split
    · exact ⟨_, .pure _⟩
    · exact ⟨False, .error _ rfl id⟩
  | _ => exact ⟨False, .error _ rfl id⟩

private theorem accounted_field (library : Library) (args : List FlatValue) (id : TypeId)
    (place : Nat) (name : String) (isNumber : Bool) (t : TypeRef) :
    Accounted t [] ts
      (((Body.field id place name isNumber (Lowering.of t)).run library args).run ts) := by
  cases args with
  | nil => exact accounted_void t
  | cons a rest =>
    cases a with
    | handle h => exact .of_reads (reads_lookup id h) fun _ => accounted_lowering t _
    | _ => exact accounted_void t

private theorem accounted_variantField (library : Library) (args : List FlatValue) (id : TypeId)
    (v : VariantRef) (place : Nat) (name : FieldName) (isNumber : Bool) (t : TypeRef) :
    Accounted t [] ts
      (((Body.variantField id v place name isNumber (Lowering.of t)).run library args).run ts) := by
  cases args with
  | nil => exact accounted_void t
  | cons a rest =>
    cases a with
    | handle h =>
      refine .of_reads (reads_lookup id h) fun value => ?_
      obtain ⟨p, hfield⟩ := reads_fieldOfVariant v place value
      exact .of_reads hfield fun _ => accounted_lowering t _
    | _ => exact accounted_void t

private theorem accounted_tag (library : Library) (args : List FlatValue) (id : TypeId)
    (arms : List (VariantRef × Nat)) :
    Accounted (.primitive .u32) [] ts (((Body.tag id arms).run library args).run ts) := by
  cases args with
  | nil => exact accounted_void _
  | cons a rest =>
    cases a with
    | handle h => exact .of_reads (reads_lookup id h) fun _ => .of_ok .nothing
    | _ => exact accounted_void _

private theorem accounted_release (s : Schema) (library : Library) (args : List FlatValue)
    (id : TypeId) :
    Accounted .unit (s.surrendered args (.free id)) ts
      (((Body.release id).run library args).run ts) := by
  cases args with
  | nil => exact accounted_void _
  | cons a rest =>
    cases a with
    | handle h => exact .done nofun .nothing (.inr rfl)
    | _ => exact accounted_void _

/-- A call of a careful function. -/
theorem accounted_callFunction {f : ExportedFunction} (hcareful : f.IsCareful)
    (hf : ∀ p ∈ f.params, p.mode = .transfer → ∃ id, p.type = .handle id) (library : Library)
    (owner : Option String) (hlibrary : ∀ values, (library owner f.name values).Suits f.returns)
    (args : List FlatValue) (ts : Tables) :
    Accounted f.returns (f.consumed args) ts
      (((callFunction owner f).run library args).run ts) := by
  have hlength := f.length_consumed_le args
  rw [run_callFunction, run_bind]
  obtain ⟨-, trap, hcode, hrun⟩ | ⟨-, htakes⟩ := runSteps_callSteps hf
    (.initial (f.paramArgs args)) args ts
  · rw [hrun]
    exact .unchanged trap hcode
  generalize (runSteps (f.receiverArg args) (f.paramArgs args) (.initial (f.paramArgs args))
    (callSteps f)).run ts = r at htakes
  generalize f.consumed args = cs at htakes hlength
  cases htakes with
  | ok frame htakable =>
    dsimp only
    obtain ⟨-, hcode, c, hstored, hsuits⟩ | ⟨hfits, hcode, hsame⟩ :=
      answered f.returns (library owner f.name (frame.values f)) (ts.removeAll cs)
    · rw [hsuits (hlibrary _)] at hstored
      exact .done hcode hstored (.inl (Tables.takable_iff.mp htakable).2)
    · obtain hnone | ⟨-, herror⟩ := hcareful
      · rw [hnone, Nat.le_zero, List.length_eq_zero_iff] at hlength
        subst hlength
        exact .of_contract hcode hsame
      · refine absurd (Outcome.fits_of_ne_result ?_) hfits
        intro ok err hresult
        rw [hresult] at herror
        cases herror
  | @error front back c trap hcode hfront hdead =>
    -- No handle stands before the one that is not live.
    have hle : f.consumers ≤ 1 := by
      obtain h | ⟨h, -⟩ := hcareful <;> omega
    obtain rfl : front = [] := by
      rw [List.length_append, List.length_cons] at hlength
      exact List.eq_nil_of_length_eq_zero (by omega)
    exact .unchanged trap hcode

end Native

namespace Accepted

variable {facade : String} {ds : List Declaration} {s : Schema} {start : String}

/-- **What a call of an entry point does to the tables.** It changes nothing if it breaks the
contract of the boundary; otherwise it removes what it surrenders and puts in what it hands back. -/
theorem accounted (h : Accepted facade ds s) (hcareful : ∀ f ∈ s.functions, f.IsCareful)
    {library : Library} (hlibrary : ∀ f ∈ s.functions, ∀ values,
      (library (s.ownerName f) f.name values).Suits f.returns)
    {e : EntryPoint} (he : e ∈ s.entryPoints start) (args : List FlatValue) (ts : Tables) :
    Native.Accounted (s.returned e.purpose) (s.surrendered args e.purpose) ts
      (s.call library e args ts) := by
  obtain ⟨kind, entry, hentry, rfl⟩ := Schema.exists_entry_of_mem he
  have hfunction {f : ExportedFunction} (hf : f ∈ s.functions) :
      Native.Accounted (s.returned (.function f.id)) (s.surrendered args (.function f.id)) ts
        (s.call library (s.functionEntry start f) args ts) := by
    rw [h.call_functionEntry hf, Schema.returned, Schema.surrendered, h.function?_of_mem hf]
    exact accounted_callFunction (hcareful f hf) (fun p => h.exists_handle_of_transfer hf) library
      _ (hlibrary f hf) args ts
  cases hentry with
  | bufferFree => exact accounted_void _
  | @ctor x hx =>
    rw [Schema.call, h.body?_ctor hx]
    exact accounted_construct library args _ _ _
  | @getter x hx i f hf =>
    have hreturned : s.returned (x.getterEntry i f start).purpose = f.type := by
      simp [ExportedStruct.getterEntry, Schema.returned, h.struct?_of_mem hx, hf]
    rw [Schema.call, h.body?_getter hx hf, hreturned]
    exact accounted_field library args _ _ _ _ _
  | @variantCtor x hx i v hv =>
    rw [Schema.call, h.body?_variantCtor hx hv]
    exact accounted_construct library args _ _ _
  | @tag x hx =>
    rw [Schema.call, h.body?_tag hx]
    exact accounted_tag library args _ _
  | @variantGetter x hx i v hv j f hf =>
    have hreturned : s.returned (x.getterEntry i v j f start).purpose = f.type := by
      simp [ExportedEnum.getterEntry, Schema.returned, h.enum?_of_mem hx, hv, hf]
    rw [Schema.call, h.body?_variantGetter hx hv hf, hreturned]
    exact accounted_variantField library args _ _ _ _ _ _
  | free hname => exact accounted_release s library args _
  | function hf _ | method hf _ => exact hfunction hf

end Accepted

end Boundary
