import Mathlib.Data.List.Perm.Basic
import Boundary.Proofs.Managed.Listing

/-!
# Every entry point is called once

The calls in the classes of a managed file belong to the entry points of its schema, one to one.
They stand in another order: the functions that are called on a type are called in its class.

* `EntryPoint.CalledBy`: a call passes an entry point what it takes.
* `Schema.called`: the entry points in the order of their calls.
* `served_wrapper`, `served_enumClass`, `served_file`: the calls in the classes and in the file.
* `called_perm`: no entry point is left out or called twice.
-/

namespace Boundary

open Managed Text

/-- A statement calls the entry point with one argument for each parameter and the status. -/
structure EntryPoint.CalledBy (e : EntryPoint) (a : Application) : Prop where
  name : a.name = Naming.managedIdent e.symbol
  args : a.args.length = e.params.length + 1
  status : a.args.getLast? = some "ref __status" ∨ a.args.getLast? = some "ref status"
  back : a.back = [';']

/-- What is said in a file is a call of the entry point. -/
def EntryPoint.Serves (e : EntryPoint) (m : Mark) : Prop := ∃ a, m = .call a ∧ e.CalledBy a

theorem serves_callOf {e : EntryPoint} {args : List String} {status : String}
    (hargs : args.length = e.params.length)
    (hstatus : status = "ref __status" ∨ status = "ref status") :
    e.Serves (callOf (Naming.managedIdent e.symbol) args status) := by
  have hlast : ((args ++ [status]).map trimStart).getLast? = some status := by
    have htrim : trimStart status = status := by
      obtain rfl | rfl := hstatus <;> exact trimStart_ofList (by decide)
    simp [htrim]
  refine ⟨_, rfl, rfl, by simp [hargs], ?_, rfl⟩
  rw [hlast]
  exact hstatus.imp (congrArg some) (congrArg some)

theorem serves_entryCall {e : EntryPoint} {args : List String}
    (hargs : args.length = e.params.length) : e.Serves (entryCall e.symbol args) :=
  serves_callOf hargs (.inl rfl)

/-! ## Lists of calls -/

/-- Some statements are calls of some entry points, one to one. -/
def Served (es : List EntryPoint) (ms : List Mark) : Prop := List.Forall₂ EntryPoint.Serves es ms

theorem Served.append {es es' : List EntryPoint} {ms ms' : List Mark} (h : Served es ms)
    (h' : Served es' ms') : Served (es ++ es') (ms ++ ms') := List.rel_append h h'

theorem served_singleton {e : EntryPoint} {m : Mark} (h : e.Serves m) : Served [e] [m] :=
  .cons h .nil

theorem served_map {β : Type} {entry : β → EntryPoint} {mark : β → Mark} {bs : List β}
    (h : ∀ b ∈ bs, (entry b).Serves (mark b)) : Served (bs.map entry) (bs.map mark) := by
  rw [Served, List.forall₂_map_left_iff, List.forall₂_map_right_iff, List.forall₂_same]
  exact h

theorem served_flatMap {β : Type} {entries : β → List EntryPoint} {marks : β → List Mark}
    {bs : List β} (h : ∀ b ∈ bs, Served (entries b) (marks b)) :
    Served (bs.flatMap entries) (bs.flatMap marks) := by
  induction bs with
  | nil => exact .nil
  | cons b rest ih => exact (h b (by simp)).append (ih fun c hc => h c (by simp [hc]))

theorem map_fst_zipIdx {β γ : Type} (f : β → γ) (bs : List β) :
    bs.zipIdx.map (fun b => f b.1) = bs.map f := by
  have hfirst := congrArg (List.map f) (List.zipIdx_map_fst 0 bs)
  rwa [List.map_map] at hfirst

theorem served_zipIdx {β : Type} {entry : β × Nat → EntryPoint} {mark : β → Mark} {bs : List β}
    (h : ∀ b ∈ bs.zipIdx, (entry b).Serves (mark b.1)) :
    Served (bs.zipIdx.map entry) (bs.map mark) := by
  rw [← map_fst_zipIdx mark]
  exact served_map h

private theorem served_zipIdx_flatMap {β : Type} {entries : β × Nat → List EntryPoint}
    {marks : β → List Mark} {bs : List β} (h : ∀ b ∈ bs.zipIdx, Served (entries b) (marks b.1)) :
    Served (bs.zipIdx.flatMap entries) (bs.flatMap marks) := by
  have hmarks : bs.flatMap marks = bs.zipIdx.flatMap fun b => marks b.1 := by
    rw [List.flatMap_def, List.flatMap_def, map_fst_zipIdx]
  rw [hmarks]
  exact served_flatMap h

private theorem perm_append_append {β : Type} (a b c d : List β) :
    (a ++ b ++ (c ++ d)).Perm (a ++ c ++ (b ++ d)) := by
  have hswap : (b ++ c).Perm (c ++ b) := List.perm_append_comm
  simpa only [List.append_assoc] using (hswap.append_right d).append_left a

/-! ## The order of the calls -/

/-- The entry points of functions that are called on a type. -/
def Schema.methodEntries (s : Schema) (start : String) (id : TypeId) : List EntryPoint :=
  (s.methodsOf id).map (s.functionEntry start)

/-- The entry points that are called in the class of a struct. -/
def Schema.calledFor (s : Schema) (start : String) (x : ExportedStruct) : List EntryPoint :=
  x.ctorEntry start :: x.getterEntries start ++ s.methodEntries start x.id
    ++ [freeEntry start x.id x.name]

/-- The entry points that are called in the class of an enum. -/
def Schema.calledForEnum (s : Schema) (start : String) (x : ExportedEnum) : List EntryPoint :=
  x.tagEntry start :: x.getterEntries start ++ x.ctorEntries start
    ++ freeEntry start x.id x.name :: s.methodEntries start x.id

/-- The entry points in the order in which a managed file calls them. -/
def Schema.called (s : Schema) (start : String) : List EntryPoint :=
  bufferFreeEntry start :: s.structs.flatMap (s.calledFor start)
    ++ s.enums.flatMap (s.calledForEnum start) ++ s.freeFunctions.map (s.functionEntry start)

/-- **No entry point is left out or called twice.** -/
theorem called_perm {facade : String} {ds : List Declaration} {s : Schema}
    (h : Accepted facade ds s) (start : String) : (s.called start).Perm (s.entryPoints start) := by
  have hstruct : ∀ x ∈ s.structs,
      (s.calledFor start x).Perm (x.entryPoints start ++ s.methodEntries start x.id) := by
    intro x _
    have hswap : (s.methodEntries start x.id ++ [freeEntry start x.id x.name]).Perm
        ([freeEntry start x.id x.name] ++ s.methodEntries start x.id) := List.perm_append_comm
    simpa [Schema.calledFor, ExportedStruct.entryPoints] using
      hswap.append_left (x.getterEntries start)
  have henum : ∀ x ∈ s.enums,
      (s.calledForEnum start x).Perm (x.entryPoints start ++ s.methodEntries start x.id) := by
    intro x _
    have hswap : (x.tagEntry start :: x.getterEntries start ++ x.ctorEntries start).Perm
        (x.ctorEntries start ++ x.tagEntry start :: x.getterEntries start) := List.perm_append_comm
    simpa [Schema.calledForEnum, ExportedEnum.entryPoints] using
      hswap.append_right (freeEntry start x.id x.name :: s.methodEntries start x.id)
  have hstructs := (List.Perm.flatMap_left _ hstruct).trans
    (List.flatMap_append_perm s.structs _ _).symm
  have henums := (List.Perm.flatMap_left _ henum).trans
    (List.flatMap_append_perm s.enums _ _).symm
  have hfunctions : (s.functions.map (s.functionEntry start)).Perm
      (s.structs.flatMap (fun x => s.methodEntries start x.id)
        ++ s.enums.flatMap (fun x => s.methodEntries start x.id)
        ++ s.freeFunctions.map (s.functionEntry start)) := by
    simpa [Schema.methodEntries, List.map_flatMap] using
      h.functions_perm.map (s.functionEntry start)
  have hclasses := ((hstructs.append henums).append_right
    (s.freeFunctions.map (s.functionEntry start))).trans
      ((perm_append_append _ _ _ _).append_right _)
  rw [List.append_assoc (_ ++ _)] at hclasses
  have hall := (hclasses.trans (hfunctions.symm.append_left _)).cons (bufferFreeEntry start)
  simpa [Schema.called, Schema.entryPoints] using hall

/-! ## The calls of a schema -/

section Schema

variable {c : Config} {s : Schema}

theorem served_methods (id : TypeId) (isStatic : Bool) (extended : List Parameter)
    (receiver : Argument) (owner : String) :
    Served (s.methodEntries c.symbols id) (((s.methodsOf id).map fun f =>
      (s.context c).method f isStatic extended [receiver] owner).map (·.call.mark)) := by
  rw [List.map_map]
  refine served_map fun f hf => ?_
  have hreceiver : f.receiver ≠ .none := by
    intro hnone
    have hid := (List.mem_filter.mp hf).2
    rw [hnone] at hid
    simp [Receiver.typeId?] at hid
  refine serves_entryCall ?_
  simp [Schema.functionEntry, Context.method, Context.arguments, hreceiver]

/-- The calls in the class of a struct. -/
theorem served_wrapper (x : ExportedStruct) :
    Served (s.calledFor c.symbols x) ((s.context c).wrapper x).marks := by
  have hctor : (x.ctorEntry c.symbols).Serves ((s.context c).wrapper x).make.mark :=
    serves_entryCall (by simp [Context.wrapper, ExportedStruct.ctorEntry])
  have hgetters : Served (x.getterEntries c.symbols)
      (((s.context c).wrapper x).properties.map (·.read.mark)) := by
    have hproperties : ((s.context c).wrapper x).properties.map (·.read.mark) =
        x.fields.map fun f => (property c.symbols x f).read.mark := List.map_map
    rw [hproperties]
    exact served_zipIdx fun f _ => serves_entryCall rfl
  have hfree : (freeEntry c.symbols x.id x.name).Serves
      (entryCall ((s.context c).wrapper x).freeSymbol ["handle"]) := serves_entryCall rfl
  exact (((served_singleton hctor).append hgetters).append
    (served_methods x.id false [] thisArgument "this")).append (served_singleton hfree)

/-- The calls in the class of an enum. -/
theorem served_enumClass (x : ExportedEnum) :
    Served (s.calledForEnum c.symbols x) ((s.context c).enumClass x).marks := by
  have htag : (x.tagEntry c.symbols).Serves
      (entryCall ((s.context c).enumClass x).tagSymbol ["handle"]) := serves_entryCall rfl
  have hgetters : Served (x.getterEntries c.symbols)
      (((s.context c).enumClass x).records.flatMap (·.decodeMarks)) := by
    have hrecords : ((s.context c).enumClass x).records.flatMap (·.decodeMarks) =
        x.variants.flatMap fun v => ((s.context c).record x v).decodeMarks := List.flatMap_map ..
    rw [hrecords]
    refine served_zipIdx_flatMap fun (v, i) _ => ?_
    have hfields : ((s.context c).record x v).decodeMarks = v.payload.fields.map fun f =>
        entryCall (Symbol.variantGetter c.symbols x.name v.name f.name) ["handle"] := List.map_map
    dsimp only
    rw [hfields]
    exact served_zipIdx fun f _ => serves_entryCall rfl
  have hctors : Served (x.ctorEntries c.symbols)
      (((s.context c).enumClass x).records.map (·.lowerMark)) := by
    have hrecords : ((s.context c).enumClass x).records.map (·.lowerMark) =
        x.variants.map fun v => ((s.context c).record x v).lowerMark := List.map_map
    rw [hrecords]
    refine served_zipIdx fun v _ => serves_entryCall ?_
    simp [Context.record]
  have hfree : (freeEntry c.symbols x.id x.name).Serves
      (entryCall ((s.context c).enumClass x).freeSymbol ["handle"]) := serves_entryCall rfl
  exact (((served_singleton htag).append hgetters).append hctors).append
    ((served_singleton hfree).append (served_methods x.id true _ _ _))

private theorem served_facade : Served (s.freeFunctions.map (s.functionEntry c.symbols))
    ((s.context c).facade c.facade).marks := by
  have hmethods : ((s.context c).facade c.facade).marks = s.freeFunctions.map fun f =>
      ((s.context c).method f true [] [] "").call.mark := List.map_map
  rw [hmethods]
  refine served_map fun f hf => serves_entryCall ?_
  have hreceiver : f.receiver = .none := by simpa using (List.mem_filter.mp hf).2
  simp [Schema.functionEntry, Context.method, Context.arguments, hreceiver]

/-- What a managed file calls. -/
def Managed.File.calls (f : Managed.File) : List Mark :=
  callOf (Naming.managedIdent f.bufferFree) ["buffer"] "ref status"
    :: f.wrappers.flatMap (·.marks) ++ f.enums.flatMap (·.marks) ++ f.facade.marks

/-- **The calls of a managed file are those of the entry points, one to one.** -/
theorem served_file : Served (s.called c.symbols) (s.managedFile c).calls := by
  have hfree : (bufferFreeEntry c.symbols).Serves
      (callOf (Naming.managedIdent (Symbol.bufferFree c.symbols)) ["buffer"] "ref status") :=
    serves_callOf rfl (.inr rfl)
  have hwrappers : Served (s.structs.flatMap (s.calledFor c.symbols))
      ((s.managedFile c).wrappers.flatMap (·.marks)) := by
    have hmarks : (s.managedFile c).wrappers.flatMap (·.marks) =
        s.structs.flatMap fun x => ((s.context c).wrapper x).marks := List.flatMap_map ..
    rw [hmarks]
    exact served_flatMap fun x _ => served_wrapper x
  have henums : Served (s.enums.flatMap (s.calledForEnum c.symbols))
      ((s.managedFile c).enums.flatMap (·.marks)) := by
    have hmarks : (s.managedFile c).enums.flatMap (·.marks) =
        s.enums.flatMap fun x => ((s.context c).enumClass x).marks := List.flatMap_map ..
    rw [hmarks]
    exact served_flatMap fun x _ => served_enumClass x
  exact (((served_singleton hfree).append hwrappers).append henums).append served_facade

end Schema

end Boundary
