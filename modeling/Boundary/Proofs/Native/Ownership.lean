import Boundary.Demo.Declarations
import Boundary.Proofs.Native.Calls

/-!
# Ownership across the boundary

Managed code gives up the handles that a call consumes exactly if the call does not break the
contract of the boundary. Native code agrees with that unless it has moved one handle out of its
table before it finds that another one is not live: then the call breaks the contract, and the
handles before that one are lost.

* `ExportedFunction.OwnershipAgrees`: native and managed code agree about a call.
* `ownershipAgrees_iff`: when they do.
* `Schema.ownershipAgrees_iff_of_build`: the same for the functions of a schema.
* `Accepted.ownershipAgrees_of_length_le_one`: they agree if no more than one handle is consumed.
* `Pairing.not_ownershipAgrees`: two people to be paired, one of whom does not exist.
-/

namespace Boundary

open Fallible Native

/-- Native and managed code agree about a call of `f` that ends with `end_`: it has consumed its
handles exactly if its status does not tell of a broken contract, and otherwise nothing has changed.
-/
structure ExportedFunction.OwnershipAgrees (f : ExportedFunction) (args : List FlatValue)
    (ts : Tables) (end_ : Except Trap FlatValue × Tables) : Prop where
  consumed_iff : ∀ c ∈ f.consumed args,
    (ts.Live c ∧ ¬ end_.2.Live c) ↔ callCode end_.1 ≠ .contract
  unchanged : callCode end_.1 = .contract → end_.2 = ts

variable {f : ExportedFunction} {args : List FlatValue} {ts : Tables}

/-- Whatever cannot be lifted breaks the contract before anything is consumed. -/
theorem ExportedFunction.ownershipAgrees_of_unchanged {trap : Trap}
    (hcode : trap.code = .contract) : f.OwnershipAgrees args ts (.error trap, ts) :=
  ⟨fun _ _ => iff_of_false (fun h => h.2 h.1) fun h => h hcode, fun _ => rfl⟩

/-- When native and managed code agree about a call: if anything is taken at all, everything can
be. -/
theorem ownershipAgrees_iff
    (hf : ∀ p ∈ f.params, p.mode = .transfer → ∃ id, p.type = .handle id) (library : Library)
    (owner : Option String) (hlibrary : ∀ values, (library owner f.name values).Fits f.returns)
    (args : List FlatValue) (ts : Tables) :
    f.OwnershipAgrees args ts (((callFunction owner f).run library args).run ts) ↔
      (f.Liftable ts args → ∀ c ∈ (f.consumed args).head?, ts.Live c →
        ts.Takable (f.consumed args)) := by
  rw [run_callFunction, run_bind]
  obtain ⟨hlift, trap, hcode, hrun⟩ | ⟨hlift, htakes⟩ := runSteps_callSteps hf
    (.initial (f.paramArgs args)) args ts
  · rw [hrun]
    exact iff_of_true (ExportedFunction.ownershipAgrees_of_unchanged hcode) fun h => absurd h hlift
  generalize (runSteps (f.receiverArg args) (f.paramArgs args) (.initial (f.paramArgs args))
    (callSteps f)).run ts = r at htakes
  generalize hcs : f.consumed args = cs at htakes
  cases htakes with
  | ok frame htakable =>
    refine iff_of_true ?_ fun _ _ _ _ => htakable
    obtain ⟨-, hcode, c, hstored, -⟩ | ⟨hfits, -⟩ :=
      answered f.returns (library owner f.name (frame.values f)) (ts.removeAll cs)
    · refine ⟨fun d hd => iff_of_true ?_ hcode, fun h => absurd h hcode⟩
      rw [hcs] at hd
      have hlive := (Tables.takable_iff.mp htakable).2 d hd
      exact ⟨hlive, hstored.not_live_of_mem hd hlive⟩
    · exact absurd (hlibrary _) hfits
  | @error front back c trap hcode hfront hdead =>
    cases front with
    | nil =>
      -- The first handle is not live, so none has been taken.
      refine iff_of_true (ExportedFunction.ownershipAgrees_of_unchanged hcode) ?_
      rintro - d hd hlive
      cases hd
      exact absurd hlive hdead
    | cons first front =>
      have hlive : ts.Live first := hfront.1
      refine iff_of_false ?_ ?_
      · intro hagrees
        have hlost : ¬ (ts.removeAll (first :: front)).Live first := by
          rw [Tables.live_removeAll_iff]
          exact fun h => h.1 List.mem_cons_self
        exact (hagrees.consumed_iff first (by simp [hcs])).mp ⟨hlive, hlost⟩ hcode
      · intro h
        have htakable := h hlift first rfl hlive
        exact hdead (Tables.takable_append.mp htakable).2.1

namespace Accepted

variable {facade : String} {ds : List Declaration} {s : Schema}

/-- Native and managed code agree about every call that consumes no more than one handle. -/
theorem ownershipAgrees_of_length_le_one (h : Accepted facade ds s) (hf : f ∈ s.functions)
    (library : Library)
    (hlibrary : ∀ values, (library (s.ownerName f) f.name values).Fits f.returns) (start : String)
    (hlength : (f.consumed args).length ≤ 1) :
    f.OwnershipAgrees args ts (s.call library (s.functionEntry start f) args ts) := by
  rw [h.call_functionEntry hf, ownershipAgrees_iff (fun p => h.exists_handle_of_transfer hf) library
    _ hlibrary]
  intro _ c hc hlive
  obtain ⟨rest, hrest⟩ := List.head?_eq_some_iff.mp hc
  rw [hrest] at hlength ⊢
  obtain rfl : rest = [] := by simpa using hlength
  exact ⟨hlive, trivial⟩

end Accepted

/-- **Where native and managed code agree about ownership.** They agree about a call of an exported
function exactly if, as soon as the other arguments can be lifted and the first handle to be
consumed is live, all handles to be consumed are live and different. -/
theorem Schema.ownershipAgrees_iff_of_build {facade : String} {ds : List Declaration} {s : Schema}
    (h : Schema.build facade ds = .ok s) (hf : f ∈ s.functions) (library : Library)
    (hlibrary : ∀ values, (library (s.ownerName f) f.name values).Fits f.returns) (start : String)
    (args : List FlatValue) (ts : Tables) :
    f.OwnershipAgrees args ts (s.call library (s.functionEntry start f) args ts) ↔
      (f.Liftable ts args → ∀ c ∈ (f.consumed args).head?, ts.Live c →
        (f.consumed args).Nodup ∧ ∀ d ∈ f.consumed args, ts.Live d) := by
  have h := Schema.build_eq_ok_iff_accepted.mp h
  rw [h.call_functionEntry hf, ownershipAgrees_iff (fun p => h.exists_handle_of_transfer hf) library
    _ hlibrary]
  simp only [Tables.takable_iff]

/-! ## Two people -/

namespace Pairing

/-- A type of people, and a function that takes two of them. -/
def declarations : List Declaration := [
  .struct ⟨"Person", [], Demo.at_ 1⟩,
  Demo.functionDecl "pair"
    [⟨"first", Demo.named "Person", true⟩, ⟨"second", Demo.named "Person", true⟩] .unit 2]

/-- The schema of the declarations. -/
def schema : Schema := (Surroundings.ofDeclarations defaultFacade declarations).schema

/-- The function that takes two people: `library` does nothing with them. -/
def pair : ExportedFunction where
  id := ⟨0⟩
  name := "pair"
  receiver := .none
  params := [⟨"first", .handle ⟨0⟩, .transfer⟩, ⟨"second", .handle ⟨0⟩, .transfer⟩]
  returns := .unit
  location := Demo.at_ 2

/-- A library whose functions do nothing. -/
def library : Library := fun _ _ _ => .value .unit

/-- The tables with one person. -/
def tables : Tables :=
  Tables.put (fun _ => {}) ⟨0⟩ (({} : HandleTable NativeValue).insert (.record [])).2

/-- The handle of the person. -/
def person : Handle := 0x100000000

theorem build_declarations : Schema.build defaultFacade declarations = .ok schema :=
  Schema.build_eq_ok_iff.mpr ⟨by decide +kernel, rfl⟩

theorem pair_mem : pair ∈ schema.functions := by decide +kernel

theorem fits_library (owner : Option String) (name : String) (values : List NativeValue)
    (t : TypeRef) : (library owner name values).Fits t :=
  Outcome.fits_of_ne_failure nofun

/-- The person is lost although the call breaks the contract. -/
theorem not_ownershipAgrees :
    Schema.build defaultFacade declarations = .ok schema ∧ pair ∈ schema.functions ∧
      (∀ values, (library (schema.ownerName pair) pair.name values).Fits pair.returns) ∧
      ¬ pair.OwnershipAgrees [.handle person, .handle 0] tables
        (schema.call library (schema.functionEntry Demo.symbols pair)
          [.handle person, .handle 0] tables) := by
  refine ⟨build_declarations, pair_mem, fun _ => fits_library _ _ _ _, ?_⟩
  intro hagrees
  have hcode : callCode (schema.call library (schema.functionEntry Demo.symbols pair)
      [.handle person, .handle 0] tables).1 = .contract := by decide +kernel
  have hlost : tables.Live (⟨0⟩, person) ∧
      ¬ (schema.call library (schema.functionEntry Demo.symbols pair)
        [.handle person, .handle 0] tables).2.Live (⟨0⟩, person) := by decide +kernel
  exact (hagrees.consumed_iff (⟨0⟩, person) (by decide)).mp hlost hcode

/-- The person and nobody else: the condition does not hold. -/
theorem ownershipAgrees_iff_pair :
    Schema.build defaultFacade declarations = .ok schema ∧ pair ∈ schema.functions ∧
      (∀ values, (library (schema.ownerName pair) pair.name values).Fits pair.returns) ∧
      (pair.OwnershipAgrees [.handle person, .handle 0] tables
        (schema.call library (schema.functionEntry Demo.symbols pair)
          [.handle person, .handle 0] tables) ↔
        (pair.Liftable tables [.handle person, .handle 0] →
          ∀ c ∈ (pair.consumed [.handle person, .handle 0]).head?, tables.Live c →
            (pair.consumed [.handle person, .handle 0]).Nodup ∧
              ∀ d ∈ pair.consumed [.handle person, .handle 0], tables.Live d)) :=
  ⟨build_declarations, pair_mem, fun _ => fits_library _ _ _ _,
    Schema.ownershipAgrees_iff_of_build build_declarations pair_mem library
      (fun _ => fits_library _ _ _ _) Demo.symbols _ tables⟩

end Pairing

end Boundary
