import Boundary.Demo.Declarations
import Boundary.Demo.Library
import Boundary.Proofs.Native.Books

/-!
# The handles of the small library

* `suits_library`: its functions fail only where their types allow for it.
* `isCareful`: none of its functions breaks the contract after it has consumed a handle.
* `accounts_for_handles`: what every call in a run does to the tables of people and of messages.
-/

namespace Boundary.Demo

open Native

theorem accepted : Accepted defaultFacade declarations schema :=
  Schema.build_eq_ok_iff_accepted.mp build_declarations

/-! ## Functions -/

/-- What is computed from an argument of the right type is not a failure, and neither is the
outcome for an argument of another type. -/
theorem getD_map_value_ne_failure {α : Type} (a : Option α) (f : α → NativeValue)
    (e : NativeValue) : (a.map fun a => Outcome.value (f a)).getD default ≠ .failure e := by
  cases a <;> nofun

/-- The functions of one argument of an exported type that do not fail, by owner and name. -/
def onOne : List (Option String × String) :=
  [(none, "greet"), (none, "describe"), (none, "adopt"), (some "Person", "is_adult"),
    (none, "flip")]

/-- The functions of an option, by owner and name. -/
def onOption : List (Option String × String) := [(none, "lucky_number"), (none, "invert")]

/-- The functions of a person and something else, by owner and name. -/
def onTwo : List (Option String × String) := [(some "Person", "rename"), (none, "elder")]

section Names

variable {owner : Option String} {name : String} (values : List NativeValue) (e : NativeValue)

private theorem ne_failure_of_one (h : (owner, name) ∈ onOne) :
    library owner name values ≠ .failure e := by
  simp only [onOne, List.mem_cons, Prod.mk.injEq, List.not_mem_nil, or_false] at h
  obtain ⟨rfl, rfl⟩ | ⟨rfl, rfl⟩ | ⟨rfl, rfl⟩ | ⟨rfl, rfl⟩ | ⟨rfl, rfl⟩ := h
  all_goals
    obtain _ | ⟨v, _ | ⟨w, rest⟩⟩ := values
    · nofun
    · exact getD_map_value_ne_failure _ _ e
    · nofun

private theorem ne_failure_of_option (h : (owner, name) ∈ onOption) :
    library owner name values ≠ .failure e := by
  simp only [onOption, List.mem_cons, Prod.mk.injEq, List.not_mem_nil, or_false] at h
  obtain ⟨rfl, rfl⟩ | ⟨rfl, rfl⟩ := h
  all_goals
    obtain _ | ⟨v, rest⟩ := values
    · nofun
    cases v with
    | option value =>
      obtain _ | v := value
      · cases rest <;> nofun
      cases v with
      | primitive p => cases p <;> cases rest <;> nofun
      | _ => cases rest <;> nofun
    | _ => cases rest <;> nofun

private theorem ne_failure_of_two (h : (owner, name) ∈ onTwo) :
    library owner name values ≠ .failure e := by
  simp only [onTwo, List.mem_cons, Prod.mk.injEq, List.not_mem_nil, or_false] at h
  obtain ⟨rfl, rfl⟩ | ⟨rfl, rfl⟩ := h
  all_goals
    obtain _ | ⟨v, _ | ⟨w, _ | ⟨u, rest⟩⟩⟩ := values
    · nofun
    · nofun
    · cases w <;> first
        | exact getD_map_value_ne_failure _ _ e
        | nofun
    · cases w <;> nofun

private theorem find_nickname_ne_failure : library none "find_nickname" values ≠ .failure e := by
  obtain _ | ⟨v, rest⟩ := values
  · nofun
  · cases v <;> cases rest <;> nofun

private theorem explode_ne_failure : library none "explode" values ≠ .failure e := by
  cases values <;> nofun

end Names

private theorem cases_of_mem_functions : ∀ f ∈ schema.functions, f.returns.error? ≠ none ∨
    (schema.ownerName f, f.name) ∈ onOne ∨ (schema.ownerName f, f.name) ∈ onOption ∨
    (schema.ownerName f, f.name) ∈ onTwo ∨
    (schema.ownerName f, f.name) = (none, "find_nickname") ∨
    (schema.ownerName f, f.name) = (none, "explode") := by
  decide +kernel

/-- A function fails only where its return type allows for it. -/
theorem suits_library (f : ExportedFunction) (hf : f ∈ schema.functions)
    (values : List NativeValue) :
    (library (schema.ownerName f) f.name values).Suits f.returns := by
  intro e he
  obtain herror | hone | hoption | htwo | hnickname | hexplode := cases_of_mem_functions f hf
  · cases hreturns : f.returns with
    | result ok err => exact ⟨ok, err, rfl⟩
    | _ =>
      rw [hreturns] at herror
      exact absurd rfl herror
  · exact absurd he (ne_failure_of_one values e hone)
  · exact absurd he (ne_failure_of_option values e hoption)
  · exact absurd he (ne_failure_of_two values e htwo)
  · obtain ⟨howner, hname⟩ := Prod.mk.inj hnickname
    rw [howner, hname] at he
    exact absurd he (find_nickname_ne_failure values e)
  · obtain ⟨howner, hname⟩ := Prod.mk.inj hexplode
    rw [howner, hname] at he
    exact absurd he (explode_ne_failure values e)

/-- No function breaks the contract after it has consumed a handle. -/
theorem isCareful : ∀ f ∈ schema.functions, f.IsCareful := by
  decide +kernel

example : (schema.functions.filter (·.consumers ≠ 0)).map (·.name) = ["adopt", "rename"] := by
  decide +kernel

/-! ## Runs -/

/-- **The calls of the library account for their handles.** In a run from empty tables that makes
no more than 2 ^ 32 slots in a table and vacates none of them 2 ^ 32 - 1 times, each call changes
nothing if it breaks the contract, and otherwise removes what it releases or consumes and puts in
what it hands back behind a new handle; every other handle stays as it is. -/
theorem accounts_for_handles (start : String) (calls : List EntryCall)
    (hcalls : ∀ c ∈ calls, c.entry ∈ schema.entryPoints start)
    (hslots : ∀ id, (schema.after library (fun _ => {}) calls id).slots.length ≤ 0x100000000)
    (hvac : ∀ id i,
      vacationsOf (schema.takenAwayIn library (fun _ => {}) calls) id i < 0xFFFFFFFF) :
    ∀ before c rest, calls = before ++ c :: rest →
      let ts := schema.after library (fun _ => {}) before
      Accounts (schema.returned c.entry.purpose) c.entry.ret
        (schema.surrendered c.args c.entry.purpose)
        (schema.handedBackIn library (fun _ => {}) before) ts
        (schema.call library c.entry c.args ts) :=
  accepted.accounts_of_run isCareful suits_library calls hcalls hslots hvac

/-- A person is made. -/
def made : EntryCall :=
  ⟨⟨.ctor ⟨0⟩, "demo_ctor_person", [⟨"name", .strView⟩, ⟨"age", .scalar .u32⟩], .handle⟩,
    [.view (some [80]), .scalar (.u32 7)]⟩

/-- The person is given another name, which consumes their handle. -/
def renamed : EntryCall :=
  ⟨⟨.function ⟨7⟩, "demo_method_person_rename", [handleParam, ⟨"new_name", .strView⟩], .handle⟩,
    [.handle 0x100000000, .view (some [81])]⟩

/-- The handle that has been consumed is released. -/
def released : EntryCall :=
  ⟨⟨.free ⟨0⟩, "demo_free_person", [handleParam], .void⟩, [.handle 0x100000000]⟩

private theorem mem_entryPoints_of_mem_life :
    ∀ c ∈ [made, renamed, released], c.entry ∈ schema.entryPoints symbols := by
  decide +kernel

/-- The consumed handle is replaced by a new one, and releasing it changes nothing any more. -/
theorem accounts_for_handles_renamed :
    let life := [made, renamed, released]
    (∀ id, (schema.after library (fun _ => {}) life id).slots.length ≤ 0x100000000) ∧
      (∀ id i, vacationsOf (schema.takenAwayIn library (fun _ => {}) life) id i < 0xFFFFFFFF) ∧
      (schema.takenAwayIn library (fun _ => {}) life = [(⟨0⟩, 0x100000000)] ∧
        schema.handedBackIn library (fun _ => {}) life =
          [(⟨0⟩, 0x100000000), (⟨0⟩, 0x200000000)]) ∧
      let ts := schema.after library (fun _ => {}) [made]
      Accounts (schema.returned renamed.entry.purpose) renamed.entry.ret
        (schema.surrendered renamed.args renamed.entry.purpose)
        (schema.handedBackIn library (fun _ => {}) [made]) ts
        (schema.call library renamed.entry renamed.args ts) := by
  intro life
  have hslots : ∀ id,
      (schema.after library (fun _ => {}) life id).slots.length ≤ 0x100000000 := by
    intro id
    refine Nat.le_trans (accepted.length_slots_after_le isCareful suits_library life
      mem_entryPoints_of_mem_life _ id) ?_
    decide
  have hvac : ∀ id i,
      vacationsOf (schema.takenAwayIn library (fun _ => {}) life) id i < 0xFFFFFFFF := by
    intro id i
    refine Nat.lt_of_le_of_lt List.countP_le_length ?_
    refine Nat.lt_of_le_of_lt (schema.length_takenAwayIn_le library _ isCareful life) ?_
    decide
  refine ⟨hslots, hvac, by decide +kernel, ?_⟩
  exact accounts_for_handles symbols life mem_entryPoints_of_mem_life hslots hvac [made] renamed
    [released] rfl

end Boundary.Demo
