import Boundary.Managed.Expr
import Boundary.Proofs.Text.Arguments

/-!
# Types in managed source

How managed source refers to types, put together of names and of a few fixed texts, and what it
keeps alive.

* `typeParts`: the fixed texts.
* `Surface.forall_type`, `Surface.forall_qualified`: what holds of the parts of a type and is kept
  by putting them together holds of the type.
* `forall_keptAlive`: what holds of the sources of arguments holds of what is kept alive for them.
* `Compact`: a text without blanks and without the signs of lists of arguments.
-/

namespace Boundary.Managed

open Text

/-! ## The parts of a type -/

/-- The texts that types consist of besides names. -/
def typeParts : List String :=
  ["global::", ".", "I", "?", "void", "string", "object"] ++ Primitive.all.map Primitive.managedName

section Parts

variable {s : Surface} {p : String → Prop} (happend : ∀ a b, p a → p b → p (a ++ b))
  (hparts : ∀ w ∈ typeParts, p w) (hspace : p s.managedNamespace)

include happend hparts hspace

theorem Surface.forall_qualified {name : String} (h : p name) : p (s.qualified name) :=
  happend _ _ (happend _ _ (happend _ _ (hparts _ (by decide)) hspace) (hparts _ (by decide))) h

variable (hnames : ∀ id, p (Naming.pascal (s.typeName id)))

include hnames

theorem Surface.forall_classOf (id : TypeId) : p (s.classOf id) :=
  Surface.forall_qualified happend hparts hspace (hnames id)

theorem Surface.forall_type (t : TypeRef) : p (s.type t) := by
  induction t with
  | primitive q =>
    exact hparts _ (List.mem_append_right _ (List.mem_map_of_mem (Primitive.mem_all q)))
  | handle id =>
    refine Surface.forall_qualified happend hparts hspace ?_
    split
    · exact happend _ _ (hparts "I" (by decide)) (hnames id)
    · exact hnames id
  | option inner ih => exact happend _ _ ih (hparts "?" (by decide))
  | result ok err ih => exact ih
  | unit => exact hparts "void" (by decide)
  | str => exact hparts "string" (by decide)
  | unsupported reason => exact hparts "object" (by decide)

end Parts

/-! ## Owners -/

/-- What is kept alive until after a call are sources of its arguments. -/
theorem forall_keptAlive {p : String → Prop} {args : List Argument} (h : ∀ a ∈ args, p a.source) :
    ∀ owner ∈ args.filterMap (·.keepAlive?), p owner := by
  intro owner howner
  obtain ⟨a, ha, hkept⟩ := List.mem_filterMap.mp howner
  unfold Argument.keepAlive? at hkept
  split at hkept
  all_goals cases hkept
  all_goals exact h a ha

/-! ## Texts without signs -/

/-- A text without blanks and without the signs of lists of arguments. -/
def Compact (t : String) : Prop := ∀ c ∈ t.toList, c ∉ ' ' :: listSigns

instance (t : String) : Decidable (Compact t) := inferInstanceAs (Decidable (∀ c ∈ t.toList, _))

theorem Compact.append {a b : String} (ha : Compact a) (hb : Compact b) : Compact (a ++ b) := by
  intro c hc
  rw [String.toList_append, List.mem_append] at hc
  exact hc.elim (ha c) (hb c)

theorem Compact.notMem {t : String} (h : Compact t) {c : Char} (hc : c ∈ ' ' :: listSigns) :
    c ∉ t.toList := fun hmem => h c hmem hc

theorem Compact.closed {t : String} (h : Compact t) : Closed t :=
  closed_of_notMem fun c hc hmem => h c hc (List.mem_cons_of_mem _ hmem)

theorem Compact.trimStart {t : String} (h : Compact t) : trimStart t = t :=
  trimStart_eq_self fun _ hc hblank =>
    h.notMem (c := ' ') (by simp) (hblank ▸ List.mem_of_mem_head? hc)

theorem compact_of_isWord {t : String} (h : Naming.IsWord t) : Compact t := by
  have hsigns : ∀ c ∈ ' ' :: listSigns, Naming.isWordChar c = false := by decide
  exact fun c hc hmem => h.notMem (hsigns c hmem) hc

end Boundary.Managed
