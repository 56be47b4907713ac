import Mathlib.Data.List.Forall2
import Boundary.Proofs.Resolution

/-!
# Which type expressions have a boundary type

The expressions that cross the boundary are few, and what each of them stands for can be listed. All
others are refused as a whole, in words that start with the part of the expression they are about.

* `TypeExpr.Names`, `TypeExpr.Holds`, `TypeExpr.IsSide`, `TypeExpr.Means`: what the expressions that
  cross stand for: names, values, sides of results, and whole types by their position.
* `TypeExpr.IsPart`: the parts of an expression.
* `TypeExpr.SameSegments`: expressions with the same last segments of paths.
* `TypeExpr.resolve_eq_of_means`, `TypeExpr.refused_or_means`: an expression resolves to what it
  stands for, or is refused for one of its parts.
* `resolves_exactly_grammar`: both together.
-/

namespace Boundary

/-! ## The grammar -/

namespace TypeExpr

/-- A path without arguments names a primitive type, text or an exported type by its last
segment. -/
inductive Names (table : TypeTable) : TypeExpr → TypeRef → Prop
  | primitive {name : String} {p : Primitive}
    (h : Primitive.ofName? (Naming.lastSegment name) = some p) :
    Names table (.path name []) (.primitive p)
  | text {name : String} (h : Naming.lastSegment name = "String") :
    Names table (.path name []) .str
  | exported {name : String} {id : TypeId}
    (h : table.lookup (Naming.lastSegment name) = some id) :
    Names table (.path name []) (.handle id)

/-- A value, or an option of a named one. -/
inductive Holds (table : TypeTable) : TypeExpr → TypeRef → Prop
  | value {e : TypeExpr} {t : TypeRef} (h : Names table e t) : Holds table e t
  | option {name : String} {e : TypeExpr} {t : TypeRef}
    (hname : Naming.lastSegment name = "Option") (h : Names table e t) :
    Holds table (.path name [e]) (.option t)

/-- A side of a result: nothing, or a value. -/
inductive IsSide (table : TypeTable) : TypeExpr → TypeRef → Prop
  | nothing : IsSide table (.tuple []) .unit
  | value {e : TypeExpr} {t : TypeRef} (h : Holds table e t) : IsSide table e t

/-- What an expression stands for at its position. -/
inductive Means (table : TypeTable) : TypePosition → TypeExpr → TypeRef → Prop
  | value {position : TypePosition} {e : TypeExpr} {t : TypeRef} (h : Holds table e t) :
    Means table position e t
  | lentText {name : String} (h : Naming.lastSegment name = "str") :
    Means table .param (.ref false (.path name [])) .str
  | lent {name : String} {id : TypeId} (h : table.lookup (Naming.lastSegment name) = some id) :
    Means table .param (.ref false (.path name [])) (.handle id)
  | nothing {position : TypePosition}
    (h : position = .return_ ∨ position = .resultOk ∨ position = .resultErr) :
    Means table position (.tuple []) .unit
  | result {name : String} {ok err : TypeExpr} {t u : TypeRef}
    (hname : Naming.lastSegment name = "Result") (hok : IsSide table ok t)
    (herr : IsSide table err u) : Means table .return_ (.path name [ok, err]) (.result t u)

/-! ## Parts and paths -/

/-- The expression is the other one or stands somewhere inside it. -/
inductive IsPart : TypeExpr → TypeExpr → Prop
  | self (e : TypeExpr) : IsPart e e
  | arg {part e : TypeExpr} {name : String} {args : List TypeExpr} (he : e ∈ args)
    (h : IsPart part e) : IsPart part (.path name args)
  | ref {part e : TypeExpr} {isMutable : Bool} (h : IsPart part e) : IsPart part (.ref isMutable e)
  | ptr {part e : TypeExpr} {isMutable : Bool} (h : IsPart part e) : IsPart part (.ptr isMutable e)
  | elem {part e : TypeExpr} {elems : List TypeExpr} (he : e ∈ elems) (h : IsPart part e) :
    IsPart part (.tuple elems)
  | slice {part e : TypeExpr} (h : IsPart part e) : IsPart part (.slice e)
  | array {part e : TypeExpr} {length : Nat} (h : IsPart part e) : IsPart part (.array e length)

/-- The expressions differ in nothing but what stands before the last segments of paths. -/
inductive SameSegments : TypeExpr → TypeExpr → Prop
  | path {name name' : String} {args args' : List TypeExpr}
    (hname : Naming.lastSegment name = Naming.lastSegment name')
    (hargs : List.Forall₂ SameSegments args args') :
    SameSegments (.path name args) (.path name' args')
  | ref {isMutable : Bool} {e e' : TypeExpr} (h : SameSegments e e') :
    SameSegments (.ref isMutable e) (.ref isMutable e')
  | ptr {isMutable : Bool} {e e' : TypeExpr} (h : SameSegments e e') :
    SameSegments (.ptr isMutable e) (.ptr isMutable e')
  | tuple {elems elems' : List TypeExpr} (h : List.Forall₂ SameSegments elems elems') :
    SameSegments (.tuple elems) (.tuple elems')
  | slice {e e' : TypeExpr} (h : SameSegments e e') : SameSegments (.slice e) (.slice e')
  | array {e e' : TypeExpr} {length : Nat} (h : SameSegments e e') :
    SameSegments (.array e length) (.array e' length)
  | generic (name : String) : SameSegments (.generic name) (.generic name)
  | traitObject (bound : String) : SameSegments (.traitObject bound) (.traitObject bound)

variable {table : TypeTable} {e e' : TypeExpr} {t : TypeRef}

theorem Names.of_sameSegments (h : Names table e t) (he : e.SameSegments e') :
    Names table e' t := by
  cases h with
  | primitive h =>
    cases he with
    | path hname hargs =>
      cases hargs
      exact .primitive (hname ▸ h)
  | text h =>
    cases he with
    | path hname hargs =>
      cases hargs
      exact .text (hname ▸ h)
  | exported h =>
    cases he with
    | path hname hargs =>
      cases hargs
      exact .exported (hname ▸ h)

theorem Holds.of_sameSegments (h : Holds table e t) (he : e.SameSegments e') :
    Holds table e' t := by
  cases h with
  | value h => exact .value (h.of_sameSegments he)
  | option hoption h =>
    cases he with
    | path hname hargs =>
      obtain _ | ⟨harg, hnil⟩ := hargs
      cases hnil
      exact .option (hname ▸ hoption) (h.of_sameSegments harg)

theorem IsSide.of_sameSegments (h : IsSide table e t) (he : e.SameSegments e') :
    IsSide table e' t := by
  cases h with
  | nothing =>
    cases he with
    | tuple helems =>
      cases helems
      exact .nothing
  | value h => exact .value (h.of_sameSegments he)

/-- What an expression stands for is told by the last segments of its paths. -/
theorem Means.of_sameSegments {position : TypePosition} (h : Means table position e t)
    (he : e.SameSegments e') : Means table position e' t := by
  cases h with
  | value h => exact .value (h.of_sameSegments he)
  | lentText h =>
    cases he with
    | ref hinner =>
      cases hinner with
      | path hname hargs =>
        cases hargs
        exact .lentText (hname ▸ h)
  | lent h =>
    cases he with
    | ref hinner =>
      cases hinner with
      | path hname hargs =>
        cases hargs
        exact .lent (hname ▸ h)
  | nothing h =>
    cases he with
    | tuple helems =>
      cases helems
      exact .nothing h
  | result hresult hok herr =>
    cases he with
    | path hname hargs =>
      obtain _ | ⟨hok', hrest⟩ := hargs
      obtain _ | ⟨herr', hnil⟩ := hrest
      cases hnil
      exact .result (hname ▸ hresult) (hok.of_sameSegments hok') (herr.of_sameSegments herr')

/-! ## What the grammar lists is resolved -/

theorem Names.isSupported (h : Names table e t) : t.isSupported = true := by
  cases h <;> rfl

theorem Holds.isSupported (h : Holds table e t) : t.isSupported = true := by
  cases h with
  | value h => exact h.isSupported
  | option _ h => exact h.isSupported

theorem IsSide.isSupported (h : IsSide table e t) : t.isSupported = true := by
  cases h with
  | nothing => rfl
  | value h => exact h.isSupported

theorem Means.isSupported {position : TypePosition} (h : Means table position e t) :
    t.isSupported = true := by
  cases h with
  | value h => exact h.isSupported
  | lentText | lent | nothing => rfl
  | result _ hok herr => simp [TypeRef.isSupported, hok.isSupported, herr.isSupported]

section Resolved

variable (hnames : ∀ entry ∈ table, isBuiltinTypeName entry.1 = false)

include hnames

/-- The name of an exported type is none of those that are looked for before. -/
theorem not_builtin_of_lookup {name : String} {id : TypeId} (h : table.lookup name = some id) :
    Primitive.ofName? name = none ∧ name ∉ fixedTypeNames := by
  obtain ⟨front, back, htable, -⟩ := List.lookup_eq_some_iff.mp h
  have hbuiltin := hnames (name, id) (by simp [htable])
  simpa [isBuiltinTypeName] using hbuiltin

theorem Names.resolve_eq (h : Names table e t) (position : TypePosition) :
    e.resolve table position = t := by
  cases h with
  | primitive h => simp only [TypeExpr.resolve, resolveName, h]
  | text h =>
    rw [TypeExpr.resolve, h]
    rfl
  | exported h =>
    obtain ⟨hprimitive, hfixed⟩ := not_builtin_of_lookup hnames h
    simp only [fixedTypeNames, List.mem_cons, List.not_mem_nil, or_false, not_or] at hfixed
    simp [TypeExpr.resolve, resolveName, hprimitive, hfixed, h]

theorem Holds.resolve_eq (h : Holds table e t) (position : TypePosition) :
    e.resolve table position = t := by
  cases h with
  | value h => exact h.resolve_eq hnames position
  | option hname h =>
    rw [TypeExpr.resolve, if_pos hname, h.resolve_eq hnames]
    cases h <;> rfl

theorem IsSide.resolve_eq (h : IsSide table e t) {position : TypePosition}
    (hposition : position.allowsUnit = true) : e.resolve table position = t := by
  cases h with
  | nothing => rw [TypeExpr.resolve, if_pos hposition]
  | value h => exact h.resolve_eq hnames position

/-- An expression resolves to what it stands for. -/
theorem resolve_eq_of_means {position : TypePosition} (h : Means table position e t) :
    e.resolve table position = t := by
  cases h with
  | value h => exact h.resolve_eq hnames position
  | lentText h => simp [TypeExpr.resolve, TypeExpr.isText, h]
  | @lent name id h =>
    have htext : Naming.lastSegment name ≠ "str" := by
      intro heq
      exact (not_builtin_of_lookup hnames h).2 (by simp [heq, fixedTypeNames])
    have hexported := (Names.exported h).resolve_eq hnames .param
    simp [TypeExpr.resolve, TypeExpr.isText, TypeExpr.isExported, htext, h] at hexported ⊢
    exact hexported
  | nothing h =>
    obtain rfl | rfl | rfl := h <;> simp [TypeExpr.resolve, TypePosition.allowsUnit]
  | result hname hok herr =>
    rw [TypeExpr.resolve, if_pos hname, hok.resolve_eq hnames rfl, herr.resolve_eq hnames rfl]
    simp [resolveResult, hok.isSupported, herr.isSupported]

end Resolved

/-! ## Whatever is resolved is in the grammar -/

/-- The expression is refused, in words about one of its parts. -/
def IsRefusedFor (e : TypeExpr) (t : TypeRef) : Prop :=
  ∃ part r, IsPart part e ∧ t = TypeExpr.refuse part r

theorem isRefusedFor_self (e : TypeExpr) (r : Refusal) : e.IsRefusedFor (e.refuse r) :=
  ⟨e, r, .self e, rfl⟩

private theorem refused_or_names_resolveName (name : String) :
    (TypeExpr.path name []).IsRefusedFor
        (resolveName table (.path name []) (Naming.lastSegment name)) ∨
      Names table (.path name [])
        (resolveName table (.path name []) (Naming.lastSegment name)) := by
  unfold resolveName
  split
  · exact .inr (.primitive ‹_›)
  split
  · exact .inl (isRefusedFor_self _ _)
  split
  · exact .inr (.text ‹_›)
  split
  · exact .inl (isRefusedFor_self _ _)
  split
  · exact .inl (isRefusedFor_self _ _)
  split
  · exact .inl (isRefusedFor_self _ _)
  split
  · exact .inr (.exported ‹_›)
  · exact .inl (isRefusedFor_self _ _)

private theorem isRefusedFor_resolveGeneric (e : TypeExpr) (last : String) :
    e.IsRefusedFor (resolveGeneric table e last) := by
  unfold resolveGeneric
  split
  · exact isRefusedFor_self _ _
  split
  · exact isRefusedFor_self _ _
  · exact isRefusedFor_self _ _

theorem IsRefusedFor.isSupported (h : e.IsRefusedFor t) : t.isSupported = false := by
  obtain ⟨part, r, -, rfl⟩ := h
  rfl

theorem IsRefusedFor.arg {name : String} {args : List TypeExpr} (h : e.IsRefusedFor t)
    (he : e ∈ args) : (TypeExpr.path name args).IsRefusedFor t := by
  obtain ⟨part, r, hpart, rfl⟩ := h
  exact ⟨part, r, .arg he hpart, rfl⟩

private theorem refused_or_holds_resolveOption {name : String} {inner : TypeRef}
    (h : e.IsRefusedFor inner ∨ Means table .optionInner e inner)
    (hname : Naming.lastSegment name = "Option") :
    (TypeExpr.path name [e]).IsRefusedFor (resolveOption (.path name [e]) inner) ∨
      Holds table (.path name [e]) (resolveOption (.path name [e]) inner) := by
  obtain h | h := h
  · obtain ⟨part, r, hpart, rfl⟩ := h
    exact .inl ⟨part, r, .arg List.mem_cons_self hpart, rfl⟩
  cases h with
  | value h =>
    cases h with
    | value h =>
      have hoption := Holds.option hname h
      cases h <;> exact .inr hoption
    | option _ _ => exact .inl (isRefusedFor_self _ _)
  | nothing h => simp at h

/-- The sides of a result are what may stand there. -/
theorem Means.isSide {position : TypePosition} (h : Means table position e t)
    (hparam : position ≠ .param) (hreturn : position ≠ .return_) : IsSide table e t := by
  cases h with
  | value h => exact .value h
  | nothing _ => exact .nothing
  | lentText | lent => exact absurd rfl hparam
  | result => exact absurd rfl hreturn

private theorem refused_or_means_resolveResult (position : TypePosition) {name : String}
    {ok err : TypeExpr} {t u : TypeRef} (hok : ok.IsRefusedFor t ∨ Means table .resultOk ok t)
    (herr : err.IsRefusedFor u ∨ Means table .resultErr err u)
    (hname : Naming.lastSegment name = "Result") :
    (TypeExpr.path name [ok, err]).IsRefusedFor
        (resolveResult (.path name [ok, err]) position t u) ∨
      Means table position (.path name [ok, err])
        (resolveResult (.path name [ok, err]) position t u) := by
  unfold resolveResult
  split
  · exact .inl (isRefusedFor_self _ _)
  split
  · exact .inl (isRefusedFor_self _ _)
  rename_i hposition
  obtain rfl : position = .return_ := not_not.mp hposition
  obtain hok | hok := hok
  · rw [hok.isSupported]
    exact .inl (hok.arg (by simp))
  obtain herr | herr := herr
  · rw [hok.isSupported, herr.isSupported]
    exact .inl (herr.arg (by simp))
  rw [hok.isSupported, herr.isSupported]
  exact .inr (.result hname (hok.isSide (by simp) (by simp)) (herr.isSide (by simp) (by simp)))

/-- A path to an exported type that is not refused as a parameter is without arguments. -/
theorem Means.lent_of_isExported (hnames : ∀ entry ∈ table, isBuiltinTypeName entry.1 = false)
    (h : Means table .param e t) (he : e.isExported table = true) :
    Means table .param (.ref false e) t := by
  obtain ⟨name, args, rfl, id, hid⟩ : ∃ name args, e = .path name args ∧
      ∃ id, table.lookup (Naming.lastSegment name) = some id := by
    cases e with
    | path name args => exact ⟨name, args, rfl, Option.isSome_iff_exists.mp he⟩
    | _ => cases he
  obtain ⟨hprimitive, hfixed⟩ := not_builtin_of_lookup hnames hid
  simp only [fixedTypeNames, List.mem_cons, List.not_mem_nil, or_false, not_or] at hfixed
  cases h with
  | value h =>
    cases h with
    | value h =>
      cases h with
      | primitive hp => simp [hprimitive] at hp
      | text htext => exact absurd htext hfixed.1
      | exported hid => exact .lent hid
    | option hname _ => exact absurd hname hfixed.2.2.1

/-- An expression is refused for one of its parts or resolves to what it stands for. -/
theorem refused_or_means (hnames : ∀ entry ∈ table, isBuiltinTypeName entry.1 = false)
    (position : TypePosition) (e : TypeExpr) :
    e.IsRefusedFor (e.resolve table position) ∨
      Means table position e (e.resolve table position) := by
  fun_induction TypeExpr.resolve table position e with
  | case1 position name =>
    exact (refused_or_names_resolveName name).imp_right fun h => .value (.value h)
  | case2 position name arg hname ih =>
    exact (refused_or_holds_resolveOption ih hname).imp_right .value
  | case4 position name ok err hname hok herr =>
    exact refused_or_means_resolveResult position hok herr hname
  | case3 | case5 | case6 => exact .inl (isRefusedFor_resolveGeneric _ _)
  | case9 position inner hposition htext =>
    obtain rfl : position = .param := not_not.mp hposition
    cases inner with
    | path name args =>
      cases args with
      | nil => exact .inr (.lentText (of_decide_eq_true htext))
      | cons => cases htext
    | _ => cases htext
  | case10 position inner hposition htext hexported ih =>
    obtain rfl : position = .param := not_not.mp hposition
    obtain ⟨part, r, hpart, heq⟩ | h := ih
    · exact .inl ⟨part, r, .ref hpart, heq⟩
    · exact .inr (h.lent_of_isExported hnames hexported)
  | case12 position h =>
    refine .inr (.nothing ?_)
    cases position <;> simp [TypePosition.allowsUnit] at h ⊢
  | _ => exact .inl (isRefusedFor_self _ _)

end TypeExpr

/-- **The expressions of the grammar resolve to what they stand for, and no others do.** What an
expression resolves to is told by the last segments of its paths. All others are refused as a whole,
in words that start with one of their parts. The table may not hold names that have a fixed
meaning. -/
theorem resolves_exactly_grammar {table : TypeTable}
    (hnames : ∀ entry ∈ table, isBuiltinTypeName entry.1 = false) (position : TypePosition)
    (e : TypeExpr) :
    (∀ t, e.resolve table position = t ∧ t.isSupported = true ↔ TypeExpr.Means table position e t) ∧
    ((e.resolve table position).isSupported = true → ∀ e', e.SameSegments e' →
      e'.resolve table position = e.resolve table position) ∧
    ((e.resolve table position).isSupported = false →
      ∃ (part : TypeExpr) (rest : String), part.IsPart e ∧
        e.resolve table position = .unsupported ("`" ++ part.display ++ "`" ++ rest)) := by
  have hcases := TypeExpr.refused_or_means hnames position e
  have hmeans (h : (e.resolve table position).isSupported = true) :
      TypeExpr.Means table position e (e.resolve table position) := by
    refine hcases.resolve_left fun hrefused => ?_
    rw [hrefused.isSupported] at h
    cases h
  refine ⟨fun t => ⟨?_, fun h => ⟨TypeExpr.resolve_eq_of_means hnames h, h.isSupported⟩⟩, ?_, ?_⟩
  · rintro ⟨rfl, h⟩
    exact hmeans h
  · intro h e' he
    exact TypeExpr.resolve_eq_of_means hnames ((hmeans h).of_sameSegments he)
  · intro h
    obtain ⟨part, r, hpart, heq⟩ := hcases.resolve_right fun hm => by simp [hm.isSupported] at h
    refine ⟨part, ": " ++ r.message, hpart, ?_⟩
    have hmark : "`: " = "`" ++ ": " := by decide +kernel
    rw [heq]
    show TypeRef.unsupported ("`" ++ part.display ++ "`: " ++ r.message) = _
    rw [hmark]
    simp only [String.append_assoc]

/-- A result of nothing or of an optional exported type; text as it is written elsewhere; a
container in an option, which is refused for the container. -/
theorem resolves_exactly_grammar_person :
    (∀ entry ∈ [("Person", (⟨0⟩ : TypeId))], isBuiltinTypeName entry.1 = false) ∧
    (TypeExpr.path "Result" [.unit, .path "Option" [.path "demo::Person" []]]).resolve
      [("Person", ⟨0⟩)] .return_ = .result .unit (.option (.handle ⟨0⟩)) ∧
    (TypeExpr.path "std::string::String" []).resolve [("Person", ⟨0⟩)] .field =
      (TypeExpr.path "String" []).resolve [("Person", ⟨0⟩)] .field ∧
    ∃ (part : TypeExpr) (rest : String),
      part.IsPart (.path "Option" [.path "Vec" [.path "u8" []]]) ∧
        (TypeExpr.path "Option" [.path "Vec" [.path "u8" []]]).resolve [("Person", ⟨0⟩)] .param =
          .unsupported ("`" ++ part.display ++ "`" ++ rest) := by
  have hnames : ∀ entry ∈ [("Person", (⟨0⟩ : TypeId))], isBuiltinTypeName entry.1 = false := by
    decide +kernel
  refine ⟨hnames, ?_, ?_, ?_⟩
  · refine ((resolves_exactly_grammar hnames .return_ _).1 _ |>.mpr ?_).1
    refine .result (by decide +kernel) .nothing (.value (.option (by decide +kernel) ?_))
    exact .exported (by decide +kernel)
  · refine (resolves_exactly_grammar hnames .field (.path "String" [])).2.1 (by decide +kernel) _ ?_
    exact .path (by decide +kernel) .nil
  · exact (resolves_exactly_grammar hnames .param _).2.2 (by decide +kernel)

end Boundary
