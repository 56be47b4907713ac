import Boundary.Resolution

/-!
# What types resolve to

An expression resolves to a type that is refused as a whole, or to one of which no part is refused
and which mentions exported types only.

* `TypeRef.Admissible`: the types that are not refused.
* `TypeExpr.isRefused_or_admissible_resolve`: what expressions resolve to.
* `TypeRef.Admissible.isSupported`, `TypeRef.Admissible.exists_lookup_of_mem_handles`: what that
  says of the parts of a type.
* `TypeExpr.resolve_ref_param`: a reference that is not refused refers to text or to an exported
  type.
* `TypeExpr.paramMode_eq_borrowed_iff`, `TypeExpr.paramMode_eq_transfer_iff`: how arguments are
  handed over.
-/

namespace Boundary

/-- The type is refused as a whole. -/
def TypeRef.IsRefused (t : TypeRef) : Prop := ∃ reason, t = .unsupported reason

/-- The types that are not refused, where a table tells the exported types. -/
inductive TypeRef.Admissible (table : TypeTable) : TypeRef → Prop
  | unit : Admissible table .unit
  | primitive (p : Primitive) : Admissible table (.primitive p)
  | str : Admissible table .str
  | handle {name : String} {id : TypeId} (h : table.lookup name = some id) :
    Admissible table (.handle id)
  | option {inner : TypeRef} (h : Admissible table inner) : Admissible table (.option inner)
  | result {ok err : TypeRef} (hok : Admissible table ok) (herr : Admissible table err) :
    Admissible table (.result ok err)

variable {table : TypeTable}

theorem TypeRef.Admissible.isSupported {t : TypeRef} (h : t.Admissible table) :
    t.isSupported = true := by
  induction h with
  | unit | primitive | str | handle => rfl
  | option _ ih => exact ih
  | result _ _ hok herr => simp [TypeRef.isSupported, hok, herr]

theorem TypeRef.Admissible.not_isRefused {t : TypeRef} (h : t.Admissible table) :
    ¬ t.IsRefused := by
  rintro ⟨reason, rfl⟩
  cases h

theorem TypeRef.Admissible.exists_lookup_of_mem_handles {t : TypeRef} (h : t.Admissible table)
    {id : TypeId} (hid : id ∈ t.handles) : ∃ name, table.lookup name = some id := by
  induction h with
  | unit | primitive | str => simp [TypeRef.handles] at hid
  | handle h =>
    obtain rfl : id = _ := by simpa [TypeRef.handles] using hid
    exact ⟨_, h⟩
  | option _ ih => exact ih hid
  | result _ _ hok herr =>
    rcases List.mem_append.mp hid with hid | hid
    · exact hok hid
    · exact herr hid

/-! ## Expressions -/

theorem TypeExpr.isRefused_refuse (e : TypeExpr) (r : Refusal) : (e.refuse r).IsRefused :=
  ⟨_, rfl⟩

private theorem resolveName_cases (e : TypeExpr) (last : String) :
    (resolveName table e last).IsRefused ∨ (resolveName table e last).Admissible table := by
  unfold resolveName
  split
  · exact .inr (.primitive _)
  repeat' split
  all_goals first
    | exact .inl (e.isRefused_refuse _)
    | exact .inr .str
    | exact .inr (.handle ‹_›)

theorem isRefused_resolveGeneric (e : TypeExpr) (last : String) :
    (resolveGeneric table e last).IsRefused := by
  unfold resolveGeneric
  repeat' split
  all_goals exact e.isRefused_refuse _

private theorem resolveOption_cases (e : TypeExpr) {inner : TypeRef}
    (h : inner.IsRefused ∨ inner.Admissible table) :
    (resolveOption e inner).IsRefused ∨ (resolveOption e inner).Admissible table := by
  obtain ⟨reason, rfl⟩ | h := h
  · exact .inl ⟨reason, rfl⟩
  · unfold resolveOption
    split
    · exact .inl ⟨_, rfl⟩
    · exact .inl (e.isRefused_refuse _)
    · exact .inr (.option h)

private theorem resolveResult_cases (e : TypeExpr) (position : TypePosition) {ok err : TypeRef}
    (hok : ok.IsRefused ∨ ok.Admissible table) (herr : err.IsRefused ∨ err.Admissible table) :
    (resolveResult e position ok err).IsRefused ∨
      (resolveResult e position ok err).Admissible table := by
  unfold resolveResult
  split
  · exact .inl (e.isRefused_refuse _)
  split
  · exact .inl (e.isRefused_refuse _)
  split
  · exact hok
  split
  · exact herr
  rename_i hok' herr'
  obtain ⟨reason, rfl⟩ | hok := hok
  · exact absurd rfl hok'
  obtain ⟨reason, rfl⟩ | herr := herr
  · exact absurd rfl herr'
  exact .inr (.result hok herr)

/-- **A type is refused as a whole or not at all.** -/
theorem TypeExpr.isRefused_or_admissible_resolve (position : TypePosition) (e : TypeExpr) :
    (e.resolve table position).IsRefused ∨ (e.resolve table position).Admissible table := by
  fun_induction TypeExpr.resolve table position e with
  | case1 _ name => exact resolveName_cases _ _
  | case2 _ name arg _ ih => exact resolveOption_cases _ ih
  | case4 position name ok err _ hok herr => exact resolveResult_cases _ _ hok herr
  | case3 | case5 | case6 => exact .inl (isRefused_resolveGeneric _ _)
  | case9 => exact .inr .str
  | case10 _ _ _ _ _ ih => exact ih
  | case12 => exact .inr .unit
  | _ => exact .inl (TypeExpr.isRefused_refuse _ _)

/-- A path to an exported type is that type, unless it has arguments. The name has no fixed
meaning. -/
private theorem resolve_exported (position : TypePosition) {name : String}
    {args : List TypeExpr} {id : TypeId} (hid : table.lookup (Naming.lastSegment name) = some id)
    (hname : isBuiltinTypeName (Naming.lastSegment name) = false) :
    ((TypeExpr.path name args).resolve table position).IsRefused ∨
      (TypeExpr.path name args).resolve table position = .handle id := by
  obtain ⟨hprimitive, hfixed⟩ : Primitive.ofName? (Naming.lastSegment name) = none ∧
      Naming.lastSegment name ∉ fixedTypeNames := by
    simpa [isBuiltinTypeName] using hname
  simp only [fixedTypeNames, List.mem_cons, List.not_mem_nil, or_false, not_or] at hfixed
  match args with
  | [] => exact .inr (by simp [TypeExpr.resolve, resolveName, hprimitive, hfixed, hid])
  | [arg] =>
    simp only [TypeExpr.resolve, hfixed, if_false]
    exact .inl (isRefused_resolveGeneric _ _)
  | [ok, err] =>
    simp only [TypeExpr.resolve, hfixed, if_false]
    exact .inl (isRefused_resolveGeneric _ _)
  | _ :: _ :: _ :: _ =>
    simp only [TypeExpr.resolve]
    exact .inl (isRefused_resolveGeneric _ _)

/-- **A reference that is not refused refers to text or to an exported type.** The table may not
hold names that have a fixed meaning. -/
theorem TypeExpr.resolve_ref_param (hnames : ∀ name id, table.lookup name = some id →
      isBuiltinTypeName name = false) {isMutable : Bool} {inner : TypeExpr}
    (h : ¬ ((TypeExpr.ref isMutable inner).resolve table .param).IsRefused) :
    (TypeExpr.ref isMutable inner).resolve table .param = .str ∨
      ∃ id, (TypeExpr.ref isMutable inner).resolve table .param = .handle id := by
  cases isMutable with
  | true => exact absurd (TypeExpr.isRefused_refuse _ _) h
  | false =>
    simp only [TypeExpr.resolve, ne_eq, not_true_eq_false, if_false] at h ⊢
    split
    · exact .inl rfl
    rename_i htext
    rw [if_neg htext] at h
    split
    · rename_i hexported
      rw [if_pos hexported] at h
      cases inner with
      | path name args =>
        obtain ⟨id, hid⟩ := Option.isSome_iff_exists.mp hexported
        rcases resolve_exported .param hid (hnames _ _ hid) with hr | hr
        · exact absurd hr h
        · exact .inr ⟨id, hr⟩
      | _ => cases hexported
    · rename_i hexported
      rw [if_neg hexported] at h
      exact absurd (TypeExpr.isRefused_refuse _ _) h

/-! ## Arguments -/

theorem TypeExpr.paramMode_eq_borrowed_iff {e : TypeExpr} {transfer : Bool} :
    e.paramMode transfer = .borrowed ↔ ∃ isMutable inner, e = .ref isMutable inner := by
  cases e with
  | ref isMutable inner => simp [TypeExpr.paramMode]
  | _ => cases transfer <;> simp [TypeExpr.paramMode]

theorem TypeExpr.paramMode_eq_transfer_iff {e : TypeExpr} {transfer : Bool} :
    e.paramMode transfer = .transfer ↔
      transfer = true ∧ ∀ isMutable inner, e ≠ .ref isMutable inner := by
  cases e with
  | ref isMutable inner => simp [TypeExpr.paramMode]
  | _ => cases transfer <;> simp [TypeExpr.paramMode]

end Boundary
