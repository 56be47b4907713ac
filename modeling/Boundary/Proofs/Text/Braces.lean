import Mathlib.Data.List.Basic
import Boundary.Proofs.Naming.Word
import Boundary.Proofs.Text.Split

/-!
# Braces in a text

How deep a text is inside braces, character by character. Source is put together of texts that leave
that level as it was, of texts that open a level and of texts that close one.

* `levelBehind`: the level behind some brackets; `levelBehind_eq_some_iff`: the same by counting
  them.
* `Leads`: a text that leads from one level to another; `Nested`: one that leaves it as it was.
* `nested_iff`: no beginning of such a text has more closing braces than opening ones, and the whole
  has as many.
* `BraceFree`: a text without braces.
* `Leads.append`, `Leads.enclose`, `Leads.intercalate`: texts that are put together.
-/

namespace Boundary.Text

/-! ## Levels -/

/-- What opens a level, or closes one. -/
inductive Bracket
  | opening
  | closing
deriving Repr, DecidableEq

/-- The level behind a row of `Bracket`, where the number is the level before them. There is none if
a level is closed that has not been opened. -/
def levelBehind : Nat → List Bracket → Option Nat
  | level, [] => some level
  | level, .opening :: rest => levelBehind (level + 1) rest
  | 0, .closing :: _ => none
  | level + 1, .closing :: rest => levelBehind level rest

theorem levelBehind_append (level : Nat) (front back : List Bracket) :
    levelBehind level (front ++ back) = (levelBehind level front).bind (levelBehind · back) := by
  induction front generalizing level with
  | nil => rfl
  | cons b rest ih =>
    cases b with
    | opening => exact ih _
    | closing =>
      cases level with
      | zero => rfl
      | succ level => exact ih level

/-- What stands around some brackets does not matter. -/
theorem levelBehind_add {before behind : Nat} {bs : List Bracket}
    (h : levelBehind before bs = some behind) (around : Nat) :
    levelBehind (before + around) bs = some (behind + around) := by
  induction bs generalizing before with
  | nil =>
    obtain rfl := Option.some.inj h
    rfl
  | cons b rest ih =>
    cases b with
    | opening =>
      have hrest : levelBehind (before + 1 + around) rest = some (behind + around) := ih h
      rwa [Nat.add_right_comm] at hrest
    | closing =>
      cases before with
      | zero => cases h
      | succ before =>
        rw [Nat.add_right_comm]
        exact ih h

private theorem forall_prefix_cons_iff {α : Type} {p : List α → Prop} {a : α} {as : List α} :
    (∀ front, front <+: a :: as → p front) ↔ p [] ∧ ∀ front, front <+: as → p (a :: front) := by
  simp only [List.prefix_cons_iff, or_imp, forall_and, forall_eq]
  refine and_congr_right fun _ => ⟨fun h front hfront => h _ ⟨front, rfl, hfront⟩, ?_⟩
  rintro h _ ⟨front, rfl, hfront⟩
  exact h front hfront

/-- The level by counting: no beginning closes more than is open. -/
theorem levelBehind_eq_some_iff {before behind : Nat} {bs : List Bracket} :
    levelBehind before bs = some behind ↔
      (∀ front, front <+: bs → front.count .closing ≤ before + front.count .opening) ∧
        before + bs.count .opening = behind + bs.count .closing := by
  induction bs generalizing before with
  | nil => simp [levelBehind]
  | cons b rest ih =>
    rw [forall_prefix_cons_iff]
    cases b with
    | opening =>
      have hcount (front : List Bracket) : (Bracket.opening :: front).count .closing ≤
          before + (Bracket.opening :: front).count .opening ↔
            front.count .closing ≤ before + 1 + front.count .opening := by
        simp
        omega
      rw [levelBehind, ih]
      simp only [hcount]
      simp
      omega
    | closing =>
      cases before with
      | zero =>
        have hfirst :
            ¬ [Bracket.closing].count .closing ≤ 0 + [Bracket.closing].count .opening := by
          decide
        simp only [levelBehind, reduceCtorEq, false_iff]
        exact fun h => hfirst (h.1.2 [] List.nil_prefix)
      | succ before =>
        have hcount (front : List Bracket) : (Bracket.closing :: front).count .closing ≤
            before + 1 + (Bracket.closing :: front).count .opening ↔
              front.count .closing ≤ before + front.count .opening := by
          simp
          omega
        rw [levelBehind, ih]
        simp only [hcount]
        simp
        omega

/-! ## Texts -/

/-- The bracket that the character `c` is, if it is a brace. -/
def braceOf? (c : Char) : Option Bracket :=
  if c = '{' then some .opening else if c = '}' then some .closing else none

/-- The braces in the text `t`. -/
def bracesOf (t : String) : List Bracket := t.toList.filterMap braceOf?

@[simp] theorem bracesOf_append (a b : String) : bracesOf (a ++ b) = bracesOf a ++ bracesOf b := by
  simp [bracesOf]

@[simp] theorem bracesOf_ofList (cs : List Char) :
    bracesOf (String.ofList cs) = cs.filterMap braceOf? := by
  rw [bracesOf, String.toList_ofList]

theorem bracesOf_join (parts : List String) :
    bracesOf (String.join parts) = parts.flatMap bracesOf := by
  rw [bracesOf, String.toList_join, List.filterMap_flatMap]
  rfl

private theorem count_bracesOf (cs : List Char) :
    (cs.filterMap braceOf?).count .opening = cs.count '{' ∧
      (cs.filterMap braceOf?).count .closing = cs.count '}' := by
  rw [List.count_filterMap, List.count_filterMap]
  refine ⟨List.countP_congr fun c _ => ?_, List.countP_congr fun c _ => ?_⟩
  · unfold braceOf?
    grind
  · unfold braceOf?
    grind

/-- The braces of the text `t` lead from the level `before` to the level `behind`. -/
structure Leads (before behind : Nat) (t : String) : Prop where
  levelBehind_eq : levelBehind before (bracesOf t) = some behind

theorem leads_iff {before behind : Nat} {t : String} :
    Leads before behind t ↔ levelBehind before (bracesOf t) = some behind :=
  ⟨Leads.levelBehind_eq, Leads.mk⟩

instance (before behind : Nat) (t : String) : Decidable (Leads before behind t) :=
  decidable_of_iff _ leads_iff.symm

/-- A text that leaves the level as it was and closes nothing that is open before it. -/
abbrev Nested (t : String) : Prop := Leads 0 0 t

/-- **No beginning of a text that is `Nested` closes more braces than it opens**, and the whole text
closes as many. -/
theorem nested_iff {t : String} :
    Nested t ↔ (∀ front, front <+: t.toList → front.count '}' ≤ front.count '{') ∧
      t.toList.count '{' = t.toList.count '}' := by
  have hfronts : (∀ front, front <+: bracesOf t →
      front.count .closing ≤ 0 + front.count .opening) ↔
      ∀ front, front <+: t.toList → front.count '}' ≤ front.count '{' := by
    constructor
    · intro h front hfront
      have hle := h _ (hfront.filterMap braceOf?)
      rwa [(count_bracesOf front).1, (count_bracesOf front).2, Nat.zero_add] at hle
    · rintro h front ⟨back, hfront⟩
      obtain ⟨x, y, hxy, rfl, -⟩ := List.filterMap_eq_append_iff.mp hfront.symm
      rw [(count_bracesOf x).1, (count_bracesOf x).2, Nat.zero_add]
      exact h x ⟨y, hxy.symm⟩
  rw [Nested, leads_iff, levelBehind_eq_some_iff, hfronts, bracesOf, (count_bracesOf _).1,
    (count_bracesOf _).2, Nat.zero_add, Nat.zero_add]

variable {a b t front back : String} {before between behind : Nat}

/-! ### Putting texts together -/

theorem Leads.ofList {cs : List Char}
    (h : levelBehind before (cs.filterMap braceOf?) = some behind) :
    Leads before behind (String.ofList cs) := by
  rwa [leads_iff, bracesOf_ofList]

theorem Leads.append (ha : Leads before between a) (hb : Leads between behind b) :
    Leads before behind (a ++ b) := by
  rw [leads_iff, bracesOf_append, levelBehind_append, ha.levelBehind_eq]
  exact hb.levelBehind_eq

/-- A text that is `Nested` may stand at any level. -/
theorem Leads.at (h : Nested t) (level : Nat) : Leads level level t := by
  have hadd := levelBehind_add h.levelBehind_eq level
  rw [Nat.zero_add] at hadd
  exact ⟨hadd⟩

/-- A text between braces. -/
theorem Leads.enclose (hfront : Leads 0 1 front) (h : Nested t) (hback : Leads 1 0 back) :
    Nested (front ++ t ++ back) := (hfront.append (h.at 1)).append hback

private theorem levelBehind_flatMap {α : Type} {brackets : α → List Bracket} {as : List α}
    (h : ∀ a ∈ as, levelBehind 0 (brackets a) = some 0) :
    levelBehind 0 (as.flatMap brackets) = some 0 := by
  induction as with
  | nil => rfl
  | cons a rest ih =>
    rw [List.forall_mem_cons] at h
    rw [List.flatMap_cons, levelBehind_append, h.1]
    exact ih h.2

theorem nested_join {parts : List String} (h : ∀ part ∈ parts, Nested part) :
    Nested (String.join parts) := by
  rw [Nested, leads_iff, bracesOf_join]
  exact levelBehind_flatMap fun part hpart => (h part hpart).levelBehind_eq

theorem nested_ofList {cs : List Char} (h : levelBehind 0 (cs.filterMap braceOf?) = some 0) :
    Nested (String.ofList cs) := .ofList h

theorem nested_empty : Nested "" := nested_ofList (by decide)

theorem Leads.intercalate {parts : List String} (hbetween : Nested t)
    (h : ∀ part ∈ parts, Nested part) : Nested (t.intercalate parts) := by
  induction parts with
  | nil => exact nested_empty
  | cons first rest ih =>
    rw [List.forall_mem_cons] at h
    cases rest with
    | nil =>
      rw [String.intercalate_singleton]
      exact h.1
    | cons second rest =>
      rw [String.intercalate_cons_cons]
      exact (h.1.append hbetween).append (ih h.2)

/-! ## Texts without braces -/

/-- The text `t` has no braces. -/
def BraceFree (t : String) : Prop := '{' ∉ t.toList ∧ '}' ∉ t.toList

instance (t : String) : Decidable (BraceFree t) :=
  inferInstanceAs (Decidable ('{' ∉ t.toList ∧ '}' ∉ t.toList))

theorem BraceFree.append (ha : BraceFree a) (hb : BraceFree b) : BraceFree (a ++ b) := by
  rw [BraceFree, String.toList_append, List.mem_append, List.mem_append, not_or, not_or]
  exact ⟨⟨ha.1, hb.1⟩, ⟨ha.2, hb.2⟩⟩

theorem BraceFree.bracesOf_eq_nil (h : BraceFree t) : bracesOf t = [] := by
  rw [bracesOf, List.filterMap_eq_nil_iff]
  intro c hc
  have hopening : c ≠ '{' := ne_of_mem_of_not_mem hc h.1
  have hclosing : c ≠ '}' := ne_of_mem_of_not_mem hc h.2
  rw [braceOf?, if_neg hopening, if_neg hclosing]

theorem BraceFree.nested (h : BraceFree t) : Nested t := by
  rw [Nested, leads_iff, h.bracesOf_eq_nil]
  rfl

theorem braceFree_of_isWord (h : Naming.IsWord t) : BraceFree t :=
  ⟨h.notMem (by decide), h.notMem (by decide)⟩

theorem nested_of_isWord (h : Naming.IsWord t) : Nested t := (braceFree_of_isWord h).nested

end Boundary.Text
