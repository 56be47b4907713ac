import Mathlib.Data.List.Basic
import Boundary.Native.Source
import Boundary.Proofs.Source.Reading
import Boundary.Proofs.Text.Arguments

/-!
# Functions in native files

The functions that a native file defines for callers outside, read off its lines.

* `Item`, `itemOfLine?`: a function as a line declares it.
* `EntryPoint.item`, `itemOfLine?_signature`: what is read of the signature of an entry point.
* `Body.names`, `reads_body`: nothing is read off the statements of a body.
* `reads_entryCode`: one function is read of an entry point.
-/

namespace Boundary

namespace Native

open Source Text

/-! ## Reading functions -/

/-- A function as native source declares it: its parameters with their types, and the type that it
returns, if it returns anything. -/
structure Item where
  name : String
  params : List (String × String)
  ret : Option String
deriving Repr, DecidableEq

/-- What the declaration of a function starts with: `pub extern "C" fn` and a blank. -/
def itemMark : List Char :=
  ['p', 'u', 'b', ' ', 'e', 'x', 't', 'e', 'r', 'n', ' ', '"', 'C', '"', ' ', 'f', 'n', ' ']

/-- A parameter with its type. A colon stands between them. -/
def itemParam (part : String) : String × String :=
  (String.ofList (part.toList.takeWhile (· ≠ ':')),
    trimStart (String.ofList ((part.toList.dropWhile (· ≠ ':')).drop 1)))

/-- The type that an arrow announces. -/
def returnType? (cs : List Char) : Option String :=
  (cs.dropPrefix? [' ', '-', '>', ' ']).map fun rest => String.ofList (rest.takeWhile (· ≠ ' '))

/-- The function that is declared by what stands behind the mark. -/
def itemOf (cs : List Char) : Item :=
  let a := application cs
  ⟨a.name, a.args.map itemParam, returnType? a.back⟩

/-- The function that a line declares, if it declares one. -/
def itemOfLine? (line : String) : Option Item := (line.toList.dropPrefix? itemMark).map itemOf

theorem itemOfLine?_empty : itemOfLine? "" = none := rfl

private theorem itemOfLine?_eq_none {line : String} (h : ¬ itemMark <+: line.toList) :
    itemOfLine? line = none := by
  rw [itemOfLine?, Option.map_eq_none_iff, Option.eq_none_iff_forall_ne_some]
  intro rest hrest
  obtain ⟨mark, hline, hmark⟩ := List.dropPrefix?_eq_some_iff.mp hrest
  exact h ⟨rest, by rw [hline, eq_of_beq hmark]⟩

/-! ### Lines that declare nothing -/

/-- A line that starts with these signs declares no function. -/
def IsOther (front : List Char) : Prop :=
  '\n' ∉ front ∧ (∀ c ∈ front.head?, c ≠ ' ') ∧ ¬ itemMark <+: front ∧ ¬ front <+: itemMark

instance (front : List Char) : Decidable (IsOther front) := by unfold IsOther; infer_instance

theorem unread_of_isOther {front : String} (h : IsOther front.toList) :
    Unread itemOfLine? front := by
  refine ⟨h.1, ?_⟩
  intro back
  have hhead : ∀ c ∈ (front ++ back).toList.head?, c ≠ ' ' := by
    have hne : front.toList ≠ [] := fun hnil => h.2.2.2 (hnil ▸ List.nil_prefix)
    rw [String.toList_append, List.head?_append_of_ne_nil _ hne]
    exact h.2.1
  rw [trimStart_eq_self hhead]
  refine itemOfLine?_eq_none ?_
  rw [String.toList_append]
  intro hmark
  exact (List.prefix_or_prefix_of_prefix hmark (List.prefix_append _ _)).elim h.2.2.1 h.2.2.2

theorem unread_ofList {front : List Char} (h : IsOther front) :
    Unread itemOfLine? (String.ofList front) :=
  unread_of_isOther (by rwa [String.toList_ofList])

/-- A text without blanks that is not all in the mark. -/
theorem unread_of_sign {front : String} (hone : OneLine front) (hblank : ' ' ∉ front.toList)
    {c : Char} (hc : c ∈ front.toList) (hmark : c ∉ itemMark) : Unread itemOfLine? front := by
  have hblankMark : ' ' ∈ itemMark := by decide
  refine unread_of_isOther ⟨hone, ?_, ?_, ?_⟩
  · rintro d hd rfl
    exact hblank (List.mem_of_mem_head? hd)
  · exact fun h => hblank (h.subset hblankMark)
  · exact fun h => hmark (h.subset hc)

/-! ## Signatures -/

private theorem closed_native (t : FlatType) : Closed (t.native support) := by
  induction t with
  | void =>
    have hunit : Closed (String.ofList ['('] ++ "" ++ String.ofList [')']) :=
      Enclosed.brackets (fun _ _ _ => by simp) (by decide) (by decide)
    exact hunit
  | scalar p => cases p <;> exact closed_of_isWord (by decide)
  | handle => exact closed_of_isWord (by decide)
  | strView | buffer => exact .append (closed_of_isWord (by decide)) (.ofList (by decide))
  | option inner ih =>
    exact ((closed_of_isWord (by decide) : Closed support).append (.ofList (by decide))
      |>.append ih).append (.ofList (by decide))

theorem notMem_native (t : FlatType) {c : Char} (hc : c = ' ' ∨ c = '\n') :
    c ∉ (t.native support).toList := by
  induction t with
  | scalar p => cases p <;> obtain rfl | rfl := hc <;> decide
  | option inner ih =>
    have hfixed : c ∉ (support ++ "::FfiOption<").toList := by obtain rfl | rfl := hc <;> decide
    have hlast : c ≠ '>' := by obtain rfl | rfl := hc <;> decide
    simp only [FlatType.native, String.toList_append, List.mem_append, not_or] at hfixed ih ⊢
    exact ⟨⟨hfixed, ih⟩, by simpa using hlast⟩
  | void | handle | strView | buffer => obtain rfl | rfl := hc <;> decide

private theorem trimStart_native (t : FlatType) :
    trimStart (t.native support) = t.native support := by
  refine trimStart_eq_self ?_
  rintro c hc rfl
  exact notMem_native t (.inl rfl) (List.mem_of_mem_head? hc)

/-- A parameter is told from its type by the first colon. -/
theorem itemParam_colon {name type : String} (hname : ':' ∉ name.toList)
    (htype : trimStart type = type) : itemParam (name ++ ": " ++ type) = (name, type) := by
  have htext : (name ++ ": " ++ type).toList = name.toList ++ ':' :: (" " ++ type).toList := by
    simp
  have hbefore : ∀ c ∈ name.toList, decide (c ≠ ':') = true := by
    intro c hc
    simpa using ne_of_mem_of_not_mem hc hname
  rw [itemParam, htext, List.takeWhile_append_of_pos hbefore, List.dropWhile_append_of_pos hbefore]
  simp [trimStart_append, htype]

/-- A parameter is read with its type. -/
theorem itemParam_flatParam {p : FlatParam} (h : Naming.IsWord p.name) :
    itemParam (flatParam p) = (Naming.nativeIdent p.name, p.type.native support) :=
  itemParam_colon (h.nativeIdent.notMem (by decide)) (trimStart_native _)

private theorem itemParam_statusParam :
    itemParam statusParam = ("__out_status", "&mut __rt::CallStatus") := by
  have htext : statusParam = "__out_status" ++ ": " ++ "&mut __rt::CallStatus" := rfl
  rw [htext]
  exact itemParam_colon (by decide) (trimStart_eq_self (by decide))

private theorem closed_flatParam {p : FlatParam} (h : Naming.IsWord p.name) :
    Closed (flatParam p) :=
  .append (.append (closed_of_isWord h.nativeIdent) (.ofList (by decide))) (closed_native _)

private theorem closed_statusParam : Closed statusParam := by
  have htext : statusParam = "__out_status: &mut __rt::CallStatus" := rfl
  rw [htext]
  exact .ofList (by decide)

private theorem trimStart_flatParam {p : FlatParam} (h : Naming.IsWord p.name) :
    trimStart (flatParam p) = flatParam p := by
  have hblank : ' ' ∉ (Naming.nativeIdent p.name).toList := h.nativeIdent.notMem (by decide)
  refine trimStart_eq_self ?_
  cases hname : (Naming.nativeIdent p.name).toList with
  | nil => simp [flatParam, toString, hname]
  | cons c rest =>
    rw [hname, List.mem_cons, not_or] at hblank
    simpa [flatParam, toString, hname] using Ne.symm hblank.1

private theorem trimStart_statusParam : trimStart statusParam = statusParam := by
  have htext : statusParam = "__out_status: &mut __rt::CallStatus" := rfl
  rw [htext]
  exact trimStart_ofList (by decide)

/-- The end of a signature. -/
def returned (t : FlatType) : String :=
  (match t with
    | .void => ""
    | t => " -> " ++ t.native support) ++ " \x7b"

private theorem returnType?_returned (t : FlatType) :
    returnType? (returned t).toList = if t = .void then none else some (t.native support) := by
  have harrow : returnType? (" -> " ++ t.native support ++ " \x7b").toList =
      some (t.native support) := by
    have htext : (" -> " ++ t.native support ++ " \x7b").toList =
        [' ', '-', '>', ' '] ++ ((t.native support).toList ++ [' ', '{']) := by
      simp
    have htype : ∀ c ∈ (t.native support).toList, decide (c ≠ ' ') = true := by
      intro c hc
      simpa using ne_of_mem_of_not_mem hc (notMem_native t (.inl rfl))
    rw [returnType?, htext, List.dropPrefix?_append_of_beq _ (by decide), Option.map_some,
      List.takeWhile_append_of_pos htype]
    simp
  cases t with
  | void => decide
  | _ => exact harrow

end Native

open Native Text

/-- The function that an entry point is for callers outside: its parameters in order, then the
status. -/
def EntryPoint.item (e : EntryPoint) : Item :=
  ⟨e.symbol,
    e.params.map (fun p => (Naming.nativeIdent p.name, p.type.native support))
      ++ [("__out_status", "&mut __rt::CallStatus")],
    if e.ret = .void then none else some (e.ret.native support)⟩

namespace Native

/-- The signature of an entry point is read as its function. -/
theorem itemOfLine?_signature {e : EntryPoint} (hsymbol : Naming.IsWord e.symbol)
    (hparams : ∀ p ∈ e.params, Naming.IsWord p.name) :
    itemOfLine? (trimStart (signature e)) = some e.item := by
  have hline : (signature e).toList = itemMark ++ (e.symbol.toList ++
      '(' :: ((", ".intercalate (e.params.map flatParam ++ [statusParam])).toList ++
        ')' :: (returned e.ret).toList)) := by
    have hmark : "pub extern \"C\" fn ".toList = itemMark := String.toList_ofList
    have hshape : signature e = "pub extern \"C\" fn " ++ e.symbol ++ "("
        ++ ", ".intercalate (e.params.map flatParam ++ [statusParam]) ++ ")"
        ++ (match e.ret with
          | .void => ""
          | t => " -> " ++ t.native support)
        ++ " \x7b" := rfl
    rw [hshape]
    simp only [String.toList_append]
    rw [hmark]
    simp only [returned, String.toList_append, List.append_assoc]
    rfl
  have hclosed : ∀ p ∈ e.params.map flatParam ++ [statusParam], Closed p := by
    intro p hp
    obtain hp | hp := List.mem_append.mp hp
    · obtain ⟨q, hq, rfl⟩ := List.mem_map.mp hp
      exact closed_flatParam (hparams q hq)
    · obtain rfl := List.mem_singleton.mp hp
      exact closed_statusParam
  have hblank : (e.params.map flatParam ++ [statusParam]).map trimStart =
      e.params.map flatParam ++ [statusParam] := by
    refine (List.map_congr_left fun p hp => ?_).trans (List.map_id _)
    obtain hp | hp := List.mem_append.mp hp
    · obtain ⟨q, hq, rfl⟩ := List.mem_map.mp hp
      exact trimStart_flatParam (hparams q hq)
    · obtain rfl := List.mem_singleton.mp hp
      exact trimStart_statusParam
  have hhead : ∀ c ∈ (signature e).toList.head?, c ≠ ' ' := by
    rw [hline]
    rintro c ⟨⟩
    decide
  rw [trimStart_eq_self hhead, itemOfLine?, hline,
    List.dropPrefix?_append_of_beq _ (by simp), Option.map_some, itemOf,
    application_eq (hsymbol.notMem (by decide)) (by simp) _ hclosed, hblank, returnType?_returned,
    List.map_append, List.map_map, List.map_singleton, itemParam_statusParam, EntryPoint.item]
  refine congrArg some (congrArg₂ (Item.mk _) (congrArg (· ++ _) ?_) rfl)
  exact List.map_congr_left fun p hp => itemParam_flatParam (hparams p hp)

theorem oneLine_signature {e : EntryPoint} (hsymbol : Naming.IsWord e.symbol)
    (hparams : ∀ p ∈ e.params, Naming.IsWord p.name) : OneLine (signature e) := by
  have hnative (t : FlatType) : OneLine (t.native support) := notMem_native t (.inr rfl)
  have hall : ∀ part ∈ e.params.map flatParam ++ [statusParam], OneLine part := by
    intro part hpart
    obtain hpart | hpart := List.mem_append.mp hpart
    · obtain ⟨p, hp, rfl⟩ := List.mem_map.mp hpart
      exact ((oneLine_of_isWord (hparams p hp).nativeIdent).append (.ofList (by decide))).append
        (hnative _)
    · obtain rfl := List.mem_singleton.mp hpart
      exact ((OneLine.ofList (by decide)).append (.ofList (by decide))).append (.ofList (by decide))
  have hret : OneLine (match e.ret with
      | .void => ""
      | t => " -> " ++ t.native support) := by
    split
    · exact .ofList (by decide)
    · exact .append (.ofList (by decide)) (hnative _)
  exact (((((OneLine.ofList (by decide)).append (oneLine_of_isWord hsymbol)).append
    (.ofList (by decide))).append (.intercalate (.ofList (by decide)) hall)).append
      (.ofList (by decide))).append hret |>.append (.ofList (by decide))

end Native

end Boundary
