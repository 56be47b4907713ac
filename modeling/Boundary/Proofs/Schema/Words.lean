import Boundary.Managed.Expr
import Boundary.Native.Body
import Boundary.Proofs.Naming.Word
import Boundary.Proofs.Schema.Members
import Boundary.Proofs.Schema.Symbols
import Boundary.Proofs.Text.Split

/-!
# Names around entry points

The names with which generated code refers to entry points are words.

* `FieldName.Readable`: names of fields that give words.
* `Accepted.isWord_symbol`, `Accepted.isWord_entryParam`: the symbols and the parameters of entry
  points.
* `Accepted.mem_symbol_cases`: the signs in a symbol are those of its start.
* `Accepted.functions_perm`: every function is a method of one type or called on nothing.
-/

namespace Boundary

open Naming

theorem Naming.IsWord.intercalate {between : String} {parts : List String}
    (hbetween : IsWord between)
    (hparts : ∀ part ∈ parts, IsWord part) : IsWord (between.intercalate parts) := by
  intro c hc
  obtain hc | ⟨part, hpart, hc⟩ := Text.mem_intercalate hc
  · exact hbetween c hc
  · exact hparts part hpart c hc

theorem Symbol.isWord_join {start : String} {parts : List String} (hstart : IsWord start)
    (hparts : ∀ part ∈ parts, IsWord part) : IsWord (join start parts) :=
  .intercalate (by decide) (List.forall_mem_cons.mpr ⟨hstart, hparts⟩)

/-! ## Fields of variants -/

/-- The name of a field is a place or an identifier. -/
def FieldName.Readable (f : FieldName) : Prop := ∀ name, f = .named name → isIdentifier name = true

variable {f : FieldName}

theorem FieldName.Readable.isWord_paramName (h : f.Readable) : IsWord f.paramName := by
  cases f with
  | index n => exact .append (by decide) (isWord_toString n)
  | named name => exact isWord_of_isIdentifier (h name rfl)

theorem FieldName.Readable.isWord_fieldPart (h : f.Readable) : IsWord (Symbol.fieldPart f) := by
  cases f with
  | index n => exact isWord_toString n
  | named name => exact (isWord_of_isIdentifier (h name rfl)).bare

theorem FieldName.Readable.isWord_recordField (h : f.Readable) :
    IsWord (Managed.recordField f) := by
  cases f with
  | index n => exact .append (by decide) (isWord_toString n)
  | named name => exact isWord_pascal (h name rfl)

/-! ## Symbols -/

namespace Symbol

variable {start : String} (hstart : IsWord start)
include hstart

theorem isWord_bufferFree : IsWord (bufferFree start) := isWord_join hstart (by decide)

section Parts

variable {type : String} (htype : isIdentifier type = true)
include htype

theorem isWord_ctor : IsWord (ctor start type) :=
  isWord_join hstart (by simpa using ⟨by decide, isWord_snake htype⟩)

theorem isWord_free : IsWord (free start type) :=
  isWord_join hstart (by simpa using ⟨by decide, isWord_snake htype⟩)

theorem isWord_tag : IsWord (tag start type) :=
  isWord_join hstart (by simpa using ⟨by decide, isWord_snake htype⟩)

theorem isWord_getter {field : String} (hfield : isIdentifier field = true) :
    IsWord (getter start type field) :=
  isWord_join hstart (by
    simpa using ⟨by decide, isWord_snake htype, (isWord_of_isIdentifier hfield).bare⟩)

theorem isWord_variantCtor {variant : String} (hvariant : isIdentifier variant = true) :
    IsWord (variantCtor start type variant) :=
  isWord_join hstart (by simpa using ⟨by decide, isWord_snake htype, isWord_snake hvariant⟩)

theorem isWord_variantGetter {variant : String} (hvariant : isIdentifier variant = true)
    {field : FieldName} (hfield : field.Readable) :
    IsWord (variantGetter start type variant field) :=
  isWord_join hstart (by
    simpa using ⟨by decide, isWord_snake htype, isWord_snake hvariant, hfield.isWord_fieldPart⟩)

end Parts

end Symbol

/-! ## Types -/

/-- A type without a name of its own is called by a fixed one. -/
theorem Schema.typeName_cases (s : Schema) (id : TypeId) :
    id ∈ s.typeIds ∨ s.typeName id = "<unknown>" := by
  unfold Schema.typeName Schema.typeName?
  cases hstruct : s.struct? id with
  | some x =>
    obtain ⟨hx, rfl⟩ := mem_of_struct? hstruct
    exact .inl (Accepted.mem_typeIds_struct hx)
  | none =>
    cases henum : s.enum? id with
    | some x =>
      obtain ⟨hx, rfl⟩ := mem_of_enum? henum
      exact .inl (Accepted.mem_typeIds_enum hx)
    | none => exact .inr rfl

/-! ## Entry points -/

namespace Accepted

variable {facade start : String} {ds : List Declaration} {s : Schema}

theorem readable_payloadField (h : Accepted facade ds s) {x : ExportedEnum} (hx : x ∈ s.enums)
    {v : Variant} (hv : v ∈ x.variants) {f : PayloadField} (hf : f ∈ v.payload.fields) :
    f.name.Readable := by
  intro name hname
  cases hpayload : v.payload with
  | unit =>
    rw [hpayload] at hf
    cases hf
  | tuple elems =>
    rw [hpayload] at hf
    obtain ⟨_, -, rfl⟩ := List.mem_map.mp hf
    cases hname
  | struct fields =>
    rw [hpayload] at hf
    obtain ⟨g, hg, rfl⟩ := List.mem_map.mp hf
    cases hname
    exact h.isIdentifier_payloadField hx hv hpayload hg

theorem isUsableName_param (h : Accepted facade ds s) {f : ExportedFunction} (hf : f ∈ s.functions)
    {p : Param} (hp : p ∈ f.params) : isUsableName p.name = true := by
  rw [h.functions_eq] at hf
  obtain ⟨⟨id, decl⟩, -, rfl⟩ := List.mem_map.mp hf
  obtain ⟨d, hd, rfl⟩ := List.mem_map.mp hp
  exact (List.mem_filter.mp hd).2

theorem isIdentifier_param (h : Accepted facade ds s) {f : ExportedFunction} (hf : f ∈ s.functions)
    {p : Param} (hp : p ∈ f.params) : isIdentifier p.name = true :=
  isIdentifier_of_isUsableName (h.isUsableName_param hf hp)

theorem isWord_functionSymbol (h : Accepted facade ds s) (hstart : IsWord start)
    {f : ExportedFunction} (hf : f ∈ s.functions) : IsWord (s.functionSymbol start f) := by
  have hname := (isWord_of_isIdentifier (h.isIdentifier_function hf)).bare
  unfold Schema.functionSymbol
  cases howner : s.ownerName f with
  | none => exact Symbol.isWord_join hstart (by simpa using ⟨by decide, hname⟩)
  | some owner =>
    have hword := isWord_snake (h.isIdentifier_ownerName hf howner)
    exact Symbol.isWord_join hstart (by simpa using ⟨by decide, hword, hname⟩)

/-- **The symbols of entry points are words.** -/
theorem isWord_symbol (h : Accepted facade ds s) (hstart : IsWord start) {e : EntryPoint}
    (he : e ∈ s.entryPoints start) : IsWord e.symbol := by
  obtain ⟨kind, entry, hentry, rfl⟩ := Schema.exists_entry_of_mem he
  cases hentry with
  | bufferFree => exact Symbol.isWord_bufferFree hstart
  | ctor hx => exact Symbol.isWord_ctor hstart (h.isIdentifier_struct hx)
  | getter hx hf =>
    exact Symbol.isWord_getter hstart (h.isIdentifier_struct hx)
      (h.isIdentifier_field hx (List.mem_of_getElem? hf))
  | variantCtor hx hv =>
    exact Symbol.isWord_variantCtor hstart (h.isIdentifier_enum hx)
      (h.isIdentifier_variant hx (List.mem_of_getElem? hv))
  | tag hx => exact Symbol.isWord_tag hstart (h.isIdentifier_enum hx)
  | variantGetter hx hv hf =>
    exact Symbol.isWord_variantGetter hstart (h.isIdentifier_enum hx)
      (h.isIdentifier_variant hx (List.mem_of_getElem? hv))
      (h.readable_payloadField hx (List.mem_of_getElem? hv) (List.mem_of_getElem? hf))
  | free hname =>
    obtain ⟨hid, rfl⟩ := h.typeName_of_mem hname
    exact Symbol.isWord_free hstart (h.isIdentifier_typeName hid)
  | function hf _ | method hf _ => exact h.isWord_functionSymbol hstart hf

/-- Whatever symbols start with, they go on with a word. -/
theorem mem_symbol_cases (h : Accepted facade ds s) {e : EntryPoint}
    (he : e ∈ s.entryPoints start) {d : Char} (hd : d ∈ e.symbol.toList) :
    d ∈ start.toList ∨ isWordChar d = true := by
  obtain ⟨kind, entry, hentry, rfl⟩ := Schema.exists_entry_of_mem he
  obtain ⟨rest, hsymbol⟩ := hentry.exists_symbol
  have hword : IsWord (entry "").symbol := h.isWord_symbol (by decide) hentry.mem_entryPoints
  rw [IsWord, hsymbol ""] at hword
  rw [hsymbol start, List.mem_append] at hd
  exact hd.imp_right (hword d)

/-- **The parameters of entry points are words.** -/
theorem isWord_entryParam (h : Accepted facade ds s) {e : EntryPoint}
    (he : e ∈ s.entryPoints start) {p : FlatParam} (hp : p ∈ e.params) : IsWord p.name := by
  have hhandle : IsWord handleParam.name := by decide
  have hreceiver : ∀ q ∈ [handleParam], IsWord q.name := by simpa using hhandle
  have hfunction {f : ExportedFunction} (hf : f ∈ s.functions)
      (hp : p ∈ (s.functionEntry start f).params) : IsWord p.name := by
    obtain hp | hp := List.mem_append.mp hp
    · split at hp
      · cases hp
      · exact hreceiver p hp
    · obtain ⟨q, hq, rfl⟩ := List.mem_map.mp hp
      exact isWord_of_isIdentifier (h.isIdentifier_param hf hq)
  obtain ⟨kind, entry, hentry, rfl⟩ := Schema.exists_entry_of_mem he
  cases hentry with
  | bufferFree =>
    obtain rfl := List.mem_singleton.mp hp
    decide
  | ctor hx =>
    obtain ⟨f, hf, rfl⟩ := List.mem_map.mp hp
    exact isWord_of_isIdentifier (h.isIdentifier_field hx hf)
  | variantCtor hx hv =>
    obtain ⟨f, hf, rfl⟩ := List.mem_map.mp hp
    exact (h.readable_payloadField hx (List.mem_of_getElem? hv) hf).isWord_paramName
  | getter hx hf | tag hx | variantGetter hx hv hf | free hname => exact hreceiver p hp
  | function hf _ | method hf _ => exact hfunction hf hp

/-! ## Functions by receiver -/

end Accepted

/-- A list consists of its parts with the same key. -/
theorem perm_flatMap_filter {α κ : Type} [DecidableEq κ] (key : α → κ) {keys : List κ}
    (hkeys : keys.Nodup) {as : List α} (h : ∀ a ∈ as, key a ∈ keys) :
    as.Perm (keys.flatMap fun k => as.filter fun a => key a = k) := by
  induction keys generalizing as with
  | nil =>
    obtain rfl : as = [] := List.eq_nil_iff_forall_not_mem.mpr fun a ha => by simpa using h a ha
    exact .refl _
  | cons k keys ih =>
    obtain ⟨hk, hkeys⟩ := List.nodup_cons.mp hkeys
    have hmem : ∀ a ∈ as.filter fun a => !decide (key a = k), key a ∈ keys := by
      intro a ha
      have hne : key a ≠ k := by simpa using (List.mem_filter.mp ha).2
      simpa [hne] using h a (List.mem_filter.mp ha).1
    have hothers := ih hkeys hmem
    have hsame : ∀ k' ∈ keys,
        ((as.filter fun a => !decide (key a = k)).filter fun a => key a = k') =
          as.filter fun a => key a = k' := by
      intro k' hk'
      rw [List.filter_filter]
      refine List.filter_congr fun a _ => ?_
      have hne : k' ≠ k := ne_of_mem_of_not_mem hk' hk
      by_cases hkey : key a = k' <;> simp [hkey, hne]
    rw [List.flatMap_cons, ← List.flatMap_congr hsame]
    exact (List.filter_append_perm (fun a => decide (key a = k)) as).symm.trans
      (hothers.append_left _)

namespace Accepted

variable {facade : String} {ds : List Declaration} {s : Schema}

/-- **Every function is a method of one type or called on nothing.** -/
theorem functions_perm (h : Accepted facade ds s) :
    s.functions.Perm (s.structs.flatMap (fun x => s.methodsOf x.id)
      ++ s.enums.flatMap (fun x => s.methodsOf x.id) ++ s.freeFunctions) := by
  have hnodup : (s.typeIds.map some ++ [none]).Nodup := by
    rw [List.nodup_append]
    refine ⟨h.nodup_typeIds.map fun i j hij => Option.some.inj hij, List.nodup_singleton _, ?_⟩
    simp
  have hkeys : ∀ f ∈ s.functions, f.receiver.typeId? ∈ s.typeIds.map some ++ [none] := by
    intro f hf
    cases hid : f.receiver.typeId? with
    | none => simp
    | some id => simpa using h.mem_typeIds_of_receiver hf hid
  have hfree : s.freeFunctions = s.functions.filter fun f => f.receiver.typeId? = none := by
    refine List.filter_congr fun f _ => ?_
    cases f.receiver <;> simp [Receiver.typeId?]
  have hperm := perm_flatMap_filter (fun f : ExportedFunction => f.receiver.typeId?) hnodup hkeys
  rw [List.flatMap_append, List.flatMap_singleton, Schema.typeIds, List.map_append,
    List.flatMap_append, ← hfree] at hperm
  simp only [List.flatMap_map] at hperm
  exact hperm

/-- Different entry points have different symbols. -/
theorem nodup_entrySymbols (h : Accepted facade ds s) (start : String) :
    ((s.entryPoints start).map (·.symbol)).Nodup := by
  refine (List.Nodup.of_map _ (h.nodup_purposes start)).map_on ?_
  intro e he e' he' hsymbol
  refine List.inj_on_of_nodup_map (h.nodup_purposes start) he he' ?_
  obtain ⟨kind, entry, hentry, rfl⟩ := Schema.exists_entry_of_mem he
  obtain ⟨kind', entry', hentry', rfl⟩ := Schema.exists_entry_of_mem he'
  exact h.purpose_eq_of_symbol_eq hentry hentry' hsymbol

end Accepted

/-! ## Symbols are no keywords -/

theorem Symbol.underscore_mem_join (start part : String) (parts : List String) :
    '_' ∈ (join start (part :: parts)).toList := by
  rw [join, String.intercalate_cons_cons]
  simp

private theorem managedIdent_of_underscore {name : String} (h : '_' ∈ name.toList) :
    managedIdent name = name := by
  have hkeywords : ∀ word ∈ managedKeywords, '_' ∉ word.toList := by decide +kernel
  unfold managedIdent
  split
  · rename_i hkeyword
    exact absurd h (hkeywords name (by simpa using hkeyword))
  · rfl

theorem underscore_mem_symbol {s : Schema} {start : String} {e : EntryPoint}
    (he : e ∈ s.entryPoints start) : '_' ∈ e.symbol.toList := by
  obtain ⟨kind, entry, hentry, rfl⟩ := Schema.exists_entry_of_mem he
  have hfunction (f : ExportedFunction) : '_' ∈ (s.functionSymbol start f).toList := by
    unfold Schema.functionSymbol Symbol.function
    split <;> exact Symbol.underscore_mem_join _ _ _
  cases hentry with
  | function _ _ | method _ _ => exact hfunction _
  | _ => exact Symbol.underscore_mem_join _ _ _

/-- Symbols are written as they are. -/
theorem managedIdent_symbol {s : Schema} {start : String} {e : EntryPoint}
    (he : e ∈ s.entryPoints start) : managedIdent e.symbol = e.symbol :=
  managedIdent_of_underscore (underscore_mem_symbol he)

end Boundary
