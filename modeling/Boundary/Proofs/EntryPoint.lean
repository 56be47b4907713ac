import Boundary.Native.Body
import Boundary.Proofs.Schema.Distinct
import Boundary.Schema.Symbols

/-!
# Entry points one by one

The list of the entry points of a schema, read off the items of the schema, and what the symbol of
an entry point tells about it.

* `Symbol.Kind`: the words with which symbols go on behind their start.
* `Schema.Entry`: the entry points of a schema, by kind.
* `Schema.exists_entry_of_mem`, `Schema.Entry.mem_entryPoints`: these are the listed ones.
* `Schema.Entry.exists_symbol`: a symbol goes on with the word of its kind.
* `Schema.Entry.kind_eq_of_symbol_eq`: symbols of different kinds differ.
* `Accepted.nodup_purposes`: no two entry points serve the same purpose.
* `Accepted.body?_ctor` and so on: what the entry points do.
-/

namespace Boundary

/-- The words with which symbols go on behind their start. -/
inductive Symbol.Kind
  | rustbuffer
  | ctor
  | free
  | get
  | tag
  | fn
  | method
deriving DecidableEq

/-- The word of a kind. -/
def Symbol.Kind.word : Symbol.Kind → String
  | .rustbuffer => "rustbuffer"
  | .ctor => "ctor"
  | .free => "free"
  | .get => "get"
  | .tag => "tag"
  | .fn => "fn"
  | .method => "method"

theorem Symbol.Kind.word_injective {k l : Symbol.Kind} (h : k.word = l.word) : k = l := by
  cases k <;> cases l <;> revert h <;> decide

theorem Symbol.Kind.not_mem_word (k : Symbol.Kind) : '_' ∉ k.word.toList := by
  cases k <;> decide

/-- The entry point that reads a field of a struct. -/
def ExportedStruct.getterEntry (x : ExportedStruct) (i : Nat) (f : Field) (start : String) :
    EntryPoint :=
  ⟨.getter x.id i, Symbol.getter start x.name f.name, [handleParam], .of .out f.type⟩

/-- The entry point that makes a variant of an enum. -/
def ExportedEnum.ctorEntry (x : ExportedEnum) (i : Nat) (v : Variant) (start : String) :
    EntryPoint :=
  ⟨.variantCtor x.id i, Symbol.variantCtor start x.name v.name,
    v.payload.fields.map fun f => ⟨f.name.paramName, .of .in_ f.type⟩, .handle⟩

/-- The entry point that reads a field of a variant. -/
def ExportedEnum.getterEntry (x : ExportedEnum) (i : Nat) (v : Variant) (j : Nat)
    (f : PayloadField) (start : String) : EntryPoint :=
  ⟨.variantGetter x.id i j, Symbol.variantGetter start x.name v.name f.name, [handleParam],
    .of .out f.type⟩

variable {s : Schema} {start : String}

/-- The entry points of a schema for whatever their symbols start with, by kind. -/
inductive Schema.Entry (s : Schema) : Symbol.Kind → (String → EntryPoint) → Prop
  | bufferFree : Entry s .rustbuffer bufferFreeEntry
  | ctor {x : ExportedStruct} (hx : x ∈ s.structs) : Entry s .ctor fun start => x.ctorEntry start
  | getter {x : ExportedStruct} (hx : x ∈ s.structs) {i : Nat} {f : Field}
    (hf : x.fields[i]? = some f) : Entry s .get (x.getterEntry i f)
  | variantCtor {x : ExportedEnum} (hx : x ∈ s.enums) {i : Nat} {v : Variant}
    (hv : x.variants[i]? = some v) : Entry s .ctor (x.ctorEntry i v)
  | tag {x : ExportedEnum} (hx : x ∈ s.enums) : Entry s .tag fun start => x.tagEntry start
  | variantGetter {x : ExportedEnum} (hx : x ∈ s.enums) {i : Nat} {v : Variant}
    (hv : x.variants[i]? = some v) {j : Nat} {f : PayloadField}
    (hf : v.payload.fields[j]? = some f) : Entry s .get (x.getterEntry i v j f)
  | free {id : TypeId} {name : String} (hname : (id, name) ∈ s.typeNames) :
    Entry s .free fun start => freeEntry start id name
  | function {f : ExportedFunction} (hf : f ∈ s.functions) (howner : s.ownerName f = none) :
    Entry s .fn fun start => s.functionEntry start f
  | method {f : ExportedFunction} (hf : f ∈ s.functions) {owner : String}
    (howner : s.ownerName f = some owner) : Entry s .method fun start => s.functionEntry start f

theorem ExportedStruct.mem_entryPoints_iff {x : ExportedStruct} {e : EntryPoint} :
    e ∈ x.entryPoints start ↔ e = x.ctorEntry start ∨
      (∃ i f, x.fields[i]? = some f ∧ e = x.getterEntry i f start) ∨
      e = freeEntry start x.id x.name := by
  simp only [ExportedStruct.entryPoints, ExportedStruct.getterEntries, List.mem_append,
    List.mem_cons, List.mem_map, List.not_mem_nil, or_false, Prod.exists,
    List.mk_mem_zipIdx_iff_getElem?, or_assoc]
  constructor
  · rintro (h | ⟨f, i, hf, h⟩ | h)
    exacts [.inl h, .inr (.inl ⟨i, f, hf, h.symm⟩), .inr (.inr h)]
  · rintro (h | ⟨i, f, hf, h⟩ | h)
    exacts [.inl h, .inr (.inl ⟨f, i, hf, h.symm⟩), .inr (.inr h)]

theorem ExportedEnum.mem_entryPoints_iff {x : ExportedEnum} {e : EntryPoint} :
    e ∈ x.entryPoints start ↔ (∃ i v, x.variants[i]? = some v ∧ e = x.ctorEntry i v start) ∨
      e = x.tagEntry start ∨
      (∃ i v j f, x.variants[i]? = some v ∧ v.payload.fields[j]? = some f ∧
        e = x.getterEntry i v j f start) ∨
      e = freeEntry start x.id x.name := by
  simp only [ExportedEnum.entryPoints, ExportedEnum.ctorEntries, ExportedEnum.getterEntries,
    List.mem_append, List.mem_cons, List.mem_map, List.mem_flatMap, List.not_mem_nil, or_false,
    Prod.exists, List.mk_mem_zipIdx_iff_getElem?, or_assoc]
  constructor
  · rintro (⟨v, i, hv, h⟩ | h | ⟨v, i, hv, f, j, hf, h⟩ | h)
    exacts [.inl ⟨i, v, hv, h.symm⟩, .inr (.inl h),
      .inr (.inr (.inl ⟨i, v, j, f, hv, hf, h.symm⟩)), .inr (.inr (.inr h))]
  · rintro (⟨i, v, hv, h⟩ | h | ⟨i, v, j, f, hv, hf, h⟩ | h)
    exacts [.inl ⟨v, i, hv, h.symm⟩, .inr (.inl h),
      .inr (.inr (.inl ⟨v, i, hv, f, j, hf, h.symm⟩)), .inr (.inr (.inr h))]

theorem Schema.mem_typeNames_iff {id : TypeId} {name : String} :
    (id, name) ∈ s.typeNames ↔ (∃ x ∈ s.structs, x.id = id ∧ x.name = name) ∨
      ∃ x ∈ s.enums, x.id = id ∧ x.name = name := by
  simp [Schema.typeNames]

/-- **Every listed entry point is one of an item.** -/
theorem Schema.exists_entry_of_mem {e : EntryPoint} (he : e ∈ s.entryPoints start) :
    ∃ kind entry, s.Entry kind entry ∧ e = entry start := by
  simp only [Schema.entryPoints, List.mem_append, List.mem_cons, List.mem_flatMap,
    List.mem_map, ExportedStruct.mem_entryPoints_iff, ExportedEnum.mem_entryPoints_iff] at he
  obtain ((h | ⟨x, hx, h | ⟨i, f, hf, h⟩ | h⟩) |
    ⟨x, hx, ⟨i, v, hv, h⟩ | h | ⟨i, v, j, f, hv, hf, h⟩ | h⟩) | ⟨f, hf, h⟩ := he
  · exact ⟨_, _, .bufferFree, h⟩
  · exact ⟨_, _, .ctor hx, h⟩
  · exact ⟨_, _, .getter hx hf, h⟩
  · exact ⟨_, _, .free (mem_typeNames_iff.mpr (.inl ⟨x, hx, rfl, rfl⟩)), h⟩
  · exact ⟨_, _, .variantCtor hx hv, h⟩
  · exact ⟨_, _, .tag hx, h⟩
  · exact ⟨_, _, .variantGetter hx hv hf, h⟩
  · exact ⟨_, _, .free (mem_typeNames_iff.mpr (.inr ⟨x, hx, rfl, rfl⟩)), h⟩
  · cases howner : s.ownerName f with
    | none => exact ⟨_, _, .function hf howner, h.symm⟩
    | some owner => exact ⟨_, _, .method hf howner, h.symm⟩

theorem Schema.Entry.mem_entryPoints {kind : Symbol.Kind} {entry : String → EntryPoint}
    (he : s.Entry kind entry) : entry start ∈ s.entryPoints start := by
  simp only [Schema.entryPoints, List.mem_append, List.mem_cons, List.mem_flatMap,
    List.mem_map, ExportedStruct.mem_entryPoints_iff, ExportedEnum.mem_entryPoints_iff]
  cases he with
  | bufferFree => exact .inl (.inl (.inl rfl))
  | ctor hx => exact .inl (.inl (.inr ⟨_, hx, .inl rfl⟩))
  | getter hx hf => exact .inl (.inl (.inr ⟨_, hx, .inr (.inl ⟨_, _, hf, rfl⟩)⟩))
  | free hname =>
    obtain ⟨x, hx, rfl, rfl⟩ | ⟨x, hx, rfl, rfl⟩ := mem_typeNames_iff.mp hname
    · exact .inl (.inl (.inr ⟨_, hx, .inr (.inr rfl)⟩))
    · exact .inl (.inr ⟨_, hx, .inr (.inr (.inr rfl))⟩)
  | variantCtor hx hv => exact .inl (.inr ⟨_, hx, .inl ⟨_, _, hv, rfl⟩⟩)
  | tag hx => exact .inl (.inr ⟨_, hx, .inr (.inl rfl)⟩)
  | variantGetter hx hv hf =>
    exact .inl (.inr ⟨_, hx, .inr (.inr (.inl ⟨_, _, _, _, hv, hf, rfl⟩))⟩)
  | function hf _ | method hf _ => exact .inr ⟨_, hf, rfl⟩

/-- The purpose of an entry point does not depend on what its symbol starts with. -/
theorem Schema.Entry.purpose_start {kind : Symbol.Kind} {entry : String → EntryPoint}
    (he : s.Entry kind entry) (start start' : String) :
    (entry start).purpose = (entry start').purpose := by
  cases he <;> rfl

/-! ## Symbols -/

theorem Symbol.toList_join (start part : String) (parts : List String) :
    (join start (part :: parts)).toList =
      start.toList ++ '_' :: ['_'].intercalate ((part :: parts).map String.toList) := by
  rw [join, String.toList_intercalate, List.map_cons, List.map_cons, List.intercalate_cons_cons]
  simp

private theorem exists_join (word part : String) (parts : List String) :
    ∃ rest, ∀ start, (Symbol.join start (word :: part :: parts)).toList =
      start.toList ++ '_' :: (word.toList ++ '_' :: rest) := by
  refine ⟨['_'].intercalate ((part :: parts).map String.toList), ?_⟩
  intro start
  rw [Symbol.toList_join, List.map_cons, List.map_cons, List.intercalate_cons_cons]
  simp

/-- A symbol goes on behind its start with the word of its kind, and the rest does not depend on
the start. -/
theorem Schema.Entry.exists_symbol {kind : Symbol.Kind} {entry : String → EntryPoint}
    (he : s.Entry kind entry) :
    ∃ rest, ∀ start, (entry start).symbol.toList =
      start.toList ++ '_' :: (kind.word.toList ++ '_' :: rest) := by
  cases he with
  | bufferFree =>
    refine ⟨"free".toList, fun start => ?_⟩
    exact Symbol.toList_join start "rustbuffer_free" []
  | ctor | getter | variantCtor | tag | variantGetter | free =>
    exact exists_join _ _ _
  | function hf howner =>
    simp only [functionEntry, functionSymbol, howner]
    exact exists_join _ _ _
  | method hf howner =>
    simp only [functionEntry, functionSymbol, howner]
    exact exists_join _ _ _

/-- The first separator tells where a text is split. -/
theorem append_cons_inj_of_not_mem {α : Type} [DecidableEq α] {a : α}
    {front back front' back' : List α} (hfront : a ∉ front) (hfront' : a ∉ front')
    (h : front ++ a :: back = front' ++ a :: back') : front = front' ∧ back = back' := by
  have htake := congrArg (List.takeWhile fun b => decide (b ≠ a)) h
  rw [List.takeWhile_append_of_pos fun b hb => by simpa using ne_of_mem_of_not_mem hb hfront,
    List.takeWhile_append_of_pos fun b hb => by
      simpa using ne_of_mem_of_not_mem hb hfront'] at htake
  obtain rfl : front = front' := by simpa using htake
  exact ⟨rfl, List.tail_eq_of_cons_eq (List.append_cancel_left h)⟩

/-- **Symbols of different kinds differ**, and whether two symbols differ does not depend on what
they start with. -/
theorem Schema.Entry.kind_eq_of_symbol_eq {kind kind' : Symbol.Kind}
    {entry entry' : String → EntryPoint} (he : s.Entry kind entry) (he' : s.Entry kind' entry')
    (h : (entry start).symbol = (entry' start).symbol) :
    kind = kind' ∧ ∀ start', (entry start').symbol = (entry' start').symbol := by
  obtain ⟨rest, hrest⟩ := he.exists_symbol
  obtain ⟨rest', hrest'⟩ := he'.exists_symbol
  have htail : kind.word.toList ++ '_' :: rest = kind'.word.toList ++ '_' :: rest' := by
    have htext := congrArg String.toList h
    rw [hrest, hrest'] at htext
    exact List.tail_eq_of_cons_eq (List.append_cancel_left htext)
  constructor
  · exact Symbol.Kind.word_injective (String.toList_injective
      (append_cons_inj_of_not_mem kind.not_mem_word kind'.not_mem_word htail).1)
  · intro start'
    exact String.toList_injective (by rw [hrest, hrest', htail])

/-- The symbols that read the fields of one variant are told by the fields. -/
theorem Symbol.fieldPart_eq_of_variantGetter_eq {type variant : String} {f g : FieldName}
    (h : variantGetter start type variant f = variantGetter start type variant g) :
    fieldPart f = fieldPart g := by
  have htext := congrArg String.toList h
  rw [variantGetter, variantGetter, toList_join, toList_join] at htext
  exact String.toList_injective (by simpa [List.intercalate_cons_cons] using htext)

/-! ## Purposes -/

/-- Lists that have nothing in common unless they have the same key are joined without
repetition. -/
theorem nodup_flatMap_of_key {α β κ : Type} {as : List α} {f : α → List β} (key : α → κ)
    (hkeys : (as.map key).Nodup) (hf : ∀ a ∈ as, (f a).Nodup)
    (hkey : ∀ a ∈ as, ∀ a' ∈ as, ∀ b, b ∈ f a → b ∈ f a' → key a = key a') :
    (as.flatMap f).Nodup := by
  refine List.nodup_flatMap.mpr ⟨hf, ?_⟩
  refine (List.pairwise_map.mp hkeys).imp_of_mem ?_
  intro a a' ha ha' hne b hb hb'
  exact hne (hkey a ha a' ha' b hb hb')

theorem ExportedStruct.nodup_purposes (x : ExportedStruct) :
    ((x.entryPoints start).map (·.purpose)).Nodup := by
  have hgetters : (x.getterEntries start).map (·.purpose) =
      (List.range x.fields.length).map (EntryPurpose.getter x.id) := by
    rw [List.range_eq_range', ← List.zipIdx_map_snd 0 x.fields, List.map_map,
      ExportedStruct.getterEntries, List.map_map]
    rfl
  have hnodup : ((List.range x.fields.length).map (EntryPurpose.getter x.id)).Nodup :=
    List.nodup_range.map fun i j h => by cases h; rfl
  simp only [ExportedStruct.entryPoints, List.map_cons, List.map_append, hgetters]
  simp [ctorEntry, freeEntry, List.nodup_append, hnodup]

theorem ExportedEnum.nodup_getter_purposes (x : ExportedEnum) (start : String) :
    ((x.getterEntries start).map (·.purpose)).Nodup := by
  rw [ExportedEnum.getterEntries, List.map_flatMap]
  refine nodup_flatMap_of_key Prod.snd ?_ ?_ ?_
  · rw [List.zipIdx_map_snd]
    exact List.nodup_range' 1
  · rintro ⟨v, i⟩ hv
    have hpurposes : (v.payload.fields.zipIdx.map (·.2)).map (EntryPurpose.variantGetter x.id i) =
        ((v.payload.fields.zipIdx.map fun p =>
          x.getterEntry i v p.2 p.1 start).map (·.purpose)) := by
      rw [List.map_map, List.map_map]
      rfl
    rw [List.zipIdx_map_snd] at hpurposes
    refine (congrArg List.Nodup hpurposes).mp ?_
    exact (List.nodup_range' 1).map fun i j h => by cases h; rfl
  · rintro ⟨v, i⟩ hv ⟨v', i'⟩ hv' b hb hb'
    simp only [List.mem_map] at hb hb'
    obtain ⟨_, ⟨⟨f, j⟩, -, rfl⟩, rfl⟩ := hb
    obtain ⟨_, ⟨⟨f', j'⟩, -, rfl⟩, heq⟩ := hb'
    cases heq
    rfl

theorem ExportedEnum.nodup_purposes (x : ExportedEnum) :
    ((x.entryPoints start).map (·.purpose)).Nodup := by
  have hctors : (x.ctorEntries start).map (·.purpose) =
      (List.range x.variants.length).map (EntryPurpose.variantCtor x.id) := by
    rw [List.range_eq_range', ← List.zipIdx_map_snd 0 x.variants, List.map_map,
      ExportedEnum.ctorEntries, List.map_map]
    rfl
  have hnodup : ((List.range x.variants.length).map (EntryPurpose.variantCtor x.id)).Nodup :=
    List.nodup_range.map fun i j h => by cases h; rfl
  have hgetters : ∀ p ∈ (x.getterEntries start).map (·.purpose),
      ∃ i j, p = .variantGetter x.id i j := by
    intro p hp
    simp only [getterEntries, List.mem_map, List.mem_flatMap] at hp
    obtain ⟨_, ⟨_, _, _, _, rfl⟩, rfl⟩ := hp
    exact ⟨_, _, rfl⟩
  simp only [ExportedEnum.entryPoints, List.map_cons, List.map_append, hctors]
  have hgettersNodup := x.nodup_getter_purposes start
  generalize (x.getterEntries start).map (·.purpose) = getters at hgetters hgettersNodup
  have hother : ∀ p, p ∈ getters → p ≠ .tag x.id ∧ p ≠ .free x.id ∧
      ∀ i, p ≠ .variantCtor x.id i := by
    intro p hp
    obtain ⟨i, j, rfl⟩ := hgetters p hp
    simp
  simp only [tagEntry, freeEntry, List.map_nil, List.nodup_append, List.nodup_cons]
  grind

/-- The entry points of a struct belong to it. -/
theorem ExportedStruct.item?_eq {x : ExportedStruct} {p : EntryPurpose}
    (hp : p ∈ (x.entryPoints start).map (·.purpose)) : p.item? = some (.type x.id) := by
  obtain ⟨e, he, rfl⟩ := List.mem_map.mp hp
  obtain rfl | ⟨i, f, -, rfl⟩ | rfl := ExportedStruct.mem_entryPoints_iff.mp he
  all_goals rfl

/-- The entry points of an enum belong to it. -/
theorem ExportedEnum.item?_eq {x : ExportedEnum} {p : EntryPurpose}
    (hp : p ∈ (x.entryPoints start).map (·.purpose)) : p.item? = some (.type x.id) := by
  obtain ⟨e, he, rfl⟩ := List.mem_map.mp hp
  obtain ⟨i, v, -, rfl⟩ | rfl | ⟨i, v, j, f, -, -, rfl⟩ | rfl :=
    ExportedEnum.mem_entryPoints_iff.mp he
  all_goals rfl

/-- The numbers of the exported items. -/
def Schema.itemIds (s : Schema) : List ItemId :=
  s.typeIds.map .type ++ (s.functions.map (·.id)).map .function

/-- The purposes of the entry points, by the item that they belong to. -/
def Schema.purposesByItem (s : Schema) (start : String) :
    List (Option ItemId × List EntryPurpose) :=
  (none, [.bufferFree]) ::
    s.structs.map (fun x => (some (.type x.id), (x.entryPoints start).map (·.purpose)))
    ++ s.enums.map (fun x => (some (.type x.id), (x.entryPoints start).map (·.purpose)))
    ++ s.functions.map fun f => (some (.function f.id), [.function f.id])

theorem Schema.flatMap_purposesByItem :
    (s.purposesByItem start).flatMap (·.2) = (s.entryPoints start).map (·.purpose) := by
  simp only [purposesByItem, entryPoints, List.flatMap_cons, List.flatMap_append, List.flatMap_map,
    List.map_cons, List.map_append, List.map_flatMap, List.map_map]
  rw [← List.map_eq_flatMap]
  rfl

theorem Schema.map_fst_purposesByItem :
    (s.purposesByItem start).map Prod.fst = none :: s.itemIds.map some := by
  simp [Schema.purposesByItem, Schema.itemIds, Schema.typeIds, Function.comp_def]

theorem Schema.nodup_item?_of_mem_purposesByItem {group : Option ItemId × List EntryPurpose}
    (hgroup : group ∈ s.purposesByItem start) :
    group.2.Nodup ∧ ∀ p ∈ group.2, p.item? = group.1 := by
  simp only [purposesByItem, List.mem_append, List.mem_cons, List.mem_map] at hgroup
  obtain ((rfl | ⟨x, -, rfl⟩) | ⟨x, -, rfl⟩) | ⟨f, -, rfl⟩ := hgroup
  · exact ⟨List.nodup_singleton _, by simp [EntryPurpose.item?]⟩
  · exact ⟨x.nodup_purposes, fun p => x.item?_eq⟩
  · exact ⟨x.nodup_purposes, fun p => x.item?_eq⟩
  · exact ⟨List.nodup_singleton _, by simp [EntryPurpose.item?]⟩

/-- An entry point belongs to an exported item, if to any. -/
theorem Schema.mem_itemIds_of_item? {e : EntryPoint} (he : e ∈ s.entryPoints start) {item : ItemId}
    (hitem : e.purpose.item? = some item) : item ∈ s.itemIds := by
  have hpurpose : e.purpose ∈ (s.purposesByItem start).flatMap (·.2) := by
    rw [flatMap_purposesByItem]
    exact List.mem_map_of_mem he
  obtain ⟨group, hgroup, hp⟩ := List.mem_flatMap.mp hpurpose
  have hkey : some item ∈ (s.purposesByItem start).map Prod.fst := by
    rw [← hitem, (nodup_item?_of_mem_purposesByItem hgroup).2 _ hp]
    exact List.mem_map_of_mem hgroup
  rw [map_fst_purposesByItem] at hkey
  simpa using hkey

variable {facade : String} {ds : List Declaration}

theorem Accepted.nodup_itemIds (h : Accepted facade ds s) : s.itemIds.Nodup := by
  rw [Schema.itemIds, List.nodup_append]
  refine ⟨h.nodup_typeIds.map fun i j hij => ItemId.type.inj hij,
    h.nodup_functionIds.map fun i j hij => ItemId.function.inj hij, ?_⟩
  simp

/-- **No two entry points of an accepted schema serve the same purpose.** -/
theorem Accepted.nodup_purposes (h : Accepted facade ds s) (start : String) :
    ((s.entryPoints start).map (·.purpose)).Nodup := by
  rw [← Schema.flatMap_purposesByItem]
  refine nodup_flatMap_of_key Prod.fst ?_
    (fun group hgroup => (Schema.nodup_item?_of_mem_purposesByItem hgroup).1) ?_
  · rw [Schema.map_fst_purposesByItem, List.nodup_cons]
    exact ⟨by simp, h.nodup_itemIds.map fun i j hij => Option.some.inj hij⟩
  · intro group hgroup group' hgroup' p hp hp'
    rw [← (Schema.nodup_item?_of_mem_purposesByItem hgroup).2 p hp,
      (Schema.nodup_item?_of_mem_purposesByItem hgroup').2 p hp']

/-! ## What entry points do -/

namespace Accepted

open Native

theorem body?_ctor (h : Accepted facade ds s) {x : ExportedStruct} (hx : x ∈ s.structs)
    (start : String) : s.body? (x.ctorEntry start).purpose = some (constructStruct x) := by
  simp [ExportedStruct.ctorEntry, Schema.body?, h.struct?_of_mem hx]

theorem body?_getter (h : Accepted facade ds s) {x : ExportedStruct} (hx : x ∈ s.structs) {i : Nat}
    {f : Field} (hf : x.fields[i]? = some f) (start : String) :
    s.body? (x.getterEntry i f start).purpose =
      some (.field x.id i f.name (isNumber f.type) (Lowering.of f.type)) := by
  simp [ExportedStruct.getterEntry, Schema.body?, h.struct?_of_mem hx, hf]

theorem body?_variantCtor (h : Accepted facade ds s) {x : ExportedEnum} (hx : x ∈ s.enums)
    {i : Nat} {v : Variant} (hv : x.variants[i]? = some v) (start : String) :
    s.body? (x.ctorEntry i v start).purpose = some (constructVariant x i v) := by
  simp [ExportedEnum.ctorEntry, Schema.body?, h.enum?_of_mem hx, hv]

theorem body?_tag (h : Accepted facade ds s) {x : ExportedEnum} (hx : x ∈ s.enums)
    (start : String) : s.body? (x.tagEntry start).purpose = some (readTag x) := by
  simp [ExportedEnum.tagEntry, Schema.body?, h.enum?_of_mem hx]

theorem body?_variantGetter (h : Accepted facade ds s) {x : ExportedEnum} (hx : x ∈ s.enums)
    {i : Nat} {v : Variant} (hv : x.variants[i]? = some v) {j : Nat} {f : PayloadField}
    (hf : v.payload.fields[j]? = some f) (start : String) :
    s.body? (x.getterEntry i v j f start).purpose =
      some (.variantField x.id (VariantRef.of x i v) j f.name (isNumber f.type)
        (Lowering.of f.type)) := by
  simp [ExportedEnum.getterEntry, Schema.body?, h.enum?_of_mem hx, hv, hf]

theorem body?_function (h : Accepted facade ds s) {f : ExportedFunction} (hf : f ∈ s.functions)
    (start : String) : s.body? (s.functionEntry start f).purpose =
      some (callFunction (s.ownerName f) f) := by
  simp [Schema.functionEntry, Schema.body?, h.function?_of_mem hf]

end Accepted

end Boundary
