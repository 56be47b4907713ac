import Mathlib.Data.List.Forall2
import Boundary.Proofs.Datum.RoundTrip

/-!
# Which values can be encoded

Just the values of a type have a serialized form of it. Any other value is refused with an error
that is about the first type on the way inwards that it does not have; of a struct or an enum value
the fields come last, after its kind and their number.

* `Datum.HasType`: the values of a type.
* `Datum.FirstMismatch`: the first type that is not met on the way inwards.
* `FirstIllTyped`: the first field that is not of its type.
* `Datum.exists_encode_iff`, `Datum.encode_of_firstMismatch`: what is encoded, and the error for
  what is not.
* `EncodesFields`, `Schema.EncodesRecord`, `Schema.EncodesVariant`: the same for fields, struct
  values and enum values.
* `encodes_exactly_typed`: the encoders accept exactly the values of their types.
-/

namespace Boundary

open Fallible

/-! ## Values of a type -/

/-- The value has the type. A text is a `str` as long as its length can be written. -/
inductive Datum.HasType : Datum → TypeRef → Prop
  | unit : HasType .unit .unit
  | primitive (v : PrimitiveValue) : HasType (.primitive v) (.primitive v.type)
  | str {s : String} (h : s.utf8ByteSize < Wire.textLimit) : HasType (.str s) .str
  | handle (h : UInt64) (id : TypeId) : HasType (.handle h) (.handle id)
  | none (inner : TypeRef) : HasType (.option none) (.option inner)
  | some {x : Datum} {inner : TypeRef} (h : HasType x inner) :
    HasType (.option (some x)) (.option inner)

/-- The first type on the way inwards that is not met, with the value that stands in its place.
Only the payload of an option leads further inwards. -/
inductive Datum.FirstMismatch : Datum → TypeRef → Datum → TypeRef → Prop
  | here {d : Datum} {t : TypeRef} (h : ¬ d.HasType t)
    (hlast : ∀ x inner, d = .option (some x) → t ≠ .option inner) : FirstMismatch d t d t
  | inside {x d' : Datum} {inner t' : TypeRef} (h : FirstMismatch x inner d' t') :
    FirstMismatch (.option (some x)) (.option inner) d' t'

/-- The error of `encode` for a value in the place of a type that it does not have: no value is
encoded as a result, a text may be too long, and everything else is of another kind than its type.
-/
def Datum.mismatchError : Datum → TypeRef → DatumError
  | _, .result _ _ => .resultNotEncodable
  | .str s, .str => .wire (.textTooLong s.utf8ByteSize)
  | d, t => .mismatch t.debug d.kind

namespace Datum

variable {d d' : Datum} {t t' : TypeRef}

theorem exists_items_iff : (∃ items, d.items t = .ok items) ↔ d.HasType t := by
  constructor
  · rintro ⟨items, h⟩
    induction t generalizing d items with
    | unit =>
      obtain ⟨rfl, -⟩ := items_unit_eq_ok_iff.mp h
      exact .unit
    | primitive p =>
      obtain ⟨v, rfl, rfl, -⟩ := items_primitive_eq_ok_iff.mp h
      exact .primitive v
    | str =>
      obtain ⟨s, rfl, hs, -⟩ := items_str_eq_ok_iff.mp h
      exact .str hs
    | handle id =>
      obtain ⟨handle, rfl, -⟩ := items_handle_eq_ok_iff.mp h
      exact .handle handle id
    | option inner ih =>
      obtain ⟨rfl, -⟩ | ⟨x, more, rfl, hx, -⟩ := items_option_eq_ok_iff.mp h
      · exact .none inner
      · exact .some (ih more hx)
    | result ok err => exact absurd h items_result_ne_ok
    | unsupported reason => exact absurd h items_unsupported_ne_ok
  · intro h
    induction h with
    | unit => exact ⟨_, items_unit_eq_ok_iff.mpr ⟨rfl, rfl⟩⟩
    | primitive v => exact ⟨_, items_primitive_eq_ok_iff.mpr ⟨v, rfl, rfl, rfl⟩⟩
    | str hs => exact ⟨_, items_str_eq_ok_iff.mpr ⟨_, rfl, hs, rfl⟩⟩
    | handle handle id => exact ⟨_, items_handle_eq_ok_iff.mpr ⟨handle, rfl, rfl⟩⟩
    | none inner => exact ⟨_, items_option_eq_ok_iff.mpr (.inl ⟨rfl, rfl⟩)⟩
    | some _ ih =>
      obtain ⟨more, hmore⟩ := ih
      exact ⟨_, items_option_eq_ok_iff.mpr (.inr ⟨_, more, rfl, hmore, rfl⟩)⟩

/-- **`encode` succeeds exactly if the value `HasType`.** -/
theorem exists_encode_iff : (∃ bytes, d.encode t = .ok bytes) ↔ d.HasType t := by
  rw [← exists_items_iff]
  constructor
  · rintro ⟨bytes, h⟩
    obtain ⟨items, hitems, -⟩ := map_eq_ok_iff.mp h
    exact ⟨items, hitems⟩
  · rintro ⟨items, hitems⟩
    exact ⟨_, map_eq_ok_iff.mpr ⟨items, hitems, rfl⟩⟩

theorem exists_firstMismatch (h : ¬ d.HasType t) : ∃ d' t', d.FirstMismatch t d' t' := by
  induction t generalizing d with
  | option inner ih =>
    by_cases hsome : ∃ x, d = .option (some x)
    · obtain ⟨x, rfl⟩ := hsome
      obtain ⟨d', t', hx⟩ := ih fun hx => h (.some hx)
      exact ⟨d', t', .inside hx⟩
    · exact ⟨_, _, .here h fun x _ hd => absurd ⟨x, hd⟩ hsome⟩
  | _ => exact ⟨_, _, .here h fun _ _ _ => by simp⟩

/-- At the last type on the way inwards (`hlast`) the value is of the kind of the type, or it is
refused. -/
theorem items_of_not_hasType (h : ¬ d.HasType t)
    (hlast : ∀ x inner, d = .option (some x) → t ≠ .option inner) :
    d.items t = .error (d.mismatchError t) := by
  cases t with
  | unit =>
    cases d with
    | unit => exact absurd .unit h
    | _ => rfl
  | primitive p =>
    cases d with
    | primitive v =>
      have hp : v.type ≠ p := by
        rintro rfl
        exact h (.primitive v)
      rw [Datum.items, if_neg hp]
      rfl
    | _ => rfl
  | str =>
    cases d with
    | str s =>
      rw [Datum.items, if_neg fun hs => h (.str hs)]
      rfl
    | _ => rfl
  | handle id =>
    cases d with
    | handle handle => exact absurd (.handle handle id) h
    | _ => rfl
  | option inner =>
    cases d with
    | option value =>
      cases value with
      | none => exact absurd (.none inner) h
      | some x => exact absurd rfl (hlast x inner rfl)
    | _ => rfl
  | result ok err => cases d <;> rfl
  | unsupported reason => cases d <;> rfl

theorem items_of_firstMismatch (h : d.FirstMismatch t d' t') :
    d.items t = .error (d'.mismatchError t') := by
  induction h with
  | here h hlast => exact items_of_not_hasType h hlast
  | inside _ ih =>
    rw [Datum.items, ih]
    rfl

/-- **Any other value is refused for its `FirstMismatch`.** -/
theorem encode_of_firstMismatch (h : d.FirstMismatch t d' t') :
    d.encode t = .error (d'.mismatchError t') := by
  rw [Datum.encode, items_of_firstMismatch h]
  rfl

end Datum

/-! ## Fields -/

/-- The first value in a row that is not of its type, with its type. -/
inductive FirstIllTyped : List Datum → List TypeRef → Datum → TypeRef → Prop
  | here {d : Datum} {ds : List Datum} {t : TypeRef} {ts : List TypeRef} (h : ¬ d.HasType t) :
    FirstIllTyped (d :: ds) (t :: ts) d t
  | later {d d' : Datum} {ds : List Datum} {t t' : TypeRef} {ts : List TypeRef} (h : d.HasType t)
    (hrest : FirstIllTyped ds ts d' t') : FirstIllTyped (d :: ds) (t :: ts) d' t'

private theorem exists_firstIllTyped {ds : List Datum} {ts : List TypeRef}
    (hlength : ds.length = ts.length) (h : ¬ List.Forall₂ Datum.HasType ds ts) :
    ∃ d t, FirstIllTyped ds ts d t := by
  induction ds generalizing ts with
  | nil =>
    obtain rfl := List.length_eq_zero_iff.mp hlength.symm
    exact absurd .nil h
  | cons d ds ih =>
    cases ts with
    | nil => cases hlength
    | cons t ts =>
      by_cases hd : d.HasType t
      · obtain ⟨d', t', hrest⟩ := ih (Nat.succ.inj hlength) fun hrest => h (.cons hd hrest)
        exact ⟨d', t', .later hd hrest⟩
      · exact ⟨d, t, .here hd⟩

private theorem exists_fieldItems_of_hasType {ds : List Datum} {ts : List TypeRef}
    (h : List.Forall₂ Datum.HasType ds ts) : ∃ items, fieldItems ts ds = .ok items := by
  induction h with
  | nil => exact ⟨[], rfl⟩
  | cons hd _ ih =>
    obtain ⟨first, hfirst⟩ := Datum.exists_items_iff.mpr hd
    obtain ⟨more, hmore⟩ := ih
    exact ⟨_, fieldItems_cons_eq_ok_iff.mpr ⟨first, more, hfirst, hmore, rfl⟩⟩

private theorem fieldItems_of_firstIllTyped {ds : List Datum} {ts : List TypeRef} {d : Datum}
    {t : TypeRef} (h : FirstIllTyped ds ts d t) :
    ∃ e, d.items t = .error e ∧ fieldItems ts ds = .error e := by
  induction h with
  | here h =>
    obtain ⟨d', t', hfirst⟩ := Datum.exists_firstMismatch h
    refine ⟨_, Datum.items_of_firstMismatch hfirst, ?_⟩
    rw [fieldItems, Datum.items_of_firstMismatch hfirst]
    rfl
  | later h _ ih =>
    obtain ⟨items, hitems⟩ := Datum.exists_items_iff.mpr h
    obtain ⟨e, he, hrest⟩ := ih
    refine ⟨e, he, ?_⟩
    rw [fieldItems, hitems, hrest]
    rfl

/-- How the fields `ds` are encoded, if the `outcome` is this: they must be as many as there are
types, and each of its type. -/
structure EncodesFields (subject : String) (ts : List TypeRef) (ds : List Datum)
    (outcome : Except DatumError (List UInt8)) : Prop where
  ok : ds.length = ts.length → List.Forall₂ Datum.HasType ds ts → ∃ bytes, outcome = .ok bytes
  count : ds.length ≠ ts.length → outcome = .error (.fieldCount subject ts.length ds.length)
  field : ds.length = ts.length → ¬ List.Forall₂ Datum.HasType ds ts →
    ∃ d t e, FirstIllTyped ds ts d t ∧ d.encode t = .error e ∧ outcome = .error e

/-- Fields are encoded so behind any other items. -/
theorem encodesFields_countedItems (subject : String) (ts : List TypeRef) (ds : List Datum)
    (front : List Wire.Item) :
    EncodesFields subject ts ds
      ((countedItems subject ts ds).map fun items => Wire.write (front ++ items)) := by
  unfold countedItems
  refine ⟨fun hlength hds => ?_, fun hlength => ?_, fun hlength hds => ?_⟩
  · rw [if_pos hlength.symm]
    obtain ⟨items, hitems⟩ := exists_fieldItems_of_hasType hds
    exact ⟨_, by rw [hitems]; rfl⟩
  · rw [if_neg hlength.symm]
    rfl
  · rw [if_pos hlength.symm]
    obtain ⟨d, t, hfirst⟩ := exists_firstIllTyped hlength hds
    obtain ⟨e, he, hitems⟩ := fieldItems_of_firstIllTyped hfirst
    refine ⟨d, t, e, hfirst, ?_, by rw [hitems]; rfl⟩
    rw [Datum.encode, he]
    rfl

theorem EncodesFields.ok_iff {subject : String} {ts : List TypeRef} {ds : List Datum}
    {outcome : Except DatumError (List UInt8)} (h : EncodesFields subject ts ds outcome) :
    (∃ bytes, outcome = .ok bytes) ↔
      ds.length = ts.length ∧ List.Forall₂ Datum.HasType ds ts := by
  constructor
  · rintro ⟨bytes, hbytes⟩
    have hlength : ds.length = ts.length := by
      by_contra hne
      rw [h.count hne] at hbytes
      cases hbytes
    refine ⟨hlength, ?_⟩
    by_contra hds
    obtain ⟨d, t, e, -, -, he⟩ := h.field hlength hds
    rw [he] at hbytes
    cases hbytes
  · rintro ⟨hlength, hds⟩
    exact h.ok hlength hds

/-! ## Structs and enums -/

namespace Schema

/-- How `d` is encoded as a value of the struct `id`: the struct must exist and the value be a
struct value; then it depends on the fields. -/
structure EncodesRecord (s : Schema) (id : TypeId) (d : Datum) : Prop where
  ok_iff : (∃ bytes, s.encode (.record id) d = .ok bytes) ↔ ∃ x ds, s.struct? id = some x ∧
    d = .record ds ∧ ds.length = x.fields.length ∧
    List.Forall₂ Datum.HasType ds (x.fields.map (·.type))
  unknown : s.struct? id = none → s.encode (.record id) d = .error (.unknownType id)
  kind : ∀ x, s.struct? id = some x → (∀ ds, d ≠ .record ds) →
    s.encode (.record id) d = .error (.mismatch x.name d.kind)
  fields : ∀ x ds, s.struct? id = some x → d = .record ds →
    EncodesFields x.name (x.fields.map (·.type)) ds (s.encode (.record id) d)

/-- How `d` is encoded as a value of the enum `id`: the enum must exist, the value be an enum value,
and its variant exist; then it depends on the fields. -/
structure EncodesVariant (s : Schema) (id : TypeId) (d : Datum) : Prop where
  ok_iff : (∃ bytes, s.encode (.variant id) d = .ok bytes) ↔ ∃ x n ds v, s.enum? id = some x ∧
    d = .variant n ds ∧ x.variant? n.toNat = some v ∧ ds.length = v.types.length ∧
    List.Forall₂ Datum.HasType ds v.types
  unknown : s.enum? id = none → s.encode (.variant id) d = .error (.unknownType id)
  kind : ∀ x, s.enum? id = some x → (∀ n ds, d ≠ .variant n ds) →
    s.encode (.variant id) d = .error (.mismatch x.name d.kind)
  discriminant : ∀ x n ds, s.enum? id = some x → d = .variant n ds → x.variant? n.toNat = none →
    s.encode (.variant id) d = .error (.unknownDiscriminant x.name n)
  fields : ∀ x n ds v, s.enum? id = some x → d = .variant n ds → x.variant? n.toNat = some v →
    EncodesFields s!"{x.name}::{v.name}" v.types ds (s.encode (.variant id) d)

variable {s : Schema} {id : TypeId}

theorem encode_record {x : ExportedStruct} (hx : s.struct? id = some x) (d : Datum) :
    s.encode (.record id) d = (x.items d).map Wire.write := by
  simp only [Schema.encode, Schema.items, hx]

theorem encode_variant {x : ExportedEnum} (hx : s.enum? id = some x) (d : Datum) :
    s.encode (.variant id) d = (x.items d).map Wire.write := by
  simp only [Schema.encode, Schema.items, hx]

theorem encodesRecord (s : Schema) (id : TypeId) (d : Datum) : s.EncodesRecord id d := by
  have hunknown (h : s.struct? id = none) :
      s.encode (.record id) d = .error (.unknownType id) := by
    simp only [Schema.encode, Schema.items, h]
    rfl
  have hkind (x : ExportedStruct) (hx : s.struct? id = some x) (hd : ∀ ds, d ≠ .record ds) :
      s.encode (.record id) d = .error (.mismatch x.name d.kind) := by
    rw [encode_record hx]
    cases d with
    | record ds => exact absurd rfl (hd ds)
    | _ => rfl
  have hfields (x : ExportedStruct) (ds : List Datum) (hx : s.struct? id = some x)
      (hd : d = .record ds) :
      EncodesFields x.name (x.fields.map (·.type)) ds (s.encode (.record id) d) := by
    rw [encode_record hx, hd]
    exact encodesFields_countedItems _ _ _ []
  refine ⟨?_, hunknown, hkind, hfields⟩
  constructor
  · rintro ⟨bytes, hbytes⟩
    cases hx : s.struct? id with
    | none =>
      rw [hunknown hx] at hbytes
      cases hbytes
    | some x =>
      by_cases hd : ∃ ds, d = .record ds
      · obtain ⟨ds, hd⟩ := hd
        obtain ⟨hlength, hds⟩ := (hfields x ds hx hd).ok_iff.mp ⟨bytes, hbytes⟩
        exact ⟨x, ds, rfl, hd, by rw [hlength, List.length_map], hds⟩
      · rw [hkind x hx fun ds h => hd ⟨ds, h⟩] at hbytes
        cases hbytes
  · rintro ⟨x, ds, hx, hd, hlength, hds⟩
    exact (hfields x ds hx hd).ok (by rw [hlength, List.length_map]) hds

theorem encodesVariant (s : Schema) (id : TypeId) (d : Datum) : s.EncodesVariant id d := by
  have hunknown (h : s.enum? id = none) :
      s.encode (.variant id) d = .error (.unknownType id) := by
    simp only [Schema.encode, Schema.items, h]
    rfl
  have hkind (x : ExportedEnum) (hx : s.enum? id = some x) (hd : ∀ n ds, d ≠ .variant n ds) :
      s.encode (.variant id) d = .error (.mismatch x.name d.kind) := by
    rw [encode_variant hx]
    cases d with
    | variant n ds => exact absurd rfl (hd n ds)
    | _ => rfl
  have hdiscriminant (x : ExportedEnum) (n : UInt32) (ds : List Datum) (hx : s.enum? id = some x)
      (hd : d = .variant n ds) (hv : x.variant? n.toNat = none) :
      s.encode (.variant id) d = .error (.unknownDiscriminant x.name n) := by
    rw [encode_variant hx, hd]
    simp only [ExportedEnum.items, hv]
    rfl
  have hfields (x : ExportedEnum) (n : UInt32) (ds : List Datum) (v : Variant)
      (hx : s.enum? id = some x) (hd : d = .variant n ds) (hv : x.variant? n.toNat = some v) :
      EncodesFields s!"{x.name}::{v.name}" v.types ds (s.encode (.variant id) d) := by
    have hitems : s.encode (.variant id) d = (countedItems s!"{x.name}::{v.name}" v.types ds).map
        fun items => Wire.write ([.primitive (.u32 n)] ++ items) := by
      rw [encode_variant hx, hd]
      simp only [ExportedEnum.items, hv]
      cases countedItems s!"{x.name}::{v.name}" v.types ds <;> rfl
    rw [hitems]
    exact encodesFields_countedItems _ _ _ _
  refine ⟨?_, hunknown, hkind, hdiscriminant, hfields⟩
  constructor
  · rintro ⟨bytes, hbytes⟩
    cases hx : s.enum? id with
    | none =>
      rw [hunknown hx] at hbytes
      cases hbytes
    | some x =>
      by_cases hd : ∃ n ds, d = .variant n ds
      · obtain ⟨n, ds, hd⟩ := hd
        cases hv : x.variant? n.toNat with
        | none =>
          rw [hdiscriminant x n ds hx hd hv] at hbytes
          cases hbytes
        | some v =>
          obtain ⟨hlength, hds⟩ := (hfields x n ds v hx hd hv).ok_iff.mp ⟨bytes, hbytes⟩
          exact ⟨x, n, ds, v, rfl, hd, hv, hlength, hds⟩
      · rw [hkind x hx fun n ds h => hd ⟨n, ds, h⟩] at hbytes
        cases hbytes
  · rintro ⟨x, n, ds, v, hx, hd, hv, hlength, hds⟩
    exact (hfields x n ds v hx hd hv).ok hlength hds

end Schema

/-- **The encoders accept exactly the values of their types.** A value of a boundary type that is
refused is so for the first type on the way inwards that is not met; a struct or an enum value for
the first of the checks of its type, its kind, its variant, the number of its fields, and each
field. -/
theorem encodes_exactly_typed :
    (∀ (d : Datum) (t : TypeRef), (∃ bytes, d.encode t = .ok bytes) ↔ d.HasType t) ∧
    (∀ (d : Datum) (t : TypeRef), ¬ d.HasType t → ∃ d' t', d.FirstMismatch t d' t' ∧
      d.encode t = .error (d'.mismatchError t')) ∧
    (∀ (s : Schema) (id : TypeId) (d : Datum), s.EncodesRecord id d) ∧
    (∀ (s : Schema) (id : TypeId) (d : Datum), s.EncodesVariant id d) := by
  refine ⟨fun _ _ => Datum.exists_encode_iff, fun d t h => ?_, Schema.encodesRecord,
    Schema.encodesVariant⟩
  obtain ⟨d', t', hfirst⟩ := Datum.exists_firstMismatch h
  exact ⟨d', t', hfirst, Datum.encode_of_firstMismatch hfirst⟩

/-- A number in the place of a result inside an option; a struct value without fields, and one with
all of them; an enum value of a variant that there is not. -/
theorem encodes_exactly_typed_demo :
    (∃ d' t', (Datum.option (some .unit)).FirstMismatch (.option (.result .unit .str)) d' t' ∧
      (Datum.option (some .unit)).encode (.option (.result .unit .str)) =
        .error (d'.mismatchError t')) ∧
    Demo.schema.encode (.record ⟨0⟩) (.record []) = .error (.fieldCount "Person" 2 0) ∧
    (∃ bytes, Demo.schema.encode (.record ⟨0⟩) (.record [.str "P", .primitive (.u32 7)]) =
      .ok bytes) ∧
    Demo.schema.encode (.variant ⟨1⟩) (.variant 9 []) =
      .error (.unknownDiscriminant "Message" 9) := by
  obtain ⟨-, hrefused, hrecord, hvariant⟩ := encodes_exactly_typed
  have hresult : ¬ (Datum.option (some .unit)).HasType (.option (.result .unit .str)) := by
    intro h
    cases h with
    | some h => cases h
  obtain ⟨x, hx, hname, htypes⟩ : ∃ x, Demo.schema.struct? ⟨0⟩ = some x ∧ x.name = "Person" ∧
      x.fields.map (·.type) = [.str, .primitive .u32] := by decide +kernel
  obtain ⟨e, he, hename, hdiscriminant⟩ : ∃ e, Demo.schema.enum? ⟨1⟩ = some e ∧
      e.name = "Message" ∧ e.variant? 9 = none := by decide +kernel
  have hfields (ds : List Datum) := (hrecord Demo.schema ⟨0⟩ (.record ds)).fields x ds hx rfl
  simp only [hname, htypes] at hfields
  refine ⟨hrefused _ _ hresult, (hfields []).count (by decide), (hfields _).ok rfl ?_, ?_⟩
  · exact .cons (.str (by decide)) (.cons (.primitive (.u32 7)) .nil)
  · rw [← hename]
    exact (hvariant Demo.schema ⟨1⟩ (.variant 9 [])).discriminant e 9 [] he rfl hdiscriminant

/-- The shortest text of one letter whose length cannot be written. -/
def Datum.fourGigabytes : Datum :=
  .str (String.ofList (List.replicate Wire.textLimit 'a'))

-- By induction: the text is far too long to be evaluated.
private theorem utf8ByteSize_replicate (c : Char) (n : Nat) :
    (String.ofList (List.replicate n c)).utf8ByteSize = n * c.utf8Size := by
  induction n with
  | zero => exact (Nat.zero_mul _).symm
  | succ n ih =>
    rw [List.replicate_succ', String.ofList_append, String.utf8ByteSize_append, ih,
      ← String.singleton_eq_ofList, String.utf8ByteSize_singleton, Nat.succ_mul]

/-- A text of four gigabytes does not have the type `str`, although the type is no result and the
value of its kind: the error is about the length. -/
theorem encode_fourGigabytes :
    ¬ Datum.fourGigabytes.HasType .str ∧
    Datum.fourGigabytes.encode .str = .error (.wire (.textTooLong Wire.textLimit)) ∧
    ¬ ∀ (d : Datum) (t : TypeRef), ¬ d.HasType t →
      d.encode t = .error .resultNotEncodable ∨
        ∃ expected found, d.encode t = .error (.mismatch expected found) := by
  have hsize : (String.ofList (List.replicate Wire.textLimit 'a')).utf8ByteSize = Wire.textLimit :=
    (utf8ByteSize_replicate 'a' Wire.textLimit).trans (Nat.mul_one _)
  have hlength {s : String} (h : (Datum.str s).HasType .str) : s.utf8ByteSize < Wire.textLimit := by
    cases h with
    | str hs => exact hs
  have htype : ¬ Datum.fourGigabytes.HasType .str := fun h => Nat.ne_of_lt (hlength h) hsize
  have hencode : Datum.fourGigabytes.encode .str =
      .error (.wire (.textTooLong Wire.textLimit)) := by
    have hfirst : Datum.fourGigabytes.FirstMismatch .str Datum.fourGigabytes .str :=
      .here htype fun _ _ _ => by simp
    rw [Datum.encode_of_firstMismatch hfirst, Datum.fourGigabytes, Datum.mismatchError, hsize]
  refine ⟨htype, hencode, fun hall => ?_⟩
  obtain h | ⟨expected, found, h⟩ := hall _ _ htype
  · rw [hencode] at h
    cases h
  · rw [hencode] at h
    cases h

end Boundary
