import Mathlib.Control.Monad.Basic
import Boundary.Datum
import Boundary.Demo.Declarations
import Boundary.Proofs.Wire.Reading

/-!
# Values and their serialized forms

Reading and writing of values are inverse to each other. A reader accepts exactly the bytes of the
values that have items, so nothing is lost by writing and nothing has two spellings.

* `Datum.items_option_eq_ok_iff` and its siblings: which values have items of a type.
* `TypeRef.run_read_eq_ok_iff`, `run_readFields_eq_ok_iff`, `ExportedStruct.run_read_eq_ok_iff`,
  `ExportedEnum.run_read_eq_ok_iff`: what is read, and where the reader stops.
* `Schema.decode_eq_ok_iff`, `Schema.decodeNamed_eq_ok_iff`: the same for whole serialized forms.
* `written_read_back`: what has been written is read back, also in front of other bytes.
* `read_written_back`: what has been read is written as the bytes that it was read from.
-/

namespace Boundary

open Fallible (bind_eq_ok_iff map_eq_ok_iff)
open Wire (Sound)
open Wire.ReaderOf

/-! ## Which values have items -/

namespace Datum

variable {d : Datum} {items : List Wire.Item}

theorem items_unit_eq_ok_iff : d.items .unit = .ok items ↔ d = .unit ∧ items = [] := by
  cases d <;> simp [Datum.items, eq_comm]

theorem items_primitive_eq_ok_iff {p : Primitive} :
    d.items (.primitive p) = .ok items ↔
      ∃ v, d = .primitive v ∧ v.type = p ∧ items = [.primitive v] := by
  cases d with
  | primitive v =>
    by_cases hv : v.type = p
    · simp [Datum.items, hv, eq_comm]
    · simp [Datum.items, hv]
  | _ => simp [Datum.items]

theorem items_str_eq_ok_iff :
    d.items .str = .ok items ↔
      ∃ s, d = .str s ∧ s.utf8ByteSize < Wire.textLimit ∧ items = [.str s] := by
  cases d with
  | str s =>
    by_cases hs : s.utf8ByteSize < Wire.textLimit
    · simp [Datum.items, hs, eq_comm]
    · simp [Datum.items, hs]
  | _ => simp [Datum.items]

theorem items_handle_eq_ok_iff {id : TypeId} :
    d.items (.handle id) = .ok items ↔ ∃ h, d = .handle h ∧ items = [.handle h] := by
  cases d <;> simp [Datum.items, eq_comm]

theorem items_option_eq_ok_iff {inner : TypeRef} :
    d.items (.option inner) = .ok items ↔
      (d = .option none ∧ items = [.presence false]) ∨
      ∃ x more, d = .option (some x) ∧ x.items inner = .ok more ∧
        items = .presence true :: more := by
  cases d with
  | option value =>
    cases value with
    | none => simp [Datum.items, eq_comm]
    | some x =>
      simp only [Datum.items, bind_eq_ok_iff, pure, Except.pure]
      simp [eq_comm]
  | _ => simp [Datum.items]

theorem items_result_ne_ok {ok err : TypeRef} : d.items (.result ok err) ≠ .ok items := by
  cases d <;> simp [Datum.items]

theorem items_unsupported_ne_ok {reason : String} :
    d.items (.unsupported reason) ≠ .ok items := by
  cases d <;> simp [Datum.items]

end Datum

/-! ## What is read -/

instance DatumReader.sound_lift {α : Type} (r : Wire.Reader α) [Sound r] : Sound (lift r) :=
  Wire.sound_adapt r _

theorem DatumReader.run_lift {α : Type} (r : Wire.Reader α) [Sound r] (bytes : List UInt8) :
    (lift r).run bytes = ((r.run bytes).1.mapError .wire, (r.run bytes).2) :=
  run_adapt r _ bytes

theorem DatumReader.run_lift_eq_ok_iff {α : Type} {r : Wire.Reader α} [Sound r] {a : α}
    {bytes rest : List UInt8} :
    (lift r).run bytes = (.ok a, rest) ↔ r.run bytes = (.ok a, rest) := by
  rw [run_lift]
  obtain ⟨x, m⟩ : Except WireError α × List UInt8 := r.run bytes
  cases x with
  | ok b =>
    constructor
    · intro h
      cases h
      rfl
    · intro h
      cases h
      rfl
  | error e =>
    constructor
    · intro h
      cases h
    · intro h
      cases h

/-- Whether there is a value is read before the value. -/
instance TypeRef.sound_read (t : TypeRef) : Sound t.read := by
  induction t with
  | option inner ih => exact Wire.sound_bind _ _
  | primitive | str | handle => exact Wire.sound_bind _ _
  | unit => exact Wire.sound_pure _
  | result | unsupported => exact Wire.sound_throw _

instance sound_readFields (ts : List TypeRef) : Sound (readFields ts) := by
  induction ts with
  | nil => exact Wire.sound_pure _
  | cons t ts ih => exact Wire.sound_bind _ _

instance ExportedStruct.sound_read (s : ExportedStruct) : Sound s.read := Wire.sound_bind _ _

instance ExportedEnum.sound_readVariant (e : ExportedEnum) (w : Nat) : Sound (e.readVariant w) := by
  unfold readVariant
  split <;> infer_instance

instance ExportedEnum.sound_read (e : ExportedEnum) : Sound e.read := Wire.sound_bind _ _

instance Schema.sound_read (s : Schema) (target : Target) : Sound (s.read target) := by
  unfold Schema.read
  split
  · infer_instance
  · split <;> infer_instance
  · split <;> infer_instance

/-- A value of the type `t` is read from the bytes of its items, and from no others. -/
theorem TypeRef.run_read_eq_ok_iff {t : TypeRef} {d : Datum} {bytes rest : List UInt8} :
    t.read.run bytes = (.ok d, rest) ↔
      ∃ items, d.items t = .ok items ∧ bytes = Wire.write items ++ rest := by
  induction t generalizing d bytes rest with
  | unit =>
    simp only [TypeRef.read, run_pure_eq_ok_iff, Datum.items_unit_eq_ok_iff]
    constructor
    · rintro ⟨rfl, rfl⟩
      exact ⟨[], ⟨rfl, rfl⟩, rfl⟩
    · rintro ⟨items, ⟨rfl, rfl⟩, rfl⟩
      exact ⟨rfl, rfl⟩
  | primitive p =>
    simp only [TypeRef.read, run_bind_eq_ok_iff, DatumReader.run_lift_eq_ok_iff,
      Wire.run_readPrimitive_eq_ok_iff, run_pure_eq_ok_iff, Datum.items_primitive_eq_ok_iff]
    constructor
    · rintro ⟨v, m, ⟨hv, rfl⟩, rfl, rfl⟩
      exact ⟨_, ⟨v, rfl, hv, rfl⟩, by rw [Wire.write_singleton]⟩
    · rintro ⟨items, ⟨v, rfl, hv, rfl⟩, rfl⟩
      exact ⟨v, rest, ⟨hv, by rw [Wire.write_singleton]⟩, rfl, rfl⟩
  | str =>
    simp only [TypeRef.read, run_bind_eq_ok_iff, DatumReader.run_lift_eq_ok_iff,
      Wire.run_readText_eq_ok_iff, run_pure_eq_ok_iff, Datum.items_str_eq_ok_iff]
    constructor
    · rintro ⟨s, m, ⟨hs, rfl⟩, rfl, rfl⟩
      exact ⟨_, ⟨s, rfl, hs, rfl⟩, by rw [Wire.write_singleton]⟩
    · rintro ⟨items, ⟨s, rfl, hs, rfl⟩, rfl⟩
      exact ⟨s, rest, ⟨hs, by rw [Wire.write_singleton]⟩, rfl, rfl⟩
  | handle id =>
    simp only [TypeRef.read, run_bind_eq_ok_iff, DatumReader.run_lift_eq_ok_iff,
      Wire.run_readHandle_eq_ok_iff, run_pure_eq_ok_iff, Datum.items_handle_eq_ok_iff]
    constructor
    · rintro ⟨h, m, rfl, rfl, rfl⟩
      exact ⟨_, ⟨h, rfl, rfl⟩, by rw [Wire.write_singleton]⟩
    · rintro ⟨items, ⟨h, rfl, rfl⟩, rfl⟩
      exact ⟨h, rest, by rw [Wire.write_singleton], rfl, rfl⟩
  | option inner ih =>
    simp only [TypeRef.read, run_bind_eq_ok_iff, DatumReader.run_lift_eq_ok_iff,
      Wire.run_readPresence_eq_ok_iff, Datum.items_option_eq_ok_iff]
    constructor
    · rintro ⟨present, m, rfl, h⟩
      cases present with
      | false =>
        obtain ⟨rfl, rfl⟩ := run_pure_eq_ok_iff.mp h
        exact ⟨_, .inl ⟨rfl, rfl⟩, by rw [Wire.write_singleton]⟩
      | true =>
        obtain ⟨x, m', hx, h⟩ := run_bind_eq_ok_iff.mp h
        obtain ⟨rfl, rfl⟩ := run_pure_eq_ok_iff.mp h
        obtain ⟨more, hmore, rfl⟩ := ih.mp hx
        exact ⟨_, .inr ⟨x, more, rfl, hmore, rfl⟩, by rw [Wire.write_cons, List.append_assoc]⟩
    · rintro ⟨items, ⟨rfl, rfl⟩ | ⟨x, more, rfl, hmore, rfl⟩, rfl⟩
      · exact ⟨false, rest, by rw [Wire.write_singleton], rfl⟩
      · refine ⟨true, Wire.write more ++ rest, by rw [Wire.write_cons, List.append_assoc], ?_⟩
        exact run_bind_eq_ok_iff.mpr ⟨x, rest, ih.mpr ⟨more, hmore, rfl⟩, rfl⟩
  | result ok err =>
    constructor
    · intro h
      exact absurd h run_throw_ne_ok
    · rintro ⟨items, h, -⟩
      exact absurd h Datum.items_result_ne_ok
  | unsupported reason =>
    constructor
    · intro h
      exact absurd h run_throw_ne_ok
    · rintro ⟨items, h, -⟩
      exact absurd h Datum.items_unsupported_ne_ok

/-! ## Structs and enums -/

theorem fieldItems_cons_eq_ok_iff {t : TypeRef} {ts : List TypeRef} {d : Datum} {ds : List Datum}
    {items : List Wire.Item} :
    fieldItems (t :: ts) (d :: ds) = .ok items ↔
      ∃ first more, d.items t = .ok first ∧ fieldItems ts ds = .ok more ∧
        items = first ++ more := by
  simp only [fieldItems, bind_eq_ok_iff, pure, Except.pure, Except.ok.injEq]
  constructor
  · rintro ⟨first, hfirst, more, hmore, rfl⟩
    exact ⟨first, more, hfirst, hmore, rfl⟩
  · rintro ⟨first, more, hfirst, hmore, rfl⟩
    exact ⟨first, hfirst, more, hmore, rfl⟩

theorem countedItems_eq_ok_iff {subject : String} {ts : List TypeRef} {ds : List Datum}
    {items : List Wire.Item} :
    countedItems subject ts ds = .ok items ↔
      ts.length = ds.length ∧ fieldItems ts ds = .ok items := by
  unfold countedItems
  split
  · simp_all
  · simp_all

/-- Values of the types `ts` are read from the bytes of their items in a row. -/
theorem run_readFields_eq_ok_iff {ts : List TypeRef} {ds : List Datum} {bytes rest : List UInt8} :
    (readFields ts).run bytes = (.ok ds, rest) ↔
      ts.length = ds.length ∧ ∃ items, fieldItems ts ds = .ok items ∧
        bytes = Wire.write items ++ rest := by
  induction ts generalizing ds bytes with
  | nil =>
    simp only [readFields, run_pure_eq_ok_iff]
    constructor
    · rintro ⟨rfl, rfl⟩
      exact ⟨rfl, [], rfl, rfl⟩
    · rintro ⟨hlen, items, hitems, rfl⟩
      obtain rfl := List.length_eq_zero_iff.mp hlen.symm
      cases hitems
      exact ⟨rfl, rfl⟩
  | cons t ts ih =>
    simp only [readFields, run_bind_eq_ok_iff, TypeRef.run_read_eq_ok_iff, run_pure_eq_ok_iff]
    constructor
    · rintro ⟨d, m, ⟨first, hfirst, rfl⟩, ds, m', hds, rfl, rfl⟩
      obtain ⟨hlen, more, hmore, rfl⟩ := ih.mp hds
      refine ⟨by simp [hlen], first ++ more, ?_, ?_⟩
      · exact fieldItems_cons_eq_ok_iff.mpr ⟨first, more, hfirst, hmore, rfl⟩
      · rw [Wire.write_append, List.append_assoc]
    · rintro ⟨hlen, items, hitems, rfl⟩
      cases ds with
      | nil => cases hlen
      | cons d ds =>
        obtain ⟨first, more, hfirst, hmore, rfl⟩ := fieldItems_cons_eq_ok_iff.mp hitems
        refine ⟨d, Wire.write more ++ rest, ⟨first, hfirst, ?_⟩, ds, rest, ?_, rfl, rfl⟩
        · rw [Wire.write_append, List.append_assoc]
        · exact ih.mpr ⟨by simpa using hlen, more, hmore, rfl⟩

theorem ExportedStruct.run_read_eq_ok_iff {s : ExportedStruct} {d : Datum}
    {bytes rest : List UInt8} :
    s.read.run bytes = (.ok d, rest) ↔
      ∃ items, s.items d = .ok items ∧ bytes = Wire.write items ++ rest := by
  simp only [ExportedStruct.read, run_bind_eq_ok_iff, run_readFields_eq_ok_iff,
    run_pure_eq_ok_iff]
  constructor
  · rintro ⟨ds, m, ⟨hlen, items, hitems, rfl⟩, rfl, rfl⟩
    exact ⟨items, countedItems_eq_ok_iff.mpr ⟨hlen, hitems⟩, rfl⟩
  · rintro ⟨items, hitems, rfl⟩
    cases d with
    | record ds =>
      obtain ⟨hlen, hitems⟩ := countedItems_eq_ok_iff.mp hitems
      exact ⟨ds, rest, ⟨hlen, items, hitems, rfl⟩, rfl, rfl⟩
    | _ => cases hitems

/-- Which values have items of the enum `e`: those of a variant that it has. -/
theorem ExportedEnum.items_eq_ok_iff {e : ExportedEnum} {d : Datum} {items : List Wire.Item} :
    e.items d = .ok items ↔
      ∃ n ds v more, d = .variant n ds ∧ e.variant? n.toNat = some v ∧
        v.types.length = ds.length ∧ fieldItems v.types ds = .ok more ∧
        items = .primitive (.u32 n) :: more := by
  constructor
  · intro h
    cases d with
    | variant n ds =>
      simp only [ExportedEnum.items] at h
      split at h
      · cases h
      · rename_i v hv
        obtain ⟨more, hmore, hitems⟩ := bind_eq_ok_iff.mp h
        obtain ⟨hlen, hmore⟩ := countedItems_eq_ok_iff.mp hmore
        cases hitems
        exact ⟨n, ds, v, more, rfl, hv, hlen, hmore, rfl⟩
    | _ => cases h
  · rintro ⟨n, ds, v, more, rfl, hv, hlen, hmore, rfl⟩
    simp only [ExportedEnum.items, hv]
    exact bind_eq_ok_iff.mpr ⟨more, countedItems_eq_ok_iff.mpr ⟨hlen, hmore⟩, rfl⟩

theorem ExportedEnum.run_read_eq_ok_iff {e : ExportedEnum} {d : Datum} {bytes rest : List UInt8} :
    e.read.run bytes = (.ok d, rest) ↔
      ∃ items, e.items d = .ok items ∧ bytes = Wire.write items ++ rest := by
  simp only [ExportedEnum.read, run_bind_eq_ok_iff, DatumReader.run_lift_eq_ok_iff,
    Wire.run_readWord_eq_ok_iff, ExportedEnum.items_eq_ok_iff]
  constructor
  · rintro ⟨w, m, ⟨hw, rfl⟩, h⟩
    have hn : (UInt32.ofNat w).toNat = w := UInt32.toNat_ofNat_of_lt' hw
    unfold readVariant at h
    split at h
    · exact absurd h run_throw_ne_ok
    · rename_i v hv
      obtain ⟨ds, m', hds, h⟩ := run_bind_eq_ok_iff.mp h
      obtain ⟨rfl, rfl⟩ := run_pure_eq_ok_iff.mp h
      obtain ⟨hlen, more, hmore, rfl⟩ := run_readFields_eq_ok_iff.mp hds
      refine ⟨_, ⟨_, ds, v, more, rfl, by rw [hn]; exact hv, hlen, hmore, rfl⟩, ?_⟩
      rw [Wire.write_cons, List.append_assoc]
      simp only [Wire.Item.bytes, PrimitiveValue.word, hn]
      rfl
  · rintro ⟨items, ⟨n, ds, v, more, rfl, hv, hlen, hmore, rfl⟩, rfl⟩
    refine ⟨n.toNat, Wire.write more ++ rest, ⟨n.toNat_lt, ?_⟩, ?_⟩
    · rw [Wire.write_cons, List.append_assoc]
      rfl
    · rw [readVariant, hv]
      refine run_bind_eq_ok_iff.mpr ⟨ds, rest, ?_, ?_⟩
      · exact run_readFields_eq_ok_iff.mpr ⟨hlen, more, hmore, rfl⟩
      · rw [UInt32.ofNat_toNat]
        rfl

/-! ## Whole serialized forms -/

/-- A value of a `Target` is read from the bytes of its items, and from no others. -/
theorem Schema.run_read_eq_ok_iff {s : Schema} {target : Target} {d : Datum}
    {bytes rest : List UInt8} :
    (s.read target).run bytes = (.ok d, rest) ↔
      ∃ items, s.items target d = .ok items ∧ bytes = Wire.write items ++ rest := by
  cases target with
  | boundary t => exact TypeRef.run_read_eq_ok_iff
  | record id =>
    simp only [Schema.read, Schema.items]
    cases s.struct? id with
    | some e => exact ExportedStruct.run_read_eq_ok_iff
    | none =>
      constructor
      · intro h
        exact absurd h run_throw_ne_ok
      · rintro ⟨items, h, -⟩
        cases h
  | variant id =>
    simp only [Schema.read, Schema.items]
    cases s.enum? id with
    | some e => exact ExportedEnum.run_read_eq_ok_iff
    | none =>
      constructor
      · intro h
        exact absurd h run_throw_ne_ok
      · rintro ⟨items, h, -⟩
        cases h

/-- `decode` succeeds exactly if the reader `r` stops at the end of the bytes. -/
theorem DatumReader.decode_eq_ok_iff {r : DatumReader Datum} [Sound r] {bytes : List UInt8}
    {d : Datum} :
    r.decode bytes = .ok d ↔ r.run bytes = (.ok d, []) := by
  have hrun : (∃ rest, (r >>= fun d => DatumReader.lift Wire.finish >>= fun _ => pure d).run bytes =
      (.ok d, rest)) ↔ r.run bytes = (.ok d, []) := by
    simp only [run_bind_eq_ok_iff, DatumReader.run_lift_eq_ok_iff, Wire.run_finish_eq_ok_iff,
      run_pure_eq_ok_iff]
    constructor
    · rintro ⟨rest, d', m, hd, u, m', ⟨rfl, rfl⟩, rfl, rfl⟩
      exact hd
    · intro hd
      exact ⟨[], d, [], hd, (), [], ⟨rfl, rfl⟩, rfl, rfl⟩
  rw [← hrun]
  constructor
  · intro h
    exact ⟨_, Prod.ext h rfl⟩
  · rintro ⟨rest, h⟩
    exact congrArg Prod.fst h

/-- **`decode` and `encode` are inverse to each other.** -/
theorem Schema.decode_eq_ok_iff {s : Schema} {target : Target} {bytes : List UInt8} {d : Datum} :
    s.decode target bytes = .ok d ↔ s.encode target d = .ok bytes := by
  unfold Schema.decode Schema.encode
  rw [DatumReader.decode_eq_ok_iff, Schema.run_read_eq_ok_iff, map_eq_ok_iff]
  simp only [List.append_nil, eq_comm]

theorem TypeRef.decode_eq_ok_iff {t : TypeRef} {bytes : List UInt8} {d : Datum} :
    t.decode bytes = .ok d ↔ d.encode t = .ok bytes :=
  @Schema.decode_eq_ok_iff {} (.boundary t) bytes d

theorem Schema.decodeNamed_eq_ok_iff {s : Schema} {name : String} {bytes : List UInt8}
    {d : Datum} :
    s.decodeNamed name bytes = .ok d ↔ s.encodeNamed name d = .ok bytes := by
  simp only [Schema.decodeNamed, Schema.encodeNamed, bind_eq_ok_iff, Schema.decode_eq_ok_iff]

/-! ## Both directions -/

/-- **What `encode` has written is read back.** The reader of the type stops at the first byte that
does not belong to the value, whatever bytes follow. -/
theorem written_read_back :
    (∀ (t : TypeRef) (d : Datum) (bytes suffix : List UInt8), d.encode t = .ok bytes →
      t.read.run (bytes ++ suffix) = (.ok d, suffix)) ∧
    (∀ (t : TypeRef) (d : Datum) (bytes : List UInt8), d.encode t = .ok bytes →
      t.decode bytes = .ok d) ∧
    (∀ (s : Schema) (target : Target) (d : Datum) (bytes : List UInt8),
      s.encode target d = .ok bytes → s.decode target bytes = .ok d) ∧
    (∀ (s : Schema) (name : String) (d : Datum) (bytes : List UInt8),
      s.encodeNamed name d = .ok bytes → s.decodeNamed name bytes = .ok d) := by
  refine ⟨?_, ?_, ?_, ?_⟩
  · intro t d bytes suffix h
    obtain ⟨items, hitems, rfl⟩ := map_eq_ok_iff.mp h
    exact TypeRef.run_read_eq_ok_iff.mpr ⟨items, hitems, rfl⟩
  · intro t d bytes h
    exact TypeRef.decode_eq_ok_iff.mpr h
  · intro s target d bytes h
    exact Schema.decode_eq_ok_iff.mpr h
  · intro s name d bytes h
    exact Schema.decodeNamed_eq_ok_iff.mpr h

/-- A NaN with a payload that is there, in front of a byte; a text; a variant with two texts; a
struct by its name. -/
theorem written_read_back_demo :
    ((Datum.option (some (.primitive (.f32 0x7fc00001)))).encode (.option (.primitive .f32)) =
        .ok [1, 1, 0, 0xc0, 0x7f] ∧
      (TypeRef.option (.primitive .f32)).read.run ([1, 1, 0, 0xc0, 0x7f] ++ [9]) =
        (.ok (.option (some (.primitive (.f32 0x7fc00001)))), [9])) ∧
    ((Datum.str "é").encode .str = .ok [2, 0, 0, 0, 0xc3, 0xa9] ∧
      TypeRef.str.decode [2, 0, 0, 0, 0xc3, 0xa9] = .ok (.str "é")) ∧
    (Demo.schema.encode (.variant ⟨1⟩) (.variant 2 [.str "k", .str ""]) =
        .ok [2, 0, 0, 0, 1, 0, 0, 0, 107, 0, 0, 0, 0] ∧
      Demo.schema.decode (.variant ⟨1⟩) [2, 0, 0, 0, 1, 0, 0, 0, 107, 0, 0, 0, 0] =
        .ok (.variant 2 [.str "k", .str ""])) ∧
    (Demo.schema.encodeNamed "Person" (.record [.str "P", .primitive (.u32 7)]) =
        .ok [1, 0, 0, 0, 80, 7, 0, 0, 0] ∧
      Demo.schema.decodeNamed "Person" [1, 0, 0, 0, 80, 7, 0, 0, 0] =
        .ok (.record [.str "P", .primitive (.u32 7)])) := by
  obtain ⟨hread, htype, htarget, hname⟩ := written_read_back
  refine ⟨⟨by decide +kernel, ?_⟩, ⟨by decide +kernel, ?_⟩, ⟨by decide +kernel, ?_⟩,
    ⟨by decide +kernel, ?_⟩⟩
  · exact hread _ _ _ _ (by decide +kernel)
  · exact htype _ _ _ (by decide +kernel)
  · exact htarget _ _ _ _ (by decide +kernel)
  · exact hname _ _ _ _ (by decide +kernel)

/-- What a reader has read is written as the bytes that it was read from, and is read from no
others, if the reader is the inverse of a writer. -/
private theorem written_and_unique {decode : List UInt8 → Except DatumError Datum}
    {encode : Datum → Except DatumError (List UInt8)}
    (hinv : ∀ bytes d, decode bytes = .ok d ↔ encode d = .ok bytes) {bytes : List UInt8} {d : Datum}
    (h : decode bytes = .ok d) :
    encode d = .ok bytes ∧ ∀ others, decode others = .ok d → others = bytes := by
  have hbytes := (hinv bytes d).mp h
  refine ⟨hbytes, fun others ho => ?_⟩
  have hothers := (hinv others d).mp ho
  exact Except.ok.inj (hothers.symm.trans hbytes)

/-- **What `decode` has read is written as the bytes that it was read from.** So no value of a type
is read from two different rows of bytes. -/
theorem read_written_back :
    (∀ (t : TypeRef) (bytes : List UInt8) (d : Datum), t.decode bytes = .ok d →
      d.encode t = .ok bytes ∧ ∀ others, t.decode others = .ok d → others = bytes) ∧
    (∀ (s : Schema) (target : Target) (bytes : List UInt8) (d : Datum),
      s.decode target bytes = .ok d → s.encode target d = .ok bytes ∧
        ∀ others, s.decode target others = .ok d → others = bytes) ∧
    (∀ (s : Schema) (name : String) (bytes : List UInt8) (d : Datum),
      s.decodeNamed name bytes = .ok d → s.encodeNamed name d = .ok bytes ∧
        ∀ others, s.decodeNamed name others = .ok d → others = bytes) := by
  refine ⟨?_, ?_, ?_⟩
  · intro t bytes d h
    exact written_and_unique (fun _ _ => TypeRef.decode_eq_ok_iff) h
  · intro s target bytes d h
    exact written_and_unique (fun _ _ => Schema.decode_eq_ok_iff) h
  · intro s name bytes d h
    exact written_and_unique (fun _ _ => Schema.decodeNamed_eq_ok_iff) h

/-- A flag that is there; a variant with one; a struct by its name. -/
theorem read_written_back_demo :
    ((TypeRef.option (.primitive .bool)).decode [1, 1] =
        .ok (.option (some (.primitive (.bool true)))) ∧
      (Datum.option (some (.primitive (.bool true)))).encode (.option (.primitive .bool)) =
        .ok [1, 1]) ∧
    (Demo.schema.decode (.variant ⟨1⟩) [1, 0, 0, 0, 0] =
        .ok (.variant 1 [.primitive (.bool false)]) ∧
      Demo.schema.encode (.variant ⟨1⟩) (.variant 1 [.primitive (.bool false)]) =
        .ok [1, 0, 0, 0, 0]) ∧
    (Demo.schema.decodeNamed "Person" [1, 0, 0, 0, 80, 7, 0, 0, 0] =
        .ok (.record [.str "P", .primitive (.u32 7)]) ∧
      Demo.schema.encodeNamed "Person" (.record [.str "P", .primitive (.u32 7)]) =
        .ok [1, 0, 0, 0, 80, 7, 0, 0, 0]) := by
  obtain ⟨htype, htarget, hname⟩ := read_written_back
  have hflag : (TypeRef.option (.primitive .bool)).decode [1, 1] =
      .ok (.option (some (.primitive (.bool true)))) :=
    TypeRef.decode_eq_ok_iff.mpr (by decide +kernel)
  have hvariant : Demo.schema.decode (.variant ⟨1⟩) [1, 0, 0, 0, 0] =
      .ok (.variant 1 [.primitive (.bool false)]) :=
    Schema.decode_eq_ok_iff.mpr (by decide +kernel)
  have hperson : Demo.schema.decodeNamed "Person" [1, 0, 0, 0, 80, 7, 0, 0, 0] =
      .ok (.record [.str "P", .primitive (.u32 7)]) :=
    Schema.decodeNamed_eq_ok_iff.mpr (by decide +kernel)
  exact ⟨⟨hflag, (htype _ _ _ hflag).1⟩, ⟨hvariant, (htarget _ _ _ _ hvariant).1⟩,
    ⟨hperson, (hname _ _ _ _ hperson).1⟩⟩

end Boundary
