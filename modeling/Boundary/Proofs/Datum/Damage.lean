import Boundary.Proofs.Datum.RoundTrip

/-!
# Damaged bytes

A reader goes through its bytes once, from the front, and takes as many as what it has read so far
tells. So it does not find a shorter value in bytes that are cut off, but runs out of bytes; and it
leaves bytes that are added at the end, which are then too many.

* `UsesUp`: what a reader accepts tells the bytes that it takes, and it fails on fewer.
* `UsesUp.bind`: of two readers in a row the second one goes on where the first one stops.
* `usesUp_take` and its siblings, `TypeRef.usesUp_read`, `Schema.usesUp_read`: the readers of items
  and values.
* `damage_detected`: no decoder takes cut or extended bytes for a value.
-/

namespace Boundary

open Fallible (bind_eq_ok_iff)
open Wire (ReaderOf Sound)
open Wire.ReaderOf

section Readers

variable {ε α β : Type} [Inhabited ε] {E : ε → Prop}

/-- Whatever the reader accepts, it has taken some bytes, accepts them in front of any other bytes,
and fails in the way `E` on any beginning of them. -/
def UsesUp (E : ε → Prop) (r : ReaderOf ε α) : Prop :=
  ∀ bytes a rest, r.run bytes = (.ok a, rest) → ∃ used, bytes = used ++ rest ∧
    (∀ more, r.run (used ++ more) = (.ok a, more)) ∧
    ∀ cut, cut <+: used → cut ≠ used → ∃ e m, r.run cut = (.error e, m) ∧ E e

theorem usesUp_pure (a : α) : UsesUp E (pure a : ReaderOf ε α) := by
  intro bytes b rest h
  obtain ⟨rfl, rfl⟩ := run_pure_eq_ok_iff.mp h
  exact ⟨[], rfl, fun more => rfl, fun cut hcut hne => absurd (List.prefix_nil.mp hcut) hne⟩

theorem usesUp_throw (e : ε) : UsesUp E (throw e : ReaderOf ε α) := by
  intro bytes a rest h
  exact absurd h run_throw_ne_ok

/-- The reader `f a` goes on where `x` stops. -/
theorem UsesUp.bind {x : ReaderOf ε α} {f : α → ReaderOf ε β} [Sound x] [∀ a, Sound (f a)]
    (hx : UsesUp E x) (hf : ∀ a, UsesUp E (f a)) :
    UsesUp E (x >>= f) := by
  intro bytes b rest h
  obtain ⟨a, m, hfirst, hsecond⟩ := run_bind_eq_ok_iff.mp h
  obtain ⟨used, rfl, hmore, hcut⟩ := hx bytes a m hfirst
  obtain ⟨used', rfl, hmore', hcut'⟩ := hf a m b rest hsecond
  refine ⟨used ++ used', (List.append_assoc used used' rest).symm, ?_, ?_⟩
  · intro more
    rw [List.append_assoc]
    exact run_bind_eq_ok_iff.mpr ⟨a, _, hmore _, hmore' more⟩
  · intro cut hprefix hne
    rw [run_bind]
    -- The cut is in the bytes of the first reader or in those of the second one.
    obtain hfront | ⟨cut', rfl⟩ := List.prefix_or_prefix_of_prefix hprefix
      (List.prefix_append used used')
    · by_cases hused : cut = used
      · subst hused
        have hnil : ([] : List UInt8) ≠ used' := by
          rintro rfl
          exact hne (List.append_nil cut).symm
        obtain ⟨e, m, herror, he⟩ := hcut' [] List.nil_prefix hnil
        have hok := hmore []
        rw [List.append_nil] at hok
        exact ⟨e, m, by rw [hok]; exact herror, he⟩
      · obtain ⟨e, m, herror, he⟩ := hcut cut hfront hused
        exact ⟨e, m, by rw [herror], he⟩
    · have hne' : cut' ≠ used' := by
        rintro rfl
        exact hne rfl
      obtain ⟨e, m, herror, he⟩ := hcut' cut' ((List.prefix_append_right_inj used).mp hprefix) hne'
      exact ⟨e, m, by rw [hmore]; exact herror, he⟩

end Readers

/-! ## Items -/

namespace Wire

/-- Fewer bytes are left than are needed. -/
def RunsOut (e : WireError) : Prop :=
  ∃ needed remaining, remaining < needed ∧ e = .unexpectedEnd needed remaining

theorem usesUp_take (n : Nat) : UsesUp RunsOut (take n) := by
  intro bytes xs rest h
  obtain ⟨rfl, rfl⟩ := run_take_eq_ok_iff.mp h
  refine ⟨xs, rfl, fun more => run_take_eq_ok_iff.mpr ⟨rfl, rfl⟩, fun cut hcut hne => ?_⟩
  have hlt : cut.length < xs.length :=
    Nat.lt_of_le_of_ne hcut.length_le fun heq => hne (hcut.eq_of_length heq)
  exact ⟨_, cut, by rw [run_take, if_neg (Nat.not_le.mpr hlt)], _, _, hlt, rfl⟩

theorem usesUp_readWord (n : Nat) : UsesUp RunsOut (readWord n) :=
  (usesUp_take n).bind fun _ => usesUp_pure _

theorem usesUp_readFlag (fault : UInt8 → WireError) : UsesUp RunsOut (readFlag fault) := by
  refine (usesUp_readWord 1).bind fun w => ?_
  unfold flagOf
  split
  · exact usesUp_pure _
  · exact usesUp_pure _
  · exact usesUp_throw _

private theorem usesUp_readPrimitive (p : Primitive) : UsesUp RunsOut (readPrimitive p) := by
  cases p with
  | bool => exact (usesUp_readFlag _).bind fun _ => usesUp_pure _
  | _ => exact (usesUp_readWord _).bind fun _ => usesUp_pure _

private theorem usesUp_readHandle : UsesUp RunsOut readHandle :=
  (usesUp_readWord 8).bind fun _ => usesUp_pure _

private theorem usesUp_readText : UsesUp RunsOut readText := by
  refine (usesUp_readWord 4).bind fun length => (usesUp_take length).bind fun bytes => ?_
  unfold textOf
  split
  · exact usesUp_pure _
  · exact usesUp_throw _

end Wire

/-! ## Values -/

/-- Fewer bytes are left than the next item needs. -/
def DatumError.RunsOut (e : DatumError) : Prop :=
  ∃ needed remaining, remaining < needed ∧ e = .wire (.unexpectedEnd needed remaining)

theorem UsesUp.lift {α : Type} {r : Wire.Reader α} [Sound r] (h : UsesUp Wire.RunsOut r) :
    UsesUp DatumError.RunsOut (DatumReader.lift r) := by
  intro bytes a rest hrun
  obtain ⟨used, hbytes, hmore, hcut⟩ := h bytes a rest (DatumReader.run_lift_eq_ok_iff.mp hrun)
  refine ⟨used, hbytes, fun more => DatumReader.run_lift_eq_ok_iff.mpr (hmore more), ?_⟩
  intro cut hprefix hne
  obtain ⟨e, m, herror, needed, remaining, hlt, rfl⟩ := hcut cut hprefix hne
  refine ⟨_, m, ?_, needed, remaining, hlt, rfl⟩
  rw [DatumReader.run_lift, herror]
  rfl

theorem TypeRef.usesUp_read (t : TypeRef) : UsesUp DatumError.RunsOut t.read := by
  induction t with
  | unit => exact usesUp_pure _
  | primitive p => exact (Wire.usesUp_readPrimitive p).lift.bind fun _ => usesUp_pure _
  | str => exact Wire.usesUp_readText.lift.bind fun _ => usesUp_pure _
  | handle id => exact Wire.usesUp_readHandle.lift.bind fun _ => usesUp_pure _
  | option inner ih =>
    refine (Wire.usesUp_readFlag _).lift.bind fun present => ?_
    split
    · exact ih.bind fun _ => usesUp_pure _
    · exact usesUp_pure _
  | result ok err => exact usesUp_throw _
  | unsupported reason => exact usesUp_throw _

theorem usesUp_readFields (ts : List TypeRef) : UsesUp DatumError.RunsOut (readFields ts) := by
  induction ts with
  | nil => exact usesUp_pure _
  | cons t ts ih => exact t.usesUp_read.bind fun _ => ih.bind fun _ => usesUp_pure _

theorem ExportedStruct.usesUp_read (x : ExportedStruct) : UsesUp DatumError.RunsOut x.read :=
  (usesUp_readFields _).bind fun _ => usesUp_pure _

theorem ExportedEnum.usesUp_read (x : ExportedEnum) : UsesUp DatumError.RunsOut x.read := by
  refine (Wire.usesUp_readWord 4).lift.bind fun w => ?_
  unfold ExportedEnum.readVariant
  split
  · exact usesUp_throw _
  · exact (usesUp_readFields _).bind fun _ => usesUp_pure _

theorem Schema.usesUp_read (s : Schema) (target : Target) :
    UsesUp DatumError.RunsOut (s.read target) := by
  cases target with
  | boundary t => exact t.usesUp_read
  | record id =>
    simp only [Schema.read]
    split
    · exact ExportedStruct.usesUp_read _
    · exact usesUp_throw _
  | variant id =>
    simp only [Schema.read]
    split
    · exact ExportedEnum.usesUp_read _
    · exact usesUp_throw _

/-! ## Whole serialized forms -/

/-- `decode` fails on every beginning of what it accepts since it runs out of bytes, and on what it
accepts with further bytes since those are left. -/
def DetectsDamage (decode : List UInt8 → Except DatumError Datum) : Prop :=
  ∀ bytes d, decode bytes = .ok d →
    (∀ cut, cut <+: bytes → cut ≠ bytes → ∃ needed remaining, remaining < needed ∧
      decode cut = .error (.wire (.unexpectedEnd needed remaining))) ∧
    ∀ more, more ≠ [] → decode (bytes ++ more) = .error (.wire (.trailingBytes more.length))

theorem DatumReader.run_decode (r : DatumReader Datum) [Sound r] (bytes : List UInt8) :
    r.decode bytes =
      match r.run bytes with
      | (.ok d, []) => .ok d
      | (.ok _, more) => .error (.wire (.trailingBytes more.length))
      | (.error e, _) => .error e := by
  show ((r >>= fun d => DatumReader.lift Wire.finish >>= fun _ => pure d).run bytes).1 = _
  rw [run_bind]
  obtain ⟨x, m⟩ : Except DatumError Datum × List UInt8 := r.run bytes
  cases x with
  | error e => rfl
  | ok d => cases m <;> rfl

theorem UsesUp.detectsDamage {r : DatumReader Datum} [Sound r] (h : UsesUp DatumError.RunsOut r) :
    DetectsDamage r.decode := by
  intro bytes d hd
  obtain ⟨used, hbytes, hmore, hcut⟩ := h bytes d [] (DatumReader.decode_eq_ok_iff.mp hd)
  rw [List.append_nil] at hbytes
  subst hbytes
  constructor
  · intro cut hprefix hne
    obtain ⟨e, m, herror, needed, remaining, hlt, rfl⟩ := hcut cut hprefix hne
    exact ⟨needed, remaining, hlt, by rw [DatumReader.run_decode, herror]⟩
  · intro more hne
    rw [DatumReader.run_decode, hmore]
    cases more with
    | nil => exact absurd rfl hne
    | cons b more => rfl

theorem Schema.detectsDamage_decode (s : Schema) (target : Target) :
    DetectsDamage (s.decode target) :=
  (s.usesUp_read target).detectsDamage

theorem Schema.detectsDamage_decodeNamed (s : Schema) (name : String) :
    DetectsDamage (s.decodeNamed name) := by
  intro bytes d hd
  obtain ⟨target, htarget, hd⟩ := bind_eq_ok_iff.mp hd
  have hdecode (bytes : List UInt8) : s.decodeNamed name bytes = s.decode target bytes := by
    rw [Schema.decodeNamed, htarget]
    rfl
  simp only [hdecode]
  exact s.detectsDamage_decode target bytes d hd

/-- **Damaged bytes are never taken for a value**, whether they are read as a boundary type, as a
struct, as an enum or by name: of bytes that are cut off the end is missing, and of bytes that are
extended just the added ones are left. -/
theorem damage_detected :
    (∀ t : TypeRef, DetectsDamage t.decode) ∧
    (∀ (s : Schema) (target : Target), DetectsDamage (s.decode target)) ∧
    (∀ (s : Schema) (name : String), DetectsDamage (s.decodeNamed name)) :=
  ⟨fun t => t.usesUp_read.detectsDamage, Schema.detectsDamage_decode,
    Schema.detectsDamage_decodeNamed⟩

/-- A text that lacks its last byte; a variant that lacks its field; a struct by its name with two
bytes behind it. -/
theorem damage_detected_demo :
    (TypeRef.str.decode [2, 0, 0, 0, 0xc3, 0xa9] = .ok (.str "é") ∧
      ∃ needed remaining, remaining < needed ∧
        TypeRef.str.decode [2, 0, 0, 0, 0xc3] =
          .error (.wire (.unexpectedEnd needed remaining))) ∧
    (Demo.schema.decode (.variant ⟨1⟩) [1, 0, 0, 0, 0] =
        .ok (.variant 1 [.primitive (.bool false)]) ∧
      ∃ needed remaining, remaining < needed ∧
        Demo.schema.decode (.variant ⟨1⟩) [1, 0, 0, 0] =
          .error (.wire (.unexpectedEnd needed remaining))) ∧
    (Demo.schema.decodeNamed "Person" [1, 0, 0, 0, 80, 7, 0, 0, 0] =
        .ok (.record [.str "P", .primitive (.u32 7)]) ∧
      Demo.schema.decodeNamed "Person" ([1, 0, 0, 0, 80, 7, 0, 0, 0] ++ [0, 0]) =
        .error (.wire (.trailingBytes 2))) := by
  obtain ⟨htype, htarget, hname⟩ := damage_detected
  have htext : TypeRef.str.decode [2, 0, 0, 0, 0xc3, 0xa9] = .ok (.str "é") :=
    TypeRef.decode_eq_ok_iff.mpr (by decide +kernel)
  have hvariant : Demo.schema.decode (.variant ⟨1⟩) [1, 0, 0, 0, 0] =
      .ok (.variant 1 [.primitive (.bool false)]) :=
    Schema.decode_eq_ok_iff.mpr (by decide +kernel)
  have hperson : Demo.schema.decodeNamed "Person" [1, 0, 0, 0, 80, 7, 0, 0, 0] =
      .ok (.record [.str "P", .primitive (.u32 7)]) :=
    Schema.decodeNamed_eq_ok_iff.mpr (by decide +kernel)
  refine ⟨⟨htext, ?_⟩, ⟨hvariant, ?_⟩, ⟨hperson, ?_⟩⟩
  · exact (htype _ _ _ htext).1 _ (by decide) (by decide)
  · exact (htarget _ _ _ _ hvariant).1 _ (by decide) (by decide)
  · exact (hname _ _ _ _ hperson).2 _ (by decide)

end Boundary
